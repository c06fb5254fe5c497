import Mathlib.Tactic
import Vouch.Proofs.Key.Scan

/-!
Databases into which a key is put between the others.

The new key can take a name over from the keys before it, and can be found by its end before the keys
after it.  A name that shares no long ID with the new key meets neither, and finds what it found.
-/

namespace Vouch.Key

variable {before after : List Listed} {key : Listed} {name : String}

theorem lastNamed?_inserted (foreign : name ∉ key.names) :
    lastNamed? (before ++ key :: after) name = lastNamed? (before ++ after) name := by
  have passed : decide (name ∈ key.names) = false := decide_eq_false foreign
  rw [lastNamed?, lastNamed?, List.reverse_append, List.reverse_append, List.find?_append,
    List.find?_append, List.reverse_cons, List.find?_append, List.find?_singleton, passed]
  simp

theorem longId_longId (digits : IsDigits name) : longId (longId name) = longId name := by
  apply longId_of_short (isDigits_longId digits)
  rw [length_longId digits]
  exact min_le_left 16 _

theorem longId_normal (digits : IsDigits (normal name)) : longId (normal name) = longId name := by
  apply String.toList_inj.mp
  rw [toList_longId_of_isDigits digits, normal, longId, String.toList_ofList, String.toList_ofList]

theorem exists_longId_of_mem_names (digits : ∀ own ∈ key.fingerprints, IsDigits own)
    (named : name ∈ key.names) : ∃ own ∈ key.fingerprints, longId name = longId own := by
  obtain ⟨own, listed, rfl | same⟩ := (key.mem_names_iff name).mp named
  · exact ⟨own, listed, longId_longId (digits own listed)⟩
  · exact ⟨own, listed, congrArg longId same⟩

namespace Snapshot

/-- The key has nothing to do with what the name finds: it has neither the long ID of the name nor the
primary ID of the key that the name resolves to, and does not end with a short ID. -/
structure Unrelated (db : Snapshot) (key : Listed) (name : String) : Prop where
  asked : ∀ own ∈ key.fingerprints, longId own ≠ longId name
  found : ∀ entry ∈ db.lookup name, ∀ own ∈ key.fingerprints,
    longId own ≠ entry.reference.primaryId
  ending : (normal name).toList.length = 8 →
    ¬(normal name).toList <:+ (normal key.fingerprint).toList

instance (db : Snapshot) (key : Listed) (name : String) : Decidable (db.Unrelated key name) :=
  decidable_of_iff
    ((∀ own ∈ key.fingerprints, longId own ≠ longId name) ∧
      (∀ entry ∈ db.lookup name, ∀ own ∈ key.fingerprints,
        longId own ≠ entry.reference.primaryId) ∧
      ((normal name).toList.length = 8 →
        ¬(normal name).toList <:+ (normal key.fingerprint).toList))
    ⟨fun ⟨asked, found, ending⟩ => ⟨asked, found, ending⟩,
      fun unrelated => ⟨unrelated.asked, unrelated.found, unrelated.ending⟩⟩

theorem endsWith_iff (key : Listed) (name : String) :
    endsWith key name = true ↔ name.toList <:+ (normal key.fingerprint).toList := by
  rw [endsWith, List.isSuffixOf_iff_suffix, normal, String.toList_ofList]

theorem lookup_inserted (own_digits : ∀ own ∈ key.fingerprints, IsDigits own)
    (digits : IsDigits (normal name))
    (unrelated : (ofKeys (before ++ after)).Unrelated key name) :
    (ofKeys (before ++ key :: after)).lookup name = (ofKeys (before ++ after)).lookup name := by
  have foreign : ∀ asked, longId asked = longId name → asked ∉ key.names := by
    intro asked same named
    obtain ⟨own, listed, shared⟩ := exists_longId_of_mem_names own_digits named
    exact unrelated.asked own listed (shared.symm.trans same)
  have by_name := foreign (normal name) (longId_normal digits)
  have by_id := foreign (longId (normal name)) ((longId_longId digits).trans (longId_normal digits))
  rw [lookup_of_isDigits _ digits, lookup_of_isDigits _ digits]
  dsimp only [ofKeys]
  rw [lastNamed?_inserted by_name, lastNamed?_inserted by_id]
  by_cases short : (normal name).toList.length = 8
  · have passed : endsWith key (normal name) = false := by
      rw [← Bool.not_eq_true, endsWith_iff]
      exact unrelated.ending short
    rw [List.find?_append, List.find?_append, List.find?_cons, passed]
  · rw [if_neg short, if_neg short]

/-- An entry names the primary key of some key of the database. -/
theorem exists_listed_of_lookup {db : Snapshot} {entry : Entry} (known : db.lookup name = some entry) :
    ∃ found ∈ db.keys, entry.reference.primaryId = longId (normal found.fingerprint) := by
  obtain ⟨hit, resolved, entered⟩ := Option.bind_eq_some_iff.mp known
  obtain ⟨found, listed, rfl⟩ := Option.map_eq_some_iff.mp entered
  exact ⟨found, List.mem_of_getElem? listed, rfl⟩

theorem policy_inserted {id : String} (own_digits : ∀ own ∈ key.fingerprints, IsDigits own)
    (digits : IsDigits id) (short : id.toList.length ≤ 16)
    (foreign : ∀ own ∈ key.fingerprints, longId own ≠ id) :
    (ofKeys (before ++ key :: after)).policy id = (ofKeys (before ++ after)).policy id := by
  have itself := longId_of_short digits short
  have unnamed : id ∉ key.names := by
    intro named
    obtain ⟨own, listed, shared⟩ := exists_longId_of_mem_names own_digits named
    exact foreign own listed (shared.symm.trans itself)
  rw [policy_eq_scan, policy_eq_scan, normal_of_isDigits digits, itself]
  dsimp only [ofKeys]
  rw [lastNamed?_inserted unnamed]

end Snapshot

end Vouch.Key
