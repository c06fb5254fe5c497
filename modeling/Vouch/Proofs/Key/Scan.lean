import Mathlib.Tactic
import Vouch.Proofs.Key.Reassigned

/-!
The index as a scan of the keys.

A name belongs to the last key that has it, so to ask the index is to go through the keys from the
last to the first.  No position is left in what a lookup says then, and what it says about one list of
keys can be compared with what it says about another.
-/

namespace Vouch.Key

def lastNamed? (keys : List Listed) (name : String) : Option Listed :=
  keys.reverse.find? fun key => decide (name ∈ key.names)

theorem lastNamed?_concat (keys : List Listed) (key : Listed) (name : String) :
    lastNamed? (keys ++ [key]) name =
      if name ∈ key.names then some key else lastNamed? keys name := by
  rw [lastNamed?, List.reverse_append, List.reverse_singleton, List.singleton_append,
    List.find?_cons]
  by_cases named : name ∈ key.names <;> simp [named, lastNamed?]

theorem mem_of_lastNamed? {keys : List Listed} {name : String} {key : Listed}
    (found : lastNamed? keys name = some key) : key ∈ keys ∧ name ∈ key.names := by
  have named := List.find?_some found
  exact ⟨List.mem_reverse.mp (List.mem_of_find?_eq_some found), of_decide_eq_true named⟩

theorem lastNamed?_eq_none_iff (keys : List Listed) (name : String) :
    lastNamed? keys name = none ↔ ∀ key ∈ keys, name ∉ key.names := by
  simp [lastNamed?]

theorem lastNamed?_of_unique {keys : List Listed} {name : String} {key : Listed}
    (listed : key ∈ keys) (named : name ∈ key.names)
    (unique : ∀ other ∈ keys, name ∈ other.names → other = key) :
    lastNamed? keys name = some key := by
  cases found : lastNamed? keys name with
  | none => exact absurd named ((lastNamed?_eq_none_iff keys name).mp found key listed)
  | some other =>
    obtain ⟨member, has⟩ := mem_of_lastNamed? found
    rw [unique other member has]

theorem Index.bind_lookup_ofKeys (keys : List Listed) (name : String) :
    ((Index.ofKeys keys).lookup name).bind (keys[·]?) = lastNamed? keys name := by
  induction keys using List.reverseRecOn with
  | nil => rfl
  | append_singleton keys key ih =>
    rw [Index.ofKeys_append, Index.lookup_add, lastNamed?_concat]
    by_cases named : name ∈ key.names
    · rw [if_pos named, if_pos named, Option.bind_some, List.getElem?_concat_length]
    · rw [if_neg named, if_neg named, ← ih]
      cases found : (Index.ofKeys keys).lookup name with
      | none => rfl
      | some position =>
        have before := ((Index.lookup_ofKeys_eq_some_iff keys name position).mp found).position_lt
        rw [Option.bind_some, Option.bind_some, List.getElem?_append_left before]

namespace Snapshot

theorem bind_position? (db : Snapshot) (name : String) :
    (db.position? name).bind (db.keys[·]?) = lastNamed? db.keys name := by
  rw [position?, db.index_eq, Index.bind_lookup_ofKeys]

theorem bind_named? (db : Snapshot) (name : String) :
    (db.named? name).bind db.entryOf? =
      (lastNamed? db.keys (normal name)).map fun key => key.entry (normal name) := by
  rw [named?, Option.bind_map, ← bind_position?, Option.map_bind]
  rfl

theorem bind_ending? (db : Snapshot) (id : String) :
    (db.ending? id).bind db.entryOf? =
      (db.keys.find? fun key => endsWith key id).map fun key => key.entry (normal key.fingerprint) := by
  have keys : db.keys.zipIdx.map Prod.fst = db.keys := List.zipIdx_map_fst 0 db.keys
  rw [ending?, Option.bind_map]
  conv_rhs => rw [← keys, List.find?_map, Option.map_map]
  cases found : db.keys.zipIdx.find? fun hit => endsWith hit.1 id with
  | none =>
    change _ = Option.map _ (db.keys.zipIdx.find? fun hit => endsWith hit.1 id)
    rw [found]
    rfl
  | some hit =>
    have listed := List.mk_mem_zipIdx_iff_getElem?.mp (List.mem_of_find?_eq_some found)
    change _ = Option.map _ (db.keys.zipIdx.find? fun hit => endsWith hit.1 id)
    rw [found]
    simp [entryOf?, listed]

theorem isSome_entryOf?_of_named? {db : Snapshot} {name : String} {hit : Hit}
    (found : db.named? name = some hit) : (db.entryOf? hit).isSome = true := by
  obtain ⟨position, indexed, rfl⟩ := Option.map_eq_some_iff.mp found
  obtain ⟨key, listed, _⟩ := ((position?_eq_some_iff db _ position).mp indexed).named
  simp [entryOf?, listed]

/-- A hit always leads to an entry, so what stands in for a miss does so for the entry too. -/
theorem bind_named?_or (db : Snapshot) (name : String) (instead : Option Hit) :
    ((db.named? name).or instead).bind db.entryOf? =
      ((db.named? name).bind db.entryOf?).or (instead.bind db.entryOf?) := by
  cases found : db.named? name with
  | none => rfl
  | some hit =>
    obtain ⟨entry, known⟩ := Option.isSome_iff_exists.mp (isSome_entryOf?_of_named? found)
    rw [Option.some_or, Option.bind_some, known, Option.some_or]

theorem byKeyId?_eq_scan (db : Snapshot) (name : String) :
    db.byKeyId? name =
      ((lastNamed? db.keys (normal (normal name))).map (·.entry (normal (normal name)))).or
        (if (normal name).utf8ByteSize = 8 then
          (db.keys.find? fun key => endsWith key (normal name)).map
            fun key => key.entry (normal key.fingerprint)
        else none) := by
  rw [byKeyId?, withId?, bind_named?_or, bind_named?]
  by_cases short : (normal name).utf8ByteSize = 8
  · rw [if_pos short, if_pos short, bind_ending?]
  · rw [if_neg short, if_neg short, Option.bind_none]

/-- A name of digits is in normal form at every step of a lookup. -/
theorem lookup_of_isDigits (db : Snapshot) {name : String} (digits : IsDigits (normal name)) :
    db.lookup name =
      if normal name = "" then none
      else
        ((lastNamed? db.keys (normal name)).map (·.entry (normal name))).or
          (((lastNamed? db.keys (longId (normal name))).map (·.entry (longId (normal name)))).or
            (if (normal name).toList.length = 8 then
              (db.keys.find? fun key => endsWith key (normal name)).map
                fun key => key.entry (normal key.fingerprint)
            else none)) := by
  have short_digits := isDigits_longId digits
  have length := length_longId digits
  rw [lookup, resolve?]
  by_cases empty : normal name = ""
  · rw [if_pos empty, if_pos empty, Option.bind_none]
  · rw [if_neg empty, if_neg empty, bind_named?_or, bind_named?, normal_of_isDigits digits,
      ← byKeyId?, byKeyId?_eq_scan, normal_of_isDigits short_digits, normal_of_isDigits short_digits,
      utf8ByteSize_of_isDigits short_digits]
    by_cases short : (normal name).toList.length = 8
    · have same := longId_of_short digits (short.trans_le (by decide))
      rw [if_pos (by omega), if_pos short, same]
    · rw [if_neg (by omega), if_neg short]

theorem policy_eq_scan (db : Snapshot) (name : String) :
    db.policy name =
      (((lastNamed? db.keys (normal name)).or
        (lastNamed? db.keys (longId (normal name)))).map Listed.policy).getD .unknown := by
  rw [policy_eq_getD, ← bind_position?, ← bind_position?]
  cases found : db.position? (normal name) with
  | none => simp [Option.map_bind]
  | some position =>
    obtain ⟨key, listed, _⟩ := ((position?_eq_some_iff db _ position).mp found).named
    simp [listed]

end Snapshot

end Vouch.Key
