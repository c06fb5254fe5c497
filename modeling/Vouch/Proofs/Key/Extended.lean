import Mathlib.Tactic
import Vouch.Proofs.Key.Reassigned

/-!
Databases to which keys are added.

A new key may take over names of older keys, but no name is ever lost: what could be found before can
be found afterwards, if perhaps under another key.
-/

namespace Vouch.Key

theorem Listed.normal_mem_names (key : Listed) : normal key.fingerprint ∈ key.names :=
  (key.mem_names_iff _).mpr ⟨_, List.mem_cons_self, Or.inr rfl⟩

namespace Snapshot

/-- The database with further keys after its own. -/
def extended (db : Snapshot) (added : List Listed) : Snapshot :=
  ofKeys (db.keys ++ added)

def HasName (db : Snapshot) (name : String) : Prop :=
  ∃ key ∈ db.keys, name ∈ key.names

theorem named?_isSome_iff (db : Snapshot) (name : String) :
    (db.named? name).isSome = true ↔ db.HasName (normal name) := by
  rw [named?, Option.isSome_map, position?, db.index_eq, Index.lookup_ofKeys_isSome_iff]
  rfl

theorem ending?_isSome_iff (db : Snapshot) (id : String) :
    (db.ending? id).isSome = true ↔ ∃ key ∈ db.keys, endsWith key id = true := by
  rw [ending?, Option.isSome_map, List.find?_isSome]
  constructor
  · rintro ⟨⟨key, position⟩, member, ends⟩
    exact ⟨key, List.mem_of_getElem? (List.mk_mem_zipIdx_iff_getElem?.mp member), ends⟩
  · rintro ⟨key, member, ends⟩
    obtain ⟨position, listed⟩ := List.mem_iff_getElem?.mp member
    exact ⟨(key, position), List.mk_mem_zipIdx_iff_getElem?.mpr listed, ends⟩

/-- A name is resolved exactly if it is not empty and some key has it, or has its long ID, or, where
that has only eight bytes, ends with it. -/
theorem resolve?_isSome_iff (db : Snapshot) (name : String) :
    (db.resolve? name).isSome = true ↔
      normal name ≠ "" ∧
        (db.HasName (normal (normal name)) ∨
          db.HasName (normal (normal (longId (normal name)))) ∨
          (normal (longId (normal name))).utf8ByteSize = 8 ∧
            ∃ key ∈ db.keys, endsWith key (normal (longId (normal name))) = true) := by
  by_cases empty : normal name = ""
  · simp [resolve?, empty]
  · rw [resolve?, if_neg empty, Option.isSome_or, Bool.or_eq_true, named?_isSome_iff, withId?,
      Option.isSome_or, Bool.or_eq_true, named?_isSome_iff]
    split_ifs with short
    · simp [empty, short, ending?_isSome_iff]
    · simp [empty, short]

theorem lookup_isSome_iff (db : Snapshot) (name : String) :
    (db.lookup name).isSome = true ↔ (db.resolve? name).isSome = true := by
  cases found : db.resolve? name with
  | none => simp [lookup, found]
  | some hit =>
    obtain ⟨key, listed⟩ := exists_listed_of_resolve? found
    simp [lookup_of_resolve? found listed]

variable {db : Snapshot} {name : String}

theorem HasName.extended (named : db.HasName name) (added : List Listed) :
    (db.extended added).HasName name := by
  obtain ⟨key, listed, has⟩ := named
  exact ⟨key, List.mem_append_left added listed, has⟩

theorem lookup_extended_isSome (found : (db.lookup name).isSome = true) (added : List Listed) :
    ((db.extended added).lookup name).isSome = true := by
  rw [lookup_isSome_iff, resolve?_isSome_iff] at found ⊢
  obtain ⟨inhabited, named | by_id | ⟨short, key, listed, ends⟩⟩ := found
  · exact ⟨inhabited, Or.inl (named.extended added)⟩
  · exact ⟨inhabited, Or.inr (Or.inl (by_id.extended added))⟩
  · exact ⟨inhabited, Or.inr (Or.inr ⟨short, key, List.mem_append_left added listed, ends⟩)⟩

/-- A key that is listed by the normal form of a name is found by the name, even where that is not yet
its own normal form. -/
theorem lookup_extended_of_mem {added : List Listed} {key : Listed} (fetched : key ∈ added)
    (fingerprint : key.fingerprint = normal name) (inhabited : normal name ≠ "") :
    ((db.extended added).lookup name).isSome = true := by
  rw [lookup_isSome_iff, resolve?_isSome_iff]
  refine ⟨inhabited, Or.inl ⟨key, List.mem_append_right db.keys fetched, ?_⟩⟩
  rw [← fingerprint]
  exact key.normal_mem_names

end Snapshot

end Vouch.Key
