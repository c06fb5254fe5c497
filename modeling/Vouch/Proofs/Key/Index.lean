import Mathlib.Tactic
import Vouch.Key.Snapshot

/-!
What the index of a snapshot says about its keys.

Keys are added to the index in file order, each with all of its names, and a name that is added again
belongs to the new key.  So the index has every name of every key, and has it for the last key with
that name.
-/

namespace Vouch.Key

structure LastNamed (keys : List Listed) (name : String) (position : Nat) : Prop where
  named : ∃ key, keys[position]? = some key ∧ name ∈ key.names
  last : ∀ later key, position < later → keys[later]? = some key → name ∉ key.names

theorem LastNamed.position_lt {keys : List Listed} {name : String} {position : Nat}
    (last : LastNamed keys name position) : position < keys.length := by
  obtain ⟨key, at_position, _⟩ := last.named
  exact (List.getElem?_eq_some_iff.mp at_position).1

namespace Index

theorem lookup_foldl (names : List String) (index : Index) (position : Nat) (name : String) :
    (names.foldl (fun index name => (name, position) :: index) index).lookup name =
      if name ∈ names then some position else index.lookup name := by
  induction names generalizing index with
  | nil => simp
  | cons first rest ih =>
    rw [List.foldl_cons, ih, List.lookup_cons]
    by_cases same : name = first
    · subst same
      simp
    · have differs : (name == first) = false := beq_eq_false_iff_ne.mpr same
      simp [same, differs]

/-- A key that is added takes over its names and leaves all others alone. -/
theorem lookup_add (index : Index) (key : Listed) (position : Nat) (name : String) :
    (index.add key position).lookup name =
      if name ∈ key.names then some position else index.lookup name :=
  lookup_foldl key.names index position name

theorem ofKeys_append (keys : List Listed) (key : Listed) :
    ofKeys (keys ++ [key]) = (ofKeys keys).add key keys.length := by
  simp [ofKeys, List.zipIdx_append, List.foldl_append]

end Index

theorem lastNamed_append_of_mem {keys : List Listed} {key : Listed} {name : String}
    (named : name ∈ key.names) (position : Nat) :
    LastNamed (keys ++ [key]) name position ↔ keys.length = position := by
  constructor
  · intro last
    have bound := last.position_lt
    rw [List.length_append, List.length_singleton] at bound
    by_contra other
    have before : position < keys.length := by omega
    exact last.last keys.length key before (by simp) named
  · rintro rfl
    refine ⟨⟨key, by simp, named⟩, ?_⟩
    intro later other after found
    have bound := (List.getElem?_eq_some_iff.mp found).1
    rw [List.length_append, List.length_singleton] at bound
    omega

theorem lastNamed_append_of_not_mem {keys : List Listed} {key : Listed} {name : String}
    (unnamed : name ∉ key.names) (position : Nat) :
    LastNamed (keys ++ [key]) name position ↔ LastNamed keys name position := by
  constructor
  · intro last
    obtain ⟨other, found, named⟩ := last.named
    have bound := last.position_lt
    rw [List.length_append, List.length_singleton] at bound
    have before : position < keys.length := by
      by_contra beyond
      have end_position : position = keys.length := by omega
      subst end_position
      rw [List.getElem?_concat_length] at found
      cases found
      exact unnamed named
    rw [List.getElem?_append_left before] at found
    refine ⟨⟨other, found, named⟩, ?_⟩
    intro later key' after listed
    have inside := (List.getElem?_eq_some_iff.mp listed).1
    have kept : (keys ++ [key])[later]? = keys[later]? := List.getElem?_append_left inside
    exact last.last later key' after (kept.trans listed)
  · intro last
    obtain ⟨other, found, named⟩ := last.named
    have before := last.position_lt
    refine ⟨⟨other, by rw [List.getElem?_append_left before, found], named⟩, ?_⟩
    intro later key' after listed
    by_cases inside : later < keys.length
    · rw [List.getElem?_append_left inside] at listed
      exact last.last later key' after listed
    · have bound := (List.getElem?_eq_some_iff.mp listed).1
      rw [List.length_append, List.length_singleton] at bound
      have end_position : later = keys.length := by omega
      subst end_position
      rw [List.getElem?_concat_length] at listed
      cases listed
      exact unnamed

theorem Index.lookup_ofKeys_eq_some_iff (keys : List Listed) (name : String) (position : Nat) :
    (Index.ofKeys keys).lookup name = some position ↔ LastNamed keys name position := by
  induction keys using List.reverseRecOn with
  | nil =>
    constructor
    · intro found
      cases found
    · intro last
      cases last.position_lt
  | append_singleton keys key ih =>
    rw [Index.ofKeys_append, Index.lookup_add]
    by_cases named : name ∈ key.names
    · rw [if_pos named, Option.some_inj, lastNamed_append_of_mem named]
    · rw [if_neg named, ih, lastNamed_append_of_not_mem named]

theorem Index.lookup_ofKeys_isSome_iff (keys : List Listed) (name : String) :
    ((Index.ofKeys keys).lookup name).isSome = true ↔ ∃ key ∈ keys, name ∈ key.names := by
  induction keys using List.reverseRecOn with
  | nil => simp [Index.ofKeys]
  | append_singleton keys key ih =>
    rw [Index.ofKeys_append, Index.lookup_add]
    by_cases named : name ∈ key.names
    · simp [named]
    · simp [named, ih]

namespace Snapshot

theorem position?_eq_some_iff (db : Snapshot) (name : String) (position : Nat) :
    db.position? name = some position ↔ LastNamed db.keys name position := by
  rw [position?, db.index_eq, Index.lookup_ofKeys_eq_some_iff]

def Owner (db : Snapshot) (name : String) (key : Listed) : Prop :=
  ∃ position, LastNamed db.keys name position ∧ db.keys[position]? = some key

theorem owner_unique {db : Snapshot} {name : String} {key other : Listed}
    (owner : db.Owner name key) (owner' : db.Owner name other) : key = other := by
  obtain ⟨p, last, listed⟩ := owner
  obtain ⟨q, last', listed'⟩ := owner'
  rw [← position?_eq_some_iff] at last last'
  cases last.symm.trans last'
  cases listed.symm.trans listed'
  rfl

theorem exists_owner {db : Snapshot} {name : String} {key : Listed} (listed : key ∈ db.keys)
    (named : name ∈ key.names) : ∃ owner, db.Owner name owner := by
  have indexed := (Index.lookup_ofKeys_isSome_iff db.keys name).mpr ⟨key, listed, named⟩
  obtain ⟨position, found⟩ := Option.isSome_iff_exists.mp indexed
  have last := (Index.lookup_ofKeys_eq_some_iff db.keys name position).mp found
  obtain ⟨owner, at_position, _⟩ := last.named
  exact ⟨owner, position, last, at_position⟩

theorem position?_eq_none_of_forall {db : Snapshot} {name : String}
    (unnamed : ∀ key ∈ db.keys, name ∉ key.names) : db.position? name = none := by
  cases found : db.position? name with
  | none => rfl
  | some position =>
    obtain ⟨key, listed, named⟩ := ((position?_eq_some_iff db name position).mp found).named
    exact absurd named (unnamed key (List.mem_of_getElem? listed))

end Snapshot

end Vouch.Key
