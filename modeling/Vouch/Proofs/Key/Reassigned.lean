import Mathlib.Tactic
import Vouch.Proofs.Key.Snapshot

/-!
Databases that list the same keys and differ in how far these are trusted.

Owner trust and policies are no names, so a name finds the key at the same position in both databases.
What is known about the key differs in the owner trust at most.
-/

namespace Vouch.Key

def Listed.untrusted (key : Listed) : Listed :=
  { key with ownerTrust := .unknown, policy := .unknown }

theorem Index.ofKeys_untrusted (keys : List Listed) :
    Index.ofKeys (keys.map Listed.untrusted) = Index.ofKeys keys := by
  rw [Index.ofKeys, Index.ofKeys, List.zipIdx_map, List.foldl_map]
  rfl

theorem Listed.primaryId_entry (key : Listed) (name : String) :
    (key.entry name).reference.primaryId = longId (normal key.fingerprint) := rfl

namespace Snapshot

def SameButTrust (db other : Snapshot) : Prop :=
  other.keys.map Listed.untrusted = db.keys.map Listed.untrusted

def withOwnerTrust (db : Snapshot) (position : Nat) (level : TrustLevel) : Snapshot :=
  ofKeys (db.keys.modify position fun key => { key with ownerTrust := level })

/-- The database in which the owner trust of every key is assigned anew. -/
def withOwnerTrusts (db : Snapshot) (levels : Nat → TrustLevel) : Snapshot :=
  ofKeys (db.keys.mapIdx fun position key => { key with ownerTrust := levels position })

def allTrusted (db : Snapshot) : Snapshot :=
  ofKeys (db.keys.map fun key => { key with ownerTrust := .full, policy := .good })

section
variable (db : Snapshot)

theorem getElem?_withOwnerTrust (position : Nat) (level : TrustLevel) (i : Nat) :
    (db.withOwnerTrust position level).keys[i]? =
      db.keys[i]?.map fun key => if position = i then { key with ownerTrust := level } else key := by
  rw [withOwnerTrust, ofKeys, List.getElem?_modify]
  by_cases here : position = i <;> simp [here]

theorem getElem?_withOwnerTrusts (levels : Nat → TrustLevel) (i : Nat) :
    (db.withOwnerTrusts levels).keys[i]? =
      db.keys[i]?.map fun key => { key with ownerTrust := levels i } :=
  List.getElem?_mapIdx

theorem getElem?_allTrusted (i : Nat) :
    db.allTrusted.keys[i]? =
      db.keys[i]?.map fun key => { key with ownerTrust := .full, policy := .good } :=
  List.getElem?_map

theorem sameButTrust_withOwnerTrust (position : Nat) (level : TrustLevel) :
    db.SameButTrust (db.withOwnerTrust position level) := by
  apply List.ext_getElem?
  intro i
  rw [List.getElem?_map, List.getElem?_map, getElem?_withOwnerTrust, Option.map_map]
  congr 1
  funext key
  dsimp only [Function.comp]
  split_ifs <;> rfl

theorem sameButTrust_withOwnerTrusts (levels : Nat → TrustLevel) :
    db.SameButTrust (db.withOwnerTrusts levels) := by
  apply List.ext_getElem?
  intro i
  rw [List.getElem?_map, List.getElem?_map, getElem?_withOwnerTrusts, Option.map_map]
  rfl

theorem sameButTrust_allTrusted : db.SameButTrust db.allTrusted := by
  apply List.ext_getElem?
  intro i
  rw [List.getElem?_map, List.getElem?_map, getElem?_allTrusted, Option.map_map]
  rfl

end

variable {db other : Snapshot}

theorem SameButTrust.position?_eq (same : db.SameButTrust other) (name : String) :
    other.position? name = db.position? name := by
  rw [position?, position?, other.index_eq, db.index_eq, ← Index.ofKeys_untrusted, same,
    Index.ofKeys_untrusted]

theorem ending?_untrusted (db : Snapshot) (id : String) :
    db.ending? id =
      ((db.keys.map Listed.untrusted).zipIdx.find? fun (key, _) => endsWith key id).map
        fun (key, position) => ⟨position, normal key.fingerprint⟩ := by
  rw [List.zipIdx_map, List.find?_map, Option.map_map]
  rfl

theorem SameButTrust.resolve?_eq (same : db.SameButTrust other) (name : String) :
    other.resolve? name = db.resolve? name := by
  have short : ∀ id, other.ending? id = db.ending? id := by
    intro id
    rw [ending?_untrusted, ending?_untrusted, same]
  simp only [resolve?, withId?, named?, same.position?_eq, short]

theorem policy_eq_getD (db : Snapshot) (name : String) :
    db.policy name =
      (((db.position? (normal name)).or (db.position? (longId (normal name)))).bind
        fun position => db.keys[position]?.map Listed.policy).getD .unknown := by
  rw [policy]
  cases (db.position? (normal name)).or (db.position? (longId (normal name))) with
  | none => rfl
  | some position => cases found : db.keys[position]? <;> simp [found]

theorem SameButTrust.policy_eq (same : db.SameButTrust other)
    (policies : ∀ position : Nat,
      other.keys[position]?.map Listed.policy = db.keys[position]?.map Listed.policy)
    (name : String) : other.policy name = db.policy name := by
  simp only [policy_eq_getD, same.position?_eq, policies]

theorem policy_withOwnerTrust (position : Nat) (level : TrustLevel) (name : String) :
    (db.withOwnerTrust position level).policy name = db.policy name := by
  refine (sameButTrust_withOwnerTrust db position level).policy_eq ?_ name
  intro i
  rw [getElem?_withOwnerTrust, Option.map_map]
  congr 1
  funext key
  dsimp only [Function.comp]
  split_ifs <;> rfl

theorem policy_withOwnerTrusts (levels : Nat → TrustLevel) (name : String) :
    (db.withOwnerTrusts levels).policy name = db.policy name := by
  refine (sameButTrust_withOwnerTrusts db levels).policy_eq ?_ name
  intro i
  rw [getElem?_withOwnerTrusts, Option.map_map]
  rfl

theorem policy_allTrusted_ne_bad (db : Snapshot) (name : String) :
    db.allTrusted.policy name ≠ .bad := by
  have good : ∀ position : Nat, ∀ policy ∈ db.allTrusted.keys[position]?.map Listed.policy,
      policy = .good := by
    intro position policy found
    rw [getElem?_allTrusted, Option.map_map] at found
    obtain ⟨_, _, rfl⟩ := Option.map_eq_some_iff.mp found
    rfl
  rw [policy_eq_getD]
  cases found : ((db.allTrusted.position? (normal name)).or
      (db.allTrusted.position? (longId (normal name)))).bind
        fun position => db.allTrusted.keys[position]?.map Listed.policy with
  | none => decide
  | some policy =>
    obtain ⟨position, _, here⟩ := Option.bind_eq_some_iff.mp found
    rw [Option.getD_some, good position policy here]
    decide

/-- A name that is resolved leads to a key. -/
theorem exists_listed_of_resolve? {name : String} {hit : Hit}
    (found : db.resolve? name = some hit) : ∃ key, db.keys[hit.position]? = some key := by
  have of_name : ∀ {asked : String}, db.named? asked = some hit →
      ∃ key, db.keys[hit.position]? = some key := by
    intro asked named
    obtain ⟨position, indexed, rfl⟩ := Option.map_eq_some_iff.mp named
    obtain ⟨key, listed, _⟩ := ((position?_eq_some_iff db _ position).mp indexed).named
    exact ⟨key, listed⟩
  unfold resolve? at found
  split_ifs at found
  obtain named | ⟨_, by_id⟩ := Option.or_eq_some_iff.mp found
  · exact of_name named
  · obtain named | ⟨_, short⟩ := Option.or_eq_some_iff.mp by_id
    · exact of_name named
    · split_ifs at short
      obtain ⟨⟨key, position⟩, first, rfl⟩ := Option.map_eq_some_iff.mp short
      exact ⟨key, List.mk_mem_zipIdx_iff_getElem?.mp (List.mem_of_find?_eq_some first)⟩

end Snapshot

end Vouch.Key
