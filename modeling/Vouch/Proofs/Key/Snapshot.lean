import Mathlib.Tactic
import Vouch.Proofs.Key.Index
import Vouch.Proofs.Key.Name

/-!
Finding keys in a snapshot whose fingerprints are canonical.

A fingerprint that no key has is looked for once more by its long ID, so it finds the last key that
shares these sixteen digits, and nothing if none does.
-/

namespace Vouch.Key

theorem Listed.mem_names_iff (key : Listed) (name : String) :
    name ∈ key.names ↔ ∃ listed ∈ key.fingerprints, name = longId listed ∨ name = listed := by
  simp [names]

theorem Listed.longId_mem_names {key : Listed} {name : String} (listed : name ∈ key.fingerprints) :
    longId name ∈ key.names :=
  (key.mem_names_iff _).mpr ⟨name, listed, Or.inl rfl⟩

def Listed.bare (fingerprint : String) (ownerTrust : TrustLevel) (policy : TofuPolicy) : Listed :=
  { fingerprint, subkeys := [], uid := none, algorithm := "", bits := 0, revoked := false
    expired := false, disabled := false, ownerTrust, policy }

namespace Snapshot

variable {db : Snapshot} {name : String} {key : Listed}

/-- The normal forms of all fingerprints, those of subkeys too, are fingerprints. -/
def Canonical (db : Snapshot) : Prop :=
  ∀ key ∈ db.keys, ∀ name ∈ key.fingerprints, isFingerprint name = true

instance (db : Snapshot) : Decidable db.Canonical :=
  inferInstanceAs
    (Decidable (∀ key ∈ db.keys, ∀ name ∈ key.fingerprints, isFingerprint name = true))

theorem lookup_of_resolve? {hit : Hit} (found : db.resolve? name = some hit)
    (listed : db.keys[hit.position]? = some key) :
    db.lookup name = some (key.entry hit.name) := by
  simp only [lookup, found, Option.bind_some, entryOf?, listed, Option.map_some]

theorem named?_of_isDigits (digits : IsDigits name) :
    db.named? name = (db.position? name).map fun position => ⟨position, name⟩ := by
  rw [named?, normal_of_isDigits digits]

theorem policy_of_owner (digits : IsDigits name) (owner : db.Owner name key) :
    db.policy name = key.policy := by
  obtain ⟨position, last, listed⟩ := owner
  have found := (position?_eq_some_iff db name position).mpr last
  simp only [policy, normal_of_isDigits digits, found, Option.some_or, Option.bind_some, listed]

theorem position?_of_foreign (canonical : db.Canonical) (fingerprint : isFingerprint name = true)
    (foreign : ∀ key ∈ db.keys, name ∉ key.fingerprints) : db.position? name = none := by
  apply position?_eq_none_of_forall
  intro key listed named
  obtain ⟨other, member, short | same⟩ := (key.mem_names_iff name).mp named
  · have listed_fingerprint := canonical key listed other member
    exact longId_ne_of_isFingerprint listed_fingerprint fingerprint short.symm
  · rw [same] at foreign
    exact foreign key listed member

/-- The search among short IDs has no part in finding a fingerprint. -/
theorem withId?_longId (fingerprint : isFingerprint name = true) :
    db.withId? (longId name) =
      (db.position? (longId name)).map fun position => ⟨position, longId name⟩ := by
  have digits := isDigits_longId (isDigits_of_isFingerprint fingerprint)
  have size := length_le_utf8ByteSize (longId name)
  rw [length_longId_of_isFingerprint fingerprint] at size
  have long : (longId name).utf8ByteSize ≠ 8 := by omega
  unfold withId?
  dsimp only
  rw [normal_of_isDigits digits, named?_of_isDigits digits, if_neg long, Option.or_none]

/-- A fingerprint that no key has finds what its long ID finds. -/
theorem resolve?_of_foreign (canonical : db.Canonical)
    (fingerprint : isFingerprint (normal name) = true)
    (foreign : ∀ key ∈ db.keys, normal name ∉ key.fingerprints) :
    db.resolve? name =
      (db.position? (longId (normal name))).map fun position =>
        ⟨position, longId (normal name)⟩ := by
  have digits := isDigits_of_isFingerprint fingerprint
  have missed := position?_of_foreign canonical fingerprint foreign
  rw [resolve?, if_neg (ne_empty_of_isFingerprint fingerprint), named?_of_isDigits digits, missed,
    Option.map_none, Option.none_or, withId?_longId fingerprint]

theorem lookup_of_foreign_of_owner (canonical : db.Canonical)
    (fingerprint : isFingerprint (normal name) = true)
    (foreign : ∀ key ∈ db.keys, normal name ∉ key.fingerprints)
    (owner : db.Owner (longId (normal name)) key) :
    db.lookup name = some (key.entry (longId (normal name))) := by
  obtain ⟨position, last, listed⟩ := owner
  have found := (position?_eq_some_iff db _ position).mpr last
  have resolved := resolve?_of_foreign canonical fingerprint foreign
  rw [found, Option.map_some] at resolved
  have known := lookup_of_resolve? resolved listed
  exact known

def Shares (db : Snapshot) (id : String) : Prop :=
  ∃ key ∈ db.keys, ∃ name ∈ key.fingerprints, longId name = id

instance (db : Snapshot) (id : String) : Decidable (db.Shares id) :=
  inferInstanceAs (Decidable (∃ key ∈ db.keys, ∃ name ∈ key.fingerprints, longId name = id))

theorem exists_owner_of_shares (shares : db.Shares name) : ∃ owner, db.Owner name owner := by
  obtain ⟨key, listed, member, of_key, rfl⟩ := shares
  exact exists_owner listed (Listed.longId_mem_names of_key)

theorem lookup_of_foreign_of_not_shares (canonical : db.Canonical)
    (fingerprint : isFingerprint (normal name) = true)
    (foreign : ∀ key ∈ db.keys, normal name ∉ key.fingerprints)
    (alone : ¬db.Shares (longId (normal name))) : db.lookup name = none := by
  have unnamed : db.position? (longId (normal name)) = none := by
    apply position?_eq_none_of_forall
    intro key listed named
    obtain ⟨other, member, short | same⟩ := (key.mem_names_iff _).mp named
    · exact alone ⟨key, listed, other, member, short.symm⟩
    · have listed_fingerprint := canonical key listed other member
      exact longId_ne_of_isFingerprint fingerprint listed_fingerprint same
  rw [lookup, resolve?_of_foreign canonical fingerprint foreign, unnamed, Option.map_none,
    Option.bind_none]

end Snapshot

end Vouch.Key
