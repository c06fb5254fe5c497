import Mathlib.Tactic
import Vouch.Proofs.Key.Snapshot
import Vouch.Proofs.Verdict.FullyValid

/-!
What a record says of its signer, and which signers never pass.

The state of a record is that of the key that the fingerprint finds.  Its policy is looked up by the
long ID of that key, which more than one key can have.  A signer that is not in the database is one
of a missing key, unless a key shares its long ID.
-/

namespace Vouch.Verdict

open Key (Hit Listed Snapshot longId normal isFingerprint)
open Signature (Record)

/-- What a record says of a key that was found.  Its state is that of the key, but its policy is that
of the last key with the same long ID.  A bad policy of the key therefore counts exactly if that key
has a bad policy too: then the trust is never, and the signature never passes. -/
theorem policy_of_found_key_iff (db : Snapshot) (raw : Engine.Signature) (hit : Hit) (key : Listed)
    (canonical : db.Canonical) (found : db.resolve? raw.fingerprint = some hit)
    (listed : db.keys[hit.position]? = some key) :
    (Record.build db raw).keyState = (key.entry hit.name).state ∧
      ∃ owner, db.Owner (longId (normal key.fingerprint)) owner ∧
        ((Record.build db raw).policy = key.policy ↔ owner.policy = key.policy) ∧
        ((Record.build db raw).trust.level = .never ↔
          owner.policy = .bad ∨ key.ownerTrust = .never) ∧
        (NeverPasses (Record.build db raw) ↔
          ¬(Engine.codeOf raw.status = 0 ∧
            (∀ bit ∈ Engine.adverseBits, raw.summary &&& bit = 0) ∧
            key.revoked = false ∧ key.expired = false ∧
            Key.Trusted key.ownerTrust owner.policy)) := by
  have known := Snapshot.lookup_of_resolve? found listed
  have member : key ∈ db.keys := List.mem_of_getElem? listed
  have primary : normal key.fingerprint ∈ key.fingerprints := List.mem_cons_self
  -- The long ID that is asked for is a name of the key itself, so some key has it.
  obtain ⟨owner, owns⟩ := Snapshot.exists_owner member (Listed.longId_mem_names primary)
  have digits := Key.isDigits_longId
    (Key.isDigits_of_isFingerprint (canonical key member _ primary))
  have asked : db.policy (key.entry hit.name).reference.primaryId = owner.policy :=
    Snapshot.policy_of_owner digits owns
  have state := Record.keyState_build_of_known known
  have policy := (Record.policy_build_of_known known).trans asked
  refine ⟨state, owner, owns, by rw [policy], ?_, ?_⟩
  · rw [Record.trust_build, state, policy, Key.level_evaluate_eq_never_iff]
    rfl
  · rw [neverPasses_build_iff, Record.vouched_iff_of_known known, asked]
    rfl

theorem policy_of_sole_bad_key :
    let fingerprint := "AAAAAAAAAAAAAAAAAAAAAAAA0123456789ABCDEF"
    let key := Listed.bare fingerprint .ultimate .bad
    let db := Snapshot.ofKeys [key]
    let raw := Engine.Signature.clean fingerprint
    db.Canonical ∧ db.resolve? raw.fingerprint = some ⟨0, fingerprint⟩ ∧ db.keys[0]? = some key ∧
      (Record.build db raw).policy = .bad ∧ (Record.build db raw).trust.level = .never := by
  intro fingerprint key db raw
  have canonical : db.Canonical := by decide +kernel
  have found : db.resolve? raw.fingerprint = some ⟨0, fingerprint⟩ := by decide +kernel
  have indexed : db.position? (longId (normal key.fingerprint)) = some 0 := by decide +kernel
  have itself : db.Owner (longId (normal key.fingerprint)) key :=
    ⟨0, (Snapshot.position?_eq_some_iff db _ 0).mp indexed, rfl⟩
  obtain ⟨_, owner, owns, policy, trust, _⟩ :=
    policy_of_found_key_iff db raw ⟨0, fingerprint⟩ key canonical found rfl
  cases Snapshot.owner_unique owns itself
  exact ⟨canonical, found, rfl, policy.mpr rfl, trust.mpr (Or.inl rfl)⟩

/-- Two keys with one long ID.  The bad policy of the first is not seen, because the policy is looked
up by the long ID, which the second has. -/
theorem bad_policy_passes_of_shared_longId :
    let fingerprint := "AAAAAAAAAAAAAAAAAAAAAAAA0123456789ABCDEF"
    let key := Listed.bare fingerprint .ultimate .bad
    let other := Listed.bare "BBBBBBBBBBBBBBBBBBBBBBBB0123456789ABCDEF" .unknown .unknown
    let db := Snapshot.ofKeys [key, other]
    let record := Record.build db (.clean fingerprint)
    db.Canonical ∧ db.resolve? fingerprint = some ⟨0, fingerprint⟩ ∧ db.keys[0]? = some key ∧
      key.policy = .bad ∧ record.policy = .unknown ∧ record.trust.level = .ultimate ∧
      (ofRecords [record]).overall = .fullyValid := by
  decide +kernel

/-- A signer that is not in the database.  Unless some key shares its long ID it is one of a missing
key, whatever the engine reported, and never passes.  Otherwise the lookup by the long ID finds the
last such key, and the record has the state of that key and the engine's classification. -/
theorem missing_of_foreign_signer (db : Snapshot) (raw : Engine.Signature)
    (canonical : db.Canonical) (fingerprint : isFingerprint (normal raw.fingerprint) = true)
    (foreign : ∀ key ∈ db.keys, normal raw.fingerprint ∉ key.fingerprints) :
    (¬db.Shares (longId (normal raw.fingerprint)) →
      (Record.build db raw).status = .missingKey ∧
        (Record.build db raw).keyState = Key.State.absent ∧
        NeverPasses (Record.build db raw)) ∧
    (db.Shares (longId (normal raw.fingerprint)) →
      ∃ owner, db.Owner (longId (normal raw.fingerprint)) owner ∧
        (Record.build db raw).status = Engine.statusOf raw.status raw.summary ∧
        (Record.build db raw).keyState =
          (owner.entry (longId (normal raw.fingerprint))).state) := by
  constructor
  · intro alone
    have unknown := Snapshot.lookup_of_foreign_of_not_shares canonical fingerprint foreign alone
    refine ⟨Record.status_build_of_unknown unknown, Record.keyState_build_of_unknown unknown, ?_⟩
    rw [neverPasses_build_iff]
    intro vouched
    obtain ⟨entry, found, _⟩ := vouched.key
    rw [unknown] at found
    cases found
  · intro shares
    obtain ⟨owner, owns⟩ := Snapshot.exists_owner_of_shares shares
    have known := Snapshot.lookup_of_foreign_of_owner canonical fingerprint foreign owns
    exact ⟨owner, owns, Record.status_build_of_known known, Record.keyState_build_of_known known⟩

theorem missing_of_signer_beside_other_key :
    let db := Snapshot.ofKeys [.bare "BBBBBBBBBBBBBBBBBBBBBBBBBBBBBBBBBBBBBBBB" .full .unknown]
    let raw := Engine.Signature.clean "AAAAAAAAAAAAAAAAAAAAAAAA0123456789ABCDEF"
    db.Canonical ∧ isFingerprint (normal raw.fingerprint) = true ∧
      (∀ key ∈ db.keys, normal raw.fingerprint ∉ key.fingerprints) ∧
      ¬db.Shares (longId (normal raw.fingerprint)) ∧
      (Record.build db raw).status = .missingKey ∧ NeverPasses (Record.build db raw) := by
  intro db raw
  have canonical : db.Canonical := by decide +kernel
  have fingerprint : isFingerprint (normal raw.fingerprint) = true := by decide +kernel
  have foreign : ∀ key ∈ db.keys, normal raw.fingerprint ∉ key.fingerprints := by decide +kernel
  have alone : ¬db.Shares (longId (normal raw.fingerprint)) := by decide +kernel
  obtain ⟨missing, _, never⟩ :=
    (missing_of_foreign_signer db raw canonical fingerprint foreign).1 alone
  exact ⟨canonical, fingerprint, foreign, alone, missing, never⟩

/-- A signer that is not in the database and passes, because a trusted key shares its long ID. -/
theorem foreign_signer_passes_of_shared_longId :
    let db := Snapshot.ofKeys [.bare "BBBBBBBBBBBBBBBBBBBBBBBB0123456789ABCDEF" .full .unknown]
    let raw := Engine.Signature.clean "AAAAAAAAAAAAAAAAAAAAAAAA0123456789ABCDEF"
    db.Canonical ∧ isFingerprint (normal raw.fingerprint) = true ∧
      (∀ key ∈ db.keys, normal raw.fingerprint ∉ key.fingerprints) ∧
      (Record.build db raw).status = .good ∧
      (ofRecords [Record.build db raw]).overall = .fullyValid := by
  decide +kernel

end Vouch.Verdict
