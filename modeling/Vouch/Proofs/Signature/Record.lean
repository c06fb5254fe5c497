import Mathlib.Tactic
import Vouch.Signature.Record
import Vouch.Proofs.Signature.Status

/-!
What the record of a signature takes from the engine and what from the key database.

A record of an unknown signer is one of a missing key.  Otherwise the engine classifies the signature
and the database says how far its key is trusted.  A record is fully valid exactly if nothing of this
speaks against it.
-/

namespace Vouch

namespace Key

/-- The key speaks for a signature: its policy is not bad, and somebody assigned it enough owner
trust or, if nobody assigned any, its policy is good. -/
def Trusted (owner : TrustLevel) (policy : TofuPolicy) : Prop :=
  policy ≠ .bad ∧
    ((owner = .marginal ∨ owner = .full ∨ owner = .ultimate) ∨
      (owner = .unknown ∨ owner = .undefined) ∧ policy = .good)

theorem isSufficient_evaluate_iff (owner : TrustLevel) (policy : TofuPolicy) :
    (Trust.evaluate owner policy).isSufficient = true ↔ Trusted owner policy := by
  cases owner <;> cases policy <;>
    simp [Trust.evaluate, Trust.isSufficient, TrustLevel.isSufficient, TrustLevel.isExplicit,
      TrustLevel.rank, Trusted]

theorem evaluate_bad (owner : TrustLevel) : Trust.evaluate owner .bad = ⟨.never, .tofu⟩ := by
  simp [Trust.evaluate]

theorem level_evaluate_eq_never_iff (owner : TrustLevel) (policy : TofuPolicy) :
    (Trust.evaluate owner policy).level = .never ↔ policy = .bad ∨ owner = .never := by
  cases owner <;> cases policy <;> simp [Trust.evaluate, TrustLevel.isExplicit]

end Key

def Engine.Signature.clean (fingerprint : String) : Engine.Signature :=
  { fingerprint, summary := 3, status := 0, timestamp := 1700000000, expiry := 0
    keyAlgorithm := 1, hashAlgorithm := 8 }

namespace Signature.Record

open Key (Snapshot)

variable {db : Snapshot} {raw : Engine.Signature} {entry : Key.Entry}

@[simp] theorem primaryId_signerOf (entry : Key.Entry) (algorithm : String) :
    (signerOf entry algorithm).primaryId = entry.reference.primaryId := by
  unfold signerOf
  split <;> rfl

theorem trust_build (db : Snapshot) (raw : Engine.Signature) :
    (build db raw).trust =
      Key.Trust.evaluate (build db raw).keyState.ownerTrust (build db raw).policy := by
  simp only [build, Key.State.trust]

theorem status_build_of_known (known : db.lookup raw.fingerprint = some entry) :
    (build db raw).status = Engine.statusOf raw.status raw.summary := by
  simp [build, known]

theorem keyState_build_of_known (known : db.lookup raw.fingerprint = some entry) :
    (build db raw).keyState = entry.state := by
  simp [build, known]

theorem policy_build_of_known (known : db.lookup raw.fingerprint = some entry) :
    (build db raw).policy = db.policy entry.reference.primaryId := by
  simp [build, known]

theorem status_build_of_unknown (unknown : db.lookup raw.fingerprint = none) :
    (build db raw).status = .missingKey := by
  simp [build, unknown]

theorem keyState_build_of_unknown (unknown : db.lookup raw.fingerprint = none) :
    (build db raw).keyState = Key.State.absent := by
  simp [build, unknown]

/-- All that a signature needs: the engine reports nothing against it, and its key is known, neither
revoked nor expired, and trusted. -/
structure Vouched (db : Snapshot) (raw : Engine.Signature) : Prop where
  code : Engine.codeOf raw.status = 0
  summary : ∀ bit ∈ Engine.adverseBits, raw.summary &&& bit = 0
  key : ∃ entry, db.lookup raw.fingerprint = some entry ∧
    entry.state.revoked = false ∧ entry.state.expired = false ∧
    Key.Trusted entry.state.ownerTrust (db.policy entry.reference.primaryId)

theorem vouched_iff_of_known (known : db.lookup raw.fingerprint = some entry) :
    Vouched db raw ↔
      Engine.codeOf raw.status = 0 ∧ (∀ bit ∈ Engine.adverseBits, raw.summary &&& bit = 0) ∧
        entry.state.revoked = false ∧ entry.state.expired = false ∧
        Key.Trusted entry.state.ownerTrust (db.policy entry.reference.primaryId) := by
  constructor
  · rintro ⟨code, summary, other, found, speaks⟩
    cases known.symm.trans found
    exact ⟨code, summary, speaks⟩
  · rintro ⟨code, summary, speaks⟩
    exact ⟨code, summary, entry, known, speaks⟩

/-- A record is fully valid exactly if the signature has all that it needs. -/
theorem isFullyValid_build_iff (db : Snapshot) (raw : Engine.Signature) :
    (build db raw).isFullyValid = true ↔ Vouched db raw := by
  cases known : db.lookup raw.fingerprint with
  | none =>
    have missing := status_build_of_unknown known
    constructor
    · intro valid
      simp [isFullyValid, missing, Status.isGood] at valid
    · intro vouched
      obtain ⟨entry, found, _⟩ := vouched.key
      rw [known] at found
      cases found
  | some entry =>
    have good := Engine.statusOf_eq_good_iff raw.status raw.summary
    have enough := Key.isSufficient_evaluate_iff entry.state.ownerTrust
      (db.policy entry.reference.primaryId)
    rw [vouched_iff_of_known known]
    simp only [isFullyValid, trust_build, status_build_of_known known,
      keyState_build_of_known known, policy_build_of_known known, Status.isGood,
      Key.State.isUnusable, Bool.and_eq_true, beq_iff_eq, Bool.not_eq_true', Bool.or_eq_false_iff,
      good, enough, and_assoc]

/-- A bad policy leaves a record without enough trust. -/
theorem isFullyValid_build_of_bad (bad : (build db raw).policy = .bad) :
    (build db raw).isFullyValid = false := by
  have trust := trust_build db raw
  rw [bad, Key.evaluate_bad] at trust
  simp [isFullyValid, trust, Key.Trust.isSufficient, Key.TrustLevel.isSufficient,
    Key.TrustLevel.rank]

end Signature.Record

end Vouch
