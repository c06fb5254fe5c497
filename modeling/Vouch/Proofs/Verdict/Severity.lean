import Mathlib.Tactic
import Vouch.Proofs.Key.Snapshot
import Vouch.Proofs.Verdict.Account
import Vouch.Proofs.Verdict.FullyValid

/-!
How severe the reason is that a verdict gives for a signature.

A signature can be disqualified on several grounds at once, and one of them is given as the reason.
What the engine found comes first, so that the reason is the most severe one unless the database
knows something worse about the key than what the engine found.
-/

namespace Vouch.Verdict

open Signature (Record Status)

/-- How severe a ground is; matters of trust are the mildest. -/
def Ground.severity : Ground → Nat
  | .badSignature => Status.severity .bad
  | .keyRevoked => Status.severity .keyRevoked
  | .keyExpired => Status.severity .keyExpired
  | .signatureExpired => Status.severity .expired
  | .missingKey => Status.severity .missingKey
  | .missingCrl => Status.severity .missingCrl
  | .verificationError => Status.severity .generalError
  | .insufficientTrust | .tofuConflict | .noSignatures | .operationFailed => Status.severity .good

inductive Disqualifies (record : Record) : Ground → Prop where
  | status {ground : Ground} (found : Ground.ofStatus? record.status = some ground) :
    Disqualifies record ground
  | revoked (revoked : record.keyState.revoked = true) : Disqualifies record .keyRevoked
  | expired (expired : record.keyState.expired = true) : Disqualifies record .keyExpired
  | conflict (conflict : record.trust.source = .tofu ∧ record.policy = .bad) :
    Disqualifies record .tofuConflict
  | distrust (distrust : record.trust.isSufficient = false) : Disqualifies record .insufficientTrust

def MostSevere (record : Record) (ground : Ground) : Prop :=
  Disqualifies record ground ∧ ∀ other, Disqualifies record other → other.severity ≤ ground.severity

/-- The database knows something worse about the key than what the engine found. -/
def Overshadowed (record : Record) : Prop :=
  record.status ≠ .good ∧
    ((record.keyState.revoked = true ∧
        record.status.severity < Status.severity .keyRevoked) ∨
      (record.keyState.expired = true ∧
        record.status.severity < Status.severity .keyExpired))

theorem severity_of_ofStatus? {status : Status} {ground : Ground}
    (found : Ground.ofStatus? status = some ground) : ground.severity = status.severity := by
  cases status <;> cases found <;> rfl

variable {record : Record} {ground : Ground} {message : String}

/-- What the engine found is given as the reason, if it found anything. -/
theorem ground_of_ofStatus? (found : disqualifier record = some (ground, message))
    {other : Ground} (engine : Ground.ofStatus? record.status = some other) : ground = other := by
  rw [disqualifier, engine] at found
  cases found
  rfl

theorem severity_le_of_good (good : record.status = .good) (other : Ground)
    (disqualifies : Disqualifies record other) :
    other.severity ≤ Status.severity .keyRevoked ∧
      (record.keyState.revoked = false → other.severity ≤ Status.severity .keyExpired) ∧
      (record.keyState.revoked = false → record.keyState.expired = false → other.severity = 0) := by
  cases disqualifies with
  | status found =>
    rw [good] at found
    cases found
  | revoked revoked => simp [revoked, Ground.severity]
  | expired expired => simp [expired, Ground.severity, Status.severity]
  | conflict => simp [Ground.severity, Status.severity]
  | distrust => simp [Ground.severity, Status.severity]

/-- Where the engine found nothing, the reason is the most severe ground. -/
theorem mostSevere_of_good (good : record.status = .good)
    (found : disqualifier record = some (ground, message)) : MostSevere record ground := by
  rw [disqualifier, good, Ground.ofStatus?] at found
  have bound := severity_le_of_good good
  split_ifs at found with revoked expired conflict distrust
  · cases found
    exact ⟨.revoked revoked, fun other disqualifies => (bound other disqualifies).1⟩
  · cases found
    rw [Bool.not_eq_true] at revoked
    exact ⟨.expired expired, fun other disqualifies => (bound other disqualifies).2.1 revoked⟩
  · cases found
    rw [Bool.not_eq_true] at revoked expired
    exact ⟨.conflict conflict, fun other disqualifies =>
      ((bound other disqualifies).2.2 revoked expired).le⟩
  · cases found
    rw [Bool.not_eq_true] at revoked expired
    rw [Bool.not_eq_true'] at distrust
    exact ⟨.distrust distrust, fun other disqualifies =>
      ((bound other disqualifies).2.2 revoked expired).le⟩

theorem disqualifies_of_disqualifier (found : disqualifier record = some (ground, message)) :
    Disqualifies record ground := by
  cases engine : Ground.ofStatus? record.status with
  | none => exact (mostSevere_of_good ((ofStatus?_eq_none_iff _).mp engine) found).1
  | some other =>
    rw [ground_of_ofStatus? found engine]
    exact .status engine

/-- The reason given for a record is the most severe ground exactly if the database knows nothing
worse about the key than what the engine found. -/
theorem mostSevere_iff (found : disqualifier record = some (ground, message)) :
    MostSevere record ground ↔ ¬Overshadowed record := by
  cases engine : Ground.ofStatus? record.status with
  | none =>
    have good := (ofStatus?_eq_none_iff _).mp engine
    exact iff_of_true (mostSevere_of_good good found) fun overshadowed => overshadowed.1 good
  | some other =>
    have given := ground_of_ofStatus? found engine
    subst given
    have severity := severity_of_ofStatus? engine
    constructor
    · rintro ⟨_, greatest⟩ ⟨_, ⟨revoked, milder⟩ | ⟨expired, milder⟩⟩
      · have known := greatest .keyRevoked (.revoked revoked)
        rw [severity] at known
        exact absurd known (not_le.mpr milder)
      · have known := greatest .keyExpired (.expired expired)
        rw [severity] at known
        exact absurd known (not_le.mpr milder)
    · intro clear
      refine ⟨.status engine, ?_⟩
      have flawed : record.status ≠ .good := by
        intro good
        rw [(ofStatus?_eq_none_iff _).mpr good] at engine
        cases engine
      intro rival disqualifies
      rw [severity]
      by_contra worse
      rw [not_le] at worse
      cases disqualifies with
      | status same => exact absurd worse (by rw [severity_of_ofStatus? same]; exact lt_irrefl _)
      | revoked revoked => exact clear ⟨flawed, .inl ⟨revoked, worse⟩⟩
      | expired expired => exact clear ⟨flawed, .inr ⟨expired, worse⟩⟩
      | conflict => exact absurd worse (Nat.not_lt_zero _)
      | distrust => exact absurd worse (Nat.not_lt_zero _)

/-- The reason for a signature that is not fully valid.  There is one, and it is a ground on which the
signature does not qualify: what the engine found, if it found anything.  It is the most severe ground
exactly if the database knows nothing worse about the key than what the engine found. -/
theorem reason_of_invalid_signature (zone : Time.Zone) (db : Key.Snapshot)
    (result : Engine.Result) (position : Nat) (record : Record)
    (listed : (Report.ofEngine zone db result).signatures[position]? = some record)
    (invalid : record.isFullyValid = false) :
    ∃ reason, (ofReport (Report.ofEngine zone db result)).reasonsAt position = [reason] ∧
      Disqualifies record reason.ground ∧
      (∀ ground, Ground.ofStatus? record.status = some ground → reason.ground = ground) ∧
      (MostSevere record reason.ground ↔ ¬Overshadowed record) := by
  have reasons := reasonsAt_ofReport (Report.ofEngine zone db result) position
  rw [listed, Option.bind_some, Tally.Step.reason?] at reasons
  have built : ∃ raw, Record.build db raw = record := by
    rw [Report.signatures_ofEngine] at listed
    obtain ⟨raw, _, same⟩ := List.mem_map.mp (List.mem_of_getElem? listed)
    exact ⟨raw, same⟩
  obtain ⟨raw, rfl⟩ := built
  cases found : disqualifier (Record.build db raw) with
  | none =>
    rw [(disqualifier_build_eq_none_iff db raw).mp found] at invalid
    cases invalid
  | some finding =>
    obtain ⟨ground, message⟩ := finding
    rw [found] at reasons
    exact ⟨_, reasons, disqualifies_of_disqualifier found, fun _ => ground_of_ofStatus? found,
      mostSevere_iff found⟩

theorem reason_of_revoked_key :
    let fingerprint := "0123456789ABCDEF0123456789ABCDEF01234567"
    let key := { Key.Listed.bare fingerprint .never .bad with revoked := true, expired := true }
    let db := Key.Snapshot.ofKeys [key]
    let result := Engine.Result.verify ⟨none, none, [.clean fingerprint]⟩
    let record := Record.build db (.clean fingerprint)
    (Report.ofEngine .utc db result).signatures[0]? = some record ∧ record.isFullyValid = false ∧
      ∃ reason, (ofReport (Report.ofEngine .utc db result)).reasonsAt 0 = [reason] ∧
        MostSevere record reason.ground := by
  intro fingerprint key db result record
  have invalid : record.isFullyValid = false := by decide +kernel
  have good : record.status = .good := by decide +kernel
  obtain ⟨reason, reasons, _, _, severe⟩ :=
    reason_of_invalid_signature .utc db result 0 record rfl invalid
  exact ⟨rfl, invalid, reason, reasons, severe.mpr fun overshadowed => overshadowed.1 good⟩

/-- A signature that has expired, by a key that has been revoked.  The reason is the milder one. -/
theorem expired_signature_hides_revoked_key :
    let fingerprint := "0123456789ABCDEF0123456789ABCDEF01234567"
    let key := { Key.Listed.bare fingerprint .full .unknown with revoked := true }
    let db := Key.Snapshot.ofKeys [key]
    let raw := { Engine.Signature.clean fingerprint with summary := 0x0040 }
    let result := Engine.Result.verify ⟨none, none, [raw]⟩
    let record := Record.build db raw
    (Report.ofEngine .utc db result).signatures = [record] ∧ record.isFullyValid = false ∧
      record.keyState.revoked = true ∧
      ((ofReport (Report.ofEngine .utc db result)).reasonsAt 0).map Reason.ground =
        [.signatureExpired] ∧
      ¬MostSevere record .signatureExpired := by
  intro fingerprint key db raw result record
  have revoked : record.keyState.revoked = true := by decide +kernel
  refine ⟨rfl, by decide +kernel, revoked, by decide +kernel, ?_⟩
  rintro ⟨_, greatest⟩
  exact absurd (greatest .keyRevoked (.revoked revoked)) (by decide)

end Vouch.Verdict
