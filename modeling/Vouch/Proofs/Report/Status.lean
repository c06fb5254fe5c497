import Mathlib.Tactic
import Vouch.Proofs.Report.Normal

/-!
What the status of a report says.

An operation failed exactly if its report carries a failure.  An operation that did not fail succeeded,
with warnings exactly if something calls for one.
-/

namespace Vouch.Engine.Result

def Warns : Result → Prop
  | .decrypt result | .decryptVerify result _ =>
    result.legacyCipher = true ∨ ∃ algorithm, result.unsupportedAlgorithm = some algorithm
  | .encrypt result => result.invalidRecipients ≠ []
  | .sign result => result.invalidSigners ≠ []
  | .verify _ => False

end Vouch.Engine.Result

namespace Vouch.Report

section
variable (zone : Time.Zone) (db : Key.Snapshot) (result : Engine.Result)

theorem status_ofEngine :
    ∃ warning : Bool, (ofEngine zone db result).status =
        Status.of (ofEngine zone db result).failure warning ∧
      (warning = true ↔ result.Warns) := by
  cases result with
  | decrypt raw => exact ⟨_, rfl, by simp [Engine.Result.Warns, Option.isSome_iff_exists]⟩
  | encrypt raw => exact ⟨_, rfl, by simp [Engine.Result.Warns]⟩
  | sign raw => exact ⟨_, rfl, by simp [Engine.Result.Warns]⟩
  | verify raw => exact ⟨_, rfl, by simp [Engine.Result.Warns]⟩
  | decryptVerify raw checked =>
    exact ⟨_, rfl, by simp [Engine.Result.Warns, Option.isSome_iff_exists]⟩

theorem Status.of_eq_failed_iff (failure : Option Failure) (warning : Bool) :
    Status.of failure warning = .failed ↔ ∃ carried, failure = some carried := by
  cases failure with
  | none => cases warning <;> simp [Status.of]
  | some carried => simp [Status.of]

theorem status_ofEngine_eq_failed_iff :
    (ofEngine zone db result).status = .failed ↔
      ∃ carried, (ofEngine zone db result).failure = some carried := by
  obtain ⟨warning, status, _⟩ := status_ofEngine zone db result
  rw [status, Status.of_eq_failed_iff]

end

theorem failed_of_inVain (zone : Time.Zone) (db : Key.Snapshot) {result : Engine.Result}
    (vain : result.InVain) : (ofEngine zone db result).status = .failed := by
  rw [status_ofEngine_eq_failed_iff, ← Option.ne_none_iff_exists', ne_eq,
    failure_ofEngine_eq_none_iff_effective]
  rintro ⟨_, effective⟩
  exact effective vain

structure Encrypt.Counted (raw : Engine.EncryptResult) (report : Encrypt) : Prop where
  asked : report.recipientCount = max raw.recipientCount.toNat raw.invalidRecipients.length
  total : report.validCount + report.invalidRecipients.length = report.recipientCount
  unread : 0 < report.recipientCount → report.validCount = 0 → report.status = .failed

theorem Encrypt.counted_ofEngine (raw : Engine.EncryptResult) : Counted raw (ofEngine raw) := by
  have length : (ofEngine raw).invalidRecipients.length = raw.invalidRecipients.length :=
    List.length_map _
  have asked : (ofEngine raw).recipientCount =
      max raw.recipientCount.toNat raw.invalidRecipients.length := rfl
  refine ⟨asked, ?_, ?_⟩
  · rw [validCount, length, asked]
    omega
  · intro positive unread
    rw [validCount, length] at unread
    have vain : Engine.Result.InVain (.encrypt raw) := by
      rw [Engine.Result.InVain, ← List.length_pos_iff]
      omega
    exact failed_of_inVain .utc .empty vain

structure Consistent (result : Engine.Result) (report : Report) : Prop where
  failed_iff : report.status = .failed ↔ ∃ carried, report.failure = some carried
  complaint : ∀ raw, result.complaint? = some raw → report.failure = some (Failure.carried raw)
  failure_iff : report.failure = none ↔ result.complaint? = none ∧ ¬result.InVain
  warnings_iff : report.failure = none → (report.status = .warnings ↔ result.Warns)
  success_iff : report.failure = none → (report.status = .success ↔ ¬result.Warns)
  recipients : ∀ raw, result = .encrypt raw → ∃ sealed, report = .encrypt sealed ∧ sealed.Counted raw
  signatures : ∀ raw, result = .sign raw → raw.newSignatures = [] → report.status = .failed

/-- The status of a report never contradicts its content.  It is that of a failed operation exactly if
the report carries a failure, and an error of the engine is always carried. -/
theorem consistent_ofEngine (zone : Time.Zone) (db : Key.Snapshot) (result : Engine.Result) :
    Consistent result (ofEngine zone db result) := by
  obtain ⟨warning, status, warns⟩ := status_ofEngine zone db result
  constructor
  case failed_iff => exact status_ofEngine_eq_failed_iff zone db result
  case complaint =>
    intro raw complaint
    rw [failure_ofEngine, complaint, Option.map_some, Option.some_or]
  case failure_iff => exact failure_ofEngine_eq_none_iff_effective zone db result
  case warnings_iff =>
    intro faultless
    rw [status, faultless, ← warns]
    cases warning <;> simp [Status.of]
  case success_iff =>
    intro faultless
    rw [status, faultless, ← warns]
    cases warning <;> simp [Status.of]
  case recipients =>
    rintro raw rfl
    exact ⟨_, rfl, Encrypt.counted_ofEngine raw⟩
  case signatures =>
    rintro raw rfl unsigned
    exact failed_of_inVain zone db unsigned

/-- An engine that lists more refused recipients than it counts. -/
example :
    let sealed := Encrypt.ofEngine ⟨none, 1, [⟨"A", 153, none⟩, ⟨"B", 94, some "revoked by owner"⟩]⟩
    sealed.status = .failed ∧ sealed.recipientCount = 2 ∧ sealed.validCount = 0 := by decide

end Vouch.Report
