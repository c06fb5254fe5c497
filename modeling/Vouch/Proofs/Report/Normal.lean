import Mathlib.Tactic
import Vouch.Proofs.Engine.Code
import Vouch.Report.Normal

/-!
What a report keeps of an engine's result.

The signatures of a report are the records of those that the result has, and none for an operation
that verifies nothing.  The failure of a report is the first error that the engine reported, or else
that the operation was in vain.  A verification is never in vain, so it fails exactly if the engine
reported an error in some part of it.
-/

namespace Vouch.Engine.Result

def verifies : Result → Bool
  | .verify _ | .decryptVerify _ _ => true
  | .decrypt _ | .encrypt _ | .sign _ => false

def failures : Result → List Failure
  | .decrypt result => result.failure.toList
  | .encrypt result => result.failure.toList
  | .sign result => result.failure.toList
  | .verify result => result.failure.toList
  | .decryptVerify result checked => result.failure.toList ++ checked.failure.toList

/-- The first failure that the engine reported, where error values that stand for success are none.  The
parts of an operation are asked in their order. -/
def complaint? (result : Result) : Option Failure :=
  result.failures.find? fun failure => codeOf failure.code ≠ 0

def InVain : Result → Prop
  | .encrypt result =>
    result.invalidRecipients ≠ [] ∧
      result.recipientCount.toNat ≤ result.invalidRecipients.length
  | .sign result => result.newSignatures = []
  | .decrypt _ | .verify _ | .decryptVerify _ _ => False

def signatures : Result → List Signature
  | .verify result | .decryptVerify _ result => result.signatures
  | .decrypt _ | .encrypt _ | .sign _ => []

/-- Signatures were verified, and no part of the operation failed. -/
structure Judged (result : Result) : Prop where
  verifies : result.verifies = true
  faultless : ∀ failure ∈ result.failures, codeOf failure.code = 0
  signed : result.signatures ≠ []

theorem not_inVain_of_verifies {result : Result} (verifies : result.verifies = true) :
    ¬result.InVain := by
  cases result with
  | encrypt => cases verifies
  | sign => cases verifies
  | decrypt => exact not_false
  | verify => exact not_false
  | decryptVerify => exact not_false

end Vouch.Engine.Result

namespace Vouch.Report

def Failure.carried (raw : Engine.Failure) : Failure :=
  { code := Engine.codeOf raw.code
    message := if raw.message = "" then Engine.describe (Engine.codeOf raw.code) else raw.message }

theorem ofEngine?_eq_find (failure : Option Engine.Failure) :
    Failure.ofEngine? failure =
      (failure.toList.find? fun raw => Engine.codeOf raw.code ≠ 0).map Failure.carried := by
  cases failure with
  | none => rfl
  | some raw =>
    by_cases success : Engine.codeOf raw.code = 0
    · simp [Failure.ofEngine?, Engine.isSuccess, success]
    · simp [Failure.ofEngine?, Engine.isSuccess, success, Failure.carried, Engine.describe_codeOf]

def vain? : Engine.Result → Option Failure
  | .encrypt raw => noRecipient? raw
  | .sign raw => noSignature? raw
  | .decrypt _ | .verify _ | .decryptVerify _ _ => none

theorem vain?_eq_none_iff (result : Engine.Result) : vain? result = none ↔ ¬result.InVain := by
  cases result with
  | encrypt raw =>
    have refused : 0 < askedCount raw ∧ askedCount raw - raw.invalidRecipients.length = 0 ↔
        Engine.Result.InVain (.encrypt raw) := by
      rw [askedCount, Engine.Result.InVain, ← List.length_pos_iff]
      omega
    rw [vain?, noRecipient?, ite_eq_right_iff, refused]
    simp
  | sign raw => simp [vain?, noSignature?, Engine.Result.InVain]
  | decrypt raw => simp [vain?, Engine.Result.InVain]
  | verify raw => simp [vain?, Engine.Result.InVain]
  | decryptVerify raw checked => simp [vain?, Engine.Result.InVain]

section
variable (zone : Time.Zone) (db : Key.Snapshot) (result : Engine.Result)

theorem failure_ofEngine :
    (ofEngine zone db result).failure =
      (result.complaint?.map Failure.carried).or (vain? result) := by
  cases result with
  | encrypt raw =>
    change (Failure.ofEngine? raw.failure).or (noRecipient? raw) = _
    rw [ofEngine?_eq_find]
    rfl
  | sign raw =>
    change (Failure.ofEngine? raw.failure).or (noSignature? raw) = _
    rw [ofEngine?_eq_find]
    rfl
  | decrypt raw =>
    change (Failure.ofEngine? raw.failure).or none = _
    rw [ofEngine?_eq_find]
    rfl
  | verify raw =>
    change Failure.ofEngine? raw.failure = _
    rw [ofEngine?_eq_find, vain?, Option.or_none]
    rfl
  | decryptVerify raw checked =>
    change (Failure.ofEngine? raw.failure).or (Failure.ofEngine? checked.failure) = _
    rw [ofEngine?_eq_find, ofEngine?_eq_find, vain?, Option.or_none, Engine.Result.complaint?,
      Engine.Result.failures, List.find?_append, Option.map_or]

theorem failure_ofEngine_eq_none_iff_effective :
    (ofEngine zone db result).failure = none ↔ result.complaint? = none ∧ ¬result.InVain := by
  rw [failure_ofEngine, Option.or_eq_none_iff, Option.map_eq_none_iff, vain?_eq_none_iff]

/-- The report of a verification has a failure unless all parts of it succeeded. -/
theorem failure_ofEngine_eq_none_iff (verifies : result.verifies = true) :
    (ofEngine zone db result).failure = none ↔
      ∀ failure ∈ result.failures, Engine.codeOf failure.code = 0 := by
  have effective : ¬result.InVain := Engine.Result.not_inVain_of_verifies verifies
  rw [failure_ofEngine_eq_none_iff_effective, and_iff_left effective, Engine.Result.complaint?,
    List.find?_eq_none]
  simp only [decide_eq_true_eq, not_not]

theorem signatures_ofEngine :
    (ofEngine zone db result).signatures =
      result.signatures.map (Signature.Record.build db) := by
  cases result <;> rfl

end

theorem verifies_of_signatures_ne_nil (result : Engine.Result) (signed : result.signatures ≠ []) :
    result.verifies = true := by
  cases result <;> first | rfl | exact absurd rfl signed

end Vouch.Report
