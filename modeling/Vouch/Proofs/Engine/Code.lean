import Mathlib.Tactic
import Vouch.Proofs.Signature.Status

/-!
The classification of a signature as a join.

An engine reports findings, by an error code and by the bits of a summary, and the classification is
the least one that no finding exceeds.  More findings give the more severe of two classifications, so
reporting one more problem never makes a signature look better.  What is no finding has no part in it.
-/

namespace Vouch.Engine

open Vouch.Signature (Status)

/-- All bits of a summary that speak against a signature. -/
def adverse : UInt32 :=
  adverseBits.foldl (· ||| ·) 0

/-- The code of success, and those with a classification of their own: a bad signature, no public key,
a revoked key, no revocation list or one that is too old, an expired key, an expired signature. -/
def namedCodes : List UInt32 := [0, 8, 9, 94, 95, 96, 153, 154]

theorem codeOf_codeOf (value : UInt32) : codeOf (codeOf value) = codeOf value := by
  rw [codeOf, codeOf, UInt32.and_assoc, UInt32.and_self]

theorem describe_codeOf (value : UInt32) : describe (codeOf value) = describe value := by
  rw [describe, describe, codeOf_codeOf]

/-! ### Findings -/

theorem mem_summaryFinding_iff (summary : UInt32) (status : Status) :
    status ∈ summaryFinding summary ↔
      ∃ bits, (bits, status) ∈ summaryFindings ∧ summary &&& bits ≠ 0 := by
  simp [summaryFinding]

theorem or_and_ne_zero_iff (first second bits : UInt32) :
    (first ||| second) &&& bits ≠ 0 ↔ first &&& bits ≠ 0 ∨ second &&& bits ≠ 0 := by
  rw [UInt32.and_comm, ne_eq, and_or_eq_zero_iff, not_and_or, UInt32.and_comm bits first,
    UInt32.and_comm bits second]

theorem mem_summaryFinding_or_iff (first second : UInt32) (status : Status) :
    status ∈ summaryFinding (first ||| second) ↔
      status ∈ summaryFinding first ∨ status ∈ summaryFinding second := by
  simp only [mem_summaryFinding_iff, or_and_ne_zero_iff, and_or_left, exists_or]

/-- No entry of the table looks at a bit that does not speak against a signature. -/
theorem and_adverse_and {bits : UInt32} {status : Status} (summary : UInt32)
    (listed : (bits, status) ∈ summaryFindings) :
    summary &&& adverse &&& bits = summary &&& bits := by
  have inside : ∀ finding ∈ summaryFindings, adverse &&& finding.1 = finding.1 := by decide
  rw [UInt32.and_assoc, inside _ listed]

theorem summaryFinding_and_adverse (summary : UInt32) :
    summaryFinding (summary &&& adverse) = summaryFinding summary := by
  unfold summaryFinding
  congr 1
  apply List.filter_congr
  rintro ⟨bits, status⟩ listed
  rw [and_adverse_and summary listed]

theorem codeFinding_codeOf (value : UInt32) : codeFinding (codeOf value) = codeFinding value := by
  rw [codeFinding, isSuccess, codeOf_codeOf]
  rfl

theorem summaryFinding_zero : summaryFinding 0 = [] := by decide

theorem codeFinding_zero : codeFinding 0 = [] := by decide

theorem and_adverse_eq_zero_iff (summary : UInt32) :
    summary &&& adverse = 0 ↔ ∀ bit ∈ adverseBits, summary &&& bit = 0 := by
  simp [adverse, adverseBits, and_or_eq_zero_iff, and_assoc]

theorem getD_lookup_codeFindings_iff (code : UInt32) :
    (codeFindings.lookup code).getD .generalError = .generalError ↔
      ∀ finding ∈ codeFindings, code ≠ finding.1 := by
  have listed : ∀ finding ∈ codeFindings, finding.2 ≠ .generalError := by decide
  cases found : codeFindings.lookup code with
  | none =>
    have missed := List.lookup_eq_none_iff.mp found
    exact iff_of_true rfl fun finding member => bne_iff_ne.mp (missed finding member)
  | some status =>
    obtain ⟨before, after, split, _⟩ := List.lookup_eq_some_iff.mp found
    have member : (code, status) ∈ codeFindings := by rw [split]; simp
    exact iff_of_false (listed _ member) fun foreign => foreign _ member rfl

theorem mem_namedCodes_iff (code : UInt32) :
    code ∈ namedCodes ↔ code = 0 ∨ ∃ finding ∈ codeFindings, code = finding.1 := by
  have listed : namedCodes.Perm (0 :: codeFindings.map (·.1)) := by decide
  rw [listed.mem_iff, List.mem_cons, List.mem_map]
  simp only [eq_comm]

/-! ### Classifications -/

theorem severity_statusOf_le_iff (value summary : UInt32) (bound : Nat) :
    (statusOf value summary).severity ≤ bound ↔
      (∀ s ∈ codeFinding value, s.severity ≤ bound) ∧
        ∀ s ∈ summaryFinding summary, s.severity ≤ bound := by
  rw [statusOf, Status.severity_worst_le_iff, List.forall_mem_append]

theorem severity_statusOf_or (value first second : UInt32) :
    (statusOf value (first ||| second)).severity =
      max (statusOf value first).severity (statusOf value second).severity := by
  apply eq_of_forall_ge_iff
  intro bound
  simp only [max_le_iff, severity_statusOf_le_iff, mem_summaryFinding_or_iff, or_imp, forall_and]
  tauto

theorem severity_statusOf (value summary : UInt32) :
    (statusOf value summary).severity =
      max (statusOf value 0).severity (statusOf 0 summary).severity := by
  apply eq_of_forall_ge_iff
  intro bound
  simp only [max_le_iff, severity_statusOf_le_iff, summaryFinding_zero, codeFinding_zero,
    List.not_mem_nil, false_implies, implies_true, and_true, true_and]

theorem statusOf_codeOf_and_adverse (value summary : UInt32) :
    statusOf (codeOf value) (summary &&& adverse) = statusOf value summary := by
  rw [statusOf, codeFinding_codeOf, summaryFinding_and_adverse, statusOf]

theorem statusOf_of_clear (value : UInt32) {summary : UInt32} (clear : summary &&& adverse = 0) :
    statusOf value summary = statusOf value 0 := by
  rw [← statusOf_codeOf_and_adverse value summary, clear, ← statusOf_codeOf_and_adverse value 0,
    UInt32.zero_and]

theorem statusOf_zero_eq_generalError_iff (value : UInt32) :
    statusOf value 0 = .generalError ↔ codeOf value ∉ namedCodes := by
  rw [statusOf, summaryFinding_zero, List.append_nil, codeFinding, isSuccess]
  rw [mem_namedCodes_iff]
  by_cases success : codeOf value = 0
  · simp [success, Status.worst]
  · rw [if_neg (by simpa using success), Status.worst_singleton, getD_lookup_codeFindings_iff,
      not_or, and_iff_right success]
    simp only [not_exists, not_and]

/-- The classification is the join of all that is reported.  Two summaries together are as severe as the
more severe of them, and so are a code and a summary, so one more problem never makes a signature look
better.  Nothing but the code and the adverse bits counts.  Without any of these a signature is good,
and a code without a name is a general error. -/
theorem statusOf_joins (value first second : UInt32) :
    ((statusOf value (first ||| second)).severity =
        max (statusOf value first).severity (statusOf value second).severity ∧
      (statusOf value (first ||| second)).severity =
        max (statusOf value 0).severity (statusOf 0 (first ||| second)).severity) ∧
    ((statusOf value first).severity ≤ (statusOf value (first ||| second)).severity ∧
      (statusOf 0 first).severity ≤ (statusOf value first).severity) ∧
    statusOf (codeOf value) (first &&& adverse) = statusOf value first ∧
    (statusOf value first = .good ↔ codeOf value = 0 ∧ first &&& adverse = 0) ∧
    (first &&& adverse = 0 →
      (statusOf value first = .generalError ↔ codeOf value ∉ namedCodes)) := by
  have together := severity_statusOf_or value first second
  have apart := severity_statusOf value first
  refine ⟨⟨together, severity_statusOf value (first ||| second)⟩, ⟨?_, ?_⟩,
    statusOf_codeOf_and_adverse value first, ?_, ?_⟩
  · rw [together]
    exact le_max_left _ _
  · rw [apart]
    exact le_max_right _ _
  · rw [statusOf_eq_good_iff, and_adverse_eq_zero_iff]
  · intro clear
    rw [statusOf_of_clear value clear, statusOf_zero_eq_generalError_iff]

/-- The source of an error and the bits about trust are left out, and a revoked key is worse than an
expired one. -/
example : statusOf 0x07000099 0x1403 = .keyExpired ∧
    statusOf 0x07000099 (0x1403 ||| 0x0010) = .keyRevoked := by decide

end Vouch.Engine
