import Mathlib.Tactic
import Vouch.Engine.Code

/-!
The classification of a signature from what an engine reports.

The classification is the most severe finding, so it is good exactly if there is no finding: the
code is that of success and none of the bits that speak against a signature is set.
-/

namespace Vouch.Signature.Status

theorem severity_worse (a b : Status) : (worse a b).severity = max a.severity b.severity := by
  unfold worse
  split_ifs with milder
  · exact (max_eq_right milder.le).symm
  · exact (max_eq_left (not_lt.mp milder)).symm

theorem severity_eq_zero_iff (status : Status) : status.severity = 0 ↔ status = .good := by
  cases status <;> simp [severity]

theorem severity_foldl_worse_le_iff (found : List Status) (status : Status) (bound : Nat) :
    (found.foldl worse status).severity ≤ bound ↔
      status.severity ≤ bound ∧ ∀ s ∈ found, s.severity ≤ bound := by
  induction found generalizing status with
  | nil => simp
  | cons first rest ih =>
    rw [List.foldl_cons, ih, severity_worse, max_le_iff, List.forall_mem_cons, and_assoc]

/-- The most severe classification is the least one that none of them exceeds. -/
theorem severity_worst_le_iff (found : List Status) (bound : Nat) :
    (worst found).severity ≤ bound ↔ ∀ s ∈ found, s.severity ≤ bound := by
  rw [worst, severity_foldl_worse_le_iff]
  exact and_iff_right (Nat.zero_le bound)

theorem worst_eq_good_iff (found : List Status) :
    worst found = .good ↔ ∀ s ∈ found, s = .good := by
  simp only [← severity_eq_zero_iff, ← Nat.le_zero, severity_worst_le_iff]

theorem worst_singleton (status : Status) : worst [status] = status := by
  cases status <;> rfl

end Vouch.Signature.Status

namespace Vouch.Engine

open Vouch.Signature (Status)

/-- The bits of a summary that speak against a signature: it is bad, its key is revoked or expired,
it is expired itself, its key is missing, a revocation list is missing or too old, or the system has
failed. -/
def adverseBits : List UInt32 :=
  [0x0004, 0x0010, 0x0020, 0x0040, 0x0080, 0x0100, 0x0200, 0x0800]

theorem codeFindings_ne_good (code : UInt32) :
    (codeFindings.lookup code).getD .generalError ≠ .good := by
  have listed : ∀ finding ∈ codeFindings, finding.2 ≠ .good := by decide
  cases found : codeFindings.lookup code with
  | none => simp
  | some status =>
    obtain ⟨before, after, split, _⟩ := List.lookup_eq_some_iff.mp found
    exact listed (code, status) (by rw [split]; simp)

theorem codeFinding_good_iff (value : UInt32) :
    (∀ s ∈ codeFinding value, s = .good) ↔ codeOf value = 0 := by
  by_cases success : codeOf value = 0
  · simp [codeFinding, isSuccess, success]
  · have other := codeFindings_ne_good (codeOf value)
    simp only [codeFinding, isSuccess, beq_iff_eq, if_neg success, List.mem_singleton, forall_eq]
    simp only [other, success]

theorem and_or_eq_zero_iff (value a b : UInt32) :
    value &&& (a ||| b) = 0 ↔ value &&& a = 0 ∧ value &&& b = 0 := by
  have spread : value &&& (a ||| b) = (value &&& a) ||| (value &&& b) :=
    UInt32.toBitVec_inj.mp BitVec.and_or_distrib_left
  rw [spread, UInt32.or_eq_zero_iff]

theorem summaryFinding_good_iff (summary : UInt32) :
    (∀ s ∈ summaryFinding summary, s = .good) ↔ ∀ bit ∈ adverseBits, summary &&& bit = 0 := by
  have listed : ∀ finding ∈ summaryFindings, finding.2 ≠ .good := by decide
  have quiet : (∀ s ∈ summaryFinding summary, s = .good) ↔
      ∀ finding ∈ summaryFindings, summary &&& finding.1 = 0 := by
    constructor
    · intro good finding member
      by_contra set
      have reported : finding.2 ∈ summaryFinding summary :=
        List.mem_map_of_mem (List.mem_filter.mpr ⟨member, by simpa using set⟩)
      exact listed finding member (good _ reported)
    · intro clear s reported
      obtain ⟨finding, kept, _⟩ := List.mem_map.mp reported
      obtain ⟨member, set⟩ := List.mem_filter.mp kept
      simp [clear finding member] at set
  -- The two bits for revocation lists are one entry of the table.
  have lists := and_or_eq_zero_iff summary 0x0100 0x0200
  change summary &&& 0x0300 = 0 ↔ _ at lists
  rw [quiet]
  simp [summaryFindings, adverseBits, lists, and_assoc]

/-- A signature is classified as good exactly if the engine reports nothing against it. -/
theorem statusOf_eq_good_iff (value summary : UInt32) :
    statusOf value summary = .good ↔
      codeOf value = 0 ∧ ∀ bit ∈ adverseBits, summary &&& bit = 0 := by
  rw [statusOf, Status.worst_eq_good_iff, List.forall_mem_append, codeFinding_good_iff,
    summaryFinding_good_iff]

end Vouch.Engine
