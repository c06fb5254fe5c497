import Vouch.Verdict

/-!
The stage of a tally after any steps.

A tally is valid as long as every step counts a signature that qualifies, and nothing makes it valid
again.  A verdict is therefore fully valid exactly if something was counted and every step counted a
signature that qualifies.
-/

namespace Vouch.Verdict

open Signature (Record)

namespace Tally

def Step.Qualifies : Step → Prop
  | .push record => disqualifier record = none
  | .fail _ => False

theorem stage_after_of_qualifies (tally : Tally) (step : Step) (qualifies : step.Qualifies) :
    (tally.after step).stage = if tally.stage = .pending then .valid else tally.stage := by
  cases step with
  | fail message => exact False.elim qualifies
  | push record =>
    have none_found : disqualifier record = none := qualifies
    simp only [after, push, none_found]

theorem stage_after_of_not_qualifies (tally : Tally) (step : Step) (fails : ¬step.Qualifies) :
    (tally.after step).stage = .notFullyValid := by
  cases step with
  | fail message => rfl
  | push record =>
    cases found : disqualifier record with
    | none => exact False.elim (fails found)
    | some finding => simp only [after, push, found]

/-- One step preserves what a later step may still turn into a valid tally. -/
theorem stage_after_ne_notFullyValid_iff (tally : Tally) (step : Step) :
    (tally.after step).stage ≠ .notFullyValid ↔ tally.stage ≠ .notFullyValid ∧ step.Qualifies := by
  by_cases qualifies : step.Qualifies
  · rw [stage_after_of_qualifies tally step qualifies]
    cases tally.stage <;> simp [qualifies]
  · rw [stage_after_of_not_qualifies tally step qualifies]
    simp [qualifies]

theorem stage_after_ne_pending (tally : Tally) (step : Step) :
    (tally.after step).stage ≠ .pending := by
  by_cases qualifies : step.Qualifies
  · rw [stage_after_of_qualifies tally step qualifies]
    cases tally.stage <;> simp
  · rw [stage_after_of_not_qualifies tally step qualifies]
    simp

theorem stage_foldl_ne_notFullyValid_iff (steps : List Step) (tally : Tally) :
    (steps.foldl after tally).stage ≠ .notFullyValid ↔
      tally.stage ≠ .notFullyValid ∧ ∀ step ∈ steps, step.Qualifies := by
  induction steps generalizing tally with
  | nil => simp
  | cons step rest ih =>
    rw [List.foldl_cons, ih, stage_after_ne_notFullyValid_iff, List.forall_mem_cons, and_assoc]

theorem stage_foldl_eq_pending_iff (steps : List Step) (tally : Tally) :
    (steps.foldl after tally).stage = .pending ↔ tally.stage = .pending ∧ steps = [] := by
  induction steps generalizing tally with
  | nil => simp
  | cons step rest ih =>
    rw [List.foldl_cons, ih]
    simp [stage_after_ne_pending]

/-- A tally of steps is valid exactly if there are steps and all of them qualify. -/
theorem stage_ofSteps_eq_valid_iff (steps : List Step) :
    (ofSteps steps).stage = .valid ↔ steps ≠ [] ∧ ∀ step ∈ steps, step.Qualifies := by
  have open_iff := stage_foldl_ne_notFullyValid_iff steps start
  have pending_iff := stage_foldl_eq_pending_iff steps start
  have fresh : start.stage = .pending := rfl
  rw [fresh] at open_iff pending_iff
  change (steps.foldl after start).stage = .valid ↔ _
  cases reached : (steps.foldl after start).stage <;> simp_all

theorem overall_finish_iff (tally : Tally) :
    tally.finish.overall = .fullyValid ↔ tally.stage = .valid := by
  cases reached : tally.stage <;> simp [finish, reached]

end Tally

theorem overall_ofSteps_iff (steps : List Tally.Step) :
    (Tally.ofSteps steps).finish.overall = .fullyValid ↔
      steps ≠ [] ∧ ∀ step ∈ steps, step.Qualifies := by
  rw [Tally.overall_finish_iff, Tally.stage_ofSteps_eq_valid_iff]

/-- No verdict that counts the signature is fully valid, whatever else is counted before it and
after it. -/
def NeverPasses (record : Record) : Prop :=
  ∀ steps, Tally.Step.push record ∈ steps →
    (Tally.ofSteps steps).finish.overall = .notFullyValid

/-- A signature passes on its own unless it never passes. -/
theorem neverPasses_iff (record : Record) : NeverPasses record ↔ disqualifier record ≠ none := by
  constructor
  · intro never qualifies
    have alone : ∀ step ∈ [Tally.Step.push record], step.Qualifies := by
      intro step member
      rw [List.mem_singleton.mp member]
      exact qualifies
    have passes := (overall_ofSteps_iff [.push record]).mpr ⟨List.cons_ne_nil _ _, alone⟩
    rw [never [.push record] List.mem_cons_self] at passes
    cases passes
  · intro found steps counted
    cases overall : (Tally.ofSteps steps).finish.overall with
    | notFullyValid => rfl
    | fullyValid =>
      have all := ((overall_ofSteps_iff steps).mp overall).2
      exact False.elim (found (all _ counted))

/-- The verdict on a report is fully valid exactly if the operation did not fail, there are
signatures, and each of them qualifies. -/
theorem overall_ofReport_iff (report : Report) :
    (ofReport report).overall = .fullyValid ↔
      report.failure = none ∧ report.signatures ≠ [] ∧
        ∀ record ∈ report.signatures, disqualifier record = none := by
  have steps := overall_ofSteps_iff (stepsOf report)
  rw [ofReport, steps]
  cases failure : report.failure with
  | some cause => simp [stepsOf, failure, Tally.Step.Qualifies]
  | none => simp [stepsOf, failure, Tally.Step.Qualifies]

theorem ofStatus?_eq_none_iff (status : Signature.Status) :
    Ground.ofStatus? status = none ↔ status = .good := by
  cases status <;> simp [Ground.ofStatus?]

/-- A signature qualifies exactly if it is fully valid and its trust is no conflict of policies. -/
theorem disqualifier_eq_none_iff (record : Record) :
    disqualifier record = none ↔
      record.isFullyValid = true ∧ ¬(record.trust.source = .tofu ∧ record.policy = .bad) := by
  cases finding : Ground.ofStatus? record.status with
  | some ground =>
    have other : record.status ≠ .good := by
      intro good
      rw [(ofStatus?_eq_none_iff _).mpr good] at finding
      cases finding
    simp [disqualifier, finding, Record.isFullyValid, Signature.Status.isGood, other]
  | none =>
    have good := (ofStatus?_eq_none_iff _).mp finding
    simp only [disqualifier, good, Ground.ofStatus?, Record.isFullyValid, Signature.Status.isGood,
      Key.State.isUnusable]
    by_cases conflict : record.trust.source = .tofu ∧ record.policy = .bad
    · cases record.keyState.revoked <;> cases record.keyState.expired <;> simp [conflict]
    · cases record.keyState.revoked <;> cases record.keyState.expired <;>
        cases record.trust.isSufficient <;> simp [conflict]

end Vouch.Verdict
