import Mathlib.Tactic
import Vouch.Proofs.Verdict.Tally

/-!
The account that a verdict gives of its steps.

A failure of the operation is one reason, a signature that does not qualify is one reason, and
nothing else is.  The reasons stand in the order of the steps.  Signatures are numbered among
themselves, so that failures do not shift their positions.  Unknown signers are named once, in the
order in which they were first met.
-/

namespace Vouch.Verdict

open Key (TrustLevel)
open Signature (Record)

structure Qualified (record : Record) : Prop where
  good : record.status = .good
  unrevoked : record.keyState.revoked = false
  unexpired : record.keyState.expired = false
  trusted : TrustLevel.marginal.rank ≤ record.trust.level.rank
  undisputed : ¬(record.trust.source = .tofu ∧ record.policy = .bad)

theorem qualified_iff (record : Record) : Qualified record ↔ disqualifier record = none := by
  have valid : record.isFullyValid = true ↔
      record.status = .good ∧ (record.keyState.revoked = false ∧ record.keyState.expired = false) ∧
        TrustLevel.marginal.rank ≤ record.trust.level.rank := by
    simp only [Record.isFullyValid, Signature.Status.isGood, Key.State.isUnusable,
      Key.Trust.isSufficient, TrustLevel.isSufficient, Bool.and_eq_true, beq_iff_eq,
      Bool.not_eq_true', Bool.or_eq_false_iff, decide_eq_true_eq, and_assoc]
  rw [disqualifier_eq_none_iff, valid]
  constructor
  · intro qualified
    exact ⟨⟨qualified.good, ⟨qualified.unrevoked, qualified.unexpired⟩, qualified.trusted⟩,
      qualified.undisputed⟩
  · rintro ⟨⟨good, ⟨unrevoked, unexpired⟩, trusted⟩, undisputed⟩
    exact ⟨good, unrevoked, unexpired, trusted, undisputed⟩

def Ground.IsAboutSignature (ground : Ground) : Prop :=
  ground ≠ .noSignatures ∧ ground ≠ .operationFailed

theorem isAboutSignature_of_disqualifier {record : Record} {ground : Ground} {message : String}
    (found : disqualifier record = some (ground, message)) : ground.IsAboutSignature := by
  unfold disqualifier at found
  cases status : record.status <;> simp only [status, Ground.ofStatus?] at found
  case good =>
    split_ifs at found <;> cases found <;> exact ⟨by decide, by decide⟩
  all_goals
    cases found
    exact ⟨by decide, by decide⟩

/-- The signers of the records whose key is missing, as often as they occur. -/
def missingSigners (records : List Record) : List String :=
  (records.filter fun record => record.status == .missingKey).map (·.signer.fingerprint)

namespace Tally

def Step.record? : Step → Option Record
  | .push record => some record
  | .fail _ => none

def recordsOf (steps : List Step) : List Record :=
  steps.filterMap Step.record?

def Step.reason? (seen : Nat) : Step → Option Reason
  | .fail message => some (.general .operationFailed message)
  | .push record =>
    (disqualifier record).map fun (ground, message) => .ofSignature seen record ground message

def reasonsFrom : Nat → List Step → List Reason
  | _, [] => []
  | seen, step :: rest =>
    (step.reason? seen).toList ++ reasonsFrom (seen + step.record?.toList.length) rest

theorem recordsOf_cons (step : Step) (rest : List Step) :
    recordsOf (step :: rest) = step.record?.toList ++ recordsOf rest := by
  cases step <;> rfl

theorem seen_after (tally : Tally) (step : Step) :
    (tally.after step).seen = tally.seen + step.record?.toList.length := by
  cases step with
  | fail message => rfl
  | push record => cases found : disqualifier record <;> simp [after, push, found, Step.record?]

theorem reasons_after (tally : Tally) (step : Step) :
    (tally.after step).reasons = tally.reasons ++ (step.reason? tally.seen).toList := by
  cases step with
  | fail message => rfl
  | push record => cases found : disqualifier record <;> simp [after, push, found, Step.reason?]

theorem unknownSigners_after (tally : Tally) (step : Step) :
    (tally.after step).unknownSigners =
      (missingSigners step.record?.toList).foldl Report.withEntry tally.unknownSigners := by
  cases step with
  | fail message => rfl
  | push record =>
    by_cases missing : record.status = .missingKey <;> cases found : disqualifier record <;>
      simp [after, push, found, missing, missingSigners, Step.record?]

theorem reasons_foldl (steps : List Step) (tally : Tally) :
    (steps.foldl after tally).reasons = tally.reasons ++ reasonsFrom tally.seen steps := by
  induction steps generalizing tally with
  | nil => exact (List.append_nil _).symm
  | cons step rest ih =>
    rw [List.foldl_cons, ih, reasons_after, seen_after, List.append_assoc]
    rfl

/-- To enter a name unless it is there is to leave later repetitions of it out. -/
theorem withEntry_eraseDups (names : List String) (name : String) :
    Report.withEntry names.eraseDups name = (names ++ [name]).eraseDups := by
  rw [List.eraseDups_append, Report.withEntry]
  by_cases listed : name ∈ names
  · simp [listed, List.removeAll]
  · simp [listed, List.removeAll, List.eraseDups_cons]

theorem foldl_withEntry (later names : List String) :
    later.foldl Report.withEntry names.eraseDups = (names ++ later).eraseDups := by
  induction later generalizing names with
  | nil => rw [List.append_nil]; rfl
  | cons name rest ih =>
    rw [List.foldl_cons, withEntry_eraseDups, ih, List.append_assoc]
    rfl

theorem unknownSigners_foldl (steps : List Step) (tally : Tally) :
    (steps.foldl after tally).unknownSigners =
      (missingSigners (recordsOf steps)).foldl Report.withEntry tally.unknownSigners := by
  induction steps generalizing tally with
  | nil => rfl
  | cons step rest ih =>
    rw [List.foldl_cons, ih, unknownSigners_after, recordsOf_cons, missingSigners, missingSigners,
      missingSigners, List.filter_append, List.map_append, List.foldl_append]

/-- The reasons account for the steps, after so many signatures.  They stand in the order of the
steps. -/
inductive Accounts : Nat → List Step → List Reason → Prop where
  | nil (seen : Nat) : Accounts seen [] []
  /-- A failure is a reason about no signature, and takes no position among the signatures. -/
  | fail {seen : Nat} {rest : List Step} {reasons : List Reason} (message : String)
    (later : Accounts seen rest reasons) :
    Accounts seen (.fail message :: rest)
      ({ index := none
         fingerprint := none
         ground := .operationFailed
         message := message
         hint := "Check the input data and verify again" } :: reasons)
  | qualified {seen : Nat} {rest : List Step} {reasons : List Reason} {record : Record}
    (qualified : Qualified record) (later : Accounts (seen + 1) rest reasons) :
    Accounts seen (.push record :: rest) reasons
  /-- Any other signature is one reason, which names its signer and its position. -/
  | disqualified {seen : Nat} {rest : List Step} {reasons : List Reason} {record : Record}
    {ground : Ground} {message : String} (flawed : ¬Qualified record)
    (found : disqualifier record = some (ground, message)) (about : ground.IsAboutSignature)
    (later : Accounts (seen + 1) rest reasons) :
    Accounts seen (.push record :: rest)
      ({ index := some seen
         fingerprint := some record.signer.fingerprint
         ground := ground
         message := message
         hint := ground.hint } :: reasons)

theorem accounts_reasonsFrom (seen : Nat) (steps : List Step) :
    Accounts seen steps (reasonsFrom seen steps) := by
  induction steps generalizing seen with
  | nil => exact .nil seen
  | cons step rest ih =>
    cases step with
    | fail message => exact .fail message (ih seen)
    | push record =>
      cases found : disqualifier record with
      | none =>
        have account := Accounts.qualified ((qualified_iff record).mpr found) (ih (seen + 1))
        simpa [reasonsFrom, Step.reason?, Step.record?, found] using account
      | some finding =>
        have flawed : ¬Qualified record := by
          rw [qualified_iff, found]
          exact Option.some_ne_none finding
        have account := Accounts.disqualified flawed found
          (isAboutSignature_of_disqualifier found) (ih (seen + 1))
        simpa [reasonsFrom, Step.reason?, Step.record?, found, Reason.ofSignature] using account

/-- Signatures were counted, nothing failed, and all signatures qualify. -/
structure Faultless (steps : List Step) : Prop where
  counted : recordsOf steps ≠ []
  unfailed : ∀ message, Step.fail message ∉ steps
  qualified : ∀ record ∈ recordsOf steps, Qualified record

theorem mem_recordsOf_iff {steps : List Step} {record : Record} :
    record ∈ recordsOf steps ↔ Step.push record ∈ steps := by
  constructor
  · intro member
    obtain ⟨step, listed, is_record⟩ := List.mem_filterMap.mp member
    cases step <;> cases is_record
    exact listed
  · intro listed
    exact List.mem_filterMap.mpr ⟨_, listed, rfl⟩

theorem faultless_iff (steps : List Step) :
    Faultless steps ↔ steps ≠ [] ∧ ∀ step ∈ steps, step.Qualifies := by
  constructor
  · intro faultless
    refine ⟨?_, ?_⟩
    · rintro rfl
      exact faultless.counted rfl
    · intro step listed
      cases step with
      | fail message => exact absurd listed (faultless.unfailed message)
      | push record =>
        exact (qualified_iff record).mp (faultless.qualified record (mem_recordsOf_iff.mpr listed))
  · rintro ⟨stepped, qualifies⟩
    have unfailed : ∀ message, Step.fail message ∉ steps := fun message listed =>
      qualifies _ listed
    refine ⟨?_, unfailed, ?_⟩
    · cases steps with
      | nil => exact absurd rfl stepped
      | cons step rest =>
        cases step with
        | fail message => exact absurd List.mem_cons_self (unfailed message)
        | push record => exact List.cons_ne_nil _ _
    · intro record member
      exact (qualified_iff record).mpr (qualifies _ (mem_recordsOf_iff.mp member))

theorem stage_ofSteps_eq_pending_iff (steps : List Step) :
    (ofSteps steps).stage = .pending ↔ steps = [] := by
  have pending_iff := stage_foldl_eq_pending_iff steps start
  rw [ofSteps, pending_iff]
  exact and_iff_right rfl

theorem stage_ofSteps_eq_valid_iff_faultless (steps : List Step) :
    (ofSteps steps).stage = .valid ↔ Faultless steps := by
  rw [stage_ofSteps_eq_valid_iff, faultless_iff]

theorem stage_ofSteps_eq_notFullyValid_iff (steps : List Step) :
    (ofSteps steps).stage = .notFullyValid ↔ steps ≠ [] ∧ ¬Faultless steps := by
  rw [ne_eq, ← stage_ofSteps_eq_pending_iff, ← stage_ofSteps_eq_valid_iff_faultless]
  cases (ofSteps steps).stage <;> simp

/-- What is said of the lack of anything to count. -/
def absence (steps : List Step) : List Reason :=
  if steps = [] then
    [{ index := none
       fingerprint := none
       ground := .noSignatures
       message := "Could not find information that can be used for verification"
       hint := "Make sure the input actually carries a signature" }]
  else []

theorem reasons_finish_ofSteps (steps : List Step) :
    (ofSteps steps).finish.reasons = reasonsFrom 0 steps ++ absence steps := by
  have told : (ofSteps steps).reasons = reasonsFrom 0 steps := reasons_foldl steps start
  have pending_iff := stage_ofSteps_eq_pending_iff steps
  by_cases unstepped : steps = []
  · rw [finish, pending_iff.mpr unstepped, absence, if_pos unstepped, ← told]
    rfl
  · rw [absence, if_neg unstepped, List.append_nil, ← told]
    cases stage : (ofSteps steps).stage with
    | pending => exact absurd (pending_iff.mp stage) unstepped
    | valid => rw [finish, stage]
    | notFullyValid => rw [finish, stage]

theorem unknownSigners_finish_ofSteps (steps : List Step) :
    (ofSteps steps).finish.unknownSigners = (missingSigners (recordsOf steps)).eraseDups := by
  have kept : (ofSteps steps).finish.unknownSigners = (ofSteps steps).unknownSigners := by
    cases stage : (ofSteps steps).stage <;> rw [finish, stage]
  have first := foldl_withEntry (missingSigners (recordsOf steps)) []
  rw [kept, ofSteps, unknownSigners_foldl]
  exact first

theorem reasonsFrom_eq_nil_iff (seen : Nat) (steps : List Step) :
    reasonsFrom seen steps = [] ↔ ∀ step ∈ steps, step.Qualifies := by
  induction steps generalizing seen with
  | nil => simp [reasonsFrom]
  | cons step rest ih =>
    rw [reasonsFrom, List.append_eq_nil_iff, ih, List.forall_mem_cons]
    cases step with
    | fail message => simp [Step.reason?, Step.Qualifies]
    | push record => simp [Step.reason?, Step.Qualifies]

/-- A verdict is fully valid exactly if it has no reasons. -/
theorem overall_finish_ofSteps_iff (steps : List Step) :
    (ofSteps steps).finish.overall = .fullyValid ↔ (ofSteps steps).finish.reasons = [] := by
  rw [overall_ofSteps_iff, reasons_finish_ofSteps, List.append_eq_nil_iff, reasonsFrom_eq_nil_iff,
    and_comm]
  refine and_congr_right fun _ => ?_
  by_cases unstepped : steps = [] <;> simp [absence, unstepped]

/-- The tally keeps to its specification, whatever the steps are and in whatever order they come.
After the first of them it is pending, valid or not fully valid as they say; at the end there is one
reason for every failure and for every signature that does not qualify, and one if nothing was
counted; a verdict without reasons is fully valid, and no other; and unknown signers are named once,
in the order in which they were first met. -/
theorem account_ofSteps (steps : List Step) :
    (∀ n,
      ((ofSteps (steps.take n)).stage = .pending ↔ steps.take n = []) ∧
      ((ofSteps (steps.take n)).stage = .valid ↔ Faultless (steps.take n)) ∧
      ((ofSteps (steps.take n)).stage = .notFullyValid ↔
        steps.take n ≠ [] ∧ ¬Faultless (steps.take n))) ∧
    (∃ told, Accounts 0 steps told ∧ (ofSteps steps).finish.reasons = told ++ absence steps) ∧
    ((ofSteps steps).finish.overall = .fullyValid ↔ (ofSteps steps).finish.reasons = []) ∧
    (ofSteps steps).finish.unknownSigners = (missingSigners (recordsOf steps)).eraseDups := by
  refine ⟨?_, ?_, overall_finish_ofSteps_iff steps, unknownSigners_finish_ofSteps steps⟩
  · intro n
    exact ⟨stage_ofSteps_eq_pending_iff _, stage_ofSteps_eq_valid_iff_faultless _,
      stage_ofSteps_eq_notFullyValid_iff _⟩
  · exact ⟨reasonsFrom 0 steps, accounts_reasonsFrom 0 steps, reasons_finish_ofSteps steps⟩

theorem index_ge_of_mem_reasonsFrom {seen : Nat} {steps : List Step} {reason : Reason}
    (member : reason ∈ reasonsFrom seen steps) {index : Nat} (indexed : reason.index = some index) :
    seen ≤ index := by
  induction steps generalizing seen with
  | nil => cases member
  | cons step rest ih =>
    obtain first | later := List.mem_append.mp member
    · cases step with
      | fail message =>
        cases List.mem_singleton.mp first
        cases indexed
      | push record =>
        obtain ⟨finding, _, rfl⟩ := Option.map_eq_some_iff.mp (Option.mem_toList.mp first)
        cases indexed
        exact le_rfl
    · exact (Nat.le_add_right _ _).trans (ih later)

/-- The reasons about a signature are the reason that counting it gives. -/
theorem filter_index_reasonsFrom (seen position : Nat) (steps : List Step) :
    (reasonsFrom seen steps).filter (fun reason => reason.index == some (seen + position)) =
      ((recordsOf steps)[position]?.bind fun record =>
        Step.reason? (seen + position) (.push record)).toList := by
  induction steps generalizing seen position with
  | nil => rfl
  | cons step rest ih =>
    rw [reasonsFrom, recordsOf_cons, List.filter_append]
    cases step with
    | fail message => exact ih seen position
    | push record =>
      cases position with
      | zero =>
        have first : (Step.reason? seen (.push record)).toList.filter
            (fun reason => reason.index == some (seen + 0)) =
              (Step.reason? seen (.push record)).toList := by
          cases found : disqualifier record <;> simp [Step.reason?, found, Reason.ofSignature]
        have others : (reasonsFrom (seen + 1) rest).filter
            (fun reason => reason.index == some (seen + 0)) = [] := by
          apply List.filter_eq_nil_iff.mpr
          intro reason member same
          have later := index_ge_of_mem_reasonsFrom member (beq_iff_eq.mp same)
          omega
        exact (congrArg₂ (· ++ ·) first others).trans (List.append_nil _)
      | succ position =>
        have first : (Step.reason? seen (.push record)).toList.filter
            (fun reason => reason.index == some (seen + (position + 1))) = [] := by
          cases found : disqualifier record <;> simp [Step.reason?, found, Reason.ofSignature]
        have others := ih (seen + 1) position
        rw [Nat.add_right_comm seen 1 position] at others
        exact congrArg₂ (· ++ ·) first others

end Tally

def reasonsAt (verdict : Verdict) (position : Nat) : List Reason :=
  verdict.reasons.filter fun reason => reason.index == some position

theorem recordsOf_stepsOf (report : Report) :
    Tally.recordsOf (stepsOf report) = report.signatures := by
  have pushed : ∀ records : List Record, Tally.recordsOf (records.map .push) = records := by
    intro records
    rw [Tally.recordsOf, List.filterMap_map]
    exact List.filterMap_some
  rw [stepsOf, Tally.recordsOf, List.filterMap_append]
  cases report.failure with
  | none => exact pushed report.signatures
  | some failure => exact pushed report.signatures

/-- A verdict on a report has one reason about a signature that does not qualify, and none about any
other. -/
theorem reasonsAt_ofReport (report : Report) (position : Nat) :
    (ofReport report).reasonsAt position =
      (report.signatures[position]?.bind fun record =>
        Tally.Step.reason? position (.push record)).toList := by
  have about := Tally.filter_index_reasonsFrom 0 position (stepsOf report)
  have absent : (Tally.absence (stepsOf report)).filter
      (fun reason => reason.index == some position) = [] := by
    unfold Tally.absence
    split_ifs <;> rfl
  rw [Nat.zero_add, recordsOf_stepsOf] at about
  rw [reasonsAt, ofReport, Tally.reasons_finish_ofSteps, List.filter_append, absent,
    List.append_nil, about]

end Vouch.Verdict
