import Mathlib.Logic.Hydra
import Mathlib.Tactic
import Vouch.Proofs.Keyserver.Batch.Sound

/-!
Every batch comes to an end.

As long as a batch is not over something can happen in it besides a cancellation, and this cannot go
on forever: every step either brings the start of keys forward or leaves less to be done of the work
on one key.
-/

namespace Vouch.Keyserver

inductive Stage.Rest : Stage → Stage → Prop where
  | answer {next job : Job Import.Fate} (rest : Job.Rest next job) :
    Rest (.working next) (.working job)
  | count (fate : Import.Fate) (number : Nat) : Rest (.counted fate number) (.working (.done fate))

theorem Stage.wellFounded_rest : WellFounded Stage.Rest := by
  have counted : ∀ fate number, Acc Stage.Rest (.counted fate number) := by
    intro fate number
    constructor
    intro next rest
    cases rest
  constructor
  intro stage
  cases stage with
  | counted fate number => exact counted fate number
  | working job =>
    induction job using Job.wellFounded_rest.induction with
    | _ job ih =>
      constructor
      intro next rest
      cases rest with
      | answer rest => exact ih _ rest
      | count fate number => exact counted fate number

namespace Batch

variable {plan : Plan} {events : List Event} {event : Event} {batch next : Batch} {position : Nat}

def Event.Advances : Event → Prop
  | .cancel | .die _ => False
  | _ => True

def Onward (next batch : Batch) : Prop :=
  ∃ event : Event, event.Advances ∧ batch.after? event = some next

theorem exists_onward_of_running {worker : Worker} (member : worker ∈ batch.running) :
    ∃ next, Onward next batch := by
  have listed : (batch.worker? worker.position).isSome = true :=
    List.find?_isSome.mpr ⟨worker, member, beq_self_eq_true _⟩
  -- It need not be the given worker that is found at the position, but it can act as well.
  obtain ⟨first, found⟩ := Option.isSome_iff_exists.mp listed
  cases stage : first.stage with
  | counted fate number =>
    exact ⟨_, .report worker.position, trivial, by simp [after?, found, stage]; rfl⟩
  | working job =>
    cases result : job.result? with
    | some fate =>
      cases job <;> cases result
      exact ⟨_, .count worker.position, trivial, by simp [after?, found, stage]; rfl⟩
    | none =>
      obtain ⟨answer, rest, answered⟩ := Job.exists_after? job result
      exact ⟨batch.withStage worker.position (.working rest), .answer worker.position answer,
        trivial, by simp [after?, found, stage, answered]⟩

theorem exists_onward (slots : 0 < batch.plan.slots) (unfinished : batch.isOver = false) :
    ∃ next, Onward next batch := by
  cases running : batch.running with
  | cons worker rest =>
    have member : worker ∈ batch.running := by rw [running]; exact List.mem_cons_self
    exact exists_onward_of_running member
  | nil =>
    have may : batch.mayStart = true := by simpa [isOver, running] using unfinished
    have free : batch.hasSlot = true := by simpa [hasSlot, running] using slots
    have left := (mayStart_iff.mp may).2
    cases phase : batch.phase with
    | due => exact ⟨_, .check, trivial, by rw [after?, if_pos ⟨may, phase⟩]⟩
    | waiting => exact ⟨_, .take, trivial, by rw [after?, if_pos ⟨may, phase, free⟩]⟩
    | holding =>
      exact ⟨_, .start, trivial, by
        rw [after?, List.getElem?_eq_getElem left]
        exact if_pos ⟨may, phase⟩⟩

def Phase.left : Phase → Nat
  | .due => 2
  | .waiting => 1
  | .holding => 0

def toStart (batch : Batch) : Nat :=
  if batch.mayStart then
    3 * (batch.plan.keyIds.length - batch.started) + batch.phase.left
  else 0

def stages (batch : Batch) : Multiset Stage :=
  (batch.running.map Worker.stage : List Stage)

theorem toStart_of_mayStart (may : batch.mayStart = true) :
    batch.toStart = 3 * (batch.plan.keyIds.length - batch.started) + batch.phase.left :=
  if_pos may

theorem toStart_le (batch : Batch) :
    batch.toStart ≤ 3 * (batch.plan.keyIds.length - batch.started) + batch.phase.left := by
  unfold toStart
  split_ifs
  · exact le_rfl
  · exact Nat.zero_le _

theorem toStart_stopped (batch : Batch) : batch.stopped.toStart = 0 := by
  have may : batch.stopped.mayStart = false := rfl
  rw [toStart, may, if_neg Bool.false_ne_true]

theorem toStart_pos (may : batch.mayStart = true) : 0 < batch.toStart := by
  have left := (mayStart_iff.mp may).2
  rw [toStart_of_mayStart may]
  omega

theorem stages_cut_withStage (distinct : (batch.running.map Worker.position).Nodup)
    {worker : Worker} {stage : Stage} (found : batch.worker? position = some worker)
    (rest : Stage.Rest stage worker.stage) :
    Relation.CutExpand Stage.Rest (batch.withStage position stage).stages batch.stages := by
  have before := Multiset.coe_eq_coe.mpr ((running_perm distinct found).map Worker.stage)
  have after :=
    Multiset.coe_eq_coe.mpr ((running_withStage_perm distinct found stage).map Worker.stage)
  refine ⟨{stage}, worker.stage, ?_, ?_⟩
  · intro other listed
    rw [Multiset.mem_singleton.mp listed]
    exact rest
  · rw [stages, stages, before, after, List.map_cons, List.map_cons, ← Multiset.cons_coe,
      ← Multiset.cons_coe, ← Multiset.singleton_add, ← Multiset.singleton_add]
    abel

theorem stages_cut_without (distinct : (batch.running.map Worker.position).Nodup)
    {worker : Worker} (found : batch.worker? position = some worker) :
    Relation.CutExpand Stage.Rest
      ((batch.without position).map Worker.stage : List Stage) batch.stages := by
  have before := Multiset.coe_eq_coe.mpr ((running_perm distinct found).map Worker.stage)
  refine ⟨0, worker.stage, ?_, ?_⟩
  · intro other listed
    cases Multiset.notMem_zero other listed
  · rw [stages, before, List.map_cons, ← Multiset.cons_coe, ← Multiset.singleton_add]
    abel

abbrev Less : Nat × Multiset Stage → Nat × Multiset Stage → Prop :=
  Prod.Lex (· < ·) (Relation.CutExpand Stage.Rest)

theorem less_of_step (distinct : (batch.running.map Worker.position).Nodup)
    (advances : event.Advances) (happens : Step batch event next) :
    Less (next.toStart, next.stages) (batch.toStart, batch.stages) := by
  cases happens with
  | cancel => cases advances
  | checkStop may =>
    apply Prod.Lex.left
    rw [toStart_stopped]
    exact toStart_pos may
  | checkPass may due =>
    apply Prod.Lex.left
    have bound := toStart_le { batch with phase := .waiting }
    rw [toStart_of_mayStart may, due]
    exact lt_of_le_of_lt bound (Nat.add_lt_add_left Nat.one_lt_two _)
  | take may waiting =>
    apply Prod.Lex.left
    have bound := toStart_le { batch with phase := .holding }
    rw [toStart_of_mayStart may, waiting]
    exact lt_of_le_of_lt bound (Nat.add_lt_add_left Nat.zero_lt_one _)
  | startStop may =>
    apply Prod.Lex.left
    rw [toStart_stopped]
    exact toStart_pos may
  | start keyId listed may holding =>
    apply Prod.Lex.left
    have left := (mayStart_iff.mp may).2
    have bound := toStart_le
      { batch with
        started := batch.started + 1
        phase := .due
        running := batch.running ++ [⟨batch.started, .working (batch.plan.work keyId)⟩] }
    rw [toStart_of_mayStart may, holding]
    refine lt_of_le_of_lt bound ?_
    simp only [Phase.left]
    omega
  | answer position answer worker found job rest working answered =>
    apply Prod.Lex.right
    apply stages_cut_withStage distinct found
    rw [working]
    exact .answer (Job.rest_of_after? answered)
  | count position worker found fate ended =>
    apply Prod.Lex.right
    apply stages_cut_withStage distinct found
    rw [ended]
    exact .count fate _
  | report position worker found fate number counted =>
    apply Prod.Lex.right
    exact stages_cut_without distinct found
  | die => cases advances

/-- A batch cannot go on forever in its own course. -/
theorem acc_onward (sound : Sound plan events batch) : Acc Onward batch := by
  have wf : WellFounded Less := WellFounded.prod_lex wellFounded_lt Stage.wellFounded_rest.cutExpand
  -- The induction is on the measure; the account keeps positions distinct on the way.
  generalize measured : (batch.toStart, batch.stages) = size
  induction size using wf.induction generalizing batch events with
  | _ size ih =>
    constructor
    rintro next ⟨event, advances, happens⟩
    have stepped := step_of_after? happens
    have alive : ∀ position, event ≠ .die position := by
      rintro position rfl
      exact advances
    have less := less_of_step sound.distinct advances stepped
    rw [measured] at less
    exact ih _ less (sound.step alive stepped) rfl

end Batch

end Vouch.Keyserver
