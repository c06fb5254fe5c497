import Mathlib.Tactic
import Vouch.Keyserver.Batch
import Vouch.Proofs.Keyserver.Job

/-!
Steps and runs of a batch.

An event changes a batch in one of ten ways.  What all of them preserve holds at the end of every
run; in particular no start of a key is taken back, and none follows once a look has found the batch
cancelled.  A worker changes without the others as long as no two of them have one position.
-/

namespace Vouch.Keyserver

def Stage.job : Stage → Job Import.Fate
  | .working job => job
  | .counted fate _ => .done fate

namespace Batch

/-- All that can happen to a batch, with the conditions under which it can. -/
inductive Step (batch : Batch) : Event → Batch → Prop where
  | cancel : Step batch .cancel { batch with cancelRequested := true }
  | checkStop (may : batch.mayStart = true) (due : batch.phase = .due)
    (asked : batch.cancelRequested = true) : Step batch .check batch.stopped
  | checkPass (may : batch.mayStart = true) (due : batch.phase = .due)
    (unasked : batch.cancelRequested = false) : Step batch .check { batch with phase := .waiting }
  | take (may : batch.mayStart = true) (waiting : batch.phase = .waiting)
    (free : batch.hasSlot = true) : Step batch .take { batch with phase := .holding }
  | startStop (may : batch.mayStart = true) (holding : batch.phase = .holding)
    (asked : batch.cancelRequested = true) : Step batch .start batch.stopped
  | start (keyId : String) (listed : batch.plan.keyIds[batch.started]? = some keyId)
    (may : batch.mayStart = true) (holding : batch.phase = .holding)
    (unasked : batch.cancelRequested = false) :
    Step batch .start
      { batch with
        started := batch.started + 1
        phase := .due
        running := batch.running ++ [⟨batch.started, .working (batch.plan.work keyId)⟩] }
  | answer (position : Nat) (answer : Job.Answer) (worker : Worker)
    (found : batch.worker? position = some worker) (job next : Job Import.Fate)
    (working : worker.stage = .working job) (answered : job.after? answer = some next) :
    Step batch (.answer position answer) (batch.withStage position (.working next))
  | count (position : Nat) (worker : Worker) (found : batch.worker? position = some worker)
    (fate : Import.Fate) (ended : worker.stage = .working (.done fate)) :
    Step batch (.count position)
      { batch.withStage position (.counted fate (batch.finished + 1)) with
        finished := batch.finished + 1 }
  | report (position : Nat) (worker : Worker) (found : batch.worker? position = some worker)
    (fate : Import.Fate) (number : Nat) (counted : worker.stage = .counted fate number) :
    Step batch (.report position)
      { batch with
        running := batch.without position
        settled := (position, fate) :: batch.settled
        reports := ⟨number, batch.total⟩ :: batch.reports }
  | die (position : Nat) (worker : Worker) (found : batch.worker? position = some worker) :
    Step batch (.die position) { batch with running := batch.without position }

theorem step_of_after? {batch next : Batch} {event : Event}
    (happens : batch.after? event = some next) : Step batch event next := by
  cases event with
  | cancel =>
    cases happens
    exact .cancel
  | check =>
    rw [after?] at happens
    split_ifs at happens with ready asked
    · cases happens
      exact .checkStop ready.1 ready.2 asked
    · cases happens
      exact .checkPass ready.1 ready.2 (Bool.eq_false_iff.mpr asked)
  | take =>
    rw [after?] at happens
    split_ifs at happens with ready
    cases happens
    exact .take ready.1 ready.2.1 ready.2.2
  | start =>
    rw [after?] at happens
    split at happens
    case h_2 => cases happens
    case h_1 keyId listed =>
      split_ifs at happens with ready asked
      · cases happens
        exact .startStop ready.1 ready.2 asked
      · cases happens
        exact .start keyId listed ready.1 ready.2 (Bool.eq_false_iff.mpr asked)
  | answer position answer =>
    obtain ⟨worker, found, happens⟩ := Option.bind_eq_some_iff.mp happens
    split at happens
    case h_2 => cases happens
    case h_1 job working =>
      obtain ⟨next, answered, happens⟩ := Option.bind_eq_some_iff.mp happens
      cases happens
      exact .answer position answer worker found job next working answered
  | count position =>
    obtain ⟨worker, found, happens⟩ := Option.bind_eq_some_iff.mp happens
    split at happens
    case h_2 => cases happens
    case h_1 fate ended =>
      cases happens
      exact .count position worker found fate ended
  | report position =>
    obtain ⟨worker, found, happens⟩ := Option.bind_eq_some_iff.mp happens
    split at happens
    case h_2 => cases happens
    case h_1 fate number counted =>
      cases happens
      exact .report position worker found fate number counted
  | die position =>
    obtain ⟨worker, found, happens⟩ := Option.bind_eq_some_iff.mp happens
    cases happens
    exact .die position worker found

theorem run?_append (batch : Batch) (first second : List Event) :
    batch.run? (first ++ second) = (batch.run? first).bind (·.run? second) := by
  induction first generalizing batch with
  | nil => rfl
  | cons event rest ih =>
    rw [List.cons_append, run?, run?]
    cases batch.after? event with
    | none => rfl
    | some next => exact ih next

theorem run?_concat {batch next last : Batch} {events : List Event} {event : Event}
    (ran : batch.run? events = some next) (happens : next.after? event = some last) :
    batch.run? (events ++ [event]) = some last := by
  rw [run?_append, ran, Option.bind_some, run?, happens]
  rfl

theorem exists_of_run?_concat {batch last : Batch} {events : List Event} {event : Event}
    (ran : batch.run? (events ++ [event]) = some last) :
    ∃ mid, batch.run? events = some mid ∧ Step mid event last := by
  rw [run?_append] at ran
  obtain ⟨mid, before, ran⟩ := Option.bind_eq_some_iff.mp ran
  rw [run?] at ran
  obtain ⟨next, happens, ran⟩ := Option.bind_eq_some_iff.mp ran
  cases ran
  exact ⟨mid, before, step_of_after? happens⟩

theorem invariant_of_run? (holds : Batch → Prop)
    (preserved : ∀ batch event next, Step batch event next → holds batch → holds next)
    {batch last : Batch} {events : List Event} (ran : batch.run? events = some last)
    (at_start : holds batch) : holds last := by
  induction events generalizing batch with
  | nil =>
    cases ran
    exact at_start
  | cons event rest ih =>
    rw [run?] at ran
    obtain ⟨next, happens, ran⟩ := Option.bind_eq_some_iff.mp ran
    exact ih ran (preserved batch event next (step_of_after? happens) at_start)

/-- What every step takes from the events before it to those with it holds at the end of every run. -/
theorem history_of_run? {start batch : Batch} {events : List Event}
    (holds : List Event → Batch → Prop) (at_start : holds [] start)
    (preserved : ∀ before event mid next, start.run? before = some mid → Step mid event next →
      holds before mid → holds (before ++ [event]) next)
    (ran : start.run? events = some batch) : holds events batch := by
  -- The property speaks of all events so far, so the induction is on the end of the run.
  induction events using List.reverseRecOn generalizing batch with
  | nil =>
    cases ran
    exact at_start
  | append_singleton before event ih =>
    obtain ⟨mid, ran, happens⟩ := exists_of_run?_concat ran
    exact preserved before event mid batch ran happens (ih ran)

theorem mayStart_iff {batch : Batch} :
    batch.mayStart = true ↔
      batch.cancelled = false ∧ batch.started < batch.plan.keyIds.length := by
  rw [mayStart, Bool.and_eq_true, Bool.not_eq_true', decide_eq_true_iff]
  rfl

/-- Keys that were started stay started. -/
theorem started_le_of_run? {batch last : Batch} {events : List Event}
    (ran : batch.run? events = some last) : batch.started ≤ last.started := by
  refine invariant_of_run? (fun other => batch.started ≤ other.started) ?_ ran le_rfl
  intro mid event next happens reached
  cases happens with
  | start => exact Nat.le_succ_of_le reached
  | _ => exact reached

theorem started_eq_of_cancelled {batch last : Batch} {events : List Event}
    (ran : batch.run? events = some last) (cancelled : batch.cancelled = true) :
    last.started = batch.started := by
  have kept : last.cancelled = true ∧ last.started = batch.started := by
    refine invariant_of_run?
      (fun other => other.cancelled = true ∧ other.started = batch.started) ?_ ran
      ⟨cancelled, rfl⟩
    intro mid event next happens found
    cases happens with
    | start keyId listed may =>
      rw [(mayStart_iff.mp may).1] at found
      cases found.1
    | checkStop => exact ⟨rfl, found.2⟩
    | startStop => exact ⟨rfl, found.2⟩
    | _ => exact found
  exact kept.2

theorem cancel_mem_of_cancelled {plan : Plan} {events : List Event} {batch : Batch}
    (ran : (initial plan false).run? events = some batch) (cancelled : batch.cancelled = true) :
    .cancel ∈ events := by
  have asked : batch.cancelRequested = true ∨ batch.cancelled = true → .cancel ∈ events := by
    refine history_of_run? (fun events other =>
      other.cancelRequested = true ∨ other.cancelled = true → .cancel ∈ events) ?_ ?_ ran
    · rintro (asked | found)
      · cases asked
      · cases found
    · intro before event mid next _ happens known holds
      cases happens with
      | cancel => exact List.mem_concat_self
      | checkStop _ _ asked => exact List.mem_append_left _ (known (.inl asked))
      | startStop _ _ asked => exact List.mem_append_left _ (known (.inl asked))
      | _ => exact List.mem_append_left _ (known holds)
  exact asked (.inr cancelled)

/-- A batch cannot begin exactly if it would have too many slots. -/
theorem ofPlan?_eq_none_iff {plan : Plan} {cancelRequested : Bool} :
    ofPlan? plan cancelRequested = none ↔ greatestSlots < plan.slots := by
  rw [ofPlan?, ite_eq_right_iff, ← not_le]
  simp

section Workers

variable {batch : Batch} {position : Nat} {worker : Worker}

theorem position_of_worker? (found : batch.worker? position = some worker) :
    worker.position = position := by
  have matches_position := List.find?_some found
  exact beq_iff_eq.mp matches_position

theorem mem_running_of_worker? (found : batch.worker? position = some worker) :
    worker ∈ batch.running :=
  List.mem_of_find?_eq_some found

theorem mem_without_iff : worker ∈ batch.without position ↔
    worker ∈ batch.running ∧ worker.position ≠ position := by
  simp [without]

/-- A worker can be taken out of those that run. -/
theorem running_perm (distinct : (batch.running.map Worker.position).Nodup)
    (found : batch.worker? position = some worker) :
    batch.running.Perm (worker :: batch.without position) := by
  have here := position_of_worker? found
  have member := mem_running_of_worker? found
  unfold without
  generalize batch.running = running at distinct member
  induction running with
  | nil => cases member
  | cons first rest ih =>
    obtain ⟨fresh, distinct⟩ := List.nodup_cons.mp distinct
    obtain rfl | inside := List.mem_cons.mp member
    · have others : rest.filter (fun other => other.position != position) = rest := by
        apply List.filter_eq_self.mpr
        intro other listed
        rw [bne_iff_ne, ← here]
        intro same
        exact fresh (same ▸ List.mem_map_of_mem listed)
      rw [List.filter_cons_of_neg (by simp [here]), others]
    · have differs : first.position ≠ position := by
        rw [← here]
        intro same
        exact fresh (same ▸ List.mem_map_of_mem inside)
      rw [List.filter_cons_of_pos (by simp [differs])]
      exact ((ih distinct inside).cons first).trans (List.Perm.swap ..)

/-- A change of one worker's stage leaves all others alone. -/
theorem running_withStage_perm (distinct : (batch.running.map Worker.position).Nodup)
    (found : batch.worker? position = some worker) (stage : Stage) :
    (batch.withStage position stage).running.Perm (⟨position, stage⟩ :: batch.without position) := by
  have here := position_of_worker? found
  have apart := (running_perm distinct found).map fun worker =>
    if worker.position = position then { worker with stage } else worker
  have others : (batch.without position).map (fun worker =>
      if worker.position = position then { worker with stage } else worker) =
        batch.without position := by
    have kept : ∀ other ∈ batch.without position,
        (if other.position = position then { other with stage } else other) = id other := by
      intro other listed
      exact if_neg (mem_without_iff.mp listed).2
    rw [List.map_congr_left kept, List.map_id]
  rw [List.map_cons, others, if_pos here, here] at apart
  exact apart

theorem positions_withStage (stage : Stage) :
    (batch.withStage position stage).running.map Worker.position =
      batch.running.map Worker.position := by
  rw [withStage, List.map_map]
  apply List.map_congr_left
  intro worker _
  rw [Function.comp_apply]
  split_ifs <;> rfl

end Workers

end Batch

end Vouch.Keyserver
