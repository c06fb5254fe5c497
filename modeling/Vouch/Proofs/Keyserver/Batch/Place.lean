import Mathlib.Tactic
import Vouch.Proofs.Keyserver.Batch.Sound

/-!
How the work on one key of a batch stands.

What a batch knows about one position is changed only by the events of this position and by the start
of its key, so it can be followed alone, whatever happens to the other keys.  Work that breaks off is
followed as well.
-/

namespace Vouch.Keyserver.Batch

variable {plan : Plan} {events : List Event} {event : Event} {batch next : Batch}
  {position other : Nat}

/-- A change of stage changes the worker that is found, if it is that one. -/
theorem worker?_withStage (batch : Batch) (position other : Nat) (stage : Stage) :
    (batch.withStage other stage).worker? position =
      (batch.worker? position).map fun worker =>
        if worker.position = other then { worker with stage } else worker := by
  unfold worker?
  rw [withStage, List.find?_map]
  congr 2
  funext worker
  rw [Function.comp_apply]
  split_ifs <;> rfl

theorem worker?_withStage_self {worker : Worker} (found : batch.worker? position = some worker)
    (stage : Stage) :
    (batch.withStage position stage).worker? position = some ⟨position, stage⟩ := by
  have here := position_of_worker? found
  rw [worker?_withStage, found, Option.map_some, if_pos here, here]

theorem worker?_withStage_of_ne (differs : position ≠ other) (stage : Stage) :
    (batch.withStage other stage).worker? position = batch.worker? position := by
  rw [worker?_withStage]
  cases found : batch.worker? position with
  | none => rfl
  | some worker =>
    rw [Option.map_some, if_neg]
    rw [position_of_worker? found]
    exact differs

theorem find?_without_self :
    (batch.without position).find? (fun worker => worker.position == position) = none := by
  rw [List.find?_eq_none]
  intro worker member
  rw [beq_iff_eq]
  exact (mem_without_iff.mp member).2

theorem find?_without_of_ne (differs : position ≠ other) :
    (batch.without other).find? (fun worker => worker.position == position) =
      batch.worker? position := by
  unfold without worker?
  rw [List.find?_filter]
  congr 1
  funext worker
  by_cases here : worker.position = position
  · simp [here, differs]
  · simp [here]

inductive Standing (plan : Plan) (events : List Event) (batch : Batch) (position : Nat) : Prop where
  | untried (untried : batch.started ≤ position) (idle : batch.worker? position = none)
    (unsettled : batch.settled.lookup position = none)
    (unanswered : answersTo position events = []) (alive : Event.die position ∉ events)
  | worked (tried : position < batch.started) (worker : Worker)
    (found : batch.worker? position = some worker)
    (unsettled : batch.settled.lookup position = none)
    (reached : Reached plan events position worker.stage.job) (alive : Event.die position ∉ events)
  | settled (tried : position < batch.started) (idle : batch.worker? position = none)
    (fate : Import.Fate) (listed : batch.settled.lookup position = some fate)
    (reached : Reached plan events position (.done fate)) (alive : Event.die position ∉ events)
  | dead (tried : position < batch.started) (idle : batch.worker? position = none)
    (unsettled : batch.settled.lookup position = none) (died : Event.die position ∈ events)

theorem die_not_mem_concat (alive : Event.die position ∉ events)
    (spared : event ≠ .die position) : Event.die position ∉ events ++ [event] := by
  rw [List.mem_append, List.mem_singleton, not_or]
  exact ⟨alive, spared.symm⟩

namespace Standing

theorem initial (plan : Plan) (cancelRequested : Bool) (position : Nat) :
    Standing plan [] (initial plan cancelRequested) position :=
  .untried (Nat.zero_le _) rfl rfl rfl List.not_mem_nil

/-- An event that is about other positions leaves the standing as it is. -/
theorem kept (standing : Standing plan events batch position)
    (silent : event.answerTo? position = none) (spared : event ≠ .die position)
    (started : next.started ≤ position ↔ batch.started ≤ position)
    (worker : next.worker? position = batch.worker? position)
    (settled : next.settled.lookup position = batch.settled.lookup position) :
    Standing plan (events ++ [event]) next position := by
  have begun (tried : position < batch.started) : position < next.started := by
    rw [← not_le, started, not_le]
    exact tried
  cases standing with
  | untried untried idle unsettled unanswered alive =>
    refine .untried (started.mpr untried) (worker.trans idle) (settled.trans unsettled) ?_
      (die_not_mem_concat alive spared)
    rw [answersTo_concat_of_none silent, unanswered]
  | worked tried active found unsettled reached alive =>
    exact .worked (begun tried) active (worker.trans found) (settled.trans unsettled)
      (reached_concat_of_none reached silent) (die_not_mem_concat alive spared)
  | settled tried idle fate listed reached alive =>
    exact .settled (begun tried) (worker.trans idle) fate (settled.trans listed)
      (reached_concat_of_none reached silent) (die_not_mem_concat alive spared)
  | dead tried idle unsettled died =>
    exact .dead (begun tried) (worker.trans idle) (settled.trans unsettled)
      (List.mem_append_left _ died)

/-- A key that is being worked on was started and is not settled, and its work has come as far as its
own answers take it. -/
theorem of_worker? (standing : Standing plan events batch position) {worker : Worker}
    (found : batch.worker? position = some worker) :
    position < batch.started ∧ batch.settled.lookup position = none ∧
      Reached plan events position worker.stage.job ∧ Event.die position ∉ events := by
  cases standing with
  | untried _ idle => cases idle.symm.trans found
  | worked tried active same unsettled reached alive =>
    cases same.symm.trans found
    exact ⟨tried, unsettled, reached, alive⟩
  | settled _ idle => cases idle.symm.trans found
  | dead _ idle => cases idle.symm.trans found

theorem begun (standing : Standing plan events batch batch.started) (same_plan : batch.plan = plan)
    {keyId : String} (listed : batch.plan.keyIds[batch.started]? = some keyId) :
    Standing plan (events ++ [.start])
      { batch with
        started := batch.started + 1
        phase := .due
        running := batch.running ++ [⟨batch.started, .working (batch.plan.work keyId)⟩] }
      batch.started := by
  have fresh : batch.worker? batch.started = none ∧ batch.settled.lookup batch.started = none ∧
      answersTo batch.started events = [] ∧ Event.die batch.started ∉ events := by
    cases standing with
    | untried _ idle unsettled unanswered alive => exact ⟨idle, unsettled, unanswered, alive⟩
    | worked tried => exact absurd tried (lt_irrefl _)
    | settled tried => exact absurd tried (lt_irrefl _)
    | dead tried => exact absurd tried (lt_irrefl _)
  obtain ⟨idle, unsettled, unanswered, alive⟩ := fresh
  subst same_plan
  refine .worked (Nat.lt_succ_self _) ⟨batch.started, .working (batch.plan.work keyId)⟩ ?_ unsettled
    ⟨keyId, listed, ?_⟩ (die_not_mem_concat alive Event.noConfusion)
  · unfold worker? at idle ⊢
    rw [List.find?_append, idle, Option.none_or]
    exact List.find?_cons_of_pos (beq_self_eq_true batch.started)
  · rw [answersTo_concat_of_none rfl, unanswered]
    rfl

/-- The standing is followed through every event. -/
theorem step (standing : ∀ position, Standing plan events batch position)
    (same_plan : batch.plan = plan) (happens : Step batch event next) (position : Nat) :
    Standing plan (events ++ [event]) next position := by
  have here := standing position
  cases happens with
  | cancel => exact here.kept rfl Event.noConfusion Iff.rfl rfl rfl
  | checkStop => exact here.kept rfl Event.noConfusion Iff.rfl rfl rfl
  | checkPass => exact here.kept rfl Event.noConfusion Iff.rfl rfl rfl
  | take => exact here.kept rfl Event.noConfusion Iff.rfl rfl rfl
  | startStop => exact here.kept rfl Event.noConfusion Iff.rfl rfl rfl
  | start keyId listed may =>
    by_cases first : position = batch.started
    · subst first
      exact here.begun same_plan listed
    · refine here.kept rfl Event.noConfusion ?_ ?_ rfl
      · change batch.started + 1 ≤ position ↔ batch.started ≤ position
        omega
      · unfold worker?
        rw [List.find?_append, List.find?_cons_of_neg, List.find?_nil, Option.or_none]
        rw [beq_iff_eq]
        exact fun same => first same.symm
  | answer own answer worker found job rest working answered =>
    by_cases same : position = own
    · subst same
      obtain ⟨tried, unsettled, reached, alive⟩ := here.of_worker? found
      rw [working] at reached
      exact .worked tried ⟨position, .working rest⟩ (worker?_withStage_self found _) unsettled
        (reached_concat_answer reached answered) (die_not_mem_concat alive Event.noConfusion)
    · exact here.kept (if_neg fun other => same other.symm) Event.noConfusion Iff.rfl
        (worker?_withStage_of_ne same _) rfl
  | count own worker found fate ended =>
    by_cases same : position = own
    · subst same
      obtain ⟨tried, unsettled, reached, alive⟩ := here.of_worker? found
      rw [ended] at reached
      exact .worked tried ⟨position, .counted fate (batch.finished + 1)⟩
        (worker?_withStage_self found _) unsettled (reached_concat_of_none reached rfl)
        (die_not_mem_concat alive Event.noConfusion)
    · exact here.kept rfl Event.noConfusion Iff.rfl (worker?_withStage_of_ne same _) rfl
  | report own worker found fate number counted =>
    by_cases same : position = own
    · subst same
      obtain ⟨tried, _, reached, alive⟩ := here.of_worker? found
      rw [counted] at reached
      exact .settled tried find?_without_self fate List.lookup_cons_self
        (reached_concat_of_none reached rfl) (die_not_mem_concat alive Event.noConfusion)
    · refine here.kept rfl Event.noConfusion Iff.rfl (find?_without_of_ne same) ?_
      rw [List.lookup_cons, beq_eq_false_iff_ne.mpr same]
  | die own worker found =>
    by_cases same : position = own
    · subst same
      obtain ⟨tried, unsettled, _, _⟩ := here.of_worker? found
      exact .dead tried find?_without_self unsettled
        (List.mem_append_right _ List.mem_cons_self)
    · refine here.kept rfl ?_ Iff.rfl (find?_without_of_ne same) rfl
      intro died
      cases died
      exact same rfl

end Standing

theorem plan_eq_of_run? {cancelRequested : Bool}
    (ran : (initial plan cancelRequested).run? events = some batch) : batch.plan = plan := by
  refine invariant_of_run? (fun other => other.plan = plan) ?_ ran rfl
  intro mid event next happens same
  cases happens <;> exact same

/-- In every run it is known of every position how the work on it stands. -/
theorem standing_of_run? {cancelRequested : Bool}
    (ran : (initial plan cancelRequested).run? events = some batch) (position : Nat) :
    Standing plan events batch position := by
  refine history_of_run? (fun events batch => ∀ position, Standing plan events batch position) ?_ ?_
    ran position
  · exact Standing.initial plan cancelRequested
  · intro before event mid next ran happens standing
    exact Standing.step standing (plan_eq_of_run? ran) happens

end Vouch.Keyserver.Batch
