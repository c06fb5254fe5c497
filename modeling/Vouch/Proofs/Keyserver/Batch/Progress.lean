import Mathlib.Tactic
import Vouch.Proofs.Keyserver.Batch.Work

/-!
How many keys a batch works on at a time, and what it tells of its progress.

A key takes up a slot from before its start until its work is reported.  The work that ends gets the
next number, and the numbers of the keys that wait to be reported and of the reports together are
always those from one up to the number of keys that were counted, each of them once.
-/

namespace Vouch.Keyserver

def Stage.number? : Stage → Option Nat
  | .working _ => none
  | .counted _ number => some number

namespace Batch

variable {plan : Plan} {events : List Event} {event : Event} {batch next : Batch} {position : Nat}

def taken (batch : Batch) : Nat :=
  batch.running.length + if batch.phase = .holding then 1 else 0

theorem taken_le_of_step (happens : Step batch event next)
    (bound : batch.taken ≤ batch.plan.slots) : next.taken ≤ next.plan.slots := by
  have staged : ∀ position stage, (batch.withStage position stage).running.length =
      batch.running.length := by
    intro position stage
    exact List.length_map _
  have fewer : ∀ position, (batch.without position).length ≤ batch.running.length := by
    intro position
    exact List.length_filter_le _ _
  unfold taken at bound ⊢
  cases happens with
  | cancel => exact bound
  | checkStop => exact (Nat.add_le_add_left (Nat.zero_le _) _).trans bound
  | checkPass => exact (Nat.add_le_add_left (Nat.zero_le _) _).trans bound
  | take _ _ free => exact of_decide_eq_true free
  | startStop => exact (Nat.add_le_add_left (Nat.zero_le _) _).trans bound
  | start keyId listed may holding =>
    rw [if_pos holding] at bound
    rw [List.length_append]
    exact bound
  | answer position =>
    rw [staged]
    exact bound
  | count position =>
    dsimp only
    rw [staged]
    exact bound
  | report position => exact (Nat.add_le_add_right (fewer position) _).trans bound
  | die position => exact (Nat.add_le_add_right (fewer position) _).trans bound

/-- In no state of a run are more keys worked on than there are slots. -/
theorem running_le_of_run? {cancelRequested : Bool}
    (ran : (initial plan cancelRequested).run? events = some batch) :
    batch.running.length ≤ plan.slots := by
  have bound : batch.taken ≤ batch.plan.slots := by
    refine invariant_of_run? (fun other => other.taken ≤ other.plan.slots) ?_ ran (Nat.zero_le _)
    intro mid event next happens
    exact taken_le_of_step happens
  rw [plan_eq_of_run? ran] at bound
  exact (Nat.le_add_right _ _).trans bound

def Event.reported? : Event → Option Nat
  | .report position => some position
  | _ => none

def reportedIn (events : List Event) : List Nat :=
  events.filterMap Event.reported?

def unreported (running : List Worker) : List Nat :=
  running.filterMap fun worker => worker.stage.number?

theorem unreported_cons (worker : Worker) (running : List Worker) :
    unreported (worker :: running) = worker.stage.number?.toList ++ unreported running := by
  unfold unreported
  cases number : worker.stage.number? with
  | none => exact List.filterMap_cons_none number
  | some n => exact List.filterMap_cons_some number

theorem unreported_perm {first second : List Worker} (same : first.Perm second) :
    (unreported first).Perm (unreported second) :=
  same.filterMap _

structure Tallied (plan : Plan) (events : List Event) (batch : Batch) : Prop where
  numbers : (unreported batch.running ++ batch.reports.map Import.Progress.done).Perm
    (List.range' 1 batch.finished)
  totals : ∀ report ∈ batch.reports, report.total = plan.keyIds.length
  reported : batch.settled.map Prod.fst = (reportedIn events).reverse
  reports_length : batch.reports.length = batch.settled.length

namespace Tallied

theorem initial (plan : Plan) (cancelRequested : Bool) :
    Tallied plan [] (initial plan cancelRequested) where
  numbers := List.Perm.refl _
  totals := by simp [Batch.initial]
  reported := rfl
  reports_length := rfl

/-- Events that neither count nor report. -/
theorem kept (tallied : Tallied plan events batch) (silent : event.reported? = none)
    (running : (unreported next.running).Perm (unreported batch.running))
    (settled : next.settled = batch.settled) (finished : next.finished = batch.finished)
    (reports : next.reports = batch.reports) : Tallied plan (events ++ [event]) next where
  numbers := by
    rw [finished, reports]
    exact (running.append_right _).trans tallied.numbers
  totals := by
    rw [reports]
    exact tallied.totals
  reported := by
    rw [settled, tallied.reported, reportedIn, reportedIn, List.filterMap_append]
    simp [silent]
  reports_length := by rw [reports, settled, tallied.reports_length]

section Workers

variable {worker : Worker} (distinct : (batch.running.map Worker.position).Nodup)
  (found : batch.worker? position = some worker)
include distinct found

theorem unreported_running_perm :
    (unreported batch.running).Perm
      (worker.stage.number?.toList ++ unreported (batch.without position)) := by
  rw [← unreported_cons]
  exact unreported_perm (running_perm distinct found)

theorem unreported_withStage_perm (stage : Stage) :
    (unreported (batch.withStage position stage).running).Perm
      (stage.number?.toList ++ unreported (batch.without position)) := by
  have apart := unreported_perm (running_withStage_perm distinct found stage)
  rw [unreported_cons] at apart
  exact apart

theorem counted (tallied : Tallied plan events batch) {fate : Import.Fate}
    (ended : worker.stage = .working (.done fate)) :
    Tallied plan (events ++ [.count position])
      { batch.withStage position (.counted fate (batch.finished + 1)) with
        finished := batch.finished + 1 } where
  numbers := by
    have before := unreported_running_perm distinct found
    rw [ended] at before
    have after := unreported_withStage_perm distinct found (.counted fate (batch.finished + 1))
    have moved := (after.trans (before.symm.cons (batch.finished + 1))).append_right
      (batch.reports.map Import.Progress.done)
    rw [List.range'_1_concat, Nat.add_comm 1]
    exact (moved.trans (tallied.numbers.cons _)).trans (List.perm_append_singleton _ _).symm
  totals := tallied.totals
  reported := by
    rw [reportedIn, List.filterMap_append]
    exact (tallied.reported.trans (congrArg List.reverse (List.append_nil _).symm))
  reports_length := tallied.reports_length

theorem reported_step (tallied : Tallied plan events batch) (same_plan : batch.plan = plan)
    {fate : Import.Fate} {number : Nat} (counted : worker.stage = .counted fate number) :
    Tallied plan (events ++ [.report position])
      { batch with
        running := batch.without position
        settled := (position, fate) :: batch.settled
        reports := ⟨number, batch.total⟩ :: batch.reports } where
  numbers := by
    have before := unreported_running_perm distinct found
    rw [counted] at before
    have moved := (before.append_right (batch.reports.map Import.Progress.done)).symm
    exact (List.perm_middle.trans moved).trans tallied.numbers
  totals := by
    refine List.forall_mem_cons.mpr ⟨?_, tallied.totals⟩
    rw [← same_plan]
    rfl
  reported := by
    rw [reportedIn, List.filterMap_append, List.reverse_append, List.map_cons, tallied.reported]
    rfl
  reports_length := congrArg Nat.succ tallied.reports_length

end Workers

theorem step (tallied : Tallied plan events batch) (sound : Sound plan events batch)
    (survived : ∀ position, event ≠ .die position) (happens : Step batch event next) :
    Tallied plan (events ++ [event]) next := by
  cases happens with
  | cancel => exact tallied.kept rfl (.refl _) rfl rfl rfl
  | checkStop => exact tallied.kept rfl (.refl _) rfl rfl rfl
  | checkPass => exact tallied.kept rfl (.refl _) rfl rfl rfl
  | take => exact tallied.kept rfl (.refl _) rfl rfl rfl
  | startStop => exact tallied.kept rfl (.refl _) rfl rfl rfl
  | start keyId listed may =>
    refine tallied.kept rfl (.of_eq ?_) rfl rfl rfl
    exact List.filterMap_append.trans (List.append_nil _)
  | answer position answer worker found job rest working answered =>
    refine tallied.kept rfl ?_ rfl rfl rfl
    have before := unreported_running_perm sound.distinct found
    rw [working] at before
    exact (unreported_withStage_perm sound.distinct found (.working rest)).trans before.symm
  | count position worker found fate ended => exact counted sound.distinct found tallied ended
  | report position worker found fate number counted =>
    exact reported_step sound.distinct found tallied sound.plan_eq counted
  | die position => exact absurd rfl (survived position)

end Tallied

theorem tallied_of_run? {cancelRequested : Bool} (survived : Survived events)
    (ran : (initial plan cancelRequested).run? events = some batch) :
    Tallied plan events batch := by
  refine history_of_run? (fun events batch => Survived events → Tallied plan events batch) ?_ ?_ ran
    survived
  · intro _
    exact Tallied.initial plan cancelRequested
  · intro before event mid next ran happens tallied survived
    obtain ⟨earlier, alive⟩ := survived_concat_iff.mp survived
    exact (tallied earlier).step (sound_of_run? earlier ran) alive happens

def ended (batch : Batch) : Nat :=
  batch.settled.length + batch.running.countP fun worker => worker.stage.job.result?.isSome

theorem length_unreported_le (running : List Worker) :
    (unreported running).length ≤
      running.countP fun worker => worker.stage.job.result?.isSome := by
  induction running with
  | nil => exact Nat.zero_le _
  | cons worker rest ih =>
    rw [unreported_cons, List.length_append, List.countP_cons]
    cases stage : worker.stage with
    | working job =>
      have unnumbered : (Stage.working job).number?.toList.length = 0 := rfl
      omega
    | counted fate number =>
      have numbered : (Stage.counted fate number).number?.toList.length = 1 := rfl
      have done : (Stage.counted fate number).job.result?.isSome = true := rfl
      rw [if_pos done]
      omega

/-- No more keys were counted than have come to their end. -/
theorem Tallied.finished_le_ended (tallied : Tallied plan events batch) :
    batch.finished ≤ batch.ended := by
  have waiting := length_unreported_le batch.running
  have lengths := tallied.numbers.length_eq
  rw [List.length_append, List.length_map, List.length_range', tallied.reports_length] at lengths
  unfold ended
  omega

/-- How a batch stands that has started its first keys, at any moment before or after its end. -/
structure Orderly (client : Client) (keyIds : List String) (events : List Event) (batch : Batch) :
    Prop where
  positions : (batch.running.map Worker.position ++ batch.settled.map Prod.fst).Perm
    (List.range batch.started)
  worked : ∀ worker ∈ batch.running, ∃ keyId, keyIds[worker.position]? = some keyId ∧
    (client.fetchAndImport keyId).run? (answersTo worker.position events) = some worker.stage.job
  settled : ∀ entry ∈ batch.settled, ∃ keyId, keyIds[entry.1]? = some keyId ∧
    (client.fetchAndImport keyId).run? (answersTo entry.1 events) = some (.done entry.2)
  reported : (reportedIn events).reverse = batch.settled.map Prod.fst
  reports_length : batch.reports.length = (reportedIn events).length
  totals : ∀ report ∈ batch.reports, report.total = keyIds.length
  distinct : (batch.reports.map Import.Progress.done).Nodup
  done_pos : ∀ report ∈ batch.reports, 1 ≤ report.done
  done_le : ∀ report ∈ batch.reports, report.done ≤ batch.ended

theorem orderly_of_run? {client : Client} {keyIds : List String} {cancelRequested : Bool}
    (survived : Survived events)
    (ran : (initial (client.plan keyIds) cancelRequested).run? events = some batch) :
    Orderly client keyIds events batch := by
  have sound := sound_of_run? survived ran
  have tallied := tallied_of_run? survived ran
  have numbered : ∀ report ∈ batch.reports, report.done ∈ List.range' 1 batch.finished := by
    intro report member
    exact tallied.numbers.mem_iff.mp (List.mem_append_right _ (List.mem_map_of_mem member))
  have all_distinct := tallied.numbers.nodup_iff.mpr List.nodup_range'
  refine
    { positions := sound.positions, worked := sound.worked, settled := sound.settled
      reported := tallied.reported.symm, reports_length := ?_, totals := tallied.totals
      distinct := (List.nodup_append.mp all_distinct).2.1, done_pos := ?_, done_le := ?_ }
  · rw [tallied.reports_length, ← List.length_map (f := Prod.fst), tallied.reported,
      List.length_reverse]
  · intro report member
    exact (List.mem_range'_1.mp (numbered report member)).1
  · intro report member
    have bound := (List.mem_range'_1.mp (numbered report member)).2
    have counted := tallied.finished_le_ended
    omega

/-- The progress of an import of keys, whenever cancelling is asked for and in whatever order things
happen.  No more keys are worked on at a time than the configuration allows, and none of them is handed
to the importer twice or without a key that the server sent for it.  Unless work on a key breaks off,
every key that is started has one worker, whose end is reported once; and when the batch is over, the
reports number the keys that were started from one on, each number being used once. -/
theorem progress_of_run (client : Client) (keyIds : List String) (cancelRequested : Bool)
    (events : List Event) (batch : Batch)
    (ran : (initial (client.plan keyIds) cancelRequested).run? events = some batch) :
    batch.running.length ≤ max client.config.concurrency.toNat 1 ∧
      (∀ position, (Job.takings (answersTo position events)).length ≤ 1 ∧
        ∀ name armored, batch.delivering? position = some (name, armored) →
          keyIds[position]? = some name ∧ Text.mentions armored armorHeader = true ∧
          ∃ status, isSuccess status = true ∧
            .answer status armored ∈ Job.replies (answersTo position events)) ∧
      (Survived events → Orderly client keyIds events batch ∧ (batch.isOver = true →
        batch.reports.length = batch.started ∧
        (reportedIn events).Perm (List.range batch.started) ∧
        (batch.reports.map Import.Progress.done).Perm (List.range' 1 batch.started))) := by
  refine ⟨running_le_of_run? ran, ?_, ?_⟩
  · intro position
    refine ⟨takings_le_of_run? ran position, ?_⟩
    intro name armored delivering
    obtain ⟨listed, mentioned, _, received⟩ := delivery_of_delivering? ran delivering
    exact ⟨listed, mentioned, received⟩
  · intro survived
    have orderly := orderly_of_run? survived ran
    refine ⟨orderly, ?_⟩
    intro closed
    have tallied := tallied_of_run? survived ran
    have positions := orderly.positions
    rw [running_of_isOver closed, List.map_nil, List.nil_append, ← orderly.reported] at positions
    have reported := (List.reverse_perm _).symm.trans positions
    have reports : batch.reports.length = batch.started := by
      rw [orderly.reports_length, reported.length_eq, List.length_range]
    have numbers := tallied.numbers
    rw [running_of_isOver closed] at numbers
    have finished : batch.finished = batch.started := by
      have counted : (batch.reports.map Import.Progress.done).length =
          (List.range' 1 batch.finished).length := numbers.length_eq
      rw [List.length_map, List.length_range'] at counted
      omega
    rw [finished] at numbers
    exact ⟨reports, reported, numbers⟩

/-- Two of three keys are worked on at the same time, one is unknown to the server, cancelling is asked
for before the third, and the key that is counted first is reported last. -/
theorem progress_of_crossing_reports :
    let client : Client := ⟨{ Config.standard with concurrency := 2 }, "https://keys.openpgp.org"⟩
    let keyIds := ["0123456789ABCDEF", "FEDCBA9876543210", "0123456789ABCDEF"]
    let events : List Event :=
      [.check, .take, .start, .check, .take, .start, .answer 1 .logged, .answer 0 .logged, .cancel,
        .answer 1 (.reply (.answer 404 "")), .answer 0 (.reply (.answer 200 armorHeader)),
        .answer 0 (.taken (.ok ())), .answer 1 .logged, .answer 0 .logged, .count 1, .check, .count 0,
        .report 0, .report 1]
    Survived events ∧ ∃ batch, (initial (client.plan keyIds) false).run? events = some batch ∧
      batch.isOver = true ∧ batch.reports = [⟨1, 3⟩, ⟨2, 3⟩] ∧ Orderly client keyIds events batch ∧
      batch.reports.length = batch.started := by
  intro client keyIds events
  have survived : Survived events := by
    intro position member
    simp [events] at member
  have ends : ((initial (client.plan keyIds) false).run? events).map
      (fun batch => (batch.isOver, batch.reports)) = some (true, [⟨1, 3⟩, ⟨2, 3⟩]) := by
    decide +kernel
  obtain ⟨batch, ran, ends⟩ := Option.map_eq_some_iff.mp ends
  rw [Prod.mk.injEq] at ends
  obtain ⟨orderly, reported⟩ := (progress_of_run client keyIds false events batch ran).2.2 survived
  exact ⟨survived, batch, ran, ends.1, ends.2, orderly, (reported ends.1).1⟩

end Batch

end Vouch.Keyserver
