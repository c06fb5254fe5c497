import Mathlib.Tactic
import Vouch.Proofs.Keyserver.Batch

/-!
The account that a batch keeps of its keys.

The keys that were started are the first ones of the list, and each of them is either being worked on
or settled.  The work on a key has come as far as its own answers take it, whatever happens to the
other keys.  A batch that was found cancelled has keys left that it does not start.
-/

namespace Vouch.Keyserver.Batch

def Event.answerTo? (position : Nat) : Event → Option Job.Answer
  | .answer other given => if other = position then some given else none
  | _ => none

/-- The answers that the work on the key at a position gets in a run, in their order. -/
def answersTo (position : Nat) (events : List Event) : List Job.Answer :=
  events.filterMap (Event.answerTo? position)

def Reached (plan : Plan) (events : List Event) (position : Nat) (job : Job Import.Fate) : Prop :=
  ∃ keyId, plan.keyIds[position]? = some keyId ∧
    (plan.work keyId).run? (answersTo position events) = some job

variable {plan : Plan} {events : List Event} {event : Event} {batch next : Batch} {position : Nat}

theorem answersTo_concat_of_none (silent : event.answerTo? position = none) :
    answersTo position (events ++ [event]) = answersTo position events := by
  simp [answersTo, silent]

theorem reached_concat_of_none {job : Job Import.Fate} (reached : Reached plan events position job)
    (silent : event.answerTo? position = none) :
    Reached plan (events ++ [event]) position job := by
  obtain ⟨keyId, listed, ran⟩ := reached
  exact ⟨keyId, listed, by rw [answersTo_concat_of_none silent, ran]⟩

theorem reached_concat_answer {job rest : Job Import.Fate} {answer : Job.Answer}
    (reached : Reached plan events position job) (answered : job.after? answer = some rest) :
    Reached plan (events ++ [.answer position answer]) position rest := by
  obtain ⟨keyId, listed, ran⟩ := reached
  have got : answersTo position (events ++ [.answer position answer]) =
      answersTo position events ++ [answer] := by
    simp [answersTo, Event.answerTo?]
  exact ⟨keyId, listed, by rw [got, Job.run?_concat ran answered]⟩

structure Sound (plan : Plan) (events : List Event) (batch : Batch) : Prop where
  plan_eq : batch.plan = plan
  started_le : batch.started ≤ plan.keyIds.length
  positions : (batch.running.map Worker.position ++ batch.settled.map Prod.fst).Perm
    (List.range batch.started)
  worked : ∀ worker ∈ batch.running, Reached plan events worker.position worker.stage.job
  settled : ∀ entry ∈ batch.settled, Reached plan events entry.1 (.done entry.2)
  unanswered : ∀ position, batch.started ≤ position → answersTo position events = []
  unfinished : batch.cancelled = true → batch.started < plan.keyIds.length

namespace Sound

theorem initial (plan : Plan) (cancelRequested : Bool) :
    Sound plan [] (initial plan cancelRequested) where
  plan_eq := rfl
  started_le := Nat.zero_le _
  positions := List.Perm.refl _
  worked := by
    intro worker member
    cases member
  settled := by
    intro entry member
    cases member
  unanswered := by
    intro position _
    rfl
  unfinished := by
    intro cancelled
    cases cancelled

theorem distinct (sound : Sound plan events batch) :
    (batch.running.map Worker.position).Nodup := by
  have all := sound.positions.nodup_iff.mpr List.nodup_range
  exact (List.nodup_append.mp all).1

theorem position_lt (sound : Sound plan events batch) {worker : Worker}
    (member : worker ∈ batch.running) : worker.position < batch.started := by
  have listed : worker.position ∈
      batch.running.map Worker.position ++ batch.settled.map Prod.fst :=
    List.mem_append_left _ (List.mem_map_of_mem member)
  exact List.mem_range.mp (sound.positions.mem_iff.mp listed)

theorem quiet (sound : Sound plan events batch) (silent : ∀ p, event.answerTo? p = none)
    (same_plan : next.plan = batch.plan) (started : next.started = batch.started)
    (running : next.running = batch.running) (settled : next.settled = batch.settled)
    (unfinished : next.cancelled = true → batch.started < plan.keyIds.length) :
    Sound plan (events ++ [event]) next where
  plan_eq := same_plan.trans sound.plan_eq
  started_le := by rw [started]; exact sound.started_le
  positions := by rw [running, settled, started]; exact sound.positions
  worked := by
    intro worker member
    rw [running] at member
    exact reached_concat_of_none (sound.worked worker member) (silent _)
  settled := by
    intro entry member
    rw [settled] at member
    exact reached_concat_of_none (sound.settled entry member) (silent _)
  unanswered := by
    intro position beyond
    rw [started] at beyond
    rw [answersTo_concat_of_none (silent _), sound.unanswered position beyond]
  unfinished := by rw [started]; exact unfinished

theorem staged (sound : Sound plan events batch) (stage : Stage) {worker : Worker}
    (found : batch.worker? position = some worker)
    (silent : ∀ p, p ≠ position → event.answerTo? p = none)
    (reached : Reached plan (events ++ [event]) position stage.job)
    (same_plan : next.plan = batch.plan) (started : next.started = batch.started)
    (running : next.running = (batch.withStage position stage).running)
    (settled : next.settled = batch.settled) (cancelled : next.cancelled = batch.cancelled) :
    Sound plan (events ++ [event]) next := by
  have before := sound.position_lt (mem_running_of_worker? found)
  rw [position_of_worker? found] at before
  have apart := running_withStage_perm sound.distinct found stage
  have still : position ∉ batch.settled.map Prod.fst := by
    intro member
    have all := sound.positions.nodup_iff.mpr List.nodup_range
    have here : position ∈ batch.running.map Worker.position :=
      List.mem_map.mpr ⟨worker, mem_running_of_worker? found, position_of_worker? found⟩
    exact (List.nodup_append.mp all).2.2 position here position member rfl
  refine
    { plan_eq := same_plan.trans sound.plan_eq
      started_le := by rw [started]; exact sound.started_le
      positions := by rw [running, positions_withStage, settled, started]; exact sound.positions
      worked := ?_, settled := ?_, unanswered := ?_
      unfinished := by rw [cancelled, started]; exact sound.unfinished }
  · intro other member
    rw [running, apart.mem_iff, List.mem_cons] at member
    obtain rfl | listed := member
    · exact reached
    · obtain ⟨inside, differs⟩ := mem_without_iff.mp listed
      exact reached_concat_of_none (sound.worked other inside) (silent _ differs)
  · intro entry member
    rw [settled] at member
    have differs : entry.1 ≠ position := by
      intro same
      exact still (same ▸ List.mem_map_of_mem member)
    exact reached_concat_of_none (sound.settled entry member) (silent _ differs)
  · intro p beyond
    rw [started] at beyond
    have differs : p ≠ position := by omega
    rw [answersTo_concat_of_none (silent p differs), sound.unanswered p beyond]

theorem begun (sound : Sound plan events batch) {keyId : String}
    (listed : batch.plan.keyIds[batch.started]? = some keyId) (may : batch.mayStart = true) :
    Sound plan (events ++ [.start])
      { batch with
        started := batch.started + 1
        phase := .due
        running := batch.running ++ [⟨batch.started, .working (batch.plan.work keyId)⟩] } := by
  have silent : ∀ p, Event.answerTo? p .start = none := fun _ => rfl
  obtain ⟨active, left⟩ := mayStart_iff.mp may
  have same_plan := sound.plan_eq
  subst same_plan
  refine
    { plan_eq := rfl, started_le := left, positions := ?_, worked := ?_, settled := ?_
      unanswered := ?_, unfinished := ?_ }
  · rw [List.map_append, List.append_assoc, List.range_succ]
    refine (List.perm_append_comm.append_left _).trans ?_
    rw [← List.append_assoc]
    exact sound.positions.append_right _
  · intro worker member
    obtain earlier | newest := List.mem_append.mp member
    · exact reached_concat_of_none (sound.worked worker earlier) (silent _)
    · rw [List.mem_singleton.mp newest]
      -- Nobody has answered here yet, so the work has come no further than its start.
      have fresh := sound.unanswered batch.started le_rfl
      refine ⟨keyId, listed, ?_⟩
      rw [answersTo_concat_of_none (silent _), fresh]
      rfl
  · intro entry member
    exact reached_concat_of_none (sound.settled entry member) (silent _)
  · intro position beyond
    rw [answersTo_concat_of_none (silent _)]
    exact sound.unanswered position (Nat.le_of_succ_le beyond)
  · intro cancelled
    rw [active] at cancelled
    cases cancelled

theorem reported (sound : Sound plan events batch) {worker : Worker} {fate : Import.Fate}
    {number : Nat} (found : batch.worker? position = some worker)
    (counted : worker.stage = .counted fate number) :
    Sound plan (events ++ [.report position])
      { batch with
        running := batch.without position
        settled := (position, fate) :: batch.settled
        reports := ⟨number, batch.total⟩ :: batch.reports } := by
  have silent : ∀ p, Event.answerTo? p (.report position) = none := fun _ => rfl
  have here := position_of_worker? found
  have apart := (running_perm sound.distinct found).map Worker.position
  rw [List.map_cons, here] at apart
  have reached := sound.worked worker (mem_running_of_worker? found)
  rw [here, counted] at reached
  refine
    { plan_eq := sound.plan_eq, started_le := sound.started_le, positions := ?_, worked := ?_
      settled := ?_, unanswered := ?_, unfinished := sound.unfinished }
  · have moved := (apart.append_right (batch.settled.map Prod.fst)).symm.trans sound.positions
    exact List.perm_middle.trans moved
  · intro other member
    have inside := (mem_without_iff.mp member).1
    exact reached_concat_of_none (sound.worked other inside) (silent _)
  · intro entry member
    obtain rfl | earlier := List.mem_cons.mp member
    · exact reached_concat_of_none reached (silent _)
    · exact reached_concat_of_none (sound.settled entry earlier) (silent _)
  · intro p beyond
    rw [answersTo_concat_of_none (silent _), sound.unanswered p beyond]

/-- The account stays right with every event but a death. -/
theorem step (sound : Sound plan events batch) (survived : ∀ position, event ≠ .die position)
    (happens : Step batch event next) : Sound plan (events ++ [event]) next := by
  have left : batch.mayStart = true → batch.started < plan.keyIds.length := by
    intro may
    rw [← sound.plan_eq]
    exact (mayStart_iff.mp may).2
  cases happens with
  | cancel => exact sound.quiet (fun _ => rfl) rfl rfl rfl rfl sound.unfinished
  | checkStop may => exact sound.quiet (fun _ => rfl) rfl rfl rfl rfl fun _ => left may
  | checkPass may => exact sound.quiet (fun _ => rfl) rfl rfl rfl rfl fun _ => left may
  | take may => exact sound.quiet (fun _ => rfl) rfl rfl rfl rfl fun _ => left may
  | startStop may => exact sound.quiet (fun _ => rfl) rfl rfl rfl rfl fun _ => left may
  | start keyId listed may => exact sound.begun listed may
  | answer position answer worker found job rest working answered =>
    have reached := sound.worked worker (mem_running_of_worker? found)
    rw [position_of_worker? found, working] at reached
    have forward := reached_concat_answer reached answered
    have silent : ∀ p, p ≠ position → Event.answerTo? p (.answer position answer) = none := by
      intro p differs
      exact if_neg differs.symm
    exact sound.staged (.working rest) found silent forward rfl rfl rfl rfl rfl
  | count position worker found fate ended =>
    have reached := sound.worked worker (mem_running_of_worker? found)
    rw [position_of_worker? found, ended] at reached
    have kept : Reached plan (events ++ [.count position]) position (.done fate) :=
      reached_concat_of_none reached rfl
    exact sound.staged (.counted fate (batch.finished + 1)) found (fun _ _ => rfl) kept
      rfl rfl rfl rfl rfl
  | report position worker found fate number counted => exact sound.reported found counted
  | die position => exact absurd rfl (survived position)

end Sound

def Survived (events : List Event) : Prop :=
  ∀ position, Event.die position ∉ events

theorem survived_concat_iff :
    Survived (events ++ [event]) ↔ Survived events ∧ ∀ position, event ≠ .die position := by
  unfold Survived
  rw [← forall_and]
  apply forall_congr'
  intro position
  rw [List.mem_append, List.mem_singleton, not_or, ne_comm]

theorem sound_of_run? {cancelRequested : Bool} (survived : Survived events)
    (ran : (initial plan cancelRequested).run? events = some batch) : Sound plan events batch := by
  refine history_of_run? (fun events batch => Survived events → Sound plan events batch) ?_ ?_ ran
    survived
  · intro _
    exact Sound.initial plan cancelRequested
  · intro before event mid next _ happens sound survived
    obtain ⟨earlier, alive⟩ := survived_concat_iff.mp survived
    exact (sound earlier).step alive happens

end Vouch.Keyserver.Batch
