import Mathlib.Tactic
import Vouch.Keyserver.Job

/-!
Runs of jobs.

A job is run by its answers one after another, so a run can be taken apart anywhere.  A job that has
not come to its end accepts some answer, and no job accepts answers forever.
-/

namespace Vouch.Keyserver.Job

variable {α β : Type}

theorem run?_append (job : Job α) (first second : List Answer) :
    job.run? (first ++ second) = (job.run? first).bind (·.run? second) := by
  induction first generalizing job with
  | nil => rfl
  | cons answer rest ih =>
    rw [List.cons_append, run?, run?]
    cases job.after? answer with
    | none => rfl
    | some next => exact ih next

theorem run?_concat {job next last : Job α} {answers : List Answer} {answer : Answer}
    (ran : job.run? answers = some next) (answered : next.after? answer = some last) :
    job.run? (answers ++ [answer]) = some last := by
  rw [run?_append, ran, Option.bind_some, run?, answered]
  rfl

inductive Rest : Job α → Job α → Prop where
  | send (request : Request) (next : Reply → Job α) (reply : Reply) :
    Rest (next reply) (.send request next)
  | draw (greatest : Nat) (next : Nat → Job α) (n : Nat) : Rest (next n) (.draw greatest next)
  | sleep (duration : Nat) (next : Job α) : Rest next (.sleep duration next)
  | log (event : Log.Event) (next : Job α) : Rest next (.log event next)
  | deliver (keyId armored : String) (next : Except Problem Unit → Job α)
    (answer : Except Problem Unit) : Rest (next answer) (.deliver keyId armored next)

theorem rest_of_after? {job next : Job α} {answer : Answer}
    (answered : job.after? answer = some next) : Rest next job := by
  cases job with
  | done result => cases answered
  | send request more =>
    cases answer <;> cases answered
    exact .send request more _
  | draw greatest more =>
    cases answer <;> try cases answered
    rw [after?] at answered
    split_ifs at answered
    cases answered
    exact .draw greatest more _
  | sleep duration more =>
    cases answer <;> cases answered
    exact .sleep duration _
  | log event more =>
    cases answer <;> cases answered
    exact .log event _
  | deliver keyId armored more =>
    cases answer <;> cases answered
    exact .deliver keyId armored more _

/-- No job accepts answers forever. -/
theorem wellFounded_rest : WellFounded (Rest : Job α → Job α → Prop) := by
  constructor
  intro job
  induction job with
  | done result =>
    constructor
    intro next rest
    cases rest
  | send request more ih =>
    constructor
    rintro next ⟨⟩
    exact ih _
  | draw greatest more ih =>
    constructor
    rintro next ⟨⟩
    exact ih _
  | sleep duration more ih =>
    constructor
    rintro next ⟨⟩
    exact ih
  | log event more ih =>
    constructor
    rintro next ⟨⟩
    exact ih
  | deliver keyId armored more ih =>
    constructor
    rintro next ⟨⟩
    exact ih _

/-- A job that has not come to its end accepts an answer. -/
theorem exists_after? (job : Job α) (unfinished : job.result? = none) :
    ∃ answer next, job.after? answer = some next := by
  cases job with
  | done result => cases unfinished
  | send request more => exact ⟨.reply (.answer 0 ""), more _, rfl⟩
  | draw greatest more =>
    refine ⟨.drawn 0, more 0, ?_⟩
    rw [after?, if_pos (Nat.zero_le greatest)]
  | sleep duration more => exact ⟨.woken, more, rfl⟩
  | log event more => exact ⟨.logged, more, rfl⟩
  | deliver keyId armored more => exact ⟨.taken (.ok ()), more _, rfl⟩

def Ensures (post : α → Prop) : Job α → Prop
  | .done result => post result
  | .send _ next => ∀ reply, (next reply).Ensures post
  | .draw _ next => ∀ n, (next n).Ensures post
  | .sleep _ next => next.Ensures post
  | .log _ next => next.Ensures post
  | .deliver _ _ next => ∀ answer, (next answer).Ensures post

theorem ensures_of_rest {post : α → Prop} {job next : Job α} (ensures : job.Ensures post)
    (rest : Rest next job) : next.Ensures post := by
  cases rest with
  | send _ _ reply => exact ensures reply
  | draw _ _ n => exact ensures n
  | sleep => exact ensures
  | log => exact ensures
  | deliver _ _ _ answer => exact ensures answer

theorem ensures_run? {post : α → Prop} {job next : Job α} {answers : List Answer}
    (ensures : job.Ensures post) (ran : job.run? answers = some next) : next.Ensures post := by
  induction answers generalizing job with
  | nil =>
    cases ran
    exact ensures
  | cons answer rest ih =>
    rw [run?] at ran
    obtain ⟨mid, answered, ran⟩ := Option.bind_eq_some_iff.mp ran
    exact ih (ensures_of_rest ensures (rest_of_after? answered)) ran

/-- What all continuations ensure, the whole job ensures. -/
theorem ensures_bind {post : β → Prop} (job : Job α) {next : α → Job β}
    (ensures : ∀ a, (next a).Ensures post) : (job.bind next).Ensures post := by
  induction job with
  | done result => exact ensures result
  | send _ _ ih => exact ih
  | draw _ _ ih => exact ih
  | sleep _ _ ih => exact ih
  | log _ _ ih => exact ih
  | deliver _ _ _ ih => exact ih

section Ended

variable {answers : List Answer} {result : α}

theorem run?_log_iff {event : Log.Event} {next : Job α} :
    (Job.log event next).run? answers = some (.done result) ↔
      ∃ rest, answers = .logged :: rest ∧ next.run? rest = some (.done result) := by
  cases answers with
  | nil => simp [run?]
  | cons answer rest => cases answer <;> simp [run?, after?]

theorem run?_send_iff {request : Request} {next : Reply → Job α} :
    (Job.send request next).run? answers = some (.done result) ↔
      ∃ reply rest, answers = .reply reply :: rest ∧
        (next reply).run? rest = some (.done result) := by
  cases answers with
  | nil => simp [run?]
  | cons answer rest => cases answer <;> simp [run?, after?]

theorem run?_draw_iff {greatest : Nat} {next : Nat → Job α} :
    (Job.draw greatest next).run? answers = some (.done result) ↔
      ∃ n rest, n ≤ greatest ∧ answers = .drawn n :: rest ∧
        (next n).run? rest = some (.done result) := by
  cases answers with
  | nil => simp [run?]
  | cons answer rest => cases answer <;> simp [run?, after?, Option.bind_eq_some_iff]

theorem run?_sleep_iff {duration : Nat} {next : Job α} :
    (Job.sleep duration next).run? answers = some (.done result) ↔
      ∃ rest, answers = .woken :: rest ∧ next.run? rest = some (.done result) := by
  cases answers with
  | nil => simp [run?]
  | cons answer rest => cases answer <;> simp [run?, after?]

theorem run?_done_iff {ended : α} :
    (Job.done ended).run? answers = some (.done result) ↔ answers = [] ∧ result = ended := by
  cases answers with
  | nil => simp [run?, eq_comm]
  | cons answer rest => simp [run?, after?]

end Ended

end Vouch.Keyserver.Job
