import Mathlib.Tactic
import Vouch.Proofs.Keyserver.Job

/-!
What passes between a job and the outside until the job has a result.

A course lists the requests with their replies, and the keys that were delivered with the answers of
the importer.  What was drawn, slept and logged on the way leaves no trace in it.  Every run that
comes to an end is a course, and wherever a job is played it has one.
-/

namespace Vouch.Keyserver.Job

variable {α β : Type}

structure Exchange where
  request : Request
  reply : Reply
  deriving DecidableEq, Repr

structure Delivery where
  keyId : String
  armored : String
  answer : Except Problem Unit

/-- The job can come to the result by these exchanges with the server and these deliveries. -/
inductive Course : Job α → List Exchange → List Delivery → α → Prop where
  | done (result : α) : Course (.done result) [] [] result
  | send {request : Request} {next : Reply → Job α} {reply : Reply} {exchanges : List Exchange}
    {deliveries : List Delivery} {result : α}
    (later : Course (next reply) exchanges deliveries result) :
    Course (.send request next) (⟨request, reply⟩ :: exchanges) deliveries result
  | draw {greatest : Nat} {next : Nat → Job α} {n : Nat} {exchanges : List Exchange}
    {deliveries : List Delivery} {result : α} (bound : n ≤ greatest)
    (later : Course (next n) exchanges deliveries result) :
    Course (.draw greatest next) exchanges deliveries result
  | sleep {duration : Nat} {next : Job α} {exchanges : List Exchange} {deliveries : List Delivery}
    {result : α} (later : Course next exchanges deliveries result) :
    Course (.sleep duration next) exchanges deliveries result
  | log {event : Log.Event} {next : Job α} {exchanges : List Exchange} {deliveries : List Delivery}
    {result : α} (later : Course next exchanges deliveries result) :
    Course (.log event next) exchanges deliveries result
  | deliver {keyId armored : String} {next : Except Problem Unit → Job α}
    {answer : Except Problem Unit} {exchanges : List Exchange} {deliveries : List Delivery}
    {result : α} (later : Course (next answer) exchanges deliveries result) :
    Course (.deliver keyId armored next) exchanges (⟨keyId, armored, answer⟩ :: deliveries) result

/-- A course of one job after another is a course of the first and then one of the second. -/
theorem course_bind {job : Job α} {next : α → Job β} {exchanges : List Exchange}
    {deliveries : List Delivery} {result : β}
    (course : Course (job >>= next) exchanges deliveries result) :
    ∃ a first second given taken, Course job first given a ∧
      Course (next a) second taken result ∧ exchanges = first ++ second ∧
      deliveries = given ++ taken := by
  change Course (job.bind next) exchanges deliveries result at course
  induction job generalizing exchanges deliveries with
  | done a => exact ⟨a, [], exchanges, [], deliveries, .done a, course, rfl, rfl⟩
  | send request more ih =>
    cases course with
    | send later =>
      obtain ⟨a, first, second, given, taken, left, right, rfl, rfl⟩ := ih _ later
      exact ⟨a, _ :: first, second, given, taken, .send left, right, rfl, rfl⟩
  | draw greatest more ih =>
    cases course with
    | draw bound later =>
      obtain ⟨a, first, second, given, taken, left, right, rfl, rfl⟩ := ih _ later
      exact ⟨a, first, second, given, taken, .draw bound left, right, rfl, rfl⟩
  | sleep duration more ih =>
    cases course with
    | sleep later =>
      obtain ⟨a, first, second, given, taken, left, right, rfl, rfl⟩ := ih later
      exact ⟨a, first, second, given, taken, .sleep left, right, rfl, rfl⟩
  | log event more ih =>
    cases course with
    | log later =>
      obtain ⟨a, first, second, given, taken, left, right, rfl, rfl⟩ := ih later
      exact ⟨a, first, second, given, taken, .log left, right, rfl, rfl⟩
  | deliver keyId armored more ih =>
    cases course with
    | deliver later =>
      obtain ⟨a, first, second, given, taken, left, right, rfl, rfl⟩ := ih _ later
      exact ⟨a, first, second, _ :: given, taken, .deliver left, right, rfl, rfl⟩

def Answer.reply? : Answer → Option Reply
  | .reply given => some given
  | _ => none

def Answer.taken? : Answer → Option (Except Problem Unit)
  | .taken answer => some answer
  | _ => none

def replies (answers : List Answer) : List Reply :=
  answers.filterMap Answer.reply?

def takings (answers : List Answer) : List (Except Problem Unit) :=
  answers.filterMap Answer.taken?

/-- A run goes the first part of every course that what it leaves of the job can still take. -/
theorem exists_before_of_run? {job next : Job α} {answers : List Answer}
    (ran : job.run? answers = some next) :
    ∃ before given, before.map Exchange.reply = replies answers ∧
      given.map Delivery.answer = takings answers ∧
      ∀ {exchanges deliveries result}, Course next exchanges deliveries result →
        Course job (before ++ exchanges) (given ++ deliveries) result := by
  induction answers generalizing job with
  | nil =>
    cases ran
    exact ⟨[], [], rfl, rfl, fun course => course⟩
  | cons answer rest ih =>
    obtain ⟨mid, answered, ran⟩ := Option.bind_eq_some_iff.mp ran
    obtain ⟨before, given, replied, taken, onward⟩ := ih ran
    cases job with
    | done => cases answered
    | send request more =>
      cases answer with
      | reply reply =>
        cases answered
        exact ⟨⟨request, reply⟩ :: before, given, congrArg (reply :: ·) replied, taken,
          fun course => .send (onward course)⟩
      | _ => cases answered
    | draw greatest more =>
      cases answer <;> try cases answered
      rw [after?] at answered
      split_ifs at answered with bound
      cases answered
      exact ⟨before, given, replied, taken, fun course => .draw bound (onward course)⟩
    | sleep duration more =>
      cases answer <;> cases answered
      exact ⟨before, given, replied, taken, fun course => .sleep (onward course)⟩
    | log event more =>
      cases answer <;> cases answered
      exact ⟨before, given, replied, taken, fun course => .log (onward course)⟩
    | deliver keyId armored more =>
      cases answer with
      | taken answer =>
        cases answered
        exact ⟨before, ⟨keyId, armored, answer⟩ :: given, replied, congrArg (answer :: ·) taken,
          fun course => .deliver (onward course)⟩
      | _ => cases answered

/-- A run that comes to an end is a course with the replies and the importer's answers of the run. -/
theorem course_of_run? {job : Job α} {answers : List Answer} {result : α}
    (ran : job.run? answers = some (.done result)) :
    ∃ exchanges deliveries, Course job exchanges deliveries result ∧
      exchanges.map Exchange.reply = replies answers ∧
      deliveries.map Delivery.answer = takings answers := by
  obtain ⟨before, given, replied, taken, onward⟩ := exists_before_of_run? ran
  have course := onward (.done result)
  rw [List.append_nil, List.append_nil] at course
  exact ⟨before, given, course, replied, taken⟩

/-- A job can always come to a result, even if it gets nothing but one reply. -/
theorem exists_course (job : Job α) (reply : Reply) :
    ∃ exchanges deliveries result, Course job exchanges deliveries result ∧
      ∀ exchange ∈ exchanges, exchange.reply = reply := by
  induction job with
  | done result => exact ⟨[], [], result, .done result, by simp⟩
  | send request more ih =>
    obtain ⟨exchanges, deliveries, result, course, same⟩ := ih reply
    exact ⟨_, deliveries, result, .send course, List.forall_mem_cons.mpr ⟨rfl, same⟩⟩
  | draw greatest more ih =>
    obtain ⟨exchanges, deliveries, result, course, same⟩ := ih 0
    exact ⟨exchanges, deliveries, result, .draw (Nat.zero_le greatest) course, same⟩
  | sleep duration more ih =>
    obtain ⟨exchanges, deliveries, result, course, same⟩ := ih
    exact ⟨exchanges, deliveries, result, .sleep course, same⟩
  | log event more ih =>
    obtain ⟨exchanges, deliveries, result, course, same⟩ := ih
    exact ⟨exchanges, deliveries, result, .log course, same⟩
  | deliver keyId armored more ih =>
    obtain ⟨exchanges, deliveries, result, course, same⟩ := ih (.ok ())
    exact ⟨exchanges, _, result, .deliver course, same⟩

/-- What a job has to do with: a server, chance and an importer.  What they answer may depend on all
the answers before. -/
structure Surroundings where
  reply : List Answer → Request → Reply
  drawn : List Answer → (greatest : Nat) → Fin (greatest + 1)
  taken : List Answer → (keyId armored : String) → Except Problem Unit

structure Played (α : Type) where
  exchanges : List Exchange
  deliveries : List Delivery
  result : α

def Surroundings.play (surroundings : Surroundings) : List Answer → Job α → Played α
  | _, .done result => ⟨[], [], result⟩
  | past, .send request next =>
    let reply := surroundings.reply past request
    let later := surroundings.play (past ++ [.reply reply]) (next reply)
    { later with exchanges := ⟨request, reply⟩ :: later.exchanges }
  | past, .draw greatest next =>
    let n := (surroundings.drawn past greatest).val
    surroundings.play (past ++ [.drawn n]) (next n)
  | past, .sleep _ next => surroundings.play (past ++ [.woken]) next
  | past, .log _ next => surroundings.play (past ++ [.logged]) next
  | past, .deliver keyId armored next =>
    let answer := surroundings.taken past keyId armored
    let later := surroundings.play (past ++ [.taken answer]) (next answer)
    { later with deliveries := ⟨keyId, armored, answer⟩ :: later.deliveries }

theorem course_play (surroundings : Surroundings) (past : List Answer) (job : Job α) :
    Course job (surroundings.play past job).exchanges (surroundings.play past job).deliveries
      (surroundings.play past job).result := by
  induction job generalizing past with
  | done result => exact .done result
  | send request more ih => exact .send (ih _ _)
  | draw greatest more ih =>
    exact .draw (Nat.le_of_lt_succ (surroundings.drawn past greatest).isLt) (ih _ _)
  | sleep duration more ih => exact .sleep (ih _)
  | log event more ih => exact .log (ih _)
  | deliver keyId armored more ih => exact .deliver (ih _ _)

end Vouch.Keyserver.Job
