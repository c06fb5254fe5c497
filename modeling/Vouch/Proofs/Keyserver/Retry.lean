import Mathlib.Tactic
import Vouch.Proofs.Keyserver.Client
import Vouch.Proofs.Keyserver.Transport

/-!
How often a query is tried, and how long a client pauses between the tries.

The tries end with the first reply that trying again cannot change, or when no retries are left.
Between two tries the client sleeps once, for a time drawn below a bound that doubles up to half a
minute.  Counters of 32 bits and bounds of 64 bits hold all the numbers on the way.
-/

namespace Vouch.Keyserver

open Job (Action Answer)

/-- Another try may bring something else: the server has failed without saying that there is too much,
or the network has failed without saying that the host is unknown. -/
def Reply.MayPass : Reply → Prop
  | .answer status body => 500 ≤ status ∧ status ≤ 599 ∧ ¬Text.Utters tooManyPhrase body.toList
  | .failure cause => cause.timedOut = true ∨
      ∀ text ∈ cause.causes, ∀ phrase ∈ lookupPhrases, ¬Text.Utters phrase text.toList

theorem isTransient_ofReply_iff {status : Nat} {body query : String} :
    (Problem.ofReply status body query).isTransient = true ↔
      500 ≤ status ∧ status ≤ 599 ∧ ¬Text.Utters tooManyPhrase body.toList := by
  rw [← Text.mentions_lower_eq_true_iff, ← mentionsAnyCase]
  unfold Problem.ofReply
  split_ifs with many vague unknown broken
  · refine iff_of_false Bool.false_ne_true ?_
    rintro ⟨least, -, silent⟩
    obtain rfl | said := many
    · omega
    · exact silent said
  · refine iff_of_false Bool.false_ne_true ?_
    rintro ⟨least, -⟩
    omega
  · refine iff_of_false Bool.false_ne_true ?_
    rintro ⟨least, -⟩
    omega
  · exact iff_of_true rfl ⟨broken.1, broken.2, fun said => many (.inr said)⟩
  · exact iff_of_false Bool.false_ne_true fun passing => broken ⟨passing.1, passing.2.1⟩

theorem isTransient_problem_iff {cause : Failure} :
    cause.problem.isTransient = true ↔ (Reply.failure cause).MayPass := by
  obtain ⟨timedOut, causes, host⟩ := cause
  cases timedOut with
  | true => exact iff_of_true rfl (.inl rfl)
  | false =>
    have resolved_iff : (Reply.failure ⟨false, causes, host⟩).MayPass ↔
        ¬Tells lookupPhrases causes := by
      simp [Reply.MayPass, Tells]
    rw [resolved_iff, Failure.problem]
    obtain ⟨unknown, told⟩ | ⟨resolved, -, told⟩ | ⟨resolved, -, told⟩ :=
      ofTransport_cases causes (host.getD "keyserver")
    · simp [told, unknown, Problem.isTransient]
    · simp [told, resolved, Problem.isTransient]
    · simp [told, resolved, Problem.isTransient]

/-- A reply is worth another try exactly if it may pass. -/
theorem isPassing_body_iff {reply : Reply} {subject : String} :
    IsPassing (reply.body subject) ↔ reply.MayPass := by
  cases reply with
  | answer status body =>
    unfold Reply.body
    by_cases success : isSuccess status = true
    · simp only [if_pos success]
      refine iff_of_false id ?_
      rintro ⟨least, -⟩
      simp only [isSuccess, Bool.and_eq_true, decide_eq_true_eq] at success
      omega
    · simp only [if_neg success]
      exact isTransient_ofReply_iff
  | failure cause => exact isTransient_problem_iff

namespace Job

variable {α : Type}

def Gets (outcomes : ℕ → Reply) (answers : List Answer) : Prop :=
  ∃ count, replies answers = (List.range count).map outcomes

theorem gets_of_replies_eq_nil {outcomes : ℕ → Reply} {answers : List Answer}
    (silent : replies answers = []) : Gets outcomes answers :=
  ⟨0, silent⟩

theorem gets_cons_iff {outcomes : ℕ → Reply} {reply : Reply} {answers : List Answer} :
    Gets outcomes (.reply reply :: answers) ↔
      reply = outcomes 0 ∧ Gets (fun i => outcomes (i + 1)) answers := by
  have first : replies (.reply reply :: answers) = reply :: replies answers := rfl
  unfold Gets
  rw [first]
  constructor
  · rintro ⟨count, same⟩
    cases count with
    | zero => cases same
    | succ count =>
      rw [List.range_succ_eq_map, List.map_cons, List.map_map] at same
      obtain ⟨rfl, later⟩ := List.cons.inj same
      exact ⟨rfl, count, later⟩
  · rintro ⟨rfl, count, later⟩
    refine ⟨count + 1, ?_⟩
    rw [List.range_succ_eq_map, List.map_cons, List.map_map, later]
    rfl

/-- What is done that others notice: everything but what is logged. -/
def deeds (job : Job α) (answers : List Answer) : List Action :=
  (job.actions answers).filter fun
    | .log _ => false
    | _ => true

theorem deeds_log (event : Log.Event) (next : Job α) (answers : List Answer) :
    (Job.log event next).deeds (.logged :: answers) = next.deeds answers :=
  rfl

theorem deeds_send (request : Request) (next : Reply → Job α) (reply : Reply)
    (answers : List Answer) :
    (Job.send request next).deeds (.reply reply :: answers) =
      .send request :: (next reply).deeds answers :=
  rfl

theorem deeds_draw {greatest n : Nat} (bound : n ≤ greatest) (next : Nat → Job α)
    (answers : List Answer) :
    (Job.draw greatest next).deeds (.drawn n :: answers) =
      .draw greatest :: (next n).deeds answers := by
  unfold deeds
  rw [actions, after?, if_pos bound]
  rfl

theorem deeds_sleep (duration : Nat) (next : Job α) (answers : List Answer) :
    (Job.sleep duration next).deeds (.woken :: answers) = .sleep duration :: next.deeds answers :=
  rfl

end Job

namespace Client

variable {client : Client} {query : Query} {request : Request} {left retry : Nat}
  {answers : List Answer} {result answer : Except Problem String}

def afterTry (client : Client) (query : Query) (left retry : Nat)
    (answer : Except Problem String) : Job (Except Problem String) :=
  match left, answer with
  | left + 1, .error problem =>
    if problem.isTransient then
      .draw (pauseCeiling (retry + 1)) fun n =>
        .log (client.retryEvent problem (retry + 1) (max n leastPause))
          (.sleep (max n leastPause) (client.askAgain query left (retry + 1)))
    else .done answer
  | _, _ => .done answer

theorem askAgain_eq (made : client.request query = .ok request) (left retry : Nat) :
    ∃ event, client.askAgain query left retry = .log event
      (.send request fun reply => client.afterTry query left retry (reply.body query.subject)) := by
  cases left with
  | zero =>
    rw [askAgain, attempt, made]
    exact ⟨_, rfl⟩
  | succ left =>
    rw [askAgain, attempt, made]
    refine ⟨_, congrArg (Job.log _) (congrArg (Job.send request) (funext fun reply => ?_))⟩
    dsimp only [Job.bind]
    cases reply.body query.subject with
    | ok text => rfl
    | error problem => rfl

theorem afterTry_of_final (final : left = 0 ∨ ¬IsPassing answer) :
    client.afterTry query left retry answer = .done answer := by
  cases left with
  | zero => rfl
  | succ left =>
    cases answer with
    | ok body => rfl
    | error problem =>
      rw [afterTry]
      exact if_neg (final.resolve_left (Nat.succ_ne_zero left))

theorem afterTry_of_isPassing (client : Client) (query : Query) (left retry : Nat)
    (passing : IsPassing answer) :
    ∃ event : Nat → Log.Event, client.afterTry query (left + 1) retry answer =
      .draw (pauseCeiling (retry + 1)) fun n =>
        .log (event n) (.sleep (max n leastPause) (client.askAgain query left (retry + 1))) := by
  cases answer with
  | ok body => exact passing.elim
  | error problem =>
    rw [afterTry]
    exact ⟨_, if_pos passing⟩

/-- A request that is sent `k` times again after some retries, when these numbers are drawn. -/
def triesFrom (request : Request) (retry : Nat) (drawn : ℕ → ℕ) (k : ℕ) : List Action :=
  (List.range k).flatMap (fun i => [.send request, .draw (pauseCeiling (retry + i + 1)),
    .sleep (max (drawn i) leastPause)]) ++ [.send request]

def script (outcomes : ℕ → Reply) (drawn : ℕ → ℕ) (k : ℕ) : List Answer :=
  (List.range k).flatMap (fun i => [.logged, .reply (outcomes i), .drawn (drawn i), .logged,
    .woken]) ++ [.logged, .reply (outcomes k)]

theorem triesFrom_succ (request : Request) (retry : Nat) (drawn : ℕ → ℕ) (k : ℕ) :
    triesFrom request retry drawn (k + 1) =
      .send request :: .draw (pauseCeiling (retry + 1)) :: .sleep (max (drawn 0) leastPause) ::
        triesFrom request (retry + 1) (fun i => drawn (i + 1)) k := by
  unfold triesFrom
  rw [List.range_succ_eq_map, List.flatMap_cons, List.flatMap_map]
  simp only [Nat.add_zero, Nat.succ_eq_add_one, Nat.add_comm, Nat.add_left_comm]
  rfl

theorem script_succ (outcomes : ℕ → Reply) (drawn : ℕ → ℕ) (k : ℕ) :
    script outcomes drawn (k + 1) = .logged :: .reply (outcomes 0) :: .drawn (drawn 0) ::
      .logged :: .woken :: script (fun i => outcomes (i + 1)) (fun i => drawn (i + 1)) k := by
  unfold script
  rw [List.range_succ_eq_map, List.flatMap_cons, List.flatMap_map]
  rfl

theorem isLeast_succ {passes : ℕ → Prop} {left k : ℕ}
    (last : IsLeast {i | i = left ∨ ¬passes i} (k + 1)) :
    ∃ fewer, left = fewer + 1 ∧ passes 0 ∧ IsLeast {i | i = fewer ∨ ¬passes (i + 1)} k := by
  have early : ¬(0 = left ∨ ¬passes 0) := fun ends => Nat.not_succ_le_zero k (last.2 ends)
  rw [not_or, not_not] at early
  obtain ⟨fewer, rfl⟩ := Nat.exists_eq_succ_of_ne_zero (Ne.symm early.1)
  refine ⟨fewer, rfl, early.2, last.1.imp_left Nat.succ.inj, fun i ends => ?_⟩
  exact Nat.le_of_succ_le_succ (last.2 (ends.imp_left (congrArg Nat.succ)))

variable {outcomes : ℕ → Reply} {k : ℕ}

theorem run?_askAgain_iff (made : client.request query = .ok request) :
    (client.askAgain query left retry).run? answers = some (.done result) ∧
        Job.Gets outcomes answers ↔
      ∃ rest, answers = .logged :: .reply (outcomes 0) :: rest ∧
        (client.afterTry query left retry ((outcomes 0).body query.subject)).run? rest =
          some (.done result) ∧ Job.Gets (fun i => outcomes (i + 1)) rest := by
  obtain ⟨event, opened⟩ := askAgain_eq made left retry
  rw [opened, Job.run?_log_iff]
  constructor
  · rintro ⟨⟨rest, rfl, sent⟩, gets⟩
    obtain ⟨reply, rest, rfl, ran⟩ := Job.run?_send_iff.mp sent
    obtain ⟨rfl, later⟩ := Job.gets_cons_iff.mp gets
    exact ⟨rest, rfl, ran, later⟩
  · rintro ⟨rest, rfl, ran, later⟩
    exact ⟨⟨_, rfl, Job.run?_send_iff.mpr ⟨_, rest, rfl, ran⟩⟩,
      Job.gets_cons_iff.mpr ⟨rfl, later⟩⟩

/-- The runs of a query against these replies, to their end, are the ones that ask until the first
reply that is final and draw numbers below the bounds. -/
theorem run?_askAgain_iff_script (made : client.request query = .ok request)
    (last : IsLeast {i | i = left ∨ ¬IsPassing ((outcomes i).body query.subject)} k) :
    (client.askAgain query left retry).run? answers = some (.done result) ∧
        Job.Gets outcomes answers ↔
      ∃ drawn : ℕ → ℕ, (∀ i < k, drawn i ≤ pauseCeiling (retry + i + 1)) ∧
        answers = script outcomes drawn k ∧ result = (outcomes k).body query.subject := by
  induction k generalizing left retry outcomes answers with
  | zero =>
    rw [run?_askAgain_iff made, afterTry_of_final (last.1.imp_left Eq.symm)]
    constructor
    · rintro ⟨rest, rfl, ran, -⟩
      obtain ⟨rfl, rfl⟩ := Job.run?_done_iff.mp ran
      exact ⟨fun _ => 0, fun i early => absurd early (Nat.not_lt_zero i), rfl, rfl⟩
    · rintro ⟨drawn, -, rfl, rfl⟩
      exact ⟨[], rfl, Job.run?_done_iff.mpr ⟨rfl, rfl⟩, Job.gets_of_replies_eq_nil rfl⟩
  | succ k ih =>
    obtain ⟨fewer, rfl, passing, later⟩ := isLeast_succ last
    obtain ⟨event, waits⟩ := afterTry_of_isPassing client query fewer retry passing
    rw [run?_askAgain_iff made, waits]
    constructor
    · rintro ⟨rest, rfl, waiting, gets⟩
      obtain ⟨n, rest, bound, rfl, logging⟩ := Job.run?_draw_iff.mp waiting
      obtain ⟨rest, rfl, sleeping⟩ := Job.run?_log_iff.mp logging
      obtain ⟨rest, rfl, resumed⟩ := Job.run?_sleep_iff.mp sleeping
      obtain ⟨drawn, bounds, rfl, rfl⟩ := (ih later).mp ⟨resumed, gets⟩
      let numbers : ℕ → ℕ := fun i => Nat.casesOn i n drawn
      refine ⟨numbers, ?_, (script_succ outcomes numbers k).symm, rfl⟩
      rintro (_ | i) early
      · exact bound
      · have within := bounds i (Nat.lt_of_succ_lt_succ early)
        rwa [Nat.add_right_comm retry 1 i] at within
    · rintro ⟨drawn, bounds, rfl, rfl⟩
      have resumed := (@ih fewer (retry + 1) _ _ later).mpr
        ⟨fun i => drawn (i + 1), fun i early => ?_, rfl, rfl⟩
      · exact ⟨_, script_succ .., Job.run?_draw_iff.mpr ⟨_, _, bounds 0 (Nat.succ_pos k), rfl,
          Job.run?_log_iff.mpr ⟨_, rfl, Job.run?_sleep_iff.mpr ⟨_, rfl, resumed.1⟩⟩⟩, resumed.2⟩
      · have within := bounds (i + 1) (Nat.succ_lt_succ early)
        rwa [Nat.add_right_comm retry 1 i]

theorem deeds_askAgain {drawn : ℕ → ℕ} (made : client.request query = .ok request)
    (last : IsLeast {i | i = left ∨ ¬IsPassing ((outcomes i).body query.subject)} k)
    (bounds : ∀ i < k, drawn i ≤ pauseCeiling (retry + i + 1)) :
    (client.askAgain query left retry).deeds (script outcomes drawn k) =
      triesFrom request retry drawn k := by
  obtain ⟨opening, opened⟩ := askAgain_eq made left retry
  induction k generalizing left retry outcomes drawn opening with
  | zero =>
    change (client.askAgain query left retry).deeds [.logged, .reply (outcomes 0)] = _
    rw [opened, Job.deeds_log, Job.deeds_send, afterTry_of_final (last.1.imp_left Eq.symm)]
    rfl
  | succ k ih =>
    obtain ⟨fewer, rfl, passing, later⟩ := isLeast_succ last
    obtain ⟨event, waits⟩ := afterTry_of_isPassing client query fewer retry passing
    obtain ⟨next, reopened⟩ := askAgain_eq made fewer (retry + 1)
    have bound : drawn 0 ≤ pauseCeiling (retry + 1) := bounds 0 (Nat.succ_pos k)
    have rest : ∀ i < k, drawn (i + 1) ≤ pauseCeiling (retry + 1 + i + 1) := by
      intro i early
      have within := bounds (i + 1) (Nat.succ_lt_succ early)
      rwa [Nat.add_right_comm retry 1 i]
    rw [opened, script_succ, Job.deeds_log, Job.deeds_send, waits, Job.deeds_draw bound,
      Job.deeds_log, Job.deeds_sleep, ih later rest next reopened, triesFrom_succ]

end Client

/-- The bound of a pause doubles until it is half a minute. -/
theorem pauseCeiling_eq (retry : Nat) : pauseCeiling retry = min (2 ^ retry) 30 * 1000 := by
  unfold pauseCeiling greatestCeiling lastDoubling
  obtain few | many := Nat.lt_or_ge retry 5
  · rw [Nat.min_eq_left few.le]
    interval_cases retry <;> rfl
  · have long : 2 ^ 5 ≤ 2 ^ retry := Nat.pow_le_pow_right (by decide) many
    have least : 30 ≤ 2 ^ retry := Nat.le_trans (by decide) long
    rw [Nat.min_eq_right many, Nat.min_eq_right least]
    rfl

/-- The bound of a pause in machine words: the seconds by a shift in 64 bits, in milliseconds. -/
def wordCeiling (retry : UInt32) : UInt64 :=
  min ((1 : UInt64) <<< (min retry 5).toUInt64) 30 * 1000

theorem toNat_wordCeiling (retry : UInt32) :
    (min retry 5).toNat < 64 ∧ (wordCeiling retry).toNat = pauseCeiling retry.toNat := by
  obtain few | many := Nat.lt_or_ge retry.toNat 5
  · have small : ∀ n < 5, (min (UInt32.ofNat n) 5).toNat < 64 ∧
        (wordCeiling (UInt32.ofNat n)).toNat = pauseCeiling n := by decide
    have word := small retry.toNat few
    rwa [UInt32.ofNat_toNat] at word
  · have clipped : min retry 5 = 5 := by
      change (if retry ≤ 5 then retry else 5) = 5
      split_ifs with low
      · exact UInt32.toNat_inj.mp (Nat.le_antisymm (UInt32.le_iff_toNat_le.mp low) many)
      · rfl
    unfold wordCeiling pauseCeiling lastDoubling
    rw [clipped, Nat.min_eq_right many]
    decide

namespace Client

variable {client : Client} {query : Query} {outcomes : ℕ → Reply} {answers : List Answer}
  {result : Except Problem String} {k : ℕ}

/-- What a try comes to when this is the reply.  Without a request there is nothing to reply to. -/
def outcome (client : Client) (query : Query) (reply : Reply) : Except Problem String :=
  match client.request query with
  | .ok _ => reply.body query.subject
  | .error problem => .error (.config problem)

def sends (client : Client) (query : Query) : List Action :=
  match client.request query with
  | .ok request => [.send request]
  | .error _ => []

/-- What is done for a query that is tried once and then `k` times again, when these numbers are
drawn for the pauses.  All times are in milliseconds. -/
def tries (client : Client) (query : Query) (drawn : ℕ → ℕ) (k : ℕ) : List Action :=
  (List.range k).flatMap (fun i => client.sends query ++
    [.draw (min (2 ^ (i + 1)) 30 * 1000), .sleep (max (drawn i) 10)]) ++ client.sends query

/-- A client tries a query once and then `k` times again while these are the replies. -/
structure Retried (client : Client) (query : Query) (outcomes : ℕ → Reply) (k : ℕ) : Prop where
  /-- The last try is the first one whose outcome is final, or the last that there may be. -/
  last : IsLeast {i | i = client.config.maxRetries.toNat ∨
    ¬IsPassing (client.outcome query (outcomes i))} k
  /-- Whatever is drawn for the pauses, the query comes to its end like this. -/
  ends : ∀ drawn : ℕ → ℕ, (∀ i < k, drawn i ≤ min (2 ^ (i + 1)) 30 * 1000) →
    ∃ answers, Job.Gets outcomes answers ∧
      (client.ask query).run? answers = some (.done (client.outcome query (outcomes k))) ∧
      (client.ask query).deeds answers = client.tries query drawn k
  only : ∀ answers result, Job.Gets outcomes answers →
    (client.ask query).run? answers = some (.done result) →
      result = client.outcome query (outcomes k) ∧
        ∃ drawn : ℕ → ℕ, (∀ i < k, drawn i ≤ min (2 ^ (i + 1)) 30 * 1000) ∧
          (client.ask query).deeds answers = client.tries query drawn k
  counter : ∀ retries : UInt32, retries.toNat < k → (retries + 1).toNat = retries.toNat + 1

theorem askAgain_of_request_eq_error {problem : ConfigProblem}
    (refused : client.request query = .error problem) (left retry : Nat) :
    client.askAgain query left retry = .done (.error (.config problem)) := by
  cases left with
  | zero =>
    rw [askAgain, attempt, refused]
  | succ left =>
    rw [askAgain, attempt, refused]
    rfl

theorem retried_of_request_eq_error {problem : ConfigProblem}
    (refused : client.request query = .error problem) : client.Retried query outcomes 0 := by
  have asked : client.ask query = .done (.error (.config problem)) :=
    askAgain_of_request_eq_error refused _ 0
  have come (reply : Reply) : client.outcome query reply = .error (.config problem) := by
    rw [outcome, refused]
  have silent (drawn : ℕ → ℕ) : client.tries query drawn 0 = [] := by
    rw [tries, sends, refused]
    rfl
  constructor
  case last =>
    refine ⟨.inr ?_, fun i _ => Nat.zero_le i⟩
    rw [come]
    exact Bool.false_ne_true
  case ends =>
    intro drawn _
    rw [asked, come, silent]
    exact ⟨[], Job.gets_of_replies_eq_nil rfl, rfl, rfl⟩
  case only =>
    intro answers result _ ran
    rw [asked] at ran ⊢
    obtain ⟨rfl, rfl⟩ := Job.run?_done_iff.mp ran
    refine ⟨(come _).symm, fun _ => 0, fun i early => absurd early (Nat.not_lt_zero i), ?_⟩
    rw [silent]
    rfl
  case counter =>
    intro retries early
    exact absurd early (Nat.not_lt_zero _)

theorem tries_eq {request : Request} (made : client.request query = .ok request) (drawn : ℕ → ℕ)
    (k : ℕ) : client.tries query drawn k = triesFrom request 0 drawn k := by
  unfold tries triesFrom sends
  simp only [made, pauseCeiling_eq, Nat.zero_add]
  rfl

theorem retried_of_request_eq_ok {request : Request} (made : client.request query = .ok request)
    (last : IsLeast {i | i = client.config.maxRetries.toNat ∨
      ¬IsPassing ((outcomes i).body query.subject)} k) : client.Retried query outcomes k := by
  have come (reply : Reply) : client.outcome query reply = reply.body query.subject := by
    rw [outcome, made]
  have below {drawn : ℕ → ℕ} : (∀ i < k, drawn i ≤ min (2 ^ (i + 1)) 30 * 1000) ↔
      ∀ i < k, drawn i ≤ pauseCeiling (0 + i + 1) := by
    simp only [pauseCeiling_eq, Nat.zero_add]
  constructor
  case last =>
    simp only [come]
    exact last
  case ends =>
    intro drawn bounds
    obtain ⟨ran, gets⟩ := (run?_askAgain_iff_script made last).mpr
      ⟨drawn, below.mp bounds, rfl, rfl⟩
    rw [come, tries_eq made]
    exact ⟨_, gets, ran, deeds_askAgain made last (below.mp bounds)⟩
  case only =>
    intro answers result gets ran
    obtain ⟨drawn, bounds, rfl, rfl⟩ := (run?_askAgain_iff_script made last).mp ⟨ran, gets⟩
    refine ⟨(come _).symm, drawn, below.mpr bounds, ?_⟩
    rw [tries_eq made]
    exact deeds_askAgain made last bounds
  case counter =>
    intro retries early
    have most : k ≤ client.config.maxRetries.toNat := last.2 (.inl rfl)
    have fits := client.config.maxRetries.toNat_lt
    rw [UInt32.toNat_add, UInt32.toNat_one]
    exact Nat.mod_eq_of_lt (by omega)

/-- A query is tried until an outcome is final or no retries are left, with one pause before each
retry.  Outcomes are final unless the server or the network failed in a way that may pass.  Neither
the counter of the retries nor the shift that bounds the pauses overflows its word. -/
theorem tried_until_settled (client : Client) (query : Query) :
    (∀ outcomes : ℕ → Reply, ∃ k, client.Retried query outcomes k) ∧
      (∀ reply : Reply, IsPassing (reply.body query.subject) ↔ reply.MayPass) ∧
      ∀ retry : UInt32, (min retry 5).toNat < 64 ∧
        (wordCeiling retry).toNat = min (2 ^ retry.toNat) 30 * 1000 := by
  refine ⟨fun outcomes => ?_, fun reply => isPassing_body_iff, fun retry => ?_⟩
  · cases made : client.request query with
    | error problem => exact ⟨0, retried_of_request_eq_error made⟩
    | ok request =>
      let final : Set ℕ := {i | i = client.config.maxRetries.toNat ∨
        ¬IsPassing ((outcomes i).body query.subject)}
      have last : IsLeast final (sInf final) :=
        ⟨Nat.sInf_mem ⟨_, .inl rfl⟩, fun _ member => Nat.sInf_le member⟩
      exact ⟨_, retried_of_request_eq_ok made last⟩
  · rw [← pauseCeiling_eq]
    exact toNat_wordCeiling retry

end Client

end Vouch.Keyserver
