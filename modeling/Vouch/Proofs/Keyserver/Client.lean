import Mathlib.Tactic
import Vouch.Keyserver.Client
import Vouch.Proofs.Keyserver.Job.Course

/-!
What a client asks a server, and what it makes of the replies.

A query is sent again as long as the replies are failures that may pass and retries are left.  Its
answer is what the last reply says, so equal replies have equal answers: neither the pauses between
the retries nor anything that other jobs do matters.
-/

namespace Vouch.Keyserver

open Job (Course Exchange Delivery)

/-- Trying once more may lead to something else. -/
def IsPassing : Except Problem String → Prop
  | .ok _ => False
  | .error problem => problem.isTransient = true

inductive Asked (client : Client) (query : Query) :
    (left : Nat) → List Exchange → Except Problem String → Prop where
  | refused {left : Nat} {problem : ConfigProblem}
    (refused : client.request query = .error problem) :
    Asked client query left [] (.error (.config problem))
  | settled {left : Nat} {request : Request} {reply : Reply}
    (made : client.request query = .ok request)
    (final : left = 0 ∨ ¬IsPassing (reply.body query.subject)) :
    Asked client query left [⟨request, reply⟩] (reply.body query.subject)
  | again {left : Nat} {request : Request} {reply : Reply} {exchanges : List Exchange}
    {answer : Except Problem String} (made : client.request query = .ok request)
    (passing : IsPassing (reply.body query.subject))
    (later : Asked client query left exchanges answer) :
    Asked client query (left + 1) (⟨request, reply⟩ :: exchanges) answer

variable {client : Client} {query : Query} {left : Nat} {exchanges : List Exchange}
  {deliveries : List Delivery} {answer : Except Problem String}

def Agree {α : Type} (first second : List α) : Prop :=
  first <+: second ∨ second <+: first

theorem agree_cons_iff {α : Type} {a b : α} {first second : List α} :
    Agree (a :: first) (b :: second) ↔ a = b ∧ Agree first second := by
  unfold Agree
  rw [List.cons_prefix_cons, List.cons_prefix_cons, eq_comm (a := b), ← and_or_left]

namespace Asked

theorem request_of_mem (asked : Asked client query left exchanges answer) {exchange : Exchange}
    (member : exchange ∈ exchanges) : client.request query = .ok exchange.request := by
  induction asked with
  | refused => cases member
  | settled made _ =>
    rw [List.mem_singleton.mp member]
    exact made
  | again made _ _ ih =>
    obtain rfl | later := List.mem_cons.mp member
    · exact made
    · exact ih later

theorem length_le (asked : Asked client query left exchanges answer) :
    exchanges.length ≤ left + 1 := by
  induction asked with
  | refused => exact Nat.zero_le _
  | settled => exact Nat.le_add_left 1 _
  | again _ _ _ ih => exact Nat.succ_le_succ ih

theorem ne_nil_iff (asked : Asked client query left exchanges answer) :
    exchanges ≠ [] ↔ ∃ request, client.request query = .ok request := by
  cases asked with
  | refused refused =>
    rw [refused]
    simp
  | settled made _ => exact iff_of_true (List.cons_ne_nil _ _) ⟨_, made⟩
  | again made _ _ => exact iff_of_true (List.cons_ne_nil _ _) ⟨_, made⟩

/-- The answer is what the last reply says, if anything was sent. -/
theorem answer_eq (asked : Asked client query left exchanges answer) :
    (∃ problem, exchanges = [] ∧ answer = .error (.config problem)) ∨
      ∃ last, exchanges.getLast? = some last ∧ answer = last.reply.body query.subject := by
  induction asked with
  | refused => exact .inl ⟨_, rfl, rfl⟩
  | settled => exact .inr ⟨_, rfl, rfl⟩
  | again made _ later ih =>
    obtain ⟨problem, rfl, _⟩ | ⟨last, ends, same⟩ := ih
    · exact absurd rfl (later.ne_nil_iff.mpr ⟨_, made⟩)
    · refine .inr ⟨last, ?_, same⟩
      rw [List.getLast?_cons, ends, Option.getD_some]

/-- Equal replies have equal answers. -/
theorem answer_unique {first second : List Exchange} {other : Except Problem String}
    (asked : Asked client query left first answer) (again : Asked client query left second other)
    (same : Agree (first.map Exchange.reply) (second.map Exchange.reply)) : answer = other := by
  induction asked generalizing second with
  | refused refused =>
    cases again with
    | refused likewise =>
      cases refused.symm.trans likewise
      rfl
    | settled made _ => cases refused.symm.trans made
    | again made _ _ => cases refused.symm.trans made
  | settled made final =>
    cases again with
    | refused refused => cases refused.symm.trans made
    | settled _ _ =>
      obtain ⟨rfl, _⟩ := agree_cons_iff.mp same
      rfl
    | again _ passing _ =>
      obtain ⟨rfl, _⟩ := agree_cons_iff.mp same
      exact absurd passing (final.resolve_left (Nat.succ_ne_zero _))
  | again made passing later ih =>
    cases again with
    | refused refused => cases refused.symm.trans made
    | settled _ final =>
      obtain ⟨rfl, _⟩ := agree_cons_iff.mp same
      exact absurd passing (final.resolve_left (Nat.succ_ne_zero _))
    | again _ _ resumed => exact ih resumed (agree_cons_iff.mp same).2

end Asked

namespace Client

theorem course_attempt (course : Course (client.attempt query) exchanges deliveries answer) :
    deliveries = [] ∧
      ((∃ problem, client.request query = .error problem ∧ exchanges = [] ∧
          answer = .error (.config problem)) ∨
        ∃ request reply, client.request query = .ok request ∧ exchanges = [⟨request, reply⟩] ∧
          answer = reply.body query.subject) := by
  unfold attempt at course
  cases made : client.request query with
  | error problem =>
    rw [made] at course
    cases course
    exact ⟨rfl, .inl ⟨problem, rfl, rfl, rfl⟩⟩
  | ok request =>
    rw [made] at course
    cases course with
    | log sent =>
      cases sent with
      | send ended =>
        cases ended
        exact ⟨rfl, .inr ⟨request, _, rfl, rfl, rfl⟩⟩

theorem asked_of_course_askAgain {retry : Nat}
    (course : Course (client.askAgain query left retry) exchanges deliveries answer) :
    deliveries = [] ∧ Asked client query left exchanges answer := by
  induction left generalizing retry exchanges deliveries with
  | zero =>
    obtain ⟨rfl, ⟨problem, refused, rfl, rfl⟩ | ⟨request, reply, made, rfl, rfl⟩⟩ :=
      course_attempt course
    · exact ⟨rfl, .refused refused⟩
    · exact ⟨rfl, .settled made (.inl rfl)⟩
  | succ left ih =>
    obtain ⟨first, tried, later, given, taken, attempted, rest, rfl, rfl⟩ :=
      Job.course_bind course
    obtain ⟨rfl, ⟨problem, refused, rfl, rfl⟩ | ⟨request, reply, made, rfl, rfl⟩⟩ :=
      course_attempt attempted
    · cases rest
      exact ⟨rfl, .refused refused⟩
    · cases body : reply.body query.subject with
      | ok text =>
        rw [body] at rest
        cases rest
        have final : ¬IsPassing (reply.body query.subject) := by
          rw [body]
          exact id
        rw [← body]
        exact ⟨rfl, .settled made (.inr final)⟩
      | error problem =>
        rw [body] at rest
        dsimp only at rest
        split_ifs at rest with transient
        · cases rest with
          | draw bound logged =>
            cases logged with
            | log slept =>
              cases slept with
              | sleep resumed =>
                obtain ⟨rfl, asked⟩ := ih resumed
                have passing : IsPassing (reply.body query.subject) := by
                  rw [body]
                  exact transient
                exact ⟨rfl, .again made passing asked⟩
        · cases rest
          have final : ¬IsPassing (reply.body query.subject) := by
            rw [body]
            exact transient
          rw [← body]
          exact ⟨rfl, .settled made (.inr final)⟩

theorem asked_of_course_ask (course : Course (client.ask query) exchanges deliveries answer) :
    deliveries = [] ∧ Asked client query client.config.maxRetries.toNat exchanges answer :=
  asked_of_course_askAgain course

theorem course_searchTerm {term : String} {result : SearchResult}
    (course : Course (client.searchTerm term) exchanges deliveries result) :
    deliveries = [] ∧ ∃ answer,
      Asked client (.index term) client.config.maxRetries.toNat exchanges answer ∧
        result = resultOf (answer.bind (candidatesOf term)) := by
  obtain ⟨answer, first, second, given, taken, asking, rest, rfl, rfl⟩ := Job.course_bind course
  obtain ⟨rfl, asked⟩ := asked_of_course_ask asking
  cases candidates : answer.bind (candidatesOf term) with
  | ok keys =>
    rw [candidates] at rest
    cases rest
    rw [List.append_nil first]
    exact ⟨rfl, answer, asked, by rw [candidates]⟩
  | error problem =>
    rw [candidates] at rest
    cases rest with
    | log ended =>
      cases ended
      rw [List.append_nil first]
      exact ⟨rfl, answer, asked, by rw [candidates]⟩

theorem course_fetchTerm {term : String}
    (course : Course (client.fetchTerm term) exchanges deliveries answer) :
    deliveries = [] ∧ ∃ body,
      Asked client (.key term) client.config.maxRetries.toNat exchanges body ∧
        answer = body.bind (armoredIn term) := by
  obtain ⟨body, first, second, given, taken, asking, rest, rfl, rfl⟩ := Job.course_bind course
  obtain ⟨rfl, asked⟩ := asked_of_course_ask asking
  cases rest
  rw [List.append_nil first]
  exact ⟨rfl, body, asked, rfl⟩

def fateOf : Except Problem Unit → Import.Fate
  | .ok () => .imported
  | .error problem => .ofProblem problem

theorem course_concluded {keyId : String} {given : Except Problem Unit} {fate : Import.Fate}
    (course : Course (concluded keyId given) exchanges deliveries fate) :
    exchanges = [] ∧ deliveries = [] ∧ fate = fateOf given := by
  unfold concluded at course
  cases given with
  | ok done =>
    cases course with
    | log ended =>
      cases ended
      exact ⟨rfl, rfl, rfl⟩
  | error problem =>
    cases course with
    | log ended =>
      cases ended
      exact ⟨rfl, rfl, rfl⟩

/-- The import of a key asks for it.  Only what holds a key is delivered, and once; then the importer
says what becomes of the key, and otherwise the problem does. -/
theorem course_fetchAndImport {keyId : String} {fate : Import.Fate}
    (course : Course (client.fetchAndImport keyId) exchanges deliveries fate) :
    ∃ body, Asked client (.key (termFor keyId)) client.config.maxRetries.toNat exchanges body ∧
      ((∃ problem, body.bind (armoredIn (termFor keyId)) = .error problem ∧ deliveries = [] ∧
          fate = .ofProblem problem) ∨
        ∃ armored taken, body.bind (armoredIn (termFor keyId)) = .ok armored ∧
          deliveries = [⟨keyId, armored, taken⟩] ∧ fate = fateOf taken) := by
  obtain ⟨fetched, first, second, given, taken, fetching, rest, rfl, rfl⟩ := Job.course_bind course
  obtain ⟨rfl, body, asked, rfl⟩ := course_fetchTerm fetching
  cases outcome : body.bind (armoredIn (termFor keyId)) with
  | error problem =>
    rw [outcome] at rest
    obtain ⟨rfl, rfl, rfl⟩ := course_concluded rest
    rw [List.append_nil first]
    exact ⟨body, asked, .inl ⟨problem, outcome, rfl, rfl⟩⟩
  | ok armored =>
    rw [outcome] at rest
    cases rest with
    | deliver ended =>
      obtain ⟨rfl, rfl, rfl⟩ := course_concluded ended
      rw [List.append_nil first]
      exact ⟨body, asked, .inr ⟨armored, _, outcome, rfl, rfl⟩⟩

section Midst

variable {keyId : String} {answers : List Job.Answer}

theorem request_of_run? {request : Request} {next : Reply → Job Import.Fate}
    (ran : (client.fetchAndImport keyId).run? answers = some (.send request next)) :
    client.request (.key (termFor keyId)) = .ok request := by
  obtain ⟨before, given, _, _, onward⟩ := Job.exists_before_of_run? ran
  obtain ⟨later, taken, fate, course, _⟩ :=
    Job.exists_course (next (.answer 404 "")) (.answer 404 "")
  obtain ⟨body, asked, _⟩ := course_fetchAndImport (onward (.send course))
  have same : client.request (.key (termFor keyId)) =
      .ok (Exchange.mk request (.answer 404 "")).request := asked.request_of_mem (by simp)
  exact same

theorem body_of_armoredIn {term body armored : String} (held : armoredIn term body = .ok armored) :
    body = armored ∧ Text.mentions armored armorHeader = true := by
  unfold armoredIn at held
  split_ifs at held with mentioned
  cases held
  exact ⟨rfl, mentioned⟩

theorem answer_of_body {reply : Reply} {subject text : String}
    (successful : reply.body subject = .ok text) :
    ∃ status, isSuccess status = true ∧ reply = .answer status text := by
  unfold Reply.body at successful
  cases reply with
  | failure cause => cases successful
  | answer status body =>
    dsimp only at successful
    split_ifs at successful with success
    cases successful
    exact ⟨status, success, rfl⟩

/-- What the import of a key delivers is the body of a successful reply that it got, holds a key, and
is the first that it delivers. -/
theorem delivery_of_run? {name armored : String} {next : Except Problem Unit → Job Import.Fate}
    (ran : (client.fetchAndImport keyId).run? answers = some (.deliver name armored next)) :
    name = keyId ∧ Text.mentions armored armorHeader = true ∧ Job.takings answers = [] ∧
      ∃ status, isSuccess status = true ∧ .answer status armored ∈ Job.replies answers := by
  obtain ⟨before, given, replied, taken, onward⟩ := Job.exists_before_of_run? ran
  -- Whatever the import might still ask for fails from here on, so that the key it holds cannot come
  -- from a later reply.
  obtain ⟨later, others, fate, course, failing⟩ :=
    Job.exists_course (next (.ok ())) (.answer 404 "")
  obtain ⟨body, asked, ends⟩ := course_fetchAndImport (onward (.deliver course))
  obtain ⟨_, _, none_given, _⟩ | ⟨held, answer, fetched, once, _⟩ := ends
  · exact absurd none_given (by simp)
  · obtain ⟨rfl, first⟩ | ⟨_, none_left⟩ := List.append_eq_singleton_iff.mp once
    case inr => cases none_left
    cases first
    obtain ⟨text, rfl, inside⟩ :
        ∃ text, body = .ok text ∧ armoredIn (termFor keyId) text = .ok armored := by
      cases body with
      | error problem => cases fetched
      | ok text => exact ⟨text, rfl, fetched⟩
    obtain ⟨rfl, mentioned⟩ := body_of_armoredIn inside
    obtain ⟨_, _, refused⟩ | ⟨last, ends, said⟩ := asked.answer_eq
    · cases refused
    · obtain ⟨status, success, reply⟩ := answer_of_body said.symm
      have early : last ∈ before := by
        obtain early | late := List.mem_append.mp (List.mem_of_getLast? ends)
        · exact early
        · rw [failing last late] at reply
          cases reply
          cases success
      have got : last.reply ∈ Job.replies answers := by
        rw [← replied]
        exact List.mem_map_of_mem early
      exact ⟨rfl, mentioned, taken.symm, status, success, reply ▸ got⟩

end Midst

/-- What becomes of a key depends on nothing but the replies to its requests and the importer's answer
for it. -/
theorem fate_unique {keyId : String} {first second : List Exchange} {given taken : List Delivery}
    {fate other : Import.Fate} (course : Course (client.fetchAndImport keyId) first given fate)
    (again : Course (client.fetchAndImport keyId) second taken other)
    (replies : Agree (first.map Exchange.reply) (second.map Exchange.reply))
    (takings : Agree (given.map Delivery.answer) (taken.map Delivery.answer)) : fate = other := by
  obtain ⟨body, asked, ends⟩ := course_fetchAndImport course
  obtain ⟨_, askedAgain, endsAgain⟩ := course_fetchAndImport again
  cases asked.answer_unique askedAgain replies
  obtain ⟨problem, failed, rfl, rfl⟩ | ⟨armored, answer, fetched, rfl, rfl⟩ := ends
  · obtain ⟨_, likewise, rfl, rfl⟩ | ⟨_, _, fetched, _, _⟩ := endsAgain
    · cases failed.symm.trans likewise
      rfl
    · cases failed.symm.trans fetched
  · obtain ⟨_, failed, _, _⟩ | ⟨_, _, likewise, rfl, rfl⟩ := endsAgain
    · cases failed.symm.trans fetched
    · obtain ⟨rfl, _⟩ := agree_cons_iff.mp takings
      rfl

end Client

end Vouch.Keyserver
