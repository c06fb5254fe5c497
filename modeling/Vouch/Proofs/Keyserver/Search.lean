import Mathlib.Tactic
import Vouch.Proofs.Key.Name
import Vouch.Proofs.Keyserver.Client
import Vouch.Proofs.Keyserver.Lookup

/-!
Which requests a search sends, and what its result says about the replies.

A search asks for its term, and once more with `0x` before it if the term is a bare key ID that was
not found.  It finds exactly the keys that the last reply lists.  It finds nothing only if the server
said so for everything that was asked.
-/

namespace Vouch.Keyserver

open Job (Course Exchange Delivery Surroundings)
open Client (resultOf candidatesOf)

/-- The server says that there is no key: it knows nothing, or its list is empty.  It does not say
that there are too many. -/
def FindsNothing : Reply → Prop
  | .answer status body =>
    (status = 404 ∨ isSuccess status = true ∧ Listing.read body = []) ∧
      mentionsAnyCase body tooManyPhrase = false
  | .failure _ => False

def Lists (keys : List Candidate) : Reply → Prop
  | .answer status body => isSuccess status = true ∧ Listing.read body = keys
  | .failure _ => False

def EndsWith (property : Reply → Prop) (exchanges : List Exchange) : Prop :=
  ∃ last, exchanges.getLast? = some last ∧ property last.reply

/-- The exchanges are the client's requests for the term, no more than one and the retries.  Each of
them gets the lookup page of the server for the list of the term, and for nothing else. -/
def Client.AsksFor (client : Client) (term : String) (exchanges : List Exchange) : Prop :=
  (∀ exchange ∈ exchanges, client.request (.index term) = .ok exchange.request ∧
      ∀ op asked, exchange.request.Queries client.server op asked ↔ op = "index" ∧ asked = term) ∧
    exchanges.length ≤ client.config.maxRetries.toNat + 1

/-- A search for a term has this result after some exchanges for the term and then some more. -/
structure Conducted (client : Client) (term : String) (first second : List Exchange)
    (result : SearchResult) : Prop where
  asks : client.AsksFor term first
  /-- It is asked at all exactly if the server has the page. -/
  asks_iff : first ≠ [] ↔ ∃ page, Url.read (client.server ++ "/pks/lookup") = .ok page
  asksAgain : client.AsksFor ("0x" ++ term) second
  /-- It is asked again exactly if a bare key ID was not found. -/
  again_iff : second ≠ [] ↔ Key.BareId term ∧ EndsWith FindsNothing first
  found_iff : ∀ keys, result = .found keys ↔ keys ≠ [] ∧ EndsWith (Lists keys) (first ++ second)
  /-- A bare key ID is not found only if it was not found in either form. -/
  notFound_iff : result = .notFound ↔ EndsWith FindsNothing (first ++ second) ∧
    (Key.BareId term → EndsWith FindsNothing first ∧ EndsWith FindsNothing second)

variable {term : String} {status : Nat} {body : String}

def Reply.searchResult (reply : Reply) (term : String) : SearchResult :=
  resultOf ((reply.body term).bind (candidatesOf term))

theorem searchResult_of_failure (cause : Failure) (term : String) :
    (Reply.failure cause).searchResult term = .timeout ∨
      (Reply.failure cause).searchResult term = .unknownServer ∨
      (Reply.failure cause).searchResult term = .connectionError := by
  change SearchResult.ofProblem cause.problem = _ ∨ SearchResult.ofProblem cause.problem = _ ∨
    SearchResult.ofProblem cause.problem = _
  unfold Failure.problem Problem.ofTransport
  split_ifs
  · exact .inl rfl
  · exact .inr (.inl rfl)
  · exact .inl rfl
  · exact .inr (.inr rfl)

theorem searchResult_of_isSuccess (success : isSuccess status = true) :
    (Reply.answer status body).searchResult term = resultOf (candidatesOf term body) := by
  unfold Reply.searchResult
  simp only [Reply.body, if_pos success]
  rfl

theorem searchResult_of_not_isSuccess (failed : ¬isSuccess status = true) :
    (Reply.answer status body).searchResult term =
      .ofProblem (.ofReply status body term) := by
  unfold Reply.searchResult
  simp only [Reply.body, if_neg failed]
  rfl

theorem resultOf_candidatesOf_eq_notFound_iff :
    resultOf (candidatesOf term body) = .notFound ↔
      Listing.read body = [] ∧ mentionsAnyCase body tooManyPhrase = false := by
  unfold candidatesOf
  cases listed : Listing.read body with
  | nil =>
    by_cases many : mentionsAnyCase body tooManyPhrase = true
    · simp [many, resultOf, SearchResult.ofProblem]
    · simp [many, resultOf]
  | cons key keys => simp [resultOf]

theorem resultOf_candidatesOf_eq_found_iff {keys : List Candidate} :
    resultOf (candidatesOf term body) = .found keys ↔ keys ≠ [] ∧ Listing.read body = keys := by
  unfold candidatesOf
  cases listed : Listing.read body with
  | nil =>
    by_cases many : mentionsAnyCase body tooManyPhrase = true
    · simp [many, resultOf, SearchResult.ofProblem]
    · simp [many, resultOf]
  | cons key others =>
    simp only [resultOf, SearchResult.found.injEq]
    constructor
    · rintro rfl
      exact ⟨List.cons_ne_nil _ _, rfl⟩
    · exact And.right

theorem ofProblem_ofReply_eq_notFound_iff :
    SearchResult.ofProblem (.ofReply status body term) = .notFound ↔
      status = 404 ∧ mentionsAnyCase body tooManyPhrase = false := by
  unfold Problem.ofReply
  split_ifs with many vague unknown broken
  · refine iff_of_false SearchResult.noConfusion ?_
    rintro ⟨rfl, silent⟩
    rw [silent] at many
    simp at many
  · refine iff_of_false SearchResult.noConfusion ?_
    rintro ⟨rfl, _⟩
    cases vague.1
  · rw [not_or, Bool.not_eq_true] at many
    exact iff_of_true rfl ⟨unknown, many.2⟩
  · exact iff_of_false SearchResult.noConfusion fun found => unknown found.1
  · exact iff_of_false SearchResult.noConfusion fun found => unknown found.1

theorem ofProblem_ne_found (problem : Problem) (keys : List Candidate) :
    SearchResult.ofProblem problem ≠ .found keys := by
  intro found
  cases problem <;> cases found

/-- A search ends without a key exactly if the server says that there is none. -/
theorem searchResult_eq_notFound_iff (reply : Reply) (term : String) :
    reply.searchResult term = .notFound ↔ FindsNothing reply := by
  cases reply with
  | failure cause =>
    refine iff_of_false ?_ id
    obtain timeout | unknown | broken := searchResult_of_failure cause term
    · rw [timeout]
      exact SearchResult.noConfusion
    · rw [unknown]
      exact SearchResult.noConfusion
    · rw [broken]
      exact SearchResult.noConfusion
  | answer status body =>
    unfold FindsNothing
    by_cases success : isSuccess status = true
    · have known : status ≠ 404 := by
        rintro rfl
        cases success
      rw [searchResult_of_isSuccess success, resultOf_candidatesOf_eq_notFound_iff]
      simp [success, known]
    · rw [searchResult_of_not_isSuccess success, ofProblem_ofReply_eq_notFound_iff]
      simp [success]

/-- A search finds exactly the keys that the server lists, if there are any. -/
theorem searchResult_eq_found_iff (reply : Reply) (term : String) (keys : List Candidate) :
    reply.searchResult term = .found keys ↔ keys ≠ [] ∧ Lists keys reply := by
  cases reply with
  | failure cause => exact iff_of_false (ofProblem_ne_found cause.problem keys) And.right
  | answer status body =>
    unfold Lists
    by_cases success : isSuccess status = true
    · rw [searchResult_of_isSuccess success, resultOf_candidatesOf_eq_found_iff]
      simp [success]
    · rw [searchResult_of_not_isSuccess success]
      exact iff_of_false (ofProblem_ne_found _ keys) fun found => success found.2.1

variable {client : Client} {query : String} {left : Nat} {exchanges first second : List Exchange}
  {deliveries : List Delivery} {answer : Except Problem String} {property : Reply → Prop}
  {result : SearchResult}

theorem endsWith_iff {last : Exchange} (ends : exchanges.getLast? = some last) :
    EndsWith property exchanges ↔ property last.reply := by
  constructor
  · rintro ⟨other, same, holds⟩
    cases ends.symm.trans same
    exact holds
  · intro holds
    exact ⟨last, ends, holds⟩

theorem not_endsWith_nil : ¬EndsWith property [] := by
  rintro ⟨last, ⟨⟩, _⟩

theorem endsWith_append_iff (asked : second ≠ []) :
    EndsWith property (first ++ second) ↔ EndsWith property second := by
  unfold EndsWith
  rw [List.getLast?_append_of_ne_nil _ asked]

namespace Asked

theorem asksFor
    (asked : Asked client (.index term) client.config.maxRetries.toNat exchanges answer) :
    client.AsksFor term exchanges := by
  refine ⟨fun exchange member => ?_, asked.length_le⟩
  have made := asked.request_of_mem member
  exact ⟨made, Client.queries_iff made⟩

theorem index_ne_nil_iff (asked : Asked client (.index term) left exchanges answer) :
    exchanges ≠ [] ↔ ∃ page, Url.read (client.server ++ "/pks/lookup") = .ok page :=
  asked.ne_nil_iff.trans (client.exists_lookupRequest_iff "index" term)

theorem resultOf_eq_notFound_iff (asked : Asked client (.index term) left exchanges answer) :
    resultOf (answer.bind (candidatesOf term)) = .notFound ↔ EndsWith FindsNothing exchanges := by
  obtain ⟨problem, rfl, rfl⟩ | ⟨last, ends, rfl⟩ := asked.answer_eq
  · exact iff_of_false SearchResult.noConfusion not_endsWith_nil
  · rw [endsWith_iff ends]
    exact searchResult_eq_notFound_iff last.reply term

theorem resultOf_eq_found_iff (asked : Asked client (.index term) left exchanges answer)
    (keys : List Candidate) :
    resultOf (answer.bind (candidatesOf term)) = .found keys ↔
      keys ≠ [] ∧ EndsWith (Lists keys) exchanges := by
  obtain ⟨problem, rfl, rfl⟩ | ⟨last, ends, rfl⟩ := asked.answer_eq
  · exact iff_of_false SearchResult.noConfusion fun found => not_endsWith_nil found.2
  · rw [endsWith_iff ends]
    exact searchResult_eq_found_iff last.reply term keys

end Asked

theorem conducted_once
    (asked : Asked client (.index term) client.config.maxRetries.toNat first answer)
    (once : ¬(Key.BareId term ∧ EndsWith FindsNothing first)) :
    Conducted client term first [] (resultOf (answer.bind (candidatesOf term))) where
  asks := asked.asksFor
  asks_iff := asked.index_ne_nil_iff
  asksAgain := ⟨fun _ member => absurd member List.not_mem_nil, Nat.zero_le _⟩
  again_iff := iff_of_false (fun asked => asked rfl) once
  found_iff := by
    intro keys
    rw [List.append_nil]
    exact asked.resultOf_eq_found_iff keys
  notFound_iff := by
    rw [List.append_nil, asked.resultOf_eq_notFound_iff]
    constructor
    · intro missing
      exact ⟨missing, fun bare => absurd ⟨bare, missing⟩ once⟩
    · exact And.left

theorem conducted_twice {again : Except Problem String}
    (asked : Asked client (.index term) client.config.maxRetries.toNat first answer)
    (bare : Key.BareId term) (missing : EndsWith FindsNothing first)
    (askedAgain :
      Asked client (.index ("0x" ++ term)) client.config.maxRetries.toNat second again) :
    Conducted client term first second (resultOf (again.bind (candidatesOf ("0x" ++ term)))) := by
  have sent : second ≠ [] := by
    have begun : first ≠ [] := by
      rintro rfl
      exact not_endsWith_nil missing
    exact askedAgain.index_ne_nil_iff.mpr (asked.index_ne_nil_iff.mp begun)
  refine
    { asks := asked.asksFor, asks_iff := asked.index_ne_nil_iff, asksAgain := askedAgain.asksFor
      again_iff := iff_of_true sent ⟨bare, missing⟩, found_iff := ?_, notFound_iff := ?_ }
  · intro keys
    rw [endsWith_append_iff sent]
    exact askedAgain.resultOf_eq_found_iff keys
  · rw [endsWith_append_iff sent, askedAgain.resultOf_eq_notFound_iff]
    constructor
    · intro still
      exact ⟨still, fun _ => ⟨missing, still⟩⟩
    · exact And.left

theorem conducted_of_course (course : Course (client.search query) exchanges deliveries result) :
    solidCount (Text.trim query) < 3 ∧ exchanges = [] ∧ result = .insufficientQuery ∨
      3 ≤ solidCount (Text.trim query) ∧ ∃ first second, exchanges = first ++ second ∧
        Conducted client (Text.trim query) first second result := by
  unfold Client.search at course
  by_cases short : solidCount (Text.trim query) < 3
  · have tooShort : isTooShort (Text.trim query) = true := decide_eq_true short
    rw [if_pos tooShort] at course
    cases course with
    | log ended =>
      cases ended
      exact .inl ⟨short, rfl, rfl⟩
  · have long : ¬isTooShort (Text.trim query) = true := fun tooShort =>
      short (of_decide_eq_true tooShort)
    rw [if_neg long] at course
    refine .inr ⟨not_lt.mp short, ?_⟩
    obtain ⟨found, first, second, given, taken, searching, rest, rfl, rfl⟩ :=
      Job.course_bind course
    obtain ⟨rfl, answer, asked, rfl⟩ := Client.course_searchTerm searching
    have missing_iff := asked.resultOf_eq_notFound_iff
    split at rest
    next missing =>
      by_cases bare : Key.isBareKeyId (Text.trim query) = true
      · rw [if_pos bare] at rest
        cases rest with
        | log marked =>
          obtain ⟨rfl, again, askedAgain, rfl⟩ := Client.course_searchTerm marked
          exact ⟨first, second, rfl, conducted_twice asked
            ((Key.isBareKeyId_trim_iff query).mp bare) (missing_iff.mp missing) askedAgain⟩
      · rw [if_neg bare] at rest
        cases rest
        rw [← missing]
        refine ⟨first, [], rfl, conducted_once asked ?_⟩
        intro both
        exact bare ((Key.isBareKeyId_trim_iff query).mpr both.1)
    next other =>
      cases rest
      refine ⟨first, [], rfl, conducted_once asked ?_⟩
      intro both
      exact other (missing_iff.mpr both.2)

/-- A search that may meet any server, whose replies may depend on all that passed before.  If its
term is too short nothing is sent.  Otherwise the term is asked for, and once more with `0x` before it
exactly if it is a bare key ID that was not found, each with no more requests than one and the
retries.  The keys that are found are those of the last reply, and nothing is found only if the server
said so for all that was asked. -/
theorem search_conducted (client : Client) (query : String) (surroundings : Surroundings) :
    let term := Text.trim query
    let played := surroundings.play [] (client.search query)
    solidCount term < 3 ∧ played.exchanges = [] ∧ played.result = .insufficientQuery ∨
      3 ≤ solidCount term ∧ ∃ first second, played.exchanges = first ++ second ∧
        Conducted client term first second played.result :=
  conducted_of_course (Job.course_play surroundings [] (client.search query))

/-- A bare key ID that the server does not know is asked for twice. -/
example :
    let client : Client := ⟨Config.standard, "https://keys.openpgp.org"⟩
    let ignorant : Surroundings := ⟨fun _ _ => .answer 404 "", fun _ _ => 0, fun _ _ _ => .ok ()⟩
    let played := ignorant.play [] (client.search "0123abcd")
    played.exchanges.length = 2 ∧ played.result = .notFound := by
  decide +kernel

end Vouch.Keyserver
