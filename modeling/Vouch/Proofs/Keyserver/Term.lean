import Mathlib.Tactic
import Vouch.Proofs.Key.Spelling
import Vouch.Proofs.Keyserver.Batch.Work
import Vouch.Proofs.Keyserver.Search

/-!
How short the terms are that a server is asked for.

The term of a key holds no fewer solid characters than the name that was given for it, so a search or
a fetch that refuses short names never sends a short term.  A batch refuses no name: it asks for every
key that it works on, and the term of a name that comes down to nothing is a mere mark.
-/

namespace Vouch.Keyserver

open Job (Course Exchange Delivery Surroundings)

section Length

theorem solidCount_normal (name : String) :
    solidCount (Key.normal name) =
      (Text.withoutBlanks (Key.withoutMark (Text.trimChars name.toList))).length := by
  rw [solidCount, Key.normal, String.toList_ofList,
    Text.withoutBlanks_of_solid (Key.solid_normalChars name.toList), Key.normalChars, List.length_map]

theorem solidCount_trim (text : String) : solidCount (Text.trim text) = solidCount text := by
  rw [solidCount, Text.trim, String.toList_ofList, Key.withoutBlanks_trimChars, solidCount]

theorem solidCount_marked (text : String) : solidCount ("0x" ++ text) = 2 + solidCount text := by
  have mark : Text.withoutBlanks "0x".toList = ['0', 'x'] := by decide
  rw [solidCount, String.toList_append, Text.withoutBlanks_append, mark, List.length_append]
  rfl

/-- Only a mark is taken away from a name, and it comes back in the term. -/
theorem solidCount_le_termFor (name : String) : solidCount name ≤ solidCount (termFor name) := by
  obtain ⟨mark, short, parts⟩ : ∃ mark : List Char, mark.length ≤ 2 ∧
      Text.trimChars name.toList = mark ++ Key.withoutMark (Text.trimChars name.toList) := by
    obtain bare | small | capital := Key.withoutMark_cases (Text.trimChars name.toList)
    · exact ⟨[], Nat.zero_le _, bare⟩
    · exact ⟨['0', 'x'], le_rfl, small⟩
    · exact ⟨['0', 'X'], le_rfl, capital⟩
  have cut : (Text.withoutBlanks mark).length ≤ 2 := (List.length_filter_le _ _).trans short
  calc
    solidCount name = (Text.withoutBlanks (Text.trimChars name.toList)).length := by
      rw [Key.withoutBlanks_trimChars, solidCount]
    _ = (Text.withoutBlanks mark).length + solidCount (Key.normal name) := by
      rw [parts, Text.withoutBlanks_append, List.length_append, ← solidCount_normal]
    _ ≤ 2 + solidCount (Key.normal name) := Nat.add_le_add_right cut _
    _ = solidCount (termFor name) := by rw [termFor, solidCount_marked]

/-- The term of a key is too short exactly if nothing is left of its name. -/
theorem three_le_solidCount_termFor_iff (name : String) :
    3 ≤ solidCount (termFor name) ↔ solidCount (Key.normal name) ≠ 0 := by
  rw [termFor, solidCount_marked]
  omega

end Length

def Client.LooksUp (client : Client) (query : String → Query) (exchange : Exchange) : Prop :=
  ∃ term, 3 ≤ solidCount term ∧ client.request (query term) = .ok exchange.request

variable {client : Client} {exchanges : List Exchange} {deliveries : List Delivery}

theorem looksUp_of_course_search {query : String} {result : SearchResult}
    (course : Course (client.search query) exchanges deliveries result) :
    (∀ exchange ∈ exchanges, client.LooksUp .index exchange) ∧
      (solidCount query < 3 → exchanges = [] ∧ result = .insufficientQuery) := by
  have trimmed := solidCount_trim query
  obtain ⟨_, rfl, rfl⟩ | ⟨long, first, second, rfl, conducted⟩ := conducted_of_course course
  · exact ⟨by simp, fun _ => ⟨rfl, rfl⟩⟩
  · constructor
    · intro exchange member
      obtain early | late := List.mem_append.mp member
      · exact ⟨Text.trim query, long, (conducted.asks.1 exchange early).1⟩
      · refine ⟨"0x" ++ Text.trim query, ?_, (conducted.asksAgain.1 exchange late).1⟩
        rw [solidCount_marked]
        omega
    · intro short
      omega

theorem looksUp_of_course_fetch {name : String} {answer : Except Problem String}
    (course : Course (client.fetch name) exchanges deliveries answer) :
    (∀ exchange ∈ exchanges, client.LooksUp .key exchange) ∧
      (solidCount name < 3 ∨ solidCount (termFor name) < 3 →
        exchanges = [] ∧ answer = .error (.insufficientQuery name)) := by
  have grown := solidCount_le_termFor name
  unfold Client.fetch at course
  by_cases short : solidCount name < 3
  · have tooShort : isTooShort name = true := decide_eq_true short
    rw [if_pos tooShort] at course
    cases course
    exact ⟨by simp, fun _ => ⟨rfl, rfl⟩⟩
  · have long : ¬isTooShort name = true := fun tooShort => short (of_decide_eq_true tooShort)
    rw [if_neg long] at course
    obtain ⟨_, body, asked, _⟩ := Client.course_fetchTerm course
    constructor
    · intro exchange member
      exact ⟨termFor name, by omega, asked.request_of_mem member⟩
    · intro shorter
      omega

namespace Batch

variable {plan : Plan} {events : List Event} {batch : Batch} {position : Nat}

/-- Of a key whose work is over it is known whether it was asked for: it was, if the server has an
address. -/
theorem asked_of_settled {keyIds : List String} {slots : Nat} {cancelRequested : Bool}
    (ran : (initial { client.plan keyIds with slots } cancelRequested).run? events = some batch)
    {fate : Import.Fate} (settled : batch.settled.lookup position = some fate) :
    ∃ keyId, keyIds[position]? = some keyId ∧
      (Job.replies (answersTo position events) ≠ [] ↔
        ∃ request, client.request (.key (termFor keyId)) = .ok request) := by
  cases standing_of_run? ran position with
  | untried _ _ unsettled => cases unsettled.symm.trans settled
  | worked _ _ _ unsettled => cases unsettled.symm.trans settled
  | dead _ _ unsettled => cases unsettled.symm.trans settled
  | settled _ _ _ _ reached =>
    obtain ⟨keyId, listed, reached⟩ := reached
    obtain ⟨exchanges, deliveries, course, replied, _⟩ := Job.course_of_run? reached
    obtain ⟨body, asked, _⟩ := Client.course_fetchAndImport course
    refine ⟨keyId, listed, ?_⟩
    rw [← replied, ne_eq, List.map_eq_nil_iff]
    exact asked.ne_nil_iff

end Batch

/-- How long the terms are that are sent, whatever the server answers.  A search and a fetch never
look up a term with fewer than three solid characters, and with a name that is too short, or too short
a term, they end without a request.  In a batch every request asks for its key, and with too short a
term if the name comes down to nothing; a key whose work is over was asked for whatever its name is,
if only the server has an address. -/
theorem terms_sent (client : Client) :
    (∀ query surroundings,
      let played := Surroundings.play surroundings [] (client.search query)
      (∀ exchange ∈ played.exchanges, client.LooksUp .index exchange) ∧
        (solidCount query < 3 → played.exchanges = [] ∧ played.result = .insufficientQuery)) ∧
    (∀ name surroundings,
      let played := Surroundings.play surroundings [] (client.fetch name)
      (∀ exchange ∈ played.exchanges, client.LooksUp .key exchange) ∧
        (solidCount name < 3 ∨ solidCount (termFor name) < 3 →
          played.exchanges = [] ∧ played.result = .error (.insufficientQuery name))) ∧
    ∀ keyIds limit cancelRequested events batch,
      (Batch.initial { client.plan keyIds with slots := max limit 1 } cancelRequested).run? events =
        some batch → ∀ position,
      (∀ request, batch.sending? position = some request →
        ∃ keyId, keyIds[position]? = some keyId ∧
          client.request (.key (termFor keyId)) = .ok request ∧
          (3 ≤ solidCount (termFor keyId) ↔ solidCount (Key.normal keyId) ≠ 0)) ∧
      ∀ fate, batch.settled.lookup position = some fate →
        ∃ keyId, keyIds[position]? = some keyId ∧
          (Job.replies (Batch.answersTo position events) ≠ [] ↔
            ∃ request, client.request (.key (termFor keyId)) = .ok request) := by
  refine ⟨?_, ?_, ?_⟩
  · intro query surroundings
    exact looksUp_of_course_search (Job.course_play surroundings [] (client.search query))
  · intro name surroundings
    exact looksUp_of_course_fetch (Job.course_play surroundings [] (client.fetch name))
  · intro keyIds limit cancelRequested events batch ran position
    constructor
    · intro request sending
      obtain ⟨keyId, listed, made⟩ := Batch.request_of_sending? ran sending
      exact ⟨keyId, listed, made, three_le_solidCount_termFor_iff keyId⟩
    · intro fate settled
      exact Batch.asked_of_settled ran settled

/-- A fetch of a name that is nothing but a mark ends without a request, and a batch with a key ID asks
for it. -/
theorem terms_sent_of_short_names :
    let client : Client := ⟨Config.standard, "https://keys.openpgp.org"⟩
    let silent : Surroundings := ⟨fun _ _ => .answer 404 "", fun _ _ => 0, fun _ _ _ => .ok ()⟩
    let start := Batch.initial { client.plan ["89abcdef"] with slots := max 0 1 } false
    let played := silent.play [] (client.fetch " 0x ")
    (played.exchanges = [] ∧ played.result = .error (.insufficientQuery " 0x ")) ∧
      ∃ batch request, start.run? [.check, .take, .start, .answer 0 .logged] = some batch ∧
        batch.sending? 0 = some request ∧
        ∃ keyId, ["89abcdef"][0]? = some keyId ∧ client.request (.key (termFor keyId)) = .ok request ∧
          (3 ≤ solidCount (termFor keyId) ↔ solidCount (Key.normal keyId) ≠ 0) := by
  intro client silent start played
  have sent : ((start.run? [.check, .take, .start, .answer 0 .logged]).bind fun batch =>
      batch.sending? 0).isSome = true := by
    decide +kernel
  obtain ⟨request, sent⟩ := Option.isSome_iff_exists.mp sent
  obtain ⟨batch, ran, sending⟩ := Option.bind_eq_some_iff.mp sent
  have short : solidCount " 0x " < 3 := by decide
  exact ⟨((terms_sent client).2.1 " 0x " silent).2 (.inl short), batch, request, ran, sending,
    ((terms_sent client).2.2 _ 0 false _ batch ran 0).1 request sending⟩

/-- A batch with an empty key ID asks for a mere mark, and takes what the server says of it for what has
become of the key. -/
theorem short_term_sent :
    let client : Client := ⟨Config.standard, "https://keys.openpgp.org"⟩
    let start := Batch.initial { client.plan [""] with slots := max 0 1 } false
    let sent : List Batch.Event := [.check, .take, .start, .answer 0 .logged]
    (∃ batch request, start.run? sent = some batch ∧ batch.sending? 0 = some request ∧
        client.request (.key "0x") = .ok request ∧ solidCount "0x" < 3) ∧
      ∃ batch, batch.isOver = true ∧
        start.run? (sent ++ [.answer 0 (.reply (.answer 404 "")), .answer 0 .logged, .count 0,
          .report 0]) = some batch ∧
        batch.outcome.entries = [⟨"", .failed .notFound "no key found for '0x'"⟩] := by
  intro client start sent
  constructor
  · have asked : ((start.run? sent).bind fun batch => batch.sending? 0).isSome = true := by
      decide +kernel
    obtain ⟨request, asked⟩ := Option.isSome_iff_exists.mp asked
    obtain ⟨batch, ran, sending⟩ := Option.bind_eq_some_iff.mp asked
    obtain ⟨keyId, listed, made⟩ := Batch.request_of_sending? ran sending
    cases listed
    exact ⟨batch, request, ran, sending, made, by decide⟩
  · have ends : (start.run? (sent ++ [.answer 0 (.reply (.answer 404 "")), .answer 0 .logged,
        .count 0, .report 0])).map (fun batch => (batch.isOver, batch.outcome.entries)) =
          some (true, [⟨"", .failed .notFound "no key found for '0x'"⟩]) := by
      decide +kernel
    obtain ⟨batch, ran, ends⟩ := Option.map_eq_some_iff.mp ends
    rw [Prod.mk.injEq] at ends
    exact ⟨batch, ends.1, ran, ends.2⟩

end Vouch.Keyserver
