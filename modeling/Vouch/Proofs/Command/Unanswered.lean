import Mathlib.Tactic
import Vouch.Proofs.Command.Fetch

/-!
What the commands say about a network that answers nothing.

The result of a search tells failures of the network from keys that are not there, and so does its
exit code.  A batch is judged by the number of the keys that were imported, so the exit code of a
fetch by key ID does not tell them apart.
-/

namespace Vouch.Keyserver

open Job (Exchange Delivery)

def Unanswered (exchanges : List Exchange) : Prop :=
  ∀ exchange ∈ exchanges, ∃ cause, exchange.reply = .failure cause

variable {client : Client} {query term : String} {left : Nat} {exchanges : List Exchange}
  {deliveries : List Delivery} {answer : Except Problem String} {result : SearchResult}

theorem Asked.exitCode_of_unanswered (asked : Asked client (.index term) left exchanges answer)
    (unanswered : Unanswered exchanges) :
    (Client.resultOf (answer.bind (Client.candidatesOf term))).exitCode = 5 := by
  obtain ⟨problem, rfl, rfl⟩ | ⟨last, ends, rfl⟩ := asked.answer_eq
  · rfl
  · obtain ⟨cause, failed⟩ := unanswered last (List.mem_of_getLast? ends)
    change (last.reply.searchResult term).exitCode = 5
    rw [failed]
    obtain timeout | unknown | broken := searchResult_of_failure cause term
    · rw [timeout]
      rfl
    · rw [unknown]
      rfl
    · rw [broken]
      rfl

/-- A search that is not refused ends with a failure of the network when nothing is answered. -/
theorem exitCode_of_unanswered_search
    (course : Job.Course (client.search query) exchanges deliveries result)
    (unanswered : Unanswered exchanges) (long : 3 ≤ solidCount query) : result.exitCode = 5 := by
  have sent : ¬isTooShort (Text.trim query) = true := by
    rw [isTooShort, decide_eq_true_eq, solidCount_trim]
    exact not_lt.mpr long
  unfold Client.search at course
  rw [if_neg sent] at course
  obtain ⟨found, first, second, given, taken, searching, rest, rfl, rfl⟩ := Job.course_bind course
  obtain ⟨rfl, answer, asked, rfl⟩ := Client.course_searchTerm searching
  have failed := asked.exitCode_of_unanswered fun exchange member =>
    unanswered exchange (List.mem_append_left _ member)
  split at rest
  next missing =>
    rw [missing] at failed
    cases failed
  next =>
    cases rest
    exact failed

theorem three_le_solidCount_of_isId (id : Key.IsId query) : 3 ≤ solidCount query := by
  obtain ⟨mark, digits, parts, _, lengths, hex⟩ := id
  have solid : Text.withoutBlanks digits = digits := by
    apply List.filter_eq_self.mpr
    intro c member
    rw [Key.isBlank_of_isHexDigit c (hex c member), Bool.not_false]
  rw [solidCount, parts, Text.withoutBlanks_append, List.length_append, solid]
  omega

/-- A batch of some keys without any import says no more than that nothing was found. -/
theorem Import.Outcome.exitCode_eq_one {outcome : Import.Outcome} (some_key : outcome.entries ≠ [])
    (none_imported : ∀ entry ∈ outcome.entries, entry.fate ≠ .imported)
    (uncancelled : outcome.cancelled = false) : outcome.exitCode = 1 := by
  have imported : outcome.imported = [] := by
    apply List.filter_eq_nil_iff.mpr
    intro entry listed
    rw [beq_iff_eq]
    exact none_imported entry listed
  have incomplete : outcome.isCompleteSuccess = false := by
    rw [isCompleteSuccess, imported, uncancelled, Bool.not_false, Bool.true_and,
      beq_eq_false_iff_ne]
    exact (List.length_pos_of_ne_nil some_key).ne
  rw [exitCode, incomplete, imported, uncancelled]
  rfl

end Vouch.Keyserver

namespace Vouch.Command

open Keyserver
open Job (Exchange)

/-- Nothing that the program sent was answered. -/
def Unanswered (deeds : List Deed) : Prop :=
  ∀ exchange, .exchanged exchange ∈ deeds → ∃ cause, exchange.reply = .failure cause

variable {env : Environment} {settings : Settings} {query folder : String} {json : Bool}
  {before after : Folder} {deeds : List Deed} {ending : Ending} {client : Client}

theorem ending_of_reportMiss {result : SearchResult}
    (course : Course (reportMiss client result) before deeds after ending) :
    ending = .exit result.exitCode := by
  cases course with
  | print ended =>
    cases ended
    rfl

theorem ending_of_reportSearch {result : SearchResult}
    (course : Course (reportSearch client json result) before deeds after ending) :
    ending = .exit result.exitCode := by
  unfold reportSearch at course
  split_ifs at course
  · cases course with
    | print ended =>
      cases ended
      rfl
  · cases result with
    | found keys =>
      cases course_printAll course
      rfl
    | _ => exact ending_of_reportMiss course

theorem unanswered_of_append {exchanges : List Exchange} {more : List Deed}
    (unanswered : Unanswered (exchanges.map .exchanged ++ more)) :
    Keyserver.Unanswered exchanges := by
  intro exchange member
  exact unanswered exchange (List.mem_append_left _ (List.mem_map_of_mem member))

theorem ending_of_unanswered_transfer {keyIds : List String} (some_key : keyIds ≠ [])
    (course : Course (.transfer ⟨client, keyIds, folder, false⟩ (reportTransfer folder json)) before
      deeds after ending) (unanswered : Unanswered deeds) :
    ending = .exit 1 ∨
      Batch.greatestSlots < client.config.effectiveConcurrency ∧ ending = .aborted := by
  cases course with
  | refuse crowded later =>
    cases later
    exact .inr ⟨Batch.ofPlan?_eq_none_iff.mp crowded, rfl⟩
  | @transfer _ _ _ _ _ _ _ events storage begun ran closed interrupted later =>
    cases ofPlan?_eq_some begun
    obtain ⟨inside, traced⟩ := traced_of_run? ran
    cases course_printAll later
    have none_imported : ∀ entry ∈ storage.batch.outcome.entries, entry.fate ≠ .imported := by
      intro entry listed imported
      obtain ⟨position, found⟩ := List.mem_iff_getElem?.mp listed
      obtain ⟨_, way, content, stored⟩ := stored_of_imported ran found imported
      obtain ⟨⟨_, _, _, fetched⟩, _⟩ := traced.stored position way content stored
      obtain ⟨request, status, _, _, _, exchanged⟩ := fetched.exchanged
      obtain ⟨cause, failed⟩ := unanswered _ (List.mem_append_left _ exchanged)
      cases failed
    have uncancelled : storage.batch.outcome.cancelled = false := by
      rw [Bool.eq_false_iff]
      intro cancelled
      have asked := Storage.mem_batchEvents_iff.mp (Batch.cancel_mem_of_cancelled inside cancelled)
      cases interrupted asked
    have entries : storage.batch.outcome.entries ≠ [] := by
      intro none
      have ids := Batch.keyIds_entries storage.batch
      rw [none, Batch.plan_eq_of_run? inside] at ids
      exact some_key ids.symm
    exact .inl (congrArg Ending.exit
      (Import.Outcome.exitCode_eq_one entries none_imported uncancelled))

theorem ending_of_unanswered_fetch (unanswered : Unanswered deeds)
    (course : Course (fetch env query folder settings) before deeds after ending) :
    settings.Refused env ending ∨ ∃ config client, settings.Yields env config ∧
      Client.ofConfig config = .ok client ∧
      (Key.isKeyId (Text.trim query) = true → ending = .exit 1 ∨
        Batch.greatestSlots < client.config.effectiveConcurrency ∧ ending = .aborted) ∧
      (Key.isKeyId (Text.trim query) = false → 3 ≤ solidCount query → ending = .exit 5) := by
  rw [fetch_eq] at course
  obtain ⟨_, refused⟩ | ⟨config, client, yields, made, course⟩ := course_configured course
  · exact .inl refused
  refine .inr ⟨config, client, yields, made, ?_⟩
  rw [← solidCount_trim query]
  generalize Text.trim query = term at course ⊢
  unfold fetchFrom at course
  by_cases named : Key.isKeyId term = true
  · rw [if_pos named] at course
    refine ⟨fun _ => ending_of_unanswered_transfer (List.cons_ne_nil _ _) course unanswered, ?_⟩
    intro unnamed
    cases named.symm.trans unnamed
  · rw [if_neg named] at course
    refine ⟨fun other => absurd other named, fun _ long => ?_⟩
    cases course with
    | @search _ _ _ _ _ _ _ exchanges deliveries result searched later =>
      have failed : result.exitCode = 5 :=
        exitCode_of_unanswered_search searched (unanswered_of_append unanswered) long
      cases result with
      | found keys => cases failed
      | _ => rw [ending_of_reportMiss later, failed]

theorem ending_of_unanswered_search (long : 3 ≤ solidCount query) (unanswered : Unanswered deeds)
    (course : Course (search env query json settings) before deeds after ending) :
    settings.Refused env ending ∨ ending = .exit 5 := by
  obtain ⟨_, refused⟩ | ⟨config, client, _, _, course⟩ := course_configured course
  · exact .inl refused
  · cases course with
    | search searched later =>
      rw [ending_of_reportSearch later,
        exitCode_of_unanswered_search searched (unanswered_of_append unanswered) long]
      exact .inr rfl

theorem course_fetch_by_id {batch : Batch} {events : List Storage.Event} {storage : Storage}
    (unconfigured : settings.config = none)
    (made : Client.ofConfig (settings.applied env .standard) = .ok client)
    (named : Key.isKeyId (Text.trim query) = true)
    (begun : Batch.ofPlan? (client.plan [Text.trim query]) false = some batch)
    (ran : (Storage.initial batch before).run? folder events = some storage)
    (closed : storage.batch.isOver = true) (uninterrupted : .batch .cancel ∉ events) :
    Course (fetch env query folder settings) before
      (storage.deeds ++ [.concluded storage.batch.outcome]) storage.place
      (.exit storage.batch.outcome.exitCode) := by
  rw [fetch_eq, Settings.load, unconfigured]
  dsimp only
  rw [withClient, made]
  dsimp only
  rw [fetchFrom, if_pos named]
  exact .transfer begun ran closed (fun asked => absurd asked uninterrupted)
    (exists_course_printAll _ _ _ _)

/-- A search command can go like every search of its client. -/
theorem course_search {result : SearchResult} {exchanges : List Exchange}
    {deliveries : List Job.Delivery} (unconfigured : settings.config = none)
    (made : Client.ofConfig (settings.applied env .standard) = .ok client)
    (searched : Job.Course (client.search query) exchanges deliveries result) :
    Course (search env query true settings) before (exchanges.map .exchanged ++ []) before
      (.exit result.exitCode) := by
  rw [search, Settings.load, unconfigured]
  dsimp only
  rw [withClient, made]
  exact .search searched (.print (.finish _ _))

def closedPort : Keyserver.Failure :=
  ⟨false, ["connection refused"], none⟩

def impatient : Environment :=
  [("SIGVERDICT_KEYSERVER_MAX_RETRIES", "0")]

def impatientClient : Client :=
  ⟨{ Config.standard with maxRetries := 0 }, "https://keyserver.ubuntu.com"⟩

theorem ofConfig_impatient :
    Client.ofConfig (Settings.applied ⟨none, none, none⟩ impatient .standard) =
      .ok impatientClient :=
  rfl

theorem exists_unanswered_fetch :
    ∃ deeds after, Unanswered deeds ∧
      Course (fetch impatient "0x0123456789ABCDEF" "keys" ⟨none, none, none⟩) .empty deeds after
        (.exit 1) := by
  let plan := impatientClient.plan ["0x0123456789ABCDEF"]
  let events : List Storage.Event :=
    [.batch .check, .batch .take, .batch .start, .batch (.answer 0 .logged),
      .batch (.answer 0 (.reply (.failure closedPort))), .batch (.answer 0 .logged),
      .batch (.count 0), .batch (.report 0)]
  have trimmed : Text.trim "0x0123456789ABCDEF" = "0x0123456789ABCDEF" := by decide +kernel
  have named : Key.isKeyId (Text.trim "0x0123456789ABCDEF") = true := by decide +kernel
  have begun : Batch.ofPlan? (impatientClient.plan [Text.trim "0x0123456789ABCDEF"]) false =
      some (Batch.initial plan false) := by
    rw [trimmed]
    rfl
  have ends : ((Storage.initial (.initial plan false) .empty).run? "keys" events).map
      (fun storage => (storage.batch.isOver, storage.batch.outcome.exitCode,
        storage.deeds.filterMap Deed.body?)) = some (true, 1, []) := by
    decide +kernel
  obtain ⟨storage, ran, ends⟩ := Option.map_eq_some_iff.mp ends
  simp only [Prod.mk.injEq, List.filterMap_eq_nil_iff] at ends
  obtain ⟨closed, code, failed⟩ := ends
  have course : Course (fetch impatient "0x0123456789ABCDEF" "keys" ⟨none, none, none⟩) .empty _
      storage.place _ :=
    course_fetch_by_id rfl ofConfig_impatient named begun ran closed (by simp [events])
  rw [code] at course
  refine ⟨_, _, ?_, course⟩
  intro exchange member
  obtain early | late := List.mem_append.mp member
  · have bodiless := failed _ early
    cases reply : exchange.reply with
    | answer status body =>
      obtain ⟨request, _⟩ := exchange
      cases reply
      cases bodiless
    | failure cause => exact ⟨cause, rfl⟩
  · cases List.mem_singleton.mp late

theorem exists_unanswered_search :
    ∃ deeds after, Unanswered deeds ∧
      Course (search impatient "0x0123456789ABCDEF" true ⟨none, none, none⟩) .empty deeds after
        (.exit 5) := by
  let offline : Job.Surroundings :=
    ⟨fun _ _ => .failure closedPort, fun _ _ => 0, fun _ _ _ => .ok ()⟩
  let played := offline.play [] (impatientClient.search "0x0123456789ABCDEF")
  have result : played.result = .connectionError := by decide +kernel
  have replies : played.exchanges.map Exchange.reply = [.failure closedPort] := by decide +kernel
  have searched := Job.course_play offline [] (impatientClient.search "0x0123456789ABCDEF")
  have course : Course (search impatient "0x0123456789ABCDEF" true ⟨none, none, none⟩) .empty
      (played.exchanges.map .exchanged ++ []) .empty (.exit played.result.exitCode) :=
    course_search rfl ofConfig_impatient searched
  rw [result, List.append_nil] at course
  refine ⟨_, _, ?_, course⟩
  intro exchange member
  obtain ⟨other, sent, same⟩ := List.mem_map.mp member
  cases same
  have reply := List.mem_map_of_mem (f := Exchange.reply) sent
  rw [replies] at reply
  exact ⟨closedPort, List.mem_singleton.mp reply⟩

/-- When nothing is answered, a search for a key ID ends with the code of a failure of the network.
A fetch of the key ends with the code for a key that is not there, or it breaks off because its
batch is too large to begin. -/
theorem fetch_by_id_hides_failure {before' after' : Folder} {deeds' : List Deed} {ending' : Ending}
    (id : Key.IsId query)
    (fetched : Course (fetch env query folder settings) before deeds after ending)
    (searched : Course (search env query json settings) before' deeds' after' ending')
    (unanswered : Unanswered deeds) (unheard : Unanswered deeds') :
    (settings.Refused env ending' ∨ ending' = .exit 5) ∧
      (settings.Refused env ending ∨ ending = .exit 1 ∨
        ending = .aborted ∧ ∃ config client, settings.Yields env config ∧
          Client.ofConfig config = .ok client ∧
          Batch.greatestSlots < client.config.effectiveConcurrency) := by
  constructor
  · exact ending_of_unanswered_search (three_le_solidCount_of_isId id) unheard searched
  · obtain refused | ⟨config, client, yields, made, by_id, _⟩ :=
      ending_of_unanswered_fetch unanswered fetched
    · exact .inl refused
    · obtain missing | ⟨crowded, aborted⟩ := by_id (Key.isKeyId_trim_of_isId id)
      · exact .inr (.inl missing)
      · exact .inr (.inr ⟨aborted, config, client, yields, made, crowded⟩)

theorem failure_hidden_by_closedPort :
    let settings : Settings := ⟨none, none, none⟩
    Key.IsId "0x0123456789ABCDEF" ∧ ∃ deeds after ending deeds' after' ending',
      Course (fetch impatient "0x0123456789ABCDEF" "keys" settings) .empty deeds after ending ∧
      Course (search impatient "0x0123456789ABCDEF" true settings) .empty deeds' after' ending' ∧
      Unanswered deeds ∧ Unanswered deeds' ∧
      (settings.Refused impatient ending' ∨ ending' = .exit 5) ∧
      (settings.Refused impatient ending ∨ ending = .exit 1 ∨
        ending = .aborted ∧ ∃ config client, settings.Yields impatient config ∧
          Client.ofConfig config = .ok client ∧
          Batch.greatestSlots < client.config.effectiveConcurrency) := by
  have id : Key.IsId "0x0123456789ABCDEF" :=
    ⟨['0', 'x'], _, rfl, .inr (.inl rfl), .inr (.inl rfl), List.all_eq_true.mp rfl⟩
  obtain ⟨deeds, after, unanswered, fetched⟩ := exists_unanswered_fetch
  obtain ⟨deeds', after', unheard, searched⟩ := exists_unanswered_search
  exact ⟨id, deeds, after, _, deeds', after', _, fetched, searched, unanswered, unheard,
    fetch_by_id_hides_failure id fetched searched unanswered unheard⟩

/-- A fetch of a key from a host that accepts no connection ends as if the key were not there. -/
theorem refused_fetch_exits_one :
    Key.IsId "0x0123456789ABCDEF" ∧
      (∃ client, Client.ofConfig (Settings.applied ⟨none, none, none⟩ impatient .standard) =
        .ok client) ∧
      (∃ deeds after, Unanswered deeds ∧
        Course (fetch impatient "0x0123456789ABCDEF" "keys" ⟨none, none, none⟩) .empty deeds after
          (.exit 1)) ∧
      ∃ deeds after, Unanswered deeds ∧
        Course (search impatient "0x0123456789ABCDEF" true ⟨none, none, none⟩) .empty deeds after
          (.exit 5) :=
  ⟨⟨['0', 'x'], _, rfl, .inr (.inl rfl), .inr (.inl rfl), List.all_eq_true.mp rfl⟩,
    ⟨_, ofConfig_impatient⟩, exists_unanswered_fetch, exists_unanswered_search⟩

end Vouch.Command
