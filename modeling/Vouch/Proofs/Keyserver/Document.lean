import Mathlib.Tactic
import Vouch.Proofs.Except
import Vouch.Proofs.Json.Carries
import Vouch.Proofs.Json.Document
import Vouch.Proofs.Json.Union
import Vouch.Proofs.Keyserver.Listing
import Vouch.Proofs.Keyserver.Search
import Vouch.Proofs.Time.Stamp

/-!
The results of searches and of batches in documents.

The document form of a result describes the result.  The times of a key must be ones that a clock
shows; those that a listing or a document gives are.
-/

namespace Vouch.Keyserver

open Json
open Job (Surroundings)

/-! ### Batches -/

namespace Import

theorem FailureKind.mem_all (kind : FailureKind) : kind ∈ all := by
  cases kind <;> decide

theorem FailureKind.ofName?_name (kind : FailureKind) : ofName? kind.name = some kind :=
  find?_of_nodup (by decide) kind.mem_all

section
variable {o : Origin}

/-- The kind and the message of a failure stand beside the key, and so does the name of its fate. -/
theorem Entry.carries (entry : Entry) :
    Carries o .none Entry.shape Entry.ofValue? entry.toValue entry := by
  obtain ⟨keyId, fate⟩ := entry
  have own : Entries .written .none [⟨"key_id", .required, .text⟩] [("key_id", .text keyId)]
      [.text keyId] :=
    .given (entry_same (settles_text _)) .nil
  cases fate with
  | imported =>
    exact ⟨_, settles_merged (by decide) (.head _) (by decide) own .nil, nofun, rfl⟩
  | cancelled =>
    exact ⟨_, settles_merged (by decide) (.tail _ (.tail _ (.head _))) (by decide) own .nil, nofun,
      rfl⟩
  | failed kind message =>
    have more : Entries .kept .none
        [⟨"kind", .required, FailureKind.shape⟩, ⟨"message", .required, .text⟩]
        [("kind", .text kind.name), ("message", .text message)] [.text kind.name, .text message] :=
      .given (entry_same (settles_name _ kind.mem_all)) <| .given (entry_same (settles_text _)) .nil
    refine ⟨_, settles_merged (by decide) (.tail _ (.head _)) (by decide) own more, nofun, ?_⟩
    simp [ofValue?, FailureKind.ofName?_name]

theorem Outcome.carries (outcome : Outcome) :
    Carries o .none Outcome.shape Outcome.ofValue? outcome.toValue outcome := by
  obtain ⟨entries, entries_entry, entries_stand⟩ :=
    entry_list "entries" (.inl rfl) fun entry (_ : entry ∈ outcome.entries) => entry.carries
  refine ⟨.list [entries, .bool outcome.cancelled], ?_, nofun, by simp [ofValue?, entries_stand]⟩
  apply settles_record (by decide) (Leeway.fits_none _)
  exact .given entries_entry <| .given (entry_same (settles_flag _)) .nil

end

theorem Entry.within_toValue (entry : Entry) : entry.toValue.Within 1 := by
  obtain ⟨keyId, fate⟩ := entry
  cases fate <;> simp [toValue, Fate.members]

theorem Outcome.within_toValue (outcome : Outcome) : outcome.toValue.Within 3 := by
  simp [toValue, Entry.within_toValue]

/-- Every text of the document form of an outcome describes this outcome. -/
theorem Outcome.read_of_text (outcome : Outcome) {text : String}
    (written : DocumentText outcome.toValue text.toList) : read text = .ok outcome := by
  obtain ⟨settled, settles, -, stands⟩ := outcome.carries
  exact Document.decode_of_text written (outcome.within_toValue.mono (by decide))
    settles.conforms stands

end Import

/-! ### Keys -/

namespace Candidate

/-- A clock shows the times of the key. -/
def IsTellable (key : Candidate) : Prop :=
  (∀ t ∈ key.created, t.IsTellable) ∧ ∀ t ∈ key.expires, t.IsTellable

theorem carries_time {o : Origin} {t : Time.Instant} (tellable : t.IsTellable) :
    Carries o .none .stamp Value.instant? (.text t.text) t :=
  carries_stamp (Time.Instant.read_text_of_isTellable tellable)

theorem carries {o : Origin} {key : Candidate} (tellable : key.IsTellable) :
    Carries o .none shape ofValue? key.toValue key := by
  obtain ⟨fingerprint, fingerprint_entry, fingerprint_stands⟩ :=
    entry_member? "fingerprint" fun s (_ : s ∈ key.fingerprint) => carries_text s
  obtain ⟨created, created_entry, created_stands⟩ :=
    entry_member? "created" fun t given => carries_time (tellable.1 t given)
  obtain ⟨expires, expires_entry, expires_stands⟩ :=
    entry_member? "expires" fun t given => carries_time (tellable.2 t given)
  obtain ⟨uids, uids_entry, uids_stand⟩ :=
    entry_list "uids" (.inr rfl) fun s (_ : s ∈ key.uids) => carries_text s
  refine ⟨.list [.text key.keyId, fingerprint, .text key.algorithm, .u32 key.bits, created, expires,
    .bool key.revoked, .bool key.disabled, .bool key.expired, uids], ?_, nofun,
    by simp [ofValue?, fingerprint_stands, created_stands, expires_stands, uids_stand]⟩
  apply settles_record (by decide) (Leeway.fits_none _)
  simp only [List.append_assoc, List.cons_append, List.nil_append]
  exact .given (entry_same (settles_text _)) <| .cons fingerprint_entry <|
    .given (entry_same (settles_text _)) <| .given (entry_same (settles_u32 _)) <|
    .cons created_entry <| .cons expires_entry <| .given (entry_same (settles_flag _)) <|
    .given (entry_same (settles_flag _)) <| .given (entry_same (settles_flag _)) <|
    .given uids_entry .nil

theorem within_toValue (key : Candidate) : key.toValue.Within 2 := by
  simp +contextual [toValue, Value.texts, or_imp]

theorem isTellable_of_optional? {part : Value} {time : Option Time.Instant}
    (given : part.optional? Value.instant? = some time) : ∀ t ∈ time, t.IsTellable := by
  rintro t rfl
  unfold Value.optional? at given
  split at given
  · cases given
  · obtain ⟨other, given, same⟩ := Option.map_eq_some_iff.mp given
    cases same
    unfold Value.instant? at given
    split at given
    · exact Time.Instant.isTellable_of_read (ok_of_toOption given)
    · cases given

/-- A document gives no times but such ones. -/
theorem isTellable_of_ofValue? {value : Value} {key : Candidate} (stands : ofValue? value = some key) :
    key.IsTellable := by
  unfold ofValue? at stands
  split at stands
  · simp only [Option.bind_eq_bind, Option.bind_eq_some_iff] at stands
    obtain ⟨_, -, _, -, _, created, _, expires, _, -, same⟩ := stands
    cases same
    exact ⟨isTellable_of_optional? created, isTellable_of_optional? expires⟩
  · cases stands

end Candidate

/-! ### Listings -/

namespace Listing

/-- A listing counts whole seconds. -/
theorem isTellable_of_time? {field : List Char} {t : Time.Instant} (given : time? field = some t) :
    t.IsTellable := by
  unfold time? at given
  obtain ⟨seconds, -, given⟩ := Option.bind_eq_some_iff.mp given
  unfold Time.Instant.ofSeconds? at given
  split_ifs at given
  cases given
  exact .inl (Nat.zero_lt_succ _)

theorem isTellable_of_read (body : String) : ∀ key ∈ read body, key.IsTellable := by
  rw [read_eq_keysWith]
  intro listed member
  obtain ⟨line, _, named, uids, names, rfl⟩ := exists_of_mem_keysWith member
  unfold keyOf? at names
  split at names
  · cases names
    exact ⟨fun t => isTellable_of_time?, fun t => isTellable_of_time?⟩
  · cases names

end Listing

/-! ### Searches -/

namespace SearchResult

/-- A clock shows the times of all keys that were found. -/
def IsTellable (result : SearchResult) : Prop :=
  ∀ key ∈ result.keys, key.IsTellable

def arm (result : SearchResult) : Arm where
  name := result.name
  title := result.title
  content := match result with
    | .found _ => some (.list Candidate.shape)
    | _ => none

theorem arm?_name (result : SearchResult) : union.arm? result.arm.name = some result.arm := by
  cases result <;> rfl

theorem conform_of_value? {result : SearchResult} (tellable : result.IsTellable) :
    ∃ content, ofContent? result.name content = some result ∧
      ∀ node : Node, node.value? = some result.toValue →
        union.conform node = .ok (result.name, content) := by
  have named := result.arm?_name
  cases result with
  | found keys =>
    obtain ⟨settled, settles, stand⟩ := settles_items keys fun key listed =>
      Candidate.carries (tellable key listed)
    refine ⟨.list settled, ?_, fun node => ?_⟩
    · simp [ofContent?, name, Value.list?, stand]
    · exact Paired.conform_content named rfl (by decide) (settles_list settles).conforms
  | _ => exact ⟨.null, rfl, fun node => Paired.conform_plain named rfl⟩

theorem within_toValue (result : SearchResult) : result.toValue.Within 4 := by
  cases result <;> simp [toValue, Candidate.within_toValue]

/-- Every text of the document form of a result describes this result. -/
theorem read_of_text {result : SearchResult} (tellable : result.IsTellable) {text : String}
    (written : DocumentText result.toValue text.toList) : read text = .ok result := by
  obtain ⟨content, stands, conforms⟩ := conform_of_value? tellable
  exact Document.decodePaired_of_text written (result.within_toValue.mono (by decide)) conforms
    stands

theorem isTellable_of_mem_plain {result : SearchResult} (listed : result ∈ plain) :
    result.IsTellable := by
  cases result with
  | found keys => simp [plain] at listed
  | _ => exact fun _ listed => absurd listed List.not_mem_nil

theorem isTellable_of_read {document : String} {result : SearchResult}
    (described : read document = .ok result) : result.IsTellable := by
  obtain ⟨⟨name, content⟩, -, described⟩ := ok_of_bind described
  dsimp only at described
  split at described
  case h_2 => cases described
  case h_1 stands =>
    cases described
    unfold ofContent? at stands
    split_ifs at stands
    · obtain ⟨keys, listed, same⟩ := Option.bind_eq_some_iff.mp stands
      cases same
      unfold Value.list? at listed
      split at listed
      · intro key member
        obtain ⟨item, -, stands⟩ := exists_of_mem_mapM listed member
        exact Candidate.isTellable_of_ofValue? stands
      · cases listed
    · exact isTellable_of_mem_plain (List.mem_of_find?_eq_some stands)

end SearchResult

theorem isTellable_of_search (client : Client) (query : String) (surroundings : Surroundings) :
    (surroundings.play [] (client.search query)).result.IsTellable := by
  have course := Job.course_play surroundings [] (client.search query)
  obtain ⟨-, -, short⟩ | ⟨-, first, second, -, conducted⟩ := conducted_of_course course
  · rw [short]
    exact fun _ listed => absurd listed List.not_mem_nil
  · intro key listed
    cases same : (surroundings.play [] (client.search query)).result with
    | found keys =>
      rw [same] at listed
      obtain ⟨-, last, -, lists⟩ := (conducted.found_iff keys).mp same
      unfold Lists at lists
      split at lists
      · obtain ⟨-, rfl⟩ := lists
        exact Listing.isTellable_of_read _ key listed
      · exact lists.elim
    | _ =>
      rw [same] at listed
      exact absurd listed List.not_mem_nil

/-- The results of searches and of batches are read back from the documents that are written for them,
in one line or over several lines.  For a search this is so exactly if a clock shows the times of the
keys, and it shows those of every result that a client gets and of every result that a document
describes. -/
theorem outcomes_survive :
    (∀ result : SearchResult, result.IsTellable ↔
      SearchResult.read result.toValue.line = .ok result ∧
        SearchResult.read result.toValue.pretty = .ok result) ∧
    (∀ (client : Client) (query : String) (surroundings : Surroundings),
      (surroundings.play [] (client.search query)).result.IsTellable) ∧
    (∀ (document : String) (result : SearchResult),
      SearchResult.read document = .ok result → result.IsTellable) ∧
    ∀ outcome : Import.Outcome,
      Import.Outcome.read outcome.toValue.line = .ok outcome ∧
        Import.Outcome.read outcome.toValue.pretty = .ok outcome := by
  refine ⟨fun result => ⟨fun tellable => ⟨?_, ?_⟩, ?_⟩, isTellable_of_search,
    fun _ _ => SearchResult.isTellable_of_read, fun outcome => ⟨?_, ?_⟩⟩
  · exact SearchResult.read_of_text tellable (documentText_line _)
  · exact SearchResult.read_of_text tellable (documentText_pretty _)
  · exact fun described => SearchResult.isTellable_of_read described.1
  · exact outcome.read_of_text (documentText_line _)
  · exact outcome.read_of_text (documentText_pretty _)

/-- A key made in the leap second at the end of 2016, to expire in the last nanosecond of time. -/
theorem leap_second_survives :
    let key : Candidate :=
      { keyId := "", fingerprint := some "\"status\"", algorithm := "é\n", bits := 4294967295
        created := some ⟨1483228799, 1500000000, by decide, by decide⟩
        expires := some ⟨Time.lastSecond, 999999999, by decide, by decide⟩
        revoked := true, disabled := false, expired := true, uids := ["", "Ada <ada@example.org>"] }
    let result : SearchResult := .found [key]
    result.IsTellable ∧
      SearchResult.read result.toValue.line = .ok result ∧
        SearchResult.read result.toValue.pretty = .ok result := by
  intro key result
  have tellable : result.IsTellable := by
    intro other listed
    rw [List.mem_singleton.mp listed]
    refine ⟨fun t given => .inr ?_, fun t given => .inl ?_⟩
    · cases given
      decide
    · cases given
      decide
  exact ⟨tellable, (outcomes_survive.1 result).mp tellable⟩

end Vouch.Keyserver
