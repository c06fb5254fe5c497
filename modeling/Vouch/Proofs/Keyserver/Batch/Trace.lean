import Mathlib.Tactic
import Vouch.Proofs.Keyserver.Batch.Deeds
import Vouch.Proofs.Keyserver.Lookup
import Vouch.Proofs.Text.Search

/-!
Where the files of a batch come from, and what they hold.

Every file that is opened is that of a key of the batch, and whatever is written to it was sent by the
server for that key.  What it holds in the end is what the deeds make of it: a key that was stored,
unless another key was stored in the same file at the same time or later.
-/

namespace Vouch.Keyserver

/-- The content came from the server: it is the body of a successful reply to a request that gets the
key, and holds a key. -/
structure Fetched (client : Client) (deeds : List Deed) (keyId content : String) : Prop where
  exchanged : ∃ request status, client.request (.key (termFor keyId)) = .ok request ∧
    (∀ op asked,
      request.Queries client.server op asked ↔ op = "get" ∧ asked = termFor keyId) ∧
    isSuccess status = true ∧ .exchanged ⟨request, .answer status content⟩ ∈ deeds
  armored : armorHeader.toList <:+: content.toList

structure Held (client : Client) (keyIds : List String) (deeds : List Deed) (position : Nat)
    (way : List String) (content : String) : Prop where
  opened : .opened position way ∈ deeds
  fetched : ∃ keyId, keyIds[position]? = some keyId ∧ Fetched client deeds keyId content

structure Traced (client : Client) (keyIds : List String) (folder : String)
    (events : List Batch.Event) (storage : Storage) : Prop where
  exchanged : ∀ position keyId reply, keyIds[position]? = some keyId →
    .answer position (.reply reply) ∈ events →
    ∃ request, client.request (.key (termFor keyId)) = .ok request ∧
      .exchanged ⟨request, reply⟩ ∈ storage.deeds
  opened : ∀ position way, .opened position way ∈ storage.deeds →
    ∃ keyId, keyIds[position]? = some keyId ∧ Store.Locates storage.place folder keyId way
  wrote : ∀ position way offset bytes, .wrote position way offset bytes ∈ storage.deeds →
    ∃ content, Held client keyIds storage.deeds position way content ∧
      content.toUTF8.extract offset (offset + bytes.size) = bytes
  stored : ∀ position way content, .stored position way content ∈ storage.deeds →
    Held client keyIds storage.deeds position way content ∧
      .answer position (.taken (.ok ())) ∈ events
  under_way : ∀ position way content written,
    storage.storing position = some (.opened way content written) →
    Held client keyIds storage.deeds position way content
  taken : ∀ position, .answer position (.taken (.ok ())) ∈ events →
    ∃ way content, .stored position way content ∈ storage.deeds
  untaken : ∀ position, storage.storing position ≠ none →
    ∀ answer, .answer position (.taken answer) ∉ events
  unconcluded : ∀ outcome, .concluded outcome ∉ storage.deeds

section Mono

variable {client : Client} {keyIds : List String} {deeds more : List Deed} {keyId content : String}
  {position : Nat} {way : List String}

theorem Fetched.mono (fetched : Fetched client deeds keyId content)
    (kept : ∀ deed ∈ deeds, deed ∈ more) : Fetched client more keyId content := by
  obtain ⟨⟨request, status, made, asks, success, exchanged⟩, armored⟩ := fetched
  exact ⟨⟨request, status, made, asks, success, kept _ exchanged⟩, armored⟩

theorem Held.mono (held : Held client keyIds deeds position way content)
    (kept : ∀ deed ∈ deeds, deed ∈ more) : Held client keyIds more position way content := by
  obtain ⟨opened, keyId, listed, fetched⟩ := held
  exact ⟨kept _ opened, keyId, listed, fetched.mono kept⟩

end Mono

namespace Traced

variable {client : Client} {keyIds : List String} {slots : Nat} {cancelRequested : Bool}
  {folder : String} {storage next : Storage} {event : Storage.Event} {events : List Batch.Event}

theorem initial (client : Client) (keyIds : List String) (folder : String) (batch : Batch)
    (place : Folder) : Traced client keyIds folder [] (.initial batch place) where
  exchanged := nofun
  opened := nofun
  wrote := nofun
  stored := nofun
  under_way := nofun
  taken := nofun
  untaken := fun _ begun => absurd rfl begun
  unconcluded := nofun

/-- What was known stays known after more events and deeds, as long as these account for each
other. -/
theorem extend (traced : Traced client keyIds folder events storage) (more : List Batch.Event)
    (added : List Deed) (deeds_eq : next.deeds = storage.deeds ++ added)
    (keeps : storage.place.Keeps next.place)
    (exchanged : ∀ position keyId reply, keyIds[position]? = some keyId →
      .answer position (.reply reply) ∈ more →
      ∃ request, client.request (.key (termFor keyId)) = .ok request ∧
        .exchanged ⟨request, reply⟩ ∈ added)
    (opened : ∀ position way, .opened position way ∈ added →
      ∃ keyId, keyIds[position]? = some keyId ∧ Store.Locates next.place folder keyId way)
    (wrote : ∀ position way offset bytes, .wrote position way offset bytes ∈ added →
      ∃ content, Held client keyIds next.deeds position way content ∧
        content.toUTF8.extract offset (offset + bytes.size) = bytes)
    (stored : ∀ position way content, .stored position way content ∈ added →
      Held client keyIds next.deeds position way content ∧
        .answer position (.taken (.ok ())) ∈ more)
    (under_way : ∀ position way content written,
      next.storing position = some (.opened way content written) →
      Held client keyIds next.deeds position way content)
    (taken : ∀ position, .answer position (.taken (.ok ())) ∈ more →
      ∃ way content, .stored position way content ∈ added)
    (untaken : ∀ position, next.storing position ≠ none →
      (∀ answer, .answer position (.taken answer) ∉ events) ∧
        ∀ answer, .answer position (.taken answer) ∉ more)
    (unconcluded : ∀ outcome, .concluded outcome ∉ added) :
    Traced client keyIds folder (events ++ more) next := by
  have kept : ∀ deed ∈ storage.deeds, deed ∈ next.deeds := by
    rw [deeds_eq]
    exact fun deed => List.mem_append_left _
  have new : ∀ deed ∈ added, deed ∈ next.deeds := by
    rw [deeds_eq]
    exact fun deed => List.mem_append_right _
  have split : ∀ deed ∈ next.deeds, deed ∈ storage.deeds ∨ deed ∈ added := by
    rw [deeds_eq]
    exact fun deed => List.mem_append.mp
  constructor
  case exchanged =>
    intro position keyId reply listed member
    obtain early | late := List.mem_append.mp member
    · obtain ⟨request, made, exchanged⟩ := traced.exchanged position keyId reply listed early
      exact ⟨request, made, kept _ exchanged⟩
    · obtain ⟨request, made, exchanged⟩ := exchanged position keyId reply listed late
      exact ⟨request, made, new _ exchanged⟩
  case opened =>
    intro position way member
    obtain early | late := split _ member
    · obtain ⟨keyId, listed, located⟩ := traced.opened position way early
      exact ⟨keyId, listed, located.mono keeps⟩
    · exact opened position way late
  case wrote =>
    intro position way offset bytes member
    obtain early | late := split _ member
    · obtain ⟨content, held, part⟩ := traced.wrote position way offset bytes early
      exact ⟨content, held.mono kept, part⟩
    · exact wrote position way offset bytes late
  case stored =>
    intro position way content member
    obtain early | late := split _ member
    · obtain ⟨held, took⟩ := traced.stored position way content early
      exact ⟨held.mono kept, List.mem_append_left _ took⟩
    · obtain ⟨held, took⟩ := stored position way content late
      exact ⟨held, List.mem_append_right _ took⟩
  case under_way => exact under_way
  case taken =>
    intro position member
    obtain early | late := List.mem_append.mp member
    · obtain ⟨way, content, wrote⟩ := traced.taken position early
      exact ⟨way, content, kept _ wrote⟩
    · obtain ⟨way, content, wrote⟩ := taken position late
      exact ⟨way, content, new _ wrote⟩
  case untaken =>
    intro position begun answer member
    obtain ⟨before, after⟩ := untaken position begun
    obtain early | late := List.mem_append.mp member
    · exact before answer early
    · exact after answer late
  case unconcluded =>
    intro outcome member
    obtain early | late := split _ member
    · exact traced.unconcluded outcome early
    · exact unconcluded outcome late

/-- More events that neither hand over a reply nor take a key, while nothing is done. -/
theorem extend_quiet (traced : Traced client keyIds folder events storage)
    (more : List Batch.Event) (deeds_eq : next.deeds = storage.deeds)
    (keeps : storage.place.Keeps next.place)
    (quiet : ∀ position answer, .answer position answer ∈ more →
      (∀ reply, answer ≠ .reply reply) ∧ answer ≠ .taken (.ok ()))
    (under_way : ∀ position way content written,
      next.storing position = some (.opened way content written) →
      ∃ written, storage.storing position = some (.opened way content written))
    (untaken : ∀ position, next.storing position ≠ none →
      (∀ answer, .answer position (.taken answer) ∉ events) ∧
        ∀ answer, .answer position (.taken answer) ∉ more) :
    Traced client keyIds folder (events ++ more) next := by
  apply traced.extend more [] (by rw [deeds_eq, List.append_nil]) keeps
  case exchanged =>
    intro position _ reply _ member
    exact absurd rfl ((quiet position _ member).1 reply)
  case taken =>
    intro position member
    exact absurd rfl (quiet position _ member).2
  case under_way =>
    intro position way content written begun
    obtain ⟨before, begun⟩ := under_way position way content written begun
    rw [deeds_eq]
    exact traced.under_way position way content before begun
  case untaken => exact untaken
  all_goals exact nofun

/-- What is known of the other positions stands when one position has come further. -/
theorem untaken_of_reach (traced : Traced client keyIds folder events storage) {own : Nat}
    {storing : Option Storing} {more : List Batch.Event}
    (here : storing ≠ none → ∀ answer, .answer own (.taken answer) ∉ events)
    (others : ∀ position answer, .answer position (.taken answer) ∈ more →
      position = own ∧ storing = none) (position : Nat)
    (begun : (storage.reach own storing).storing position ≠ none) :
    (∀ answer, .answer position (.taken answer) ∉ events) ∧
      ∀ answer, .answer position (.taken answer) ∉ more := by
  rw [Storage.storing_reach] at begun
  split_ifs at begun with same
  · subst same
    exact ⟨here begun, fun answer member => begun (others _ answer member).2⟩
  · exact ⟨traced.untaken position begun, fun answer member => same (others _ answer member).1⟩

theorem exchange (traced : Traced client keyIds folder events storage) {own : Nat}
    {keyId : String} {request : Request} (given : keyIds[own]? = some keyId)
    (made : client.request (.key (termFor keyId)) = .ok request) (reply : Reply) (batch : Batch) :
    Traced client keyIds folder (events ++ [.answer own (.reply reply)])
      { storage with batch, deeds := storage.deeds ++ [.exchanged ⟨request, reply⟩] } := by
  apply traced.extend
  case deeds_eq => rfl
  case keeps => exact .refl _
  case exchanged =>
    intro position other got listed member
    cases List.mem_singleton.mp member
    cases given.symm.trans listed
    exact ⟨request, made, List.mem_singleton_self _⟩
  case under_way =>
    intro position way content written begun
    exact (traced.under_way position way content written begun).mono
      fun _ => List.mem_append_left _
  case taken =>
    intro position member
    cases List.mem_singleton.mp member
  case untaken =>
    intro position begun
    refine ⟨traced.untaken position begun, fun answer member => ?_⟩
    cases List.mem_singleton.mp member
  all_goals simp

theorem store (traced : Traced client keyIds folder events storage) {own : Nat}
    {way : List String} {content : String}
    (complete : storage.storing own = some (.opened way content content.toUTF8.size))
    (batch : Batch) :
    Traced client keyIds folder (events ++ [.answer own (.taken (.ok ()))])
      { storage.reach own none with
        batch, deeds := storage.deeds ++ [.stored own way content] } := by
  have held := traced.under_way own way content _ complete
  apply traced.extend
  case deeds_eq => rfl
  case keeps => exact .refl _
  case exchanged =>
    intro position other reply listed member
    cases List.mem_singleton.mp member
  case stored =>
    intro position other text member
    cases List.mem_singleton.mp member
    exact ⟨held.mono fun _ => List.mem_append_left _, List.mem_singleton_self _⟩
  case under_way =>
    intro position other text written begun
    obtain ⟨_, ⟨⟩⟩ | begun := Storage.opened_of_reach begun
    exact (traced.under_way position other text written begun).mono
      fun _ => List.mem_append_left _
  case taken =>
    intro position member
    cases List.mem_singleton.mp member
    exact ⟨way, content, List.mem_singleton_self _⟩
  case untaken =>
    apply traced.untaken_of_reach nofun
    intro position answer member
    cases List.mem_singleton.mp member
    exact ⟨rfl, rfl⟩
  all_goals simp

theorem create (traced : Traced client keyIds folder events storage) {own : Nat}
    {keyId armored path : String} {way : List String} {place : Folder}
    (given : keyIds[own]? = some keyId) (fetched : Fetched client storage.deeds keyId armored)
    (untaken : ∀ answer, .answer own (.taken answer) ∉ events)
    (made : Store.path folder keyId = .ok path)
    (created : storage.place.create path = .ok (way, place)) :
    Traced client keyIds folder (events ++ [])
      { storage.reach own (some (.opened way armored 0)) with
        place, deeds := storage.deeds ++ [.opened own way] } := by
  obtain ⟨_, _, _, _, _, keeps, _⟩ := Folder.exists_of_create created
  apply traced.extend
  case deeds_eq => rfl
  case keeps => exact keeps
  case opened =>
    intro position other member
    cases List.mem_singleton.mp member
    exact ⟨keyId, given, (Store.locates_of_create made created).mono keeps⟩
  case under_way =>
    intro position other text written begun
    obtain ⟨rfl, ⟨⟩⟩ | begun := Storage.opened_of_reach begun
    · exact ⟨List.mem_append_right _ (List.mem_singleton_self _), keyId, given,
        fetched.mono fun _ => List.mem_append_left _⟩
    · exact (traced.under_way position other text written begun).mono
        fun _ => List.mem_append_left _
  case untaken => exact traced.untaken_of_reach (fun _ => untaken) nofun
  case exchanged => exact nofun
  case taken => exact nofun
  all_goals simp

theorem write (traced : Traced client keyIds folder events storage) {own written : Nat}
    {way : List String} {content : String} {bytes : ByteArray}
    (part : content.toUTF8.extract written (written + bytes.size) = bytes)
    (begun : storage.storing own = some (.opened way content written)) :
    Traced client keyIds folder (events ++ [])
      { storage.reach own (some (.opened way content (written + bytes.size))) with
        place := storage.place.writeAt way written bytes
        deeds := storage.deeds ++ [.wrote own way written bytes] } := by
  have held := traced.under_way own way content written begun
  apply traced.extend
  case deeds_eq => rfl
  case keeps => exact Folder.keeps_writeAt _ _ _ _
  case wrote =>
    intro position other offset some_bytes member
    cases List.mem_singleton.mp member
    exact ⟨content, held.mono fun _ => List.mem_append_left _, part⟩
  case under_way =>
    intro position other text before begun
    obtain ⟨rfl, ⟨⟩⟩ | begun := Storage.opened_of_reach begun
    · exact held.mono fun _ => List.mem_append_left _
    · exact (traced.under_way position other text before begun).mono
        fun _ => List.mem_append_left _
  case untaken =>
    refine traced.untaken_of_reach (fun _ => traced.untaken own ?_) nofun
    rw [begun]
    exact Option.some_ne_none _
  case exchanged => exact nofun
  case taken => exact nofun
  all_goals simp

theorem step
    (ran : (Batch.initial { client.plan keyIds with slots } cancelRequested).run? events =
      some storage.batch)
    (traced : Traced client keyIds folder events storage)
    (happens : storage.Step folder event next) :
    Traced client keyIds folder (events ++ event.batch?.toList) next := by
  cases happens with
  | exchange own request reply batch sending =>
    obtain ⟨keyId, given, made⟩ := Batch.request_of_sending? ran sending
    exact traced.exchange given made reply batch
  | store own way content batch complete => exact traced.store complete batch
  | create own keyId armored path way place delivering made created =>
    obtain ⟨given, mentioned, _, status, success, received⟩ :=
      Batch.delivery_of_delivering? ran delivering
    obtain ⟨request, asked, exchanged⟩ :=
      traced.exchanged own keyId _ given (Batch.mem_replies_iff.mp received)
    have fetched : Fetched client storage.deeds keyId armored :=
      ⟨⟨request, status, asked, Client.queries_iff asked, success, exchanged⟩,
        Text.occursIn_eq_true_iff.mp mentioned⟩
    exact traced.create given fetched (Batch.untaken_of_delivering? ran delivering) made created
  | write own count way content written bytes part begun => exact traced.write part begun
  | inside event batch unreplied untaken =>
    apply traced.extend_quiet
    case deeds_eq => rfl
    case keeps => exact .refl _
    case quiet =>
      intro position answer member
      cases List.mem_singleton.mp member
      refine ⟨?_, ?_⟩
      · rintro reply rfl
        exact unreplied position reply rfl
      · rintro rfl
        exact untaken position _ rfl
    case under_way => exact fun position way content written begun => ⟨written, begun⟩
    case untaken =>
      intro position begun
      refine ⟨traced.untaken position begun, fun answer member => ?_⟩
      cases List.mem_singleton.mp member
      exact untaken position answer rfl
  | refuse own problem batch =>
    apply traced.extend_quiet
    case deeds_eq => rfl
    case keeps => exact .refl _
    case quiet =>
      intro position answer member
      cases List.mem_singleton.mp member
      exact ⟨nofun, nofun⟩
    case under_way =>
      intro position way content written begun
      obtain ⟨_, ⟨⟩⟩ | begun := Storage.opened_of_reach begun
      exact ⟨written, begun⟩
    case untaken =>
      apply traced.untaken_of_reach nofun
      intro position answer member
      cases List.mem_singleton.mp member
      exact ⟨rfl, rfl⟩
  | make own keyId armored storing delivering unopened =>
    apply traced.extend_quiet
    case deeds_eq => rfl
    case keeps => exact (Folder.onlyFolders_makeFolder _ _).toKeeps
    case quiet => exact nofun
    case under_way =>
      intro position way content written begun
      obtain ⟨_, ⟨⟩⟩ | begun := Storage.opened_of_reach begun
      · exact absurd rfl (unopened way content written)
      · exact ⟨written, begun⟩
    case untaken =>
      exact traced.untaken_of_reach (fun _ => Batch.untaken_of_delivering? ran delivering) nofun
  | fail event own cause apart begun =>
    rw [apart]
    apply traced.extend_quiet
    case deeds_eq => rfl
    case keeps => exact .refl _
    case quiet => exact nofun
    case under_way =>
      intro position way content written begun
      obtain ⟨_, ⟨⟩⟩ | begun := Storage.opened_of_reach begun
      exact ⟨written, begun⟩
    case untaken =>
      refine traced.untaken_of_reach (fun _ => ?_) nofun
      obtain under_way | ⟨keyId, armored, delivering⟩ := begun
      · exact traced.untaken own under_way
      · exact Batch.untaken_of_delivering? ran delivering

end Traced

variable {client : Client} {keyIds : List String} {slots : Nat} {cancelRequested : Bool}
  {folder : String} {before : Folder} {storage : Storage} {events : List Storage.Event}

theorem traced_of_run?
    (ran : (Storage.initial (.initial { client.plan keyIds with slots } cancelRequested)
      before).run? folder events = some storage) :
    (Batch.initial { client.plan keyIds with slots } cancelRequested).run?
        (Storage.batchEvents events) = some storage.batch ∧
      Traced client keyIds folder (Storage.batchEvents events) storage := by
  refine ⟨Storage.batch_of_run? ran, ?_⟩
  induction events using List.reverseRecOn generalizing storage with
  | nil =>
    cases ran
    exact Traced.initial client keyIds folder _ before
  | append_singleton events event ih =>
    obtain ⟨middle, ran, happens⟩ := Storage.exists_of_run?_concat ran
    rw [Storage.batchEvents_concat]
    exact (ih ran).step (Storage.batch_of_run? ran) happens

theorem Batch.taken_of_imported {events : List Batch.Event} {batch : Batch} {position : Nat}
    (ran : (Batch.initial { client.plan keyIds with slots } cancelRequested).run? events =
      some batch) (imported : batch.fateAt position = .imported) :
    .answer position (.taken (.ok ())) ∈ events := by
  have settled : batch.settled.lookup position = some .imported := by
    unfold Batch.fateAt at imported
    split at imported
    case h_1 fate found =>
      rw [found, imported]
    case h_2 =>
      split_ifs at imported
      cases imported
  cases Batch.standing_of_run? ran position with
  | untried _ _ unsettled => cases unsettled.symm.trans settled
  | worked _ _ _ unsettled => cases unsettled.symm.trans settled
  | dead _ _ unsettled => cases unsettled.symm.trans settled
  | settled _ _ fate listed reached =>
    cases settled.symm.trans listed
    obtain ⟨keyId, _, reached⟩ := reached
    obtain ⟨exchanges, deliveries, course, _, answers⟩ := Job.course_of_run? reached
    obtain ⟨body, _, ends⟩ := Client.course_fetchAndImport course
    obtain ⟨problem, _, _, failed⟩ | ⟨armored, taken, _, rfl, fate⟩ := ends
    · cases failed
    · rw [← Batch.mem_takings_iff, ← answers]
      cases taken with
      | error problem => cases fate
      | ok done => exact List.mem_cons_self

theorem stored_of_imported
    (ran : (Storage.initial (.initial { client.plan keyIds with slots } cancelRequested)
      before).run? folder events = some storage) {position : Nat} {entry : Import.Entry}
    (listed : storage.batch.outcome.entries[position]? = some entry)
    (imported : entry.fate = .imported) :
    keyIds[position]? = some entry.keyId ∧
      ∃ way content, .stored position way content ∈ storage.deeds := by
  obtain ⟨inside, traced⟩ := traced_of_run? ran
  rw [Batch.getElem?_entries, Batch.plan_eq_of_run? inside] at listed
  obtain ⟨keyId, given, rfl⟩ := Option.map_eq_some_iff.mp listed
  exact ⟨given, traced.taken position (Batch.taken_of_imported inside imported)⟩

end Vouch.Keyserver
