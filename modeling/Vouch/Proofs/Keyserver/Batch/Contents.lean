import Mathlib.Tactic
import Vouch.Proofs.Keyserver.Batch.Trace

/-!
What the files hold while a batch stores its keys.

At any time a file holds what the deeds make of it.  As long as nobody else touches it this is as much
of its key as was written, and all of the key once it is stored.
-/

namespace Vouch.Keyserver

structure Contents (before : Folder) (storage : Storage) : Prop where
  replayed : ∀ way,
    storage.place.fileAt? way = replay way storage.deeds (before.fileAt? way)
  under_way : ∀ position way content written,
    storage.storing position = some (.opened way content written) →
    written ≤ content.toUTF8.size ∧
      (Undisturbed position way storage.deeds →
        storage.place.fileAt? way = some (content.toUTF8.extract 0 written))
  stored : ∀ position way content, .stored position way content ∈ storage.deeds →
    Undisturbed position way storage.deeds →
    storage.place.fileAt? way = some content.toUTF8

namespace Contents

variable {client : Client} {keyIds : List String} {slots : Nat} {cancelRequested : Bool}
  {folder : String} {before : Folder} {storage next : Storage} {event : Storage.Event}
  {events : List Batch.Event}

theorem initial (batch : Batch) (before : Folder) : Contents before (.initial batch before) where
  replayed := fun _ => rfl
  under_way := nofun
  stored := nofun

/-- What is known stays known when no file is touched.  A key is only stored when all of it was
written. -/
theorem extend_untouched (contents : Contents before storage) (added : List Deed)
    (deeds_eq : next.deeds = storage.deeds ++ added)
    (files : ∀ way, next.place.fileAt? way = storage.place.fileAt? way)
    (untouched : ∀ deed ∈ added, ∀ way, deed.toucher? way = none)
    (under_way : ∀ position way content written,
      next.storing position = some (.opened way content written) →
      storage.storing position = some (.opened way content written))
    (stored : ∀ position way content, .stored position way content ∈ added →
      storage.storing position = some (.opened way content content.toUTF8.size)) :
    Contents before next := by
  have earlier : ∀ {position way}, Undisturbed position way next.deeds →
      Undisturbed position way storage.deeds := by
    intro position way undisturbed
    rw [deeds_eq] at undisturbed
    exact undisturbed.of_untouched fun deed member => untouched deed member way
  constructor
  case replayed =>
    intro way
    rw [files, deeds_eq, replay_append, ← contents.replayed,
      replay_of_untouched fun deed member => untouched deed member way]
  case under_way =>
    intro position way content written begun
    obtain ⟨fits, holds⟩ :=
      contents.under_way position way content written (under_way position way content written begun)
    refine ⟨fits, fun undisturbed => ?_⟩
    rw [files]
    exact holds (earlier undisturbed)
  case stored =>
    intro position way content member undisturbed
    rw [deeds_eq] at member
    rw [files]
    obtain early | late := List.mem_append.mp member
    · exact contents.stored position way content early (earlier undisturbed)
    · obtain ⟨_, holds⟩ := contents.under_way position way content _ (stored position way content late)
      rw [holds (earlier undisturbed), ByteArray.extract_zero_size]

/-- What is known of the other keys stays known when a file is touched for one: either they have
another file, or theirs does not stand undisturbed. -/
theorem extend_touched (contents : Contents before storage) (own : Nat) (way : List String)
    (deed : Deed) (deeds_eq : next.deeds = storage.deeds ++ [deed])
    (toucher : ∀ other, deed.toucher? other = if other = way then some own else none)
    (files : ∀ other, next.place.fileAt? other = deed.onFile other (storage.place.fileAt? other))
    (unstored : ∀ other content, .stored own other content ∉ next.deeds)
    (others : ∀ position, position ≠ own → next.storing position = storage.storing position)
    (here : ∀ other content written, next.storing own = some (.opened other content written) →
      written ≤ content.toUTF8.size ∧
        (Undisturbed own other next.deeds →
          next.place.fileAt? other = some (content.toUTF8.extract 0 written))) :
    Contents before next := by
  have elsewhere : ∀ {position other}, position ≠ own → Undisturbed position other next.deeds →
      Undisturbed position other storage.deeds ∧
        next.place.fileAt? other = storage.place.fileAt? other := by
    intro position other apart undisturbed
    rw [deeds_eq] at undisturbed
    have unopened : deed ≠ .opened position other := by
      rintro rfl
      have same := toucher other
      rw [Deed.toucher?, if_pos rfl] at same
      split_ifs at same
      exact apart (Option.some.inj same)
    obtain ⟨earlier, touched⟩ := undisturbed.of_concat unopened
    have untouched : deed.toucher? other = none := by
      rw [toucher]
      refine if_neg fun same => ?_
      have touches := toucher other
      rw [if_pos same] at touches
      exact apart (touched own touches).symm
    rw [files, Deed.onFile_of_untouched untouched]
    exact ⟨earlier, rfl⟩
  constructor
  case replayed =>
    intro other
    rw [files, deeds_eq, replay_append, ← contents.replayed]
    rfl
  case under_way =>
    intro position other content written begun
    by_cases same : position = own
    · subst same
      exact here other content written begun
    · rw [others position same] at begun
      obtain ⟨fits, holds⟩ := contents.under_way position other content written begun
      refine ⟨fits, fun undisturbed => ?_⟩
      obtain ⟨earlier, file⟩ := elsewhere same undisturbed
      rw [file]
      exact holds earlier
  case stored =>
    intro position other content member undisturbed
    by_cases same : position = own
    · subst same
      exact absurd member (unstored other content)
    · obtain ⟨earlier, file⟩ := elsewhere same undisturbed
      rw [file]
      rw [deeds_eq] at member
      obtain early | late := List.mem_append.mp member
      · exact contents.stored position other content early earlier
      · cases List.mem_singleton.mp late
        have touches := toucher way
        rw [if_pos rfl] at touches
        cases touches

theorem create (contents : Contents before storage) {own : Nat} {armored path : String}
    {way : List String} {place : Folder} (created : storage.place.create path = .ok (way, place))
    (unstored : ∀ other content, .stored own other content ∉ storage.deeds) :
    Contents before { storage.reach own (some (.opened way armored 0)) with
      place, deeds := storage.deeds ++ [.opened own way] } := by
  obtain ⟨_, _, _, _, _, _, files⟩ := Folder.exists_of_create created
  apply contents.extend_touched own way (.opened own way)
  case deeds_eq => rfl
  case toucher => exact fun _ => rfl
  case files => exact files
  case unstored => simpa using unstored
  case others => exact fun position apart => Function.update_of_ne apart _ _
  case here =>
    intro other content written begun
    rw [Storage.storing_reach, if_pos rfl] at begun
    cases begun
    refine ⟨Nat.zero_le _, fun _ => ?_⟩
    rw [files, if_pos rfl, ByteArray.extract_same]

theorem write (contents : Contents before storage) {own written : Nat} {way : List String}
    {content : String} {bytes : ByteArray}
    (part : content.toUTF8.extract written (written + bytes.size) = bytes)
    (begun : storage.storing own = some (.opened way content written))
    (unstored : ∀ other content, .stored own other content ∉ storage.deeds) :
    Contents before { storage.reach own (some (.opened way content (written + bytes.size))) with
      place := storage.place.writeAt way written bytes
      deeds := storage.deeds ++ [.wrote own way written bytes] } := by
  have files := storage.place.fileAt?_writeAt way written bytes
  obtain ⟨fits, holds⟩ := contents.under_way own way content written begun
  have size := congrArg ByteArray.size part
  rw [ByteArray.size_extract] at size
  apply contents.extend_touched own way (.wrote own way written bytes)
  case deeds_eq => rfl
  case toucher => exact fun _ => rfl
  case files =>
    intro other
    refine (files other).trans ?_
    rw [Deed.onFile]
    split_ifs with same
    · rw [same]
    · rfl
  case unstored => simpa using unstored
  case others => exact fun position apart => Function.update_of_ne apart _ _
  case here =>
    intro other text more begun
    rw [Storage.storing_reach, if_pos rfl] at begun
    cases begun
    refine ⟨by omega, fun undisturbed => ?_⟩
    obtain ⟨earlier, _⟩ := undisturbed.of_concat (by simp)
    rw [files, if_pos rfl, holds earlier, Option.map_some, Folder.patched_extract fits part]

theorem step
    (ran : (Batch.initial { client.plan keyIds with slots } cancelRequested).run? events =
      some storage.batch)
    (traced : Traced client keyIds folder events storage) (contents : Contents before storage)
    (happens : storage.Step folder event next) : Contents before next := by
  -- A key that is still to be stored was not stored before.
  have unstored : ∀ {own : Nat}, (∀ answer, .answer own (.taken answer) ∉ events) →
      ∀ way content, .stored own way content ∉ storage.deeds :=
    fun untaken way content member => untaken _ (traced.stored _ way content member).2
  have opened_of_reach : ∀ {own : Nat} {storing : Option Storing},
      (∀ way content written, storing ≠ some (.opened way content written)) →
      ∀ position way content written,
      (storage.reach own storing).storing position = some (.opened way content written) →
      storage.storing position = some (.opened way content written) := by
    intro own storing unopened position way content written begun
    refine (Storage.opened_of_reach begun).resolve_left ?_
    rintro ⟨_, same⟩
    exact unopened way content written same
  cases happens with
  | exchange own request reply batch sending =>
    apply contents.extend_untouched
    case deeds_eq => rfl
    case files => exact fun _ => rfl
    case untouched =>
      intro deed member way
      cases List.mem_singleton.mp member
      rfl
    case under_way => exact fun _ _ _ _ => id
    case stored => simp
  | store own way content batch complete =>
    apply contents.extend_untouched
    case deeds_eq => rfl
    case files => exact fun _ => rfl
    case untouched =>
      intro deed member way
      cases List.mem_singleton.mp member
      rfl
    case under_way => exact opened_of_reach nofun
    case stored =>
      intro position other text member
      cases List.mem_singleton.mp member
      exact complete
  | refuse own problem batch =>
    apply contents.extend_untouched
    case deeds_eq => exact (List.append_nil _).symm
    case files => exact fun _ => rfl
    case under_way => exact opened_of_reach nofun
    all_goals exact nofun
  | inside event batch =>
    apply contents.extend_untouched
    case deeds_eq => exact (List.append_nil _).symm
    case files => exact fun _ => rfl
    case under_way => exact fun _ _ _ _ => id
    all_goals exact nofun
  | make own keyId armored storing delivering unopened =>
    apply contents.extend_untouched
    case deeds_eq => exact (List.append_nil _).symm
    case files => exact (Folder.onlyFolders_makeFolder _ _).fileAt?_eq
    case under_way =>
      apply opened_of_reach
      intro way content written same
      exact unopened way content written (Option.some.inj same)
    all_goals exact nofun
  | create own keyId armored path way place delivering made created =>
    exact contents.create created (unstored (Batch.untaken_of_delivering? ran delivering))
  | write own count way content written bytes part begun =>
    apply contents.write part begun
    apply unstored
    apply traced.untaken own
    rw [begun]
    exact Option.some_ne_none _
  | fail event own cause apart begun =>
    apply contents.extend_untouched
    case deeds_eq => exact (List.append_nil _).symm
    case files => exact fun _ => rfl
    case under_way => exact opened_of_reach (by simp)
    all_goals exact nofun

end Contents

variable {client : Client} {keyIds : List String} {slots : Nat} {cancelRequested : Bool}
  {folder : String} {before : Folder} {storage : Storage} {events : List Storage.Event}

end Vouch.Keyserver
