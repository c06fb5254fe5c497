import Mathlib.Tactic
import Vouch.Proofs.Keyserver.Batch.Work
import Vouch.Proofs.Keyserver.Store

/-!
Batches whose keys go into a folder.

The importer of such a batch is the store of the folder.  It makes the folder, makes or empties the
file of the key, and writes the key to it, as many bytes at a time as the operating system takes.
Steps of different keys come in any order, and each of them may be refused.  All that passes between
the batch and the outside is kept in a list of deeds.
-/

namespace Vouch.Keyserver

open Job (Exchange)

/-- Something that is done with the outside. -/
inductive Deed where
  | exchanged (exchange : Exchange)
  | opened (position : Nat) (way : List String)
  | wrote (position : Nat) (way : List String) (offset : Nat) (bytes : ByteArray)
  | stored (position : Nat) (way : List String) (content : String)
  | concluded (outcome : Import.Outcome)

/-- How far the storing of a key has come. -/
inductive Storing where
  | made
  | opened (way : List String) (content : String) (written : Nat)
  | failed (cause : File.Problem)
  deriving DecidableEq

/-- A batch whose keys go into a folder, with the files as they are and what was done by now. -/
structure Storage where
  batch : Batch
  place : Folder
  storing : Nat → Option Storing
  deeds : List Deed

namespace Storage

inductive Event where
  | batch (event : Batch.Event)
  | make (position : Nat)
  | create (position : Nat)
  /-- The operating system takes at most so many bytes. -/
  | write (position count : Nat)
  /-- The operating system refuses the next step. -/
  | fail (position : Nat) (cause : File.Problem)

def Event.batch? : Event → Option Batch.Event
  | .batch event => some event
  | _ => none

def batchEvents (events : List Event) : List Batch.Event :=
  events.filterMap Event.batch?

def initial (batch : Batch) (place : Folder) : Storage :=
  { batch, place, storing := fun _ => none, deeds := [] }

def reach (storage : Storage) (position : Nat) (storing : Option Storing) : Storage :=
  { storage with storing := Function.update storage.storing position storing }

def handed? (folder : String) (storage : Storage) (position : Nat) : Option (String × String) := do
  let (keyId, armored) ← storage.batch.delivering? position
  return (armored, ← (Store.path folder keyId).toOption)

def answer? (folder : String) (storage : Storage) (position : Nat) :
    Option (Except Problem Unit × List Deed) := do
  let (keyId, _) ← storage.batch.delivering? position
  match Store.path folder keyId, storage.storing position with
  | .error problem, _ => return (.error problem, [])
  | .ok _, some (.failed cause) => return (.error (.rejected keyId cause.message), [])
  | .ok _, some (.opened way content written) =>
    if written = content.toUTF8.size then return (.ok (), [.stored position way content]) else none
  | .ok _, _ => none

def after? (folder : String) (storage : Storage) : Event → Option Storage
  | .batch event => do
    let batch ← storage.batch.after? event
    match event with
    | .answer position (.reply reply) =>
      let request ← storage.batch.sending? position
      return { storage with batch, deeds := storage.deeds ++ [.exchanged ⟨request, reply⟩] }
    | .answer position (.taken given) =>
      let (answer, deeds) ← storage.answer? folder position
      if given = answer then
        return { storage.reach position none with batch, deeds := storage.deeds ++ deeds }
      else none
    | _ => return { storage with batch }
  | .make position => do
    let _ ← storage.handed? folder position
    match storage.storing position, storage.place.makeFolder folder with
    | some _, _ => none
    | none, (place, .ok ()) => return { storage.reach position (some .made) with place }
    | none, (place, .error cause) =>
      return { storage.reach position (some (.failed cause)) with place }
  | .create position => do
    let (armored, path) ← storage.handed? folder position
    match storage.storing position, storage.place.create path with
    | some .made, .ok (way, place) =>
      return { storage.reach position (some (.opened way armored 0)) with
        place, deeds := storage.deeds ++ [.opened position way] }
    | some .made, .error cause => return storage.reach position (some (.failed cause))
    | _, _ => none
  | .write position count =>
    match storage.storing position with
    | some (.opened way content written) =>
      let bytes := content.toUTF8.extract written (written + count)
      if bytes.isEmpty then none
      else some { storage.reach position (some (.opened way content (written + bytes.size))) with
        place := storage.place.writeAt way written bytes
        deeds := storage.deeds ++ [.wrote position way written bytes] }
    | _ => none
  | .fail position cause =>
    match storage.storing position with
    | some (.failed _) => none
    | some _ => some (storage.reach position (some (.failed cause)))
    | none => do
      let _ ← storage.handed? folder position
      return storage.reach position (some (.failed cause))

def run? (folder : String) (storage : Storage) (events : List Event) : Option Storage :=
  events.foldlM (after? folder) storage

inductive Step (folder : String) (storage : Storage) : Event → Storage → Prop where
  | exchange (position : Nat) (request : Request) (reply : Reply) (batch : Batch)
    (sending : storage.batch.sending? position = some request)
    (happens : storage.batch.after? (.answer position (.reply reply)) = some batch) :
    Step folder storage (.batch (.answer position (.reply reply)))
      { storage with batch, deeds := storage.deeds ++ [.exchanged ⟨request, reply⟩] }
  | store (position : Nat) (way : List String) (content : String) (batch : Batch)
    (complete : storage.storing position = some (.opened way content content.toUTF8.size))
    (happens : storage.batch.after? (.answer position (.taken (.ok ()))) = some batch) :
    Step folder storage (.batch (.answer position (.taken (.ok ()))))
      { storage.reach position none with
        batch, deeds := storage.deeds ++ [.stored position way content] }
  | refuse (position : Nat) (problem : Problem) (batch : Batch)
    (happens : storage.batch.after? (.answer position (.taken (.error problem))) = some batch) :
    Step folder storage (.batch (.answer position (.taken (.error problem))))
      { storage.reach position none with batch }
  | inside (event : Batch.Event) (batch : Batch)
    (unreplied : ∀ position reply, event ≠ .answer position (.reply reply))
    (untaken : ∀ position answer, event ≠ .answer position (.taken answer))
    (happens : storage.batch.after? event = some batch) :
    Step folder storage (.batch event) { storage with batch }
  | make (position : Nat) (keyId armored : String) (storing : Storing)
    (delivering : storage.batch.delivering? position = some (keyId, armored))
    (unopened : ∀ way content written, storing ≠ .opened way content written) :
    Step folder storage (.make position)
      { storage.reach position (some storing) with place := (storage.place.makeFolder folder).1 }
  | create (position : Nat) (keyId armored path : String) (way : List String) (place : Folder)
    (delivering : storage.batch.delivering? position = some (keyId, armored))
    (made : Store.path folder keyId = .ok path)
    (created : storage.place.create path = .ok (way, place)) :
    Step folder storage (.create position)
      { storage.reach position (some (.opened way armored 0)) with
        place, deeds := storage.deeds ++ [.opened position way] }
  | write (position count : Nat) (way : List String) (content : String) (written : Nat)
    (bytes : ByteArray) (part : content.toUTF8.extract written (written + bytes.size) = bytes)
    (under_way : storage.storing position = some (.opened way content written)) :
    Step folder storage (.write position count)
      { storage.reach position (some (.opened way content (written + bytes.size))) with
        place := storage.place.writeAt way written bytes
        deeds := storage.deeds ++ [.wrote position way written bytes] }
  | fail (event : Event) (position : Nat) (cause : File.Problem) (apart : event.batch? = none)
    (begun : storage.storing position ≠ none ∨
      ∃ keyId armored, storage.batch.delivering? position = some (keyId, armored)) :
    Step folder storage event (storage.reach position (some (.failed cause)))

variable {folder : String} {storage next start : Storage} {event : Event} {events : List Event}
  {position : Nat}

theorem storing_reach (storage : Storage) (own : Nat) (storing : Option Storing) (position : Nat) :
    (storage.reach own storing).storing position =
      if position = own then storing else storage.storing position :=
  Function.update_apply storage.storing own storing position

theorem opened_of_reach {own : Nat} {storing : Option Storing} {way : List String}
    {content : String} {written : Nat}
    (begun : (storage.reach own storing).storing position = some (.opened way content written)) :
    position = own ∧ storing = some (.opened way content written) ∨
      storage.storing position = some (.opened way content written) := by
  rw [storing_reach] at begun
  split_ifs at begun with same
  · exact .inl ⟨same, begun⟩
  · exact .inr begun

theorem exists_of_handed? {armored path : String}
    (handed : storage.handed? folder position = some (armored, path)) :
    ∃ keyId, storage.batch.delivering? position = some (keyId, armored) ∧
      Store.path folder keyId = .ok path := by
  obtain ⟨⟨keyId, given⟩, delivering, handed⟩ := Option.bind_eq_some_iff.mp handed
  obtain ⟨found, made, handed⟩ := Option.bind_eq_some_iff.mp handed
  cases handed
  exact ⟨keyId, delivering, ok_of_toOption made⟩

/-- The importer takes a key only if its file was written to its end. -/
theorem answer?_cases {answer : Except Problem Unit} {deeds : List Deed}
    (answered : storage.answer? folder position = some (answer, deeds)) :
    (∃ problem, answer = .error problem ∧ deeds = []) ∨
      ∃ way content, answer = .ok () ∧ deeds = [.stored position way content] ∧
        storage.storing position = some (.opened way content content.toUTF8.size) := by
  obtain ⟨⟨keyId, armored⟩, delivering, answered⟩ := Option.bind_eq_some_iff.mp answered
  dsimp only at answered
  split at answered
  case h_1 problem _ =>
    cases answered
    exact .inl ⟨problem, rfl, rfl⟩
  case h_2 path cause _ _ =>
    cases answered
    exact .inl ⟨_, rfl, rfl⟩
  case h_3 path way content written _ under_way =>
    split_ifs at answered with complete
    cases answered
    rw [complete] at under_way
    exact .inr ⟨way, content, rfl, rfl, under_way⟩
  case h_4 => cases answered

theorem step_of_after? (happens : storage.after? folder event = some next) :
    Step folder storage event next := by
  cases event with
  | batch event =>
    obtain ⟨batch, inside, happens⟩ := Option.bind_eq_some_iff.mp happens
    split at happens
    case h_1 position reply _ =>
      obtain ⟨request, sending, happens⟩ := Option.bind_eq_some_iff.mp happens
      cases happens
      exact .exchange position request reply batch sending inside
    case h_2 position given _ =>
      obtain ⟨⟨answer, deeds⟩, answered, happens⟩ := Option.bind_eq_some_iff.mp happens
      dsimp only at happens
      split_ifs at happens with same
      subst same
      cases happens
      obtain ⟨problem, rfl, rfl⟩ | ⟨way, content, rfl, rfl, complete⟩ := answer?_cases answered
      · rw [List.append_nil]
        exact .refuse position problem batch inside
      · exact .store position way content batch complete inside
    case h_3 unreplied untaken =>
      cases happens
      exact .inside event batch unreplied untaken inside
  | make position =>
    obtain ⟨⟨armored, path⟩, handed, happens⟩ := Option.bind_eq_some_iff.mp happens
    obtain ⟨keyId, delivering, _⟩ := exists_of_handed? handed
    dsimp only at happens
    split at happens
    case h_1 => cases happens
    case h_2 place _ made =>
      cases happens
      have step : Step folder storage _ _ :=
        .make position keyId armored .made delivering nofun
      rwa [made] at step
    case h_3 place cause _ made =>
      cases happens
      have step : Step folder storage _ _ :=
        .make position keyId armored (.failed cause) delivering nofun
      rwa [made] at step
  | create position =>
    obtain ⟨⟨armored, path⟩, handed, happens⟩ := Option.bind_eq_some_iff.mp happens
    obtain ⟨keyId, delivering, made⟩ := exists_of_handed? handed
    dsimp only at happens
    split at happens
    case h_1 way place _ created =>
      cases happens
      exact .create position keyId armored path way place delivering made created
    case h_2 cause ready _ =>
      cases happens
      exact .fail _ position cause rfl (.inr ⟨keyId, armored, delivering⟩)
    case h_3 => cases happens
  | write position count =>
    rw [after?] at happens
    split at happens
    case h_1 way content written under_way =>
      dsimp only at happens
      split_ifs at happens
      cases happens
      exact .write position count way content written _ (Folder.extract_size _ _ _) under_way
    case h_2 => cases happens
  | fail position cause =>
    rw [after?] at happens
    split at happens
    case h_1 => cases happens
    case h_2 storing _ under_way =>
      cases happens
      refine .fail _ position cause rfl (.inl ?_)
      rw [under_way]
      exact Option.some_ne_none _
    case h_3 =>
      obtain ⟨⟨armored, path⟩, handed, happens⟩ := Option.bind_eq_some_iff.mp happens
      obtain ⟨keyId, delivering, _⟩ := exists_of_handed? handed
      cases happens
      exact .fail _ position cause rfl (.inr ⟨keyId, armored, delivering⟩)

theorem exists_of_run?_concat (ran : start.run? folder (events ++ [event]) = some next) :
    ∃ storage, start.run? folder events = some storage ∧ Step folder storage event next := by
  rw [run?, List.foldlM_append] at ran
  obtain ⟨storage, ran, happens⟩ := Option.bind_eq_some_iff.mp ran
  rw [List.foldlM_cons] at happens
  obtain ⟨last, happens, rest⟩ := Option.bind_eq_some_iff.mp happens
  cases rest
  exact ⟨storage, ran, step_of_after? happens⟩

theorem batchEvents_concat (events : List Event) (event : Event) :
    batchEvents (events ++ [event]) = batchEvents events ++ event.batch?.toList := by
  rw [batchEvents, List.filterMap_append, ← batchEvents]
  cases given : event.batch? with
  | none => rw [List.filterMap_cons_none given]; rfl
  | some inner => rw [List.filterMap_cons_some given]; rfl

theorem mem_batchEvents_iff {inner : Batch.Event} :
    inner ∈ batchEvents events ↔ .batch inner ∈ events := by
  rw [batchEvents, List.mem_filterMap]
  constructor
  · rintro ⟨event, listed, given⟩
    cases event <;> cases given
    exact listed
  · intro listed
    exact ⟨_, listed, rfl⟩

theorem batch_eq_of_step (happens : Step folder storage event next) :
    storage.batch.run? event.batch?.toList = some next.batch := by
  have none_yet : storage.batch.run? [] = some storage.batch := rfl
  cases happens with
  | exchange position request reply batch sending happens => exact Batch.run?_concat none_yet happens
  | store position way content batch complete happens => exact Batch.run?_concat none_yet happens
  | refuse position problem batch happens => exact Batch.run?_concat none_yet happens
  | inside event batch unreplied untaken happens => exact Batch.run?_concat none_yet happens
  | fail event position cause apart =>
    rw [apart]
    rfl
  | _ => rfl

theorem batch_of_run? (ran : start.run? folder events = some storage) :
    start.batch.run? (batchEvents events) = some storage.batch := by
  induction events using List.reverseRecOn generalizing storage with
  | nil =>
    cases ran
    rfl
  | append_singleton events event ih =>
    obtain ⟨middle, ran, happens⟩ := exists_of_run?_concat ran
    rw [batchEvents_concat, Batch.run?_append, ih ran, Option.bind_some]
    exact batch_eq_of_step happens

theorem handed?_eq {keyId armored path : String}
    (delivering : storage.batch.delivering? position = some (keyId, armored))
    (named : Store.path folder keyId = .ok path) :
    storage.handed? folder position = some (armored, path) := by
  rw [handed?, delivering, Option.bind_eq_bind, Option.bind_some]
  dsimp only
  rw [named]
  rfl

section Alone

variable {keyId armored path : String} {way : List String} {place : Folder}

theorem after?_make (delivering : storage.batch.delivering? position = some (keyId, armored))
    (named : Store.path folder keyId = .ok path) (idle : storage.storing position = none)
    (makes : storage.place.makeFolder folder = (place, .ok ())) :
    storage.after? folder (.make position) =
      some { storage.reach position (some .made) with place } := by
  rw [after?, handed?_eq delivering named, idle, makes]
  rfl

theorem after?_create (delivering : storage.batch.delivering? position = some (keyId, armored))
    (named : Store.path folder keyId = .ok path) (made : storage.storing position = some .made)
    (creates : storage.place.create path = .ok (way, place)) :
    storage.after? folder (.create position) =
      some { storage.reach position (some (.opened way armored 0)) with
        place, deeds := storage.deeds ++ [.opened position way] } := by
  rw [after?, handed?_eq delivering named, Option.bind_eq_bind, Option.bind_some]
  dsimp only
  rw [made, creates]
  rfl

theorem after?_write (inhabited : armored ≠ "")
    (begun : storage.storing position = some (.opened way armored 0)) :
    storage.after? folder (.write position armored.toUTF8.size) =
      some { storage.reach position (some (.opened way armored armored.toUTF8.size)) with
        place := storage.place.writeAt way 0 armored.toUTF8
        deeds := storage.deeds ++ [.wrote position way 0 armored.toUTF8] } := by
  have whole : armored.toUTF8.extract 0 (0 + armored.toUTF8.size) = armored.toUTF8 := by
    rw [Nat.zero_add, ByteArray.extract_zero_size]
  have some_bytes : ¬armored.toUTF8.isEmpty = true := by
    intro none
    rw [ByteArray.isEmpty, beq_iff_eq] at none
    exact inhabited (String.utf8ByteSize_eq_zero_iff.mp none)
  rw [after?, begun]
  dsimp only
  rw [whole, if_neg some_bytes, Nat.zero_add]

theorem answer?_of_complete (delivering : storage.batch.delivering? position = some (keyId, armored))
    (named : Store.path folder keyId = .ok path)
    (complete : storage.storing position = some (.opened way armored armored.toUTF8.size)) :
    storage.answer? folder position = some (.ok (), [.stored position way armored]) := by
  rw [answer?, delivering, Option.bind_eq_bind, Option.bind_some]
  dsimp only
  rw [named, complete]
  exact if_pos rfl

/-- Steps for one key with nothing between them store the key as the store does. -/
theorem run?_of_add (delivering : storage.batch.delivering? position = some (keyId, armored))
    (idle : storage.storing position = none) (inhabited : armored ≠ "")
    (added : Store.add storage.place folder keyId armored = (.ok (), place)) :
    ∃ way next, storage.run? folder
        [.make position, .create position, .write position armored.toUTF8.size] = some next ∧
      next.batch = storage.batch ∧ next.place = place ∧
      next.answer? folder position = some (.ok (), [.stored position way armored]) := by
  unfold Store.add at added
  cases named : Store.path folder keyId with
  | error problem =>
    rw [named] at added
    cases added
  | ok path =>
    rw [named] at added
    dsimp only at added
    split at added
    case h_1 => cases added
    case h_2 around makes =>
      split at added
      case h_1 => cases added
      case h_2 way opened creates =>
        cases added
        let first : Storage := { storage.reach position (some .made) with place := around }
        let second : Storage :=
          { first.reach position (some (.opened way armored 0)) with
            place := opened, deeds := first.deeds ++ [.opened position way] }
        let third : Storage :=
          { second.reach position (some (.opened way armored armored.toUTF8.size)) with
            place := second.place.writeAt way 0 armored.toUTF8
            deeds := second.deeds ++ [.wrote position way 0 armored.toUTF8] }
        have makes_first : storage.after? folder (.make position) = some first :=
          after?_make delivering named idle makes
        have made : first.storing position = some .made := by
          rw [storing_reach, if_pos rfl]
        have opens_second : first.after? folder (.create position) = some second :=
          after?_create delivering named made creates
        have begun : second.storing position = some (.opened way armored 0) := by
          rw [storing_reach, if_pos rfl]
        have complete : third.storing position = some (.opened way armored armored.toUTF8.size) := by
          rw [storing_reach, if_pos rfl]
        refine ⟨way, third, ?_, rfl, rfl, answer?_of_complete delivering named complete⟩
        rw [run?, List.foldlM_cons, makes_first, Option.bind_eq_bind, Option.bind_some,
          List.foldlM_cons, opens_second, Option.bind_eq_bind, Option.bind_some, List.foldlM_cons,
          after?_write inhabited begun]
        rfl

end Alone

end Storage

end Vouch.Keyserver
