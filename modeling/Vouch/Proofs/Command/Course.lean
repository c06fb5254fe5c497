import Mathlib.Tactic
import Vouch.Command.Keyserver
import Vouch.Proofs.Keyserver.Batch.Contents
import Vouch.Proofs.Keyserver.Term

/-!
What programs do to the files, and where it comes from.

A course of a program is one of the ways that it can go, in a folder of files and with a server that may
answer anything.  Programs that transfer keys into one folder only change files there, and only as the
server's replies and the names of the keys tell.
-/

namespace Vouch.Command

open Keyserver
open Job (Exchange Delivery)

/-- The program can come to the ending by these deeds, which change the files from the first folder to
the second.  A file that is read may hold anything. -/
inductive Course : Program → Folder → List Deed → Folder → Ending → Prop where
  | finish (ending : Ending) (place : Folder) : Course (.finish ending) place [] place ending
  | print {stream : Stream} {line : String} {next : Program} {before after : Folder}
    {deeds : List Deed} {ending : Ending} (later : Course next before deeds after ending) :
    Course (.print stream line next) before deeds after ending
  | read {path : String} {next : Except File.Problem String → Program} {before after : Folder}
    {deeds : List Deed} {ending : Ending} (content : Except File.Problem String)
    (later : Course (next content) before deeds after ending) :
    Course (.read path next) before deeds after ending
  | search {client : Client} {query : String} {next : SearchResult → Program}
    {before after : Folder} {deeds : List Deed} {ending : Ending} {exchanges : List Exchange}
    {deliveries : List Delivery} {result : SearchResult}
    (searched : Job.Course (client.search query) exchanges deliveries result)
    (later : Course (next result) before deeds after ending) :
    Course (.search client query next) before (exchanges.map .exchanged ++ deeds) after ending
  | upload {client : Client} {armored : String} {next : Except Problem Unit → Program}
    {before after : Folder} {deeds : List Deed} {ending : Ending} {exchanges : List Exchange}
    {deliveries : List Delivery} {answer : Except Problem Unit}
    (sent : Job.Course (client.upload armored) exchanges deliveries answer)
    (later : Course (next answer) before deeds after ending) :
    Course (.upload client armored next) before (exchanges.map .exchanged ++ deeds) after ending
  | refuse {transfer : Transfer} {next : Option Import.Outcome → Program} {before after : Folder}
    {deeds : List Deed} {ending : Ending}
    (crowded : Batch.ofPlan? (transfer.client.plan transfer.keyIds) false = none)
    (later : Course (next none) before deeds after ending) :
    Course (.transfer transfer next) before deeds after ending
  | transfer {transfer : Transfer} {next : Option Import.Outcome → Program}
    {before after : Folder} {deeds : List Deed} {ending : Ending} {batch : Batch}
    {events : List Storage.Event} {storage : Storage}
    (begun : Batch.ofPlan? (transfer.client.plan transfer.keyIds) false = some batch)
    (ran : (Storage.initial batch before).run? transfer.folder events = some storage)
    (closed : storage.batch.isOver = true)
    (interrupted : .batch .cancel ∈ events → transfer.followed = true)
    (later : Course (next (some storage.batch.outcome)) storage.place deeds after ending) :
    Course (.transfer transfer next) before
      (storage.deeds ++ .concluded storage.batch.outcome :: deeds) after ending
  | probe {client : Client} {next : List Reachability → Program} {before after : Folder}
    {deeds : List Deed} {ending : Ending} (results : List Reachability)
    (later : Course (next results) before deeds after ending) :
    Course (.probe client next) before deeds after ending

def Program.Quiet : Program → Prop
  | .finish _ => True
  | .print _ _ next => next.Quiet
  | _ => False

/-- What a program may do to files when it transfers keys into a folder. -/
structure Contained (folder : String) (before : Folder) (deeds : List Deed) (after : Folder) :
    Prop where
  /-- Files hold what the deeds make of them. -/
  replayed : ∀ way, after.fileAt? way = replay way deeds (before.fileAt? way)
  /-- The files that are opened lie directly in the folder and are named after keys. -/
  opened : ∀ position way, .opened position way ∈ deeds →
    ∃ keyId, Store.Locates after folder keyId way
  /-- What is written to a file is a part of a key that was fetched for it. -/
  wrote : ∀ position way offset bytes, .wrote position way offset bytes ∈ deeds →
    .opened position way ∈ deeds ∧ ∃ client keyId content, Fetched client deeds keyId content ∧
      Store.Locates after folder keyId way ∧
      content.toUTF8.extract offset (offset + bytes.size) = bytes
  /-- A key that was stored was fetched, and is all that its file holds if no other key came there. -/
  stored : ∀ position way content, .stored position way content ∈ deeds →
    .opened position way ∈ deeds ∧
      (∃ client keyId, Fetched client deeds keyId content ∧ Store.Locates after folder keyId way) ∧
      (Undisturbed position way deeds → after.fileAt? way = some content.toUTF8)
  /-- Only keys are imported that were stored. -/
  imported : ∀ outcome, .concluded outcome ∈ deeds → ∀ position entry,
    outcome.entries[position]? = some entry → entry.fate = .imported →
    ∃ way content, .stored position way content ∈ deeds ∧
      Store.Locates after folder entry.keyId way

variable {folder : String} {before after : Folder} {deeds : List Deed}

theorem Program.Quiet.deeds_eq_nil {program : Program} {ending : Ending} (quiet : program.Quiet)
    (course : Course program before deeds after ending) : deeds = [] ∧ after = before := by
  induction course with
  | finish => exact ⟨rfl, rfl⟩
  | print later ih => exact ih quiet
  | _ => cases quiet

namespace Contained

theorem nil (folder : String) (place : Folder) : Contained folder place [] place where
  replayed := fun _ => rfl
  opened := nofun
  wrote := nofun
  stored := nofun
  imported := nofun

end Contained

theorem ofPlan?_eq_some {plan : Batch.Plan} {cancelRequested : Bool} {batch : Batch}
    (begun : Batch.ofPlan? plan cancelRequested = some batch) :
    batch = Batch.initial plan cancelRequested := by
  unfold Batch.ofPlan? at begun
  split_ifs at begun
  cases begun
  rfl

end Vouch.Command
