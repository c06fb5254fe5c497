import Vouch.Keyserver.Client

/-!
Batches: many keys that are fetched and imported at the same time, within a bound.

A batch is a state and the events that change it.  The events may come in any order that their
conditions allow, so that whatever is true of all runs is true of every schedule.

Keys are started in the order of the list.  For each of them it is looked up whether cancelling was
asked for, a free slot is waited for and taken, and it is looked up again; once one of these looks
finds the batch cancelled, no other key is started.
-/

namespace Vouch.Keyserver

inductive Stage where
  | working (job : Job Import.Fate)
  /-- The work is over and has been counted, but its progress is not reported yet. -/
  | counted (fate : Import.Fate) (number : Nat)

structure Worker where
  position : Nat
  stage : Stage

structure Batch.Plan where
  keyIds : List String
  slots : Nat
  work : String → Job Import.Fate

inductive Batch.Phase where
  /-- The first look at whether cancelling was asked for is due. -/
  | due
  /-- Nobody had asked for it, and a free slot is waited for. -/
  | waiting
  /-- A slot was taken, and the second look is due. -/
  | holding
  deriving DecidableEq, Repr

/-- The state of a batch. -/
structure Batch where
  plan : Batch.Plan
  /-- The number of keys that were started, which are the first ones of the list. -/
  started : Nat
  phase : Batch.Phase
  running : List Worker
  /-- What has become of keys whose work is over, by position. -/
  settled : List (Nat × Import.Fate)
  cancelRequested : Bool
  cancelled : Bool
  /-- The number of keys whose work has come to its end. -/
  finished : Nat
  reports : List Import.Progress

namespace Batch

inductive Event where
  | cancel
  /-- The first look before the start of a key. -/
  | check
  | take
  /-- The second look, and the start of the key unless cancelling was asked for. -/
  | start
  | answer (position : Nat) (answer : Job.Answer)
  | count (position : Nat)
  | report (position : Nat)
  | die (position : Nat)

def initial (plan : Plan) (cancelRequested : Bool) : Batch :=
  { plan, started := 0, phase := .due, running := [], settled := [], cancelRequested
    cancelled := false, finished := 0, reports := [] }

/-- An eighth of the numbers of 64 bits: no semaphore has more permits. -/
def greatestSlots : Nat := 2305843009213693951

/-- The batch before its first event, unless it would have more slots than a batch can have. -/
def ofPlan? (plan : Plan) (cancelRequested : Bool) : Option Batch :=
  if plan.slots ≤ greatestSlots then some (initial plan cancelRequested) else none

def total (batch : Batch) : Nat :=
  batch.plan.keyIds.length

def worker? (batch : Batch) (position : Nat) : Option Worker :=
  batch.running.find? (fun worker => worker.position == position)

def without (batch : Batch) (position : Nat) : List Worker :=
  batch.running.filter (fun worker => worker.position != position)

def withStage (batch : Batch) (position : Nat) (stage : Stage) : Batch :=
  { batch with
    running := batch.running.map fun worker =>
      if worker.position = position then { worker with stage } else worker }

def mayStart (batch : Batch) : Bool :=
  !batch.cancelled && batch.started < batch.total

def hasSlot (batch : Batch) : Bool :=
  batch.running.length < batch.plan.slots

/-- The batch after a look that has found that cancelling was asked for; a slot that was taken is
free again. -/
def stopped (batch : Batch) : Batch :=
  { batch with cancelled := true, phase := .due }

def after? (batch : Batch) : Event → Option Batch
  | .cancel => some { batch with cancelRequested := true }
  | .check =>
    if batch.mayStart ∧ batch.phase = .due then
      some (if batch.cancelRequested then batch.stopped else { batch with phase := .waiting })
    else none
  | .take =>
    if batch.mayStart ∧ batch.phase = .waiting ∧ batch.hasSlot then
      some { batch with phase := .holding }
    else none
  | .start =>
    match batch.plan.keyIds[batch.started]? with
    | some keyId =>
      if batch.mayStart ∧ batch.phase = .holding then
        some (if batch.cancelRequested then batch.stopped
          else { batch with
            started := batch.started + 1
            phase := .due
            running := batch.running ++ [⟨batch.started, .working (batch.plan.work keyId)⟩] })
      else none
    | none => none
  | .answer position answer => do
    match (← batch.worker? position).stage with
    | .working job => return batch.withStage position (.working (← job.after? answer))
    | .counted .. => none
  | .count position => do
    match (← batch.worker? position).stage with
    | .working (.done fate) =>
      let number := batch.finished + 1
      return { batch.withStage position (.counted fate number) with finished := number }
    | _ => none
  | .report position => do
    match (← batch.worker? position).stage with
    | .counted fate number =>
      return { batch with
        running := batch.without position
        settled := (position, fate) :: batch.settled
        reports := ⟨number, batch.total⟩ :: batch.reports }
    | .working _ => none
  | .die position => do
    let _ ← batch.worker? position
    return { batch with running := batch.without position }

def run? (batch : Batch) : List Event → Option Batch
  | [] => some batch
  | event :: rest => do (← batch.after? event).run? rest

def isOver (batch : Batch) : Bool :=
  batch.running.isEmpty && !batch.mayStart

def fateAt (batch : Batch) (position : Nat) : Import.Fate :=
  match batch.settled.lookup position with
  | some fate => fate
  | none => if position < batch.started then .aborted else .cancelled

def outcome (batch : Batch) : Import.Outcome :=
  { entries := batch.plan.keyIds.zipIdx.map fun (keyId, i) => ⟨keyId, batch.fateAt i⟩
    cancelled := batch.cancelled }

end Batch

structure Batch.Options where
  /-- Whether cancelling was asked for, if it can be asked for at all. -/
  cancel : Option Bool
  progress : Bool
  deriving DecidableEq, Repr

def flagText (b : Bool) : String :=
  if b then "true" else "false"

def Batch.Options.text (options : Batch.Options) : String :=
  let cancel := match options.cancel with
    | some flag => "Some(CancelFlag(" ++ flagText flag ++ "))"
    | none => "None"
  "SyncOptions \x7b cancel: " ++ cancel ++ ", progress: " ++ flagText options.progress ++ " \x7d"

def beginEvent (client : Client) (keyIds : List String) : Log.Event :=
  Log.debug "starting key sync"
    [("keys", Decimal.text keyIds.length),
      ("concurrency", Decimal.text client.config.effectiveConcurrency)]

def endEvent (outcome : Import.Outcome) : Log.Event :=
  Log.info "key sync finished"
    [("imported", Decimal.text outcome.imported.length),
      ("failed", Decimal.text outcome.failed.length),
      ("total", Decimal.text outcome.entries.length),
      ("cancelled", flagText outcome.cancelled)]

def Client.plan (client : Client) (keyIds : List String) : Batch.Plan :=
  { keyIds, slots := client.config.effectiveConcurrency, work := client.fetchAndImport }

end Vouch.Keyserver
