import Vouch.Keyserver.Batch
import Vouch.Rehearsal.World

/-!
A rehearsal of a batch: one schedule of it, in the time of the rehearsed world.

Whoever has something to do waits in a line.  Keys are started first, as many as there are slots;
then the workers have their turns, each until it has to wait.  When the line is empty the clock goes
on to the next moment at which a wait ends.  Starting resumes after the workers of that moment.
-/

namespace Vouch.Rehearsal

open Keyserver

inductive Handling where
  | answers (answer : Except Problem Unit)
  | dies

structure Importer (σ : Type) where
  state : σ
  /-- What is done with a key, whether the batch is cancelled by it, and the state after it. -/
  handle : σ → (keyId armored : String) → Handling × Bool × σ

inductive Sight where
  | progress (progress : Import.Progress)
  | interrupt
  deriving DecidableEq, Repr

structure Waiting where
  position : Nat
  due : Nat
  answer : Job.Answer

structure Scene (σ : Type) where
  batch : Batch
  world : World
  importer : Importer σ
  options : Batch.Options
  /-- Seeing so much progress makes the user cancel the batch. -/
  cancelAtReport : Option Nat
  line : List Nat
  waiting : List Waiting
  underWay : List Nat
  peak : Nat
  sights : List Sight

namespace Scene

def after (scene : Scene σ) (event : Batch.Event) : Scene σ :=
  { scene with batch := (scene.batch.after? event).getD scene.batch }

def cancel (scene : Scene σ) : Scene σ :=
  if scene.options.cancel.isSome then scene.after .cancel else scene

def see (scene : Scene σ) (sight : Sight) : Scene σ :=
  { scene with sights := sight :: scene.sights }

def wait (scene : Scene σ) (position duration : Nat) (answer : Job.Answer) : Scene σ :=
  { scene with
    line := scene.line.drop 1
    waiting := scene.waiting ++ [⟨position, scene.world.now + duration, answer⟩] }

def send (scene : Scene σ) (timeout position : Nat) (request : Request) : Scene σ :=
  let (world, course) := scene.world.exchange timeout request
  let underWay := position :: scene.underWay
  let scene := { scene with world, underWay, peak := max scene.peak underWay.length }
  let scene := if course.interrupts then (scene.see .interrupt).cancel else scene
  if course.duration = 0 then
    { scene.after (.answer position (.reply course.reply)) with
      underWay := scene.underWay.filter (· != position) }
  else scene.wait position course.duration (.reply course.reply)

def deliver (scene : Scene σ) (position : Nat) (keyId armored : String) : Scene σ :=
  let (handling, cancels, state) := scene.importer.handle scene.importer.state keyId armored
  let scene := { scene with importer := { scene.importer with state } }
  let scene := if cancels then scene.cancel else scene
  match handling with
  | .answers answer => scene.after (.answer position (.taken answer))
  | .dies => { scene.after (.die position) with line := scene.line.drop 1 }

def report (scene : Scene σ) (position number : Nat) : Scene σ :=
  let scene := { scene.after (.report position) with line := scene.line.drop 1 }
  if scene.options.progress then
    let scene := scene.see (.progress ⟨number, scene.batch.total⟩)
    if scene.cancelAtReport = some number then scene.cancel else scene
  else scene

def turn (scene : Scene σ) (timeout position : Nat) : Scene σ :=
  match scene.batch.worker? position with
  | none => { scene with line := scene.line.drop 1 }
  | some ⟨_, .counted _ number⟩ => scene.report position number
  | some ⟨_, .working job⟩ =>
    match job with
    | .done _ => scene.after (.count position)
    | .log event _ =>
      { scene.after (.answer position .logged) with world := scene.world.log event }
    | .draw greatest _ =>
      { scene.after (.answer position (.drawn 0)) with world := scene.world.draw greatest }
    | .sleep duration _ => scene.wait position duration .woken
    | .send request _ => scene.send timeout position request
    | .deliver keyId armored _ => scene.deliver position keyId armored

def start? (scene : Scene σ) : Option (Scene σ) :=
  if !scene.batch.mayStart then none
  else
    match scene.batch.phase with
    | .due => some (scene.after .check)
    | .waiting => if scene.batch.hasSlot then some (scene.after .take) else none
    | .holding =>
      if scene.batch.cancelRequested then some (scene.after .start)
      else some { scene.after .start with line := scene.line ++ [scene.batch.started] }

def nextMoment? (scene : Scene σ) : Option Nat :=
  (scene.waiting.map (·.due)).min?

def atMoment (scene : Scene σ) (moment : Nat) : Scene σ :=
  let woken := scene.waiting.filter (·.due ≤ moment)
  let scene := { scene with
    world := { scene.world with now := moment }
    waiting := scene.waiting.filter (moment < ·.due)
    line := scene.line ++ woken.map (·.position)
    underWay := scene.underWay.filter fun position => !(woken.map (·.position)).contains position }
  woken.foldl (fun scene w => scene.after (.answer w.position w.answer)) scene

/-- One step of a scene, unless the batch is over.  While keys are being started nobody has a turn;
starting ends when no slot is free, and resumes when the line is empty. -/
def step? (timeout : Nat) (starting : Bool) (scene : Scene σ) : Option (Bool × Scene σ) :=
  match if starting then scene.start? else none with
  | some scene => some (true, scene)
  | none =>
    match scene.line with
    | position :: _ => some (false, scene.turn timeout position)
    | [] =>
      match scene.start? with
      | some scene => some (true, scene)
      | none => scene.nextMoment?.map fun moment => (false, scene.atMoment moment)

def run (timeout : Nat) : (budget : Nat) → Bool → Scene σ → Scene σ
  | 0, _, scene => scene
  | budget + 1, starting, scene =>
    match scene.step? timeout starting with
    | none => scene
    | some (starting, scene) => run timeout budget starting scene

def budget (keys retries : Nat) : Nat :=
  (keys + 1) * (retries + 1) * 8 + (keys + 1) * 10

end Scene

structure Setting (σ : Type) where
  importer : Importer σ
  options : Batch.Options
  cancelAtReport : Option Nat

structure Performance (σ : Type) where
  outcome : Import.Outcome
  importer : σ
  sights : List Sight
  peak : Nat

def Scene.initial (batch : Batch) (setting : Setting σ) (world : World) : Scene σ :=
  { batch, world
    importer := setting.importer
    options := setting.options
    cancelAtReport := setting.cancelAtReport
    line := [], waiting := [], underWay := [], peak := 0, sights := [] }

def perform (client : Client) (keyIds : List String) (setting : Setting σ) (world : World) :
    Option (Performance σ) × World :=
  let world := world.log (beginEvent client keyIds)
  match Batch.ofPlan? (client.plan keyIds) (setting.options.cancel == some true) with
  | none => (none, world)
  | some batch =>
    let scene := (Scene.initial batch setting world).run (client.config.timeout.toNat * 1000)
      (Scene.budget keyIds.length client.config.maxRetries.toNat) true
    let outcome := scene.batch.outcome
    (some { outcome, importer := scene.importer.state, sights := scene.sights.reverse
            peak := scene.peak },
      scene.world.log (endEvent outcome))

end Vouch.Rehearsal
