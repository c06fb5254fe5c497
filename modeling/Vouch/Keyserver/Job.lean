import Vouch.Keyserver.Network
import Vouch.Log

/-!
Jobs: what a client does step by step, without saying when a step ends or what comes back.

A job is worked off by giving an answer to each of its steps, so that one and the same job runs
against any server, any importer and any clock.
-/

namespace Vouch.Keyserver

inductive Job (α : Type) where
  | done (result : α)
  | send (request : Request) (next : Reply → Job α)
  | draw (greatest : Nat) (next : Nat → Job α)
  | sleep (duration : Nat) (next : Job α)
  | log (event : Log.Event) (next : Job α)
  /-- Key material that was fetched for a key is handed to the importer. -/
  | deliver (keyId armored : String) (next : Except Problem Unit → Job α)

namespace Job

def bind : Job α → (α → Job β) → Job β
  | .done a, f => f a
  | .send request next, f => .send request fun reply => (next reply).bind f
  | .draw greatest next, f => .draw greatest fun n => (next n).bind f
  | .sleep duration next, f => .sleep duration (next.bind f)
  | .log event next, f => .log event (next.bind f)
  | .deliver keyId armored next, f => .deliver keyId armored fun answer => (next answer).bind f

instance : Monad Job where
  pure := .done
  bind := bind

def result? : Job α → Option α
  | .done a => some a
  | _ => none

inductive Answer where
  | reply (reply : Reply)
  | drawn (n : Nat)
  | woken
  | logged
  | taken (answer : Except Problem Unit)

def after? : Job α → Answer → Option (Job α)
  | .send _ next, .reply reply => some (next reply)
  | .draw greatest next, .drawn n => if n ≤ greatest then some (next n) else none
  | .sleep _ next, .woken => some next
  | .log _ next, .logged => some next
  | .deliver _ _ next, .taken answer => some (next answer)
  | _, _ => none

/-- The job after its first steps, if they have answers of these kinds. -/
def run? : Job α → List Answer → Option (Job α)
  | job, [] => some job
  | job, answer :: rest => do (← job.after? answer).run? rest

inductive Action where
  | send (request : Request)
  | draw (greatest : Nat)
  | sleep (duration : Nat)
  | log (event : Log.Event)
  | deliver (keyId armored : String)
  deriving DecidableEq, Repr

def action? : Job α → Option Action
  | .done _ => none
  | .send request _ => some (.send request)
  | .draw greatest _ => some (.draw greatest)
  | .sleep duration _ => some (.sleep duration)
  | .log event _ => some (.log event)
  | .deliver keyId armored _ => some (.deliver keyId armored)

/-- The steps of a job that gets these answers, up to the first step without one. -/
def actions (job : Job α) : List Answer → List Action
  | [] => job.action?.toList
  | answer :: rest =>
    job.action?.toList ++
      match job.after? answer with
      | some next => next.actions rest
      | none => []

end Job

end Vouch.Keyserver
