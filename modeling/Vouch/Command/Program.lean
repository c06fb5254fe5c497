import Vouch.Analysis
import Vouch.File
import Vouch.Keyserver.Batch
import Vouch.Keyserver.Probe

/-!
Programs: what a command does step by step, without saying how a step is done.

One and the same program runs in an operating system, in a rehearsed world, or against whatever else
can answer its steps.
-/

namespace Vouch.Command

open Keyserver

inductive Stream where
  | output
  | error
  deriving DecidableEq, Repr

inductive Failure where
  | config (path : String) (cause : ConfigProblem)
  /-- The configuration, wherever it comes from, cannot be used. -/
  | client (cause : ConfigProblem)
  | keyFile (path : String) (cause : File.Problem)
  | snapshot (cause : Analysis.Problem)
  deriving Repr

def Failure.message : Failure → String
  | .config path cause =>
    "failed to load keyserver config: " ++ path ++ ": " ++ (Problem.config cause).message
  | .client cause => "invalid keyserver configuration: " ++ (Problem.config cause).message
  | .keyFile path cause => "failed to read key file: " ++ path ++ ": " ++ cause.message
  | .snapshot cause => cause.message

inductive Ending where
  | exit (code : Nat)
  | failed (failure : Failure)
  /-- The program breaks off, because a batch cannot begin. -/
  | aborted
  deriving Repr

def failureCode : Nat := 2

def abortCode : Nat := 101

def Ending.code : Ending → Nat
  | .exit code => code
  | .failed _ => failureCode
  | .aborted => abortCode

structure Transfer where
  client : Client
  keyIds : List String
  folder : String
  /-- The user is told about the progress, and can interrupt. -/
  followed : Bool

/-- What remains to be done until the program ends. -/
inductive Program where
  | finish (ending : Ending)
  | print (stream : Stream) (line : String) (next : Program)
  | read (path : String) (next : Except File.Problem String → Program)
  | search (client : Client) (query : String) (next : SearchResult → Program)
  | upload (client : Client) (armored : String) (next : Except Problem Unit → Program)
  | transfer (transfer : Transfer) (next : Option Import.Outcome → Program)
  | probe (client : Client) (next : List Reachability → Program)

def interruptLine : String := "interrupted, finishing keys in flight"

/-- The ways to do the steps of programs.  A batch has no outcome if it cannot begin. -/
structure Surroundings (m : Type → Type) where
  print : Stream → String → m Unit
  read : String → m (Except File.Problem String)
  search : Client → String → m SearchResult
  upload : Client → String → m (Except Problem Unit)
  transfer : Transfer → m (Option Import.Outcome)
  probe : Client → m (List Reachability)

namespace Program

def printAll (stream : Stream) (lines : List String) (next : Program) : Program :=
  lines.foldr (fun line next => .print stream line next) next

def exit (code : Nat) : Program :=
  .finish (.exit code)

def fail (failure : Failure) : Program :=
  .finish (.failed failure)

def complain (message : String) (code : Nat) : Program :=
  .print .error ("error: " ++ message) (exit code)

def run [Monad m] (within : Surroundings m) : Program → m Ending
  | .finish ending => pure ending
  | .print stream line next => do
    within.print stream line
    next.run within
  | .read path next => do (next (← within.read path)).run within
  | .search client query next => do (next (← within.search client query)).run within
  | .upload client armored next => do (next (← within.upload client armored)).run within
  | .transfer batch next => do (next (← within.transfer batch)).run within
  | .probe client next => do (next (← within.probe client)).run within

end Program

end Vouch.Command
