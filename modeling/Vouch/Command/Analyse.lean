import Vouch.Command.Program
import Vouch.Report.Text

/-!
The command that judges an engine's result.
-/

namespace Vouch.Command

structure Finding where
  report : Report
  verdict : Option Verdict
  deriving DecidableEq, Repr

namespace Finding

def ofEngine (zone : Time.Zone) (db : Key.Snapshot) (raw : Engine.Result) : Finding :=
  let report := Report.ofEngine zone db raw
  { report, verdict := if report.isVerification then some (Verdict.ofReport report) else none }

def exitCode (finding : Finding) : Nat :=
  match finding.verdict with
  | some verdict => if verdict.isFullyValid then 0 else 1
  | none => if finding.report.status = .failed then 1 else 0

def toValue (finding : Finding) : Json.Value :=
  .object [("report", finding.report.toValue),
    ("verdict", Json.Value.orNull Verdict.toValue finding.verdict)]

def lines (finding : Finding) (json : Bool) : List String :=
  if json then [finding.toValue.pretty]
  else
    finding.report.lines ++
      match finding.verdict with
      | some verdict => verdict.lines
      | none => []

end Finding

def snapshotIn (path : String) (content : Except File.Problem String) :
    Except Analysis.Problem Key.Snapshot :=
  match content with
  | .error cause => .error (.unreadableSnapshot path cause.message)
  | .ok document => Key.Snapshot.parse document

def conclude (zone : Time.Zone) (json : Bool) (raw : Engine.Result)
    (db : Except Analysis.Problem Key.Snapshot) : Program :=
  match db with
  | .error problem => .complain problem.message problem.exitCode
  | .ok db =>
    let finding := Finding.ofEngine zone db raw
    .printAll .output (finding.lines json) (.exit finding.exitCode)

/-- The command.  Without a snapshot no key is known. -/
def analyse (zone : Time.Zone) (result : String) (keys : Option String) (json : Bool) : Program :=
  .read result fun content =>
    match content with
    | .error cause =>
      .complain ("failed to read engine result: " ++ result ++ ": " ++ cause.message) failureCode
    | .ok document =>
      match Engine.Result.parse document with
      | .error problem => .complain problem.message problem.exitCode
      | .ok raw =>
        match keys with
        | none => conclude zone json raw (.ok Key.Snapshot.empty)
        | some path => .read path fun content => conclude zone json raw (snapshotIn path content)

end Vouch.Command
