import Vouch.Report.Normal
import Vouch.Verdict
import Vouch.Yaml.Conform

/-!
The way from two documents, an engine's result and a key snapshot, to a report and a verdict.
-/

namespace Vouch

namespace Analysis

inductive Problem where
  | malformedResult (document : String) (refusal : Json.Refusal)
  | unreadableSnapshot (path cause : String)
  | malformedSnapshot
  deriving Repr

def Problem.message : Problem → String
  | .malformedResult document refusal => "malformed engine result: " ++ refusal.message document
  | .unreadableSnapshot path cause =>
    "key snapshot error: failed to read " ++ path ++ ": " ++ cause
  | .malformedSnapshot => "key snapshot error: failed to parse key snapshot: <yaml>"

def Problem.exitCode : Problem → Nat
  | _ => 2

end Analysis

def Engine.Result.parse (document : String) : Except Analysis.Problem Engine.Result :=
  match Engine.Result.read document with
  | .ok result => .ok result
  | .error refusal => .error (.malformedResult document refusal)

def Key.Snapshot.parse (document : String) : Except Analysis.Problem Key.Snapshot :=
  match Yaml.decode? Key.Snapshot.shape Key.Snapshot.ofValue? document with
  | some db => .ok db
  | none => .error .malformedSnapshot

/-- The result and the snapshot of two documents.  Without a document for the snapshot no key is
known. -/
def Analysis.inputs (result : String) (keys : Option String) :
    Except Analysis.Problem (Engine.Result × Key.Snapshot) := do
  let raw ← Engine.Result.parse result
  let db ← match keys with
    | some keys => Key.Snapshot.parse keys
    | none => pure Key.Snapshot.empty
  return (raw, db)

end Vouch
