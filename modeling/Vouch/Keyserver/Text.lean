import Vouch.Keyserver.Import
import Vouch.Keyserver.Reachability
import Vouch.Keyserver.SearchResult

/-!
What a keyserver told, as people read it, line by line.
-/

namespace Vouch.Keyserver

namespace Candidate

def marks (key : Candidate) : List String :=
  (if key.revoked then ["revoked"] else []) ++ (if key.expired then ["expired"] else []) ++
    if key.disabled then ["disabled"] else []

def lines (key : Candidate) : List String :=
  let marks := if key.marks.isEmpty then "" else " [" ++ ", ".intercalate key.marks ++ "]"
  (key.fetchId ++ " " ++ key.algorithm ++ "/" ++ Decimal.text key.bits.toNat ++ marks) ::
    key.uids.map ("    " ++ ·)

end Candidate

namespace Import

def Entry.line (entry : Entry) : String :=
  match entry.fate with
  | .imported => "imported  " ++ entry.keyId
  | .failed _ message => "failed    " ++ entry.keyId ++ ": " ++ message
  | .cancelled => "cancelled " ++ entry.keyId

def Outcome.lines (outcome : Outcome) (folder : String) : List String :=
  outcome.entries.map Entry.line ++
    [Decimal.text outcome.imported.length ++ " of " ++ Decimal.text outcome.entries.length ++
      " keys imported into " ++ folder]

end Import

def Reachability.line (r : Reachability) : String :=
  if r.reachable then
    r.server ++ " reachable" ++
      match r.latency with
      | some latency => " (" ++ Decimal.text latency.toNat ++ " ms)"
      | none => ""
  else
    r.server ++ " unreachable" ++
      match r.error with
      | some error => ": " ++ error
      | none => ""

end Vouch.Keyserver
