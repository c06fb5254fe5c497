import Vouch.Json.Part
import Vouch.Json.Union
import Vouch.Keyserver.Problem

/-!
What becomes of the keys of a batch.
-/

namespace Vouch.Keyserver.Import

open Json (Value Shape)

inductive FailureKind where
  | notFound
  | timeout
  | unknownServer
  | connectionError
  | tooManyResponses
  | insufficientQuery
  | invalidResponse
  | rejected
  deriving DecidableEq, Repr

namespace FailureKind

def all : List FailureKind :=
  [.notFound, .timeout, .unknownServer, .connectionError, .tooManyResponses, .insufficientQuery,
    .invalidResponse, .rejected]

def name : FailureKind → String
  | .notFound => "not_found"
  | .timeout => "timeout"
  | .unknownServer => "server_not_found"
  | .connectionError => "connection_error"
  | .tooManyResponses => "too_many_responses"
  | .insufficientQuery => "insufficient_query"
  | .invalidResponse => "invalid_response"
  | .rejected => "import_rejected"

def ofName? (name : String) : Option FailureKind :=
  all.find? (fun kind => kind.name == name)

def ofProblem : Problem → FailureKind
  | .notFound _ => .notFound
  | .timeout _ => .timeout
  | .unknownServer _ => .unknownServer
  | .transport _ | .serverFailure .. | .config _ => .connectionError
  | .tooManyResponses _ => .tooManyResponses
  | .insufficientQuery _ => .insufficientQuery
  | .unexpectedStatus .. | .noArmoredKey _ | .refusedUpload => .invalidResponse
  | .rejected .. => .rejected

def shape : Shape := .choice (all.map name)

end FailureKind

inductive Fate where
  | imported
  | failed (kind : FailureKind) (message : String)
  | cancelled
  deriving DecidableEq, Repr

namespace Fate

def ofProblem (problem : Problem) : Fate :=
  .failed (.ofProblem problem) problem.message

/-- The fate of a key whose work broke off without a result. -/
def aborted : Fate :=
  .failed .connectionError "sync task aborted"

def isFailed : Fate → Bool
  | .failed .. => true
  | _ => false

def name : Fate → String
  | .imported => "imported"
  | .failed .. => "failed"
  | .cancelled => "cancelled"

def members (fate : Fate) : List (String × Value) :=
  ("status", .text fate.name) ::
    match fate with
    | .failed kind message => [("kind", .text kind.name), ("message", .text message)]
    | .imported | .cancelled => []

end Fate

structure Entry where
  keyId : String
  fate : Fate
  deriving DecidableEq, Repr

namespace Entry

def toValue (entry : Entry) : Value :=
  .object (("key_id", .text entry.keyId) :: entry.fate.members)

def shape : Shape :=
  .merged "struct KeyImportEntry" [⟨"key_id", .required, .text⟩] "status"
    [⟨"imported", "struct variant KeyImportStatus::Imported", []⟩,
      ⟨"failed", "struct variant KeyImportStatus::Failed",
        [⟨"kind", .required, FailureKind.shape⟩, ⟨"message", .required, .text⟩]⟩,
      ⟨"cancelled", "struct variant KeyImportStatus::Cancelled", []⟩]

def ofValue? : Value → Option Entry
  | .list (.text keyId :: .text name :: more) =>
    match name, more with
    | "imported", [] => some ⟨keyId, .imported⟩
    | "failed", [.text kind, .text message] => do
      return ⟨keyId, .failed (← FailureKind.ofName? kind) message⟩
    | "cancelled", [] => some ⟨keyId, .cancelled⟩
    | _, _ => none
  | _ => none

end Entry

structure Progress where
  done : Nat
  total : Nat
  deriving DecidableEq, Repr

namespace Progress

def text (p : Progress) : String :=
  "[" ++ Decimal.text p.done ++ "/" ++ Decimal.text p.total ++ "]"

def toValue (p : Progress) : Value :=
  .object [("done", .nat p.done), ("total", .nat p.total)]

end Progress

/-- What has become of all keys of a batch, in the order in which they were asked for. -/
structure Outcome where
  entries : List Entry
  cancelled : Bool
  deriving DecidableEq, Repr

namespace Outcome

def imported (outcome : Outcome) : List Entry :=
  outcome.entries.filter (fun entry => entry.fate == .imported)

def failed (outcome : Outcome) : List Entry :=
  outcome.entries.filter (fun entry => entry.fate.isFailed)

def fateOf? (outcome : Outcome) (keyId : String) : Option Fate :=
  (outcome.entries.find? (fun entry => entry.keyId == keyId)).map (·.fate)

def progress (outcome : Outcome) : Progress :=
  { done := (outcome.entries.filter (fun entry => entry.fate != .cancelled)).length
    total := outcome.entries.length }

def isCompleteSuccess (outcome : Outcome) : Bool :=
  !outcome.cancelled && outcome.imported.length == outcome.entries.length

/-- The exit code of the program for a batch: no difference is made between reasons for failure. -/
def exitCode (outcome : Outcome) : Nat :=
  if outcome.isCompleteSuccess then 0
  else if outcome.imported.isEmpty && !outcome.cancelled then 1
  else 3

def toValue (outcome : Outcome) : Value :=
  .object [("entries", .list (outcome.entries.map Entry.toValue)),
    ("cancelled", .bool outcome.cancelled)]

def shape : Shape :=
  .record "struct ImportOutcome"
    [⟨"entries", .required, .list Entry.shape⟩, ⟨"cancelled", .instead (.bool false), .flag⟩]

def ofValue? : Value → Option Outcome
  | .list [entries, .bool cancelled] => do return ⟨← entries.list? Entry.ofValue?, cancelled⟩
  | _ => none

def read (document : String) : Except Json.Refusal Outcome :=
  Json.Document.decode shape ofValue? document

end Outcome

end Vouch.Keyserver.Import
