import Vouch.Json.Union
import Vouch.Keyserver.Candidate
import Vouch.Keyserver.Problem

/-!
The results of searches on a keyserver.
-/

namespace Vouch.Keyserver

open Json (Value Paired)

inductive SearchResult where
  | found (keys : List Candidate)
  | notFound
  | timeout
  | unknownServer
  | connectionError
  | tooManyResponses
  | insufficientQuery
  deriving DecidableEq, Repr

namespace SearchResult

def keys : SearchResult → List Candidate
  | .found keys => keys
  | _ => []

def ofProblem : Problem → SearchResult
  | .notFound _ => .notFound
  | .timeout _ => .timeout
  | .unknownServer _ => .unknownServer
  | .tooManyResponses _ => .tooManyResponses
  | .insufficientQuery _ => .insufficientQuery
  | .transport _ | .serverFailure .. | .unexpectedStatus .. | .noArmoredKey _ | .refusedUpload
  | .config _ | .rejected .. => .connectionError

def name : SearchResult → String
  | .found _ => "found"
  | .notFound => "not_found"
  | .timeout => "timeout"
  | .unknownServer => "server_not_found"
  | .connectionError => "connection_error"
  | .tooManyResponses => "too_many_responses"
  | .insufficientQuery => "insufficient_query"

def describe : SearchResult → String
  | .found _ => "found"
  | .notFound => "no matching key"
  | .timeout => "keyserver timed out"
  | .unknownServer => "keyserver host not found"
  | .connectionError => "could not talk to the keyserver"
  | .tooManyResponses => "too many matches, narrow the query"
  | .insufficientQuery => "query too short"

def exitCode : SearchResult → Nat
  | .found _ => 0
  | .notFound | .tooManyResponses | .insufficientQuery => 1
  | .timeout | .unknownServer | .connectionError => 5

def toValue (result : SearchResult) : Value :=
  match result with
  | .found keys =>
    .object [("outcome", .text result.name), ("candidates", .list (keys.map Candidate.toValue))]
  | _ => .object [("outcome", .text result.name)]

def plain : List SearchResult :=
  [.notFound, .timeout, .unknownServer, .connectionError, .tooManyResponses, .insufficientQuery]

def title : SearchResult → String
  | .found _ => "SearchOutcome::Found"
  | .notFound => "SearchOutcome::NotFound"
  | .timeout => "SearchOutcome::Timeout"
  | .unknownServer => "SearchOutcome::ServerNotFound"
  | .connectionError => "SearchOutcome::ConnectionError"
  | .tooManyResponses => "SearchOutcome::TooManyResponses"
  | .insufficientQuery => "SearchOutcome::InsufficientQuery"

def union : Paired :=
  { title := "SearchOutcome"
    tag := "outcome"
    content := "candidates"
    variants :=
      ⟨"found", title (.found []), some (.list Candidate.shape)⟩ ::
        plain.map fun result => ⟨result.name, result.title, none⟩ }

def ofContent? (name : String) (content : Value) : Option SearchResult :=
  if name = "found" then do return .found (← content.list? Candidate.ofValue?)
  else plain.find? (fun result => result.name == name)

def read (document : String) : Except Json.Refusal SearchResult :=
  Json.Document.decodePaired union ofContent? document

end SearchResult

end Vouch.Keyserver
