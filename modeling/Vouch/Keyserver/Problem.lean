import Vouch.Decimal
import Vouch.File
import Vouch.Text.Ascii
import Vouch.Text.Blank
import Vouch.Text.Search
import Vouch.Url.Flaw

/-!
What can go wrong between a program and a keyserver, and how the replies of a server and the
failures of the network are told apart.
-/

namespace Vouch.Keyserver

inductive ConfigProblem where
  | noServers
  | noSuchServer (index count : Nat)
  | badUrl (server : String) (flaw : Url.Flaw)
  | unsupportedScheme (scheme server : String)
  | unreadable (path : String) (cause : File.Problem)
  | malformed (path : String)
  deriving DecidableEq, Repr

def ConfigProblem.message : ConfigProblem → String
  | .noServers => "no keyservers configured"
  | .noSuchServer index count =>
    "default_server index " ++ Decimal.text index ++ " out of range (" ++ Decimal.text count ++
      " servers configured)"
  | .badUrl server flaw => "invalid keyserver URL '" ++ server ++ "': " ++ flaw.message
  | .unsupportedScheme scheme server =>
    "unsupported scheme '" ++ scheme ++ "' in '" ++ server ++ "'"
  | .unreadable path cause => "failed to read " ++ path ++ ": " ++ cause.message
  | .malformed path => "failed to parse " ++ path ++ ": <yaml>"

inductive Problem where
  | notFound (query : String)
  | timeout (server : String)
  | unknownServer (server : String)
  /-- The network failed; the texts of all causes are joined. -/
  | transport (chain : String)
  | serverFailure (status : Nat) (body : String)
  | tooManyResponses (query : String)
  | insufficientQuery (query : String)
  /-- The server replied with a status that has no meaning here. -/
  | unexpectedStatus (status : Nat) (body : String)
  | noArmoredKey (query : String)
  | refusedUpload
  | config (cause : ConfigProblem)
  | rejected (keyId reason : String)
  deriving DecidableEq, Repr

def snippetLength : Nat := 200

def snippet (body : String) : String :=
  match Text.trimChars body.toList with
  | [] => "no body"
  | cs => String.ofList (cs.take snippetLength)

def quotedReply (status : Nat) (body : String) : String :=
  "HTTP " ++ Decimal.text status ++ ": " ++ snippet body

namespace Problem

def message : Problem → String
  | .notFound query => "no key found for '" ++ query ++ "'"
  | .timeout server => "request to " ++ server ++ " timed out"
  | .unknownServer server => "keyserver not found: " ++ server
  | .transport chain => "connection error: " ++ chain
  | .serverFailure status body => "connection error: " ++ quotedReply status body
  | .tooManyResponses query => "too many responses for '" ++ query ++ "'; refine the search"
  | .insufficientQuery query => "insufficient query: '" ++ query ++ "'"
  | .unexpectedStatus status body => "invalid response: " ++ quotedReply status body
  | .noArmoredKey query =>
    "invalid response: no armored public key in response for '" ++ query ++ "'"
  | .refusedUpload =>
    "invalid response: refusing to upload: input is not an armored public key"
  | .config cause => "configuration error: " ++ cause.message
  | .rejected keyId reason => "import of " ++ keyId ++ " failed: " ++ reason

def isTransient : Problem → Bool
  | .timeout _ | .transport _ | .serverFailure .. => true
  | _ => false

def exitCode : Problem → Nat
  | .notFound _ | .tooManyResponses _ | .insufficientQuery _ | .config _ => 1
  | .timeout _ | .unknownServer _ | .transport _ | .serverFailure .. => 5
  | .unexpectedStatus .. | .noArmoredKey _ | .refusedUpload | .rejected .. => 6

end Problem

def mentionsAnyCase (text phrase : String) : Bool :=
  Text.mentions (Text.lower text) phrase

def tooManyPhrase : String := "too many"

def vaguePhrases : List String := ["insufficient", "too short"]

def Problem.ofReply (status : Nat) (body query : String) : Problem :=
  if status = 413 ∨ mentionsAnyCase body tooManyPhrase then .tooManyResponses query
  else if status = 400 ∧ vaguePhrases.any (mentionsAnyCase body) then .insufficientQuery query
  else if status = 404 then .notFound query
  else if 500 ≤ status ∧ status ≤ 599 then .serverFailure status body
  else .unexpectedStatus status body

def lookupPhrases : List String :=
  ["dns error", "failed to lookup address", "name or service not known", "no such host",
    "nodename nor servname", "temporary failure in name resolution"]

def timeoutPhrase : String := "timed out"

/-- The problem of a failure of the network, from the joined texts of its causes. -/
def Problem.ofTransport (timedOut : Bool) (chain server : String) : Problem :=
  if timedOut then .timeout server
  else if lookupPhrases.any (mentionsAnyCase chain) then .unknownServer server
  else if mentionsAnyCase chain timeoutPhrase then .timeout server
  else .transport chain

def joinedCauses (texts : List String) : String :=
  ": ".intercalate texts

end Vouch.Keyserver
