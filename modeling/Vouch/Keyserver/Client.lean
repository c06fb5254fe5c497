import Vouch.Keyserver.Config
import Vouch.Keyserver.Import
import Vouch.Keyserver.Query
import Vouch.Keyserver.SearchResult
import Vouch.Keyserver.Job
import Vouch.Version

/-!
The client of a keyserver: searching, fetching, publishing and importing keys.

A request that fails for a passing reason is sent again after a pause.  The bound of the pause
doubles with every retry, up to half a minute, and the pause is drawn at random below the bound.
-/

namespace Vouch.Keyserver

inductive Query where
  | index (term : String)
  | key (term : String)
  | add (armored : String)
  deriving DecidableEq, Repr

namespace Query

def subject : Query → String
  | .index term | .key term => term
  | .add _ => "upload"

def label : Query → String
  | .index term => "index(" ++ term ++ ")"
  | .key term => "get(" ++ term ++ ")"
  | .add armored => "add(" ++ Decimal.text armored.utf8ByteSize ++ " bytes)"

end Query

structure Client where
  config : Config
  server : String
  deriving DecidableEq, Repr

def userAgent : String := "sigverdict-keyserver/" ++ programVersion

def armorHeader : String := "-----BEGIN PGP PUBLIC KEY BLOCK-----"

def lastDoubling : Nat := 5

def greatestCeiling : Nat := 30000

def leastPause : Nat := 10

def pauseCeiling (retry : Nat) : Nat :=
  min (Nat.pow 2 (min retry lastDoubling) * 1000) greatestCeiling

namespace Client

def ofConfig (config : Config) : Except ConfigProblem Client := do
  config.validate
  return { config, server := Text.withoutTrailingSlashes (← config.server) }

def lookupRequest (client : Client) (op term : String) : Except ConfigProblem Request :=
  match Url.read (client.server ++ "/pks/lookup") with
  | .ok url => .ok (.get (url.withPairs [("op", op), ("options", "mr"), ("search", term)]))
  | .error flaw => .error (.badUrl client.server flaw)

def request (client : Client) : Query → Except ConfigProblem Request
  | .index term => client.lookupRequest "index" term
  | .key term => client.lookupRequest "get" term
  | .add armored => .ok (.post (client.server ++ "/pks/add") [("keytext", armored)])

def attempt (client : Client) (query : Query) : Job (Except Problem String) :=
  match client.request query with
  | .error problem => .done (.error (.config problem))
  | .ok request =>
    .log (Log.debug "keyserver request" [("server", client.server), ("request", query.label)])
      (.send request fun reply => .done (reply.body query.subject))

def retryEvent (client : Client) (problem : Problem) (retry pause : Nat) : Log.Event :=
  Log.warn "retrying keyserver request"
    [("error", problem.message), ("retry", Decimal.text retry),
      ("max_retries", Decimal.text client.config.maxRetries.toNat),
      ("backoff_ms", Decimal.text pause)]

def askAgain (client : Client) (query : Query) : (left retry : Nat) → Job (Except Problem String)
  | 0, _ => client.attempt query
  | left + 1, retry => do
    match ← client.attempt query with
    | .ok body => return .ok body
    | .error problem =>
      if problem.isTransient then
        .draw (pauseCeiling (retry + 1)) fun n =>
          let pause := max n leastPause
          .log (client.retryEvent problem (retry + 1) pause)
            (.sleep pause (askAgain client query left (retry + 1)))
      else return .error problem

def ask (client : Client) (query : Query) : Job (Except Problem String) :=
  client.askAgain query client.config.maxRetries.toNat 0

/-- The keys of a reply to a search.  Some servers refuse to list them in a successful reply. -/
def candidatesOf (term body : String) : Except Problem (List Candidate) :=
  match Listing.read body with
  | [] => if mentionsAnyCase body tooManyPhrase then .error (.tooManyResponses term) else .ok []
  | keys => .ok keys

def resultOf : Except Problem (List Candidate) → SearchResult
  | .ok [] => .notFound
  | .ok keys => .found keys
  | .error problem => .ofProblem problem

def searchTerm (client : Client) (term : String) : Job SearchResult := do
  let answer := (← client.ask (.index term)).bind (candidatesOf term)
  match answer with
  | .ok _ => return resultOf answer
  | .error problem =>
    .log (Log.debug "search failed" [("query", term), ("error", problem.message)])
      (.done (resultOf answer))

/-- A search.  A bare key ID that is not found is tried once more with `0x` before it. -/
def search (client : Client) (query : String) : Job SearchResult := do
  let term := Text.trim query
  if isTooShort term then
    .log (Log.debug "query too short, not sent" [("query", term)]) (.done .insufficientQuery)
  else
    match ← client.searchTerm term with
    | .notFound =>
      if Key.isBareKeyId term then
        let marked := "0x" ++ term
        .log (Log.debug "no match, retrying as key id" [("query", term), ("retry", marked)])
          (client.searchTerm marked)
      else return .notFound
    | result => return result

def armoredIn (term body : String) : Except Problem String :=
  if Text.mentions body armorHeader then .ok body
  else if Text.isBlankText body then .error (.notFound term)
  else .error (.noArmoredKey term)

def fetchTerm (client : Client) (term : String) : Job (Except Problem String) := do
  return (← client.ask (.key term)).bind (armoredIn term)

def fetch (client : Client) (name : String) : Job (Except Problem String) :=
  if isTooShort name then .done (.error (.insufficientQuery name))
  else client.fetchTerm (termFor name)

def upload (client : Client) (armored : String) : Job (Except Problem Unit) :=
  if Text.mentions armored armorHeader then do
    return (← client.ask (.add armored)).map fun _ => ()
  else .done (.error .refusedUpload)

def concluded (keyId : String) : Except Problem Unit → Job Import.Fate
  | .ok () => .log (Log.debug "key imported" [("key_id", keyId)]) (.done .imported)
  | .error problem =>
    .log (Log.warn "key sync failed" [("key_id", keyId), ("error", problem.message)])
      (.done (.ofProblem problem))

def fetchAndImport (client : Client) (keyId : String) : Job Import.Fate := do
  match ← client.fetchTerm (termFor keyId) with
  | .ok armored => .deliver keyId armored (concluded keyId)
  | .error problem => concluded keyId (.error problem)

end Client

end Vouch.Keyserver
