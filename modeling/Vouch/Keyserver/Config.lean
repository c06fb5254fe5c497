import Vouch.Log
import Vouch.Keyserver.Problem
import Vouch.Url.Basic
import Vouch.Yaml.Conform
import Vouch.Json.Part

/-!
The configuration of a keyserver client.

A configuration starts from the defaults or from a YAML file.  Environment variables override it,
and single settings override both.
-/

namespace Vouch

abbrev Environment := List (String × String)

namespace Keyserver

open Json (Value Shape)

structure Config where
  servers : List String
  selected : Nat
  /-- How long a request may take, in seconds. -/
  timeout : UInt64
  /-- How often a request is tried again after a transient failure. -/
  maxRetries : UInt32
  /-- How many keys of a batch are worked on at the same time; none counts as one. -/
  concurrency : UInt64
  /-- How long a connection may take when servers are probed, in milliseconds. -/
  probeTimeout : UInt64
  deriving DecidableEq, Repr

namespace Config

def knownServers : List String :=
  ["https://keyserver.ubuntu.com", "https://keys.openpgp.org"]

def standard : Config :=
  { servers := knownServers, selected := 0, timeout := 30, maxRetries := 2, concurrency := 4
    probeTimeout := 2500 }

instance : Inhabited Config := ⟨standard⟩

def toValue (config : Config) : Value :=
  .object [("servers", .texts config.servers), ("default_server", .nat config.selected),
    ("timeout_secs", .u64 config.timeout), ("max_retries", .u32 config.maxRetries),
    ("sync_concurrency", .u64 config.concurrency), ("probe_timeout_ms", .u64 config.probeTimeout)]

def shape : Shape :=
  .record "struct KeyServerConfig"
    [⟨"servers", .instead (.texts knownServers), .list .text⟩,
      ⟨"default_server", .instead (.nat standard.selected), .usize⟩,
      ⟨"timeout_secs", .instead (.u64 standard.timeout), .u64⟩,
      ⟨"max_retries", .instead (.u32 standard.maxRetries), .u32⟩,
      ⟨"sync_concurrency", .instead (.u64 standard.concurrency), .usize⟩,
      ⟨"probe_timeout_ms", .instead (.u64 standard.probeTimeout), .u64⟩]

def ofValue? : Value → Option Config
  | .list [servers, selected, timeout, maxRetries, concurrency, probeTimeout] => do
    return ⟨← servers.list? Value.text?, ← selected.nat?, ← timeout.u64?, ← maxRetries.u32?,
      ← concurrency.u64?, ← probeTimeout.u64?⟩
  | _ => none

def ofFile (path : String) (content : Except File.Problem String) :
    Except ConfigProblem Config := do
  match content with
  | .error cause => throw (.unreadable path cause)
  | .ok text =>
    match Yaml.decode? shape ofValue? text with
    | some config => return config
    | none => throw (.malformed path)

/-- The configuration with a server selected, which is added to the known ones unless it is there.
Slashes at the end make no difference. -/
def withServer (config : Config) (server : String) : Config :=
  let server := Text.withoutTrailingSlashes server
  match config.servers.findIdx? (fun known => Text.withoutTrailingSlashes known == server) with
  | some position => { config with selected := position }
  | none =>
    { config with servers := config.servers ++ [server], selected := config.servers.length }

/-- A number of at most the given size in a variable; blanks around it do not matter. -/
def number? (env : Environment) (limit : Nat) (name : String) : Option Nat :=
  (env.lookup name).bind fun value => Decimal.natural? limit (Text.trimChars value.toList)

def namedServer? (env : Environment) : Option String :=
  ((env.lookup "SIGVERDICT_KEYSERVER").map Text.trim).filter (!·.isEmpty)

/-- The configuration with the settings of the environment; a setting that is not readable is left
out. -/
def withEnvironment (env : Environment) (config : Config) : Config :=
  let config := match namedServer? env with
    | some server => config.withServer server
    | none => config
  { config with
    timeout := match number? env Decimal.maxU64 "SIGVERDICT_KEYSERVER_TIMEOUT" with
      | some n => UInt64.ofNat n
      | none => config.timeout
    maxRetries := match number? env Decimal.maxU32 "SIGVERDICT_KEYSERVER_MAX_RETRIES" with
      | some n => UInt32.ofNat n
      | none => config.maxRetries
    concurrency := match number? env Decimal.maxU64 "SIGVERDICT_SYNC_CONCURRENCY" with
      | some n => UInt64.ofNat n
      | none => config.concurrency }

def server (config : Config) : Except ConfigProblem String :=
  match config.servers[config.selected]? with
  | some server => .ok server
  | none => .error (.noSuchServer config.selected config.servers.length)

/-- How many keys of a batch are worked on at the same time, at least one. -/
def effectiveConcurrency (config : Config) : Nat :=
  max config.concurrency.toNat 1

/-- The shortest time for a connection when servers are probed, in milliseconds. -/
def leastProbeTimeout : Nat := 200

/-- The longest time for a connection when servers are probed, in milliseconds. -/
def greatestProbeTimeout : Nat := 16000

/-- How long a connection may take when servers are probed, within bounds. -/
def effectiveProbeTimeout (config : Config) : Nat :=
  min (max config.probeTimeout.toNat leastProbeTimeout) greatestProbeTimeout

def problemOf? (server : String) : Option ConfigProblem :=
  match Url.read server with
  | .error flaw => some (.badUrl server flaw)
  | .ok url =>
    if url.scheme = "https" ∨ url.scheme = "http" then none
    else some (.unsupportedScheme url.scheme server)

def problem? (config : Config) : Option ConfigProblem :=
  if config.servers.isEmpty then some .noServers
  else
    match config.server with
    | .error problem => some problem
    | .ok _ => config.servers.findSome? problemOf?

def validate (config : Config) : Except ConfigProblem Unit :=
  match config.problem? with
  | some problem => .error problem
  | none => .ok ()

def isInTheClear (server : String) : Bool :=
  match Url.read server with
  | .ok url => url.scheme == "http"
  | .error _ => false

/-- What is logged when the configuration is checked: a warning for each server without encryption,
up to the first one that cannot be used. -/
def events (config : Config) : List Log.Event :=
  match config.server with
  | .error _ => []
  | .ok _ =>
    ((config.servers.takeWhile fun server => (problemOf? server).isNone).filter isInTheClear).map
      fun server =>
        Log.warn "keyserver uses plain http; traffic is not encrypted" [("server", server)]

end Config

end Keyserver

end Vouch
