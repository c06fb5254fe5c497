import Vouch.Keyserver.Client
import Vouch.Keyserver.Reachability

/-!
Probes: whether a connection to each known server can be made in time.

All connections are tried at the same time, so that their results may come in any order; what is
reported has the order of the servers.
-/

namespace Vouch.Keyserver.Probe

inductive Connection where
  | made (latency : Nat)
  | failed (cause : String)
  | silent
  deriving DecidableEq, Repr

def unreachable (server error : String) : Reachability :=
  { server, reachable := false, latency := none, error := some error }

def target (server : String) : Except Reachability (Url.Host × Nat) :=
  match Url.read server with
  | .error flaw => .error (unreachable server ("invalid URL: " ++ flaw.message))
  | .ok url =>
    match url.host, url.portOrUsual? with
    | some host, some port => .ok (host, port)
    | _, _ => .error (unreachable server "URL has no host or port")

def result (server : String) (timeout : Nat) : Connection → Reachability
  | .made latency =>
    { server, reachable := true, latency := some (UInt64.ofNat latency), error := none }
  | .failed cause => unreachable server cause
  | .silent => unreachable server ("no connection within " ++ Decimal.text timeout ++ " ms")

def probe (connect : Url.Host → Nat → Connection) (timeout : Nat) (server : String) :
    Reachability :=
  match target server with
  | .error result => result
  | .ok (host, port) => result server timeout (connect host port)

/-- The results of all servers, in their order, from the results by position in the order in which
they came. -/
def inOrder (servers : List String) (arrived : List (Nat × Reachability)) : List Reachability :=
  servers.zipIdx.map fun (server, i) =>
    (arrived.lookup i).getD (unreachable server "probe aborted")

structure Round where
  servers : List String
  /-- How long a connection may take, in milliseconds. -/
  timeout : Nat
  /-- The positions of the servers whose probes are under way. -/
  pending : List Nat
  /-- The results by the positions of their servers, the latest first. -/
  arrived : List (Nat × Reachability)

namespace Round

inductive Event where
  /-- The probe at a position ends.  If it has tried a connection, this is how that has ended. -/
  | finish (position : Nat) (connection : Connection)
  | die (position : Nat)
  deriving DecidableEq, Repr

def initial (client : Client) : Round :=
  { servers := client.config.servers
    timeout := client.config.effectiveProbeTimeout
    pending := List.range client.config.servers.length
    arrived := [] }

def after? (round : Round) : Event → Option Round
  | .finish position connection => do
    let server ← round.servers[position]?
    if position ∈ round.pending then
      some { round with
        pending := round.pending.erase position
        arrived :=
          (position, probe (fun _ _ => connection) round.timeout server) :: round.arrived }
    else none
  | .die position =>
    if position ∈ round.pending then some { round with pending := round.pending.erase position }
    else none

def run? (round : Round) : List Event → Option Round
  | [] => some round
  | event :: rest => do (← round.after? event).run? rest

def isOver (round : Round) : Bool :=
  round.pending.isEmpty

def results (round : Round) : List Reachability :=
  inOrder round.servers round.arrived

end Round

def exitCode (results : List Reachability) : Nat :=
  if results.all (·.reachable) then 0 else 5

def events (result : Reachability) : List Log.Event :=
  match result.latency with
  | some latency =>
    [Log.debug "keyserver reachable"
      [("server", result.server), ("latency_ms", Decimal.text latency.toNat)]]
  | none => []

end Vouch.Keyserver.Probe
