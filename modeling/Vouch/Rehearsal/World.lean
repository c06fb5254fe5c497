import Vouch.Keyserver.Probe
import Vouch.Rehearsal.Script

/-!
A world to rehearse in: one machine with a scripted keyserver, and a clock that stands still unless
somebody waits.

One port of the machine answers by the script, one never answers, and all others refuse.  No other
host has an address.
-/

namespace Vouch.Rehearsal

open Keyserver

structure Received where
  method : String
  target : String
  form : Option String
  deriving DecidableEq, Repr

structure World where
  script : Script
  now : Nat
  /-- The requests that reached the server, the latest first. -/
  received : List Received
  /-- The bounds of the pauses that were drawn, the latest first. -/
  ceilings : List Nat
  events : List Log.Event
  deriving Repr

namespace World

def initial (script : Script) : World :=
  { script, now := 0, received := [], ceilings := [], events := [] }

def machine : Url.Host := .ipv4 0x7F000001

def scriptedPort : Nat := 11371

def silentPort : Nat := 2

def transportText : String := "<transport>"

/-- What the layers of the network say about a host without an address. -/
def lookupTexts : List String :=
  ["error sending request", "dns error",
    "failed to lookup address information: Name or service not known"]

/-- How long the time between an interrupt and the reply is, in milliseconds. -/
def interruptDelay : Nat := 5

structure Course where
  reply : Reply
  duration : Nat
  interrupts : Bool

def failsAtOnce (causes : List String) (host : Option String) : Course :=
  { reply := .failure { timedOut := false, causes, host }, duration := 0, interrupts := false }

def timesOut (timeout : Nat) (host : String) (interrupts : Bool) : Course :=
  { reply := .failure { timedOut := true, causes := ["request timed out"], host := some host }
    duration := timeout, interrupts }

/-- The course of a request with a scripted reply, when requests may take some milliseconds. -/
def courseOf (timeout : Nat) (host : String) (move : Move) : Course :=
  let duration := move.delay + if move.interrupts then interruptDelay else 0
  let whole (reply : Reply) : Course :=
    if timeout < duration then timesOut timeout host move.interrupts
    else { reply, duration, interrupts := move.interrupts }
  match move.ending with
  | .silence => timesOut timeout host move.interrupts
  | .answer status body => whole (.answer status body)
  | .failure timedOut causes knowsHost =>
    whole (.failure { timedOut, causes, host := if knowsHost then some host else none })

def request (world : World) (timeout : Nat) (url : Url) (op : String) (term : Option String)
    (received : Received) : World × Course :=
  let host := url.host.map Url.Host.text
  let name := host.getD ""
  if url.host = some machine then
    if url.portOrUsual? = some scriptedPort then
      let (move, script) := world.script.use op term
      ({ world with script, received := received :: world.received }, courseOf timeout name move)
    else if url.portOrUsual? = some silentPort then (world, timesOut timeout name false)
    else (world, failsAtOnce [transportText] host)
  else (world, failsAtOnce lookupTexts host)

def exchange (world : World) (timeout : Nat) : Request → World × Course
  | .get url =>
    let pairs := Url.Form.pairs (url.query.getD [])
    world.request timeout url ((pairs.lookup "op").getD "") (pairs.lookup "search")
      { method := "GET", target := url.target, form := none }
  | .post address form =>
    match Url.read address with
    | .error _ => (world, failsAtOnce [transportText] none)
    | .ok url =>
      world.request timeout url "add" none
        { method := "POST", target := url.target
          form := some (String.ofList (Url.Form.chars form)) }

def log (world : World) (event : Log.Event) : World :=
  { world with events := event :: world.events }

/-- The world in which a bound was asked for; what is drawn is always the least number. -/
def draw (world : World) (greatest : Nat) : World :=
  { world with ceilings := greatest :: world.ceilings }

def wait (world : World) (duration : Nat) : World :=
  { world with now := world.now + duration }

/-- The result of a job that has the world for itself, and the world after it.  Keys that are
delivered are taken. -/
def run (timeout : Nat) : Job α → World → α × World
  | .done a, world => (a, world)
  | .send request next, world =>
    let (world, course) := world.exchange timeout request
    run timeout (next course.reply) (world.wait course.duration)
  | .draw greatest next, world => run timeout (next 0) (world.draw greatest)
  | .sleep duration next, world => run timeout next (world.wait duration)
  | .log event next, world => run timeout next (world.log event)
  | .deliver _ _ next, world => run timeout (next (.ok ())) world

def connect (host : Url.Host) (port : Nat) : Probe.Connection :=
  if host = machine then
    if port = scriptedPort then .made 0
    else if port = silentPort then .silent
    else .failed "Connection refused (os error 111)"
  else .failed "failed to lookup address information: Name or service not known"

end World

end Vouch.Rehearsal
