import Vouch.Json.Part
import Vouch.Json.Union

/-!
Whether keyservers can be reached.
-/

namespace Vouch.Keyserver

open Json (Value Shape)

structure Reachability where
  server : String
  reachable : Bool
  /-- How long the connection took, in milliseconds. -/
  latency : Option UInt64
  error : Option String
  deriving DecidableEq, Repr

namespace Reachability

def toValue (r : Reachability) : Value :=
  .object ([("server", .text r.server), ("reachable", .bool r.reachable)] ++
    Value.member? "latency_ms" .u64 r.latency ++ Value.member? "error" .text r.error)

def shape : Shape :=
  .record "struct ProbeResult"
    [⟨"server", .required, .text⟩, ⟨"reachable", .required, .flag⟩,
      ⟨"latency_ms", .optional, .u64⟩, ⟨"error", .optional, .text⟩]

def ofValue? : Value → Option Reachability
  | .list [.text server, .bool reachable, latency, error] => do
    return ⟨server, reachable, ← latency.optional? Value.u64?, ← error.optional? Value.text?⟩
  | _ => none

def read (document : String) : Except Json.Refusal Reachability :=
  Json.Document.decode shape ofValue? document

end Reachability

end Vouch.Keyserver
