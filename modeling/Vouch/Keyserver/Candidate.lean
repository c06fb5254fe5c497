import Vouch.Json.Part
import Vouch.Engine.Code
import Vouch.Key.Name
import Vouch.Text.Percent

/-!
Keys that a keyserver lists, and the machine-readable listing they are read from.

A listing has one line for each key, `pub:ID:ALGORITHM:BITS:CREATED:EXPIRES:FLAGS`, and after it one
line for each of its user IDs, `uid:ID`.  Lines of other kinds are passed over, and so are lines of
keys without an ID.
-/

namespace Vouch.Keyserver

open Json (Value Shape)

structure Candidate where
  keyId : String
  fingerprint : Option String
  algorithm : String
  bits : UInt32
  created : Option Time.Instant
  expires : Option Time.Instant
  revoked : Bool
  disabled : Bool
  expired : Bool
  uids : List String
  deriving DecidableEq, Repr

namespace Candidate

def fetchId (key : Candidate) : String :=
  key.fingerprint.getD key.keyId

def toValue (key : Candidate) : Value :=
  .object ([("key_id", .text key.keyId)] ++ Value.member? "fingerprint" .text key.fingerprint ++
    [("algorithm", .text key.algorithm), ("bits", .u32 key.bits)] ++
    Value.member? "created" (fun t => .text t.text) key.created ++
    Value.member? "expires" (fun t => .text t.text) key.expires ++
    [("revoked", .bool key.revoked), ("disabled", .bool key.disabled),
      ("expired", .bool key.expired), ("uids", .texts key.uids)])

def shape : Shape :=
  .record "struct KeyCandidate"
    [⟨"key_id", .required, .text⟩, ⟨"fingerprint", .optional, .text⟩,
      ⟨"algorithm", .required, .text⟩, ⟨"bits", .instead (.int 0), .u32⟩,
      ⟨"created", .optional, .stamp⟩, ⟨"expires", .optional, .stamp⟩,
      ⟨"revoked", .instead (.bool false), .flag⟩, ⟨"disabled", .instead (.bool false), .flag⟩,
      ⟨"expired", .instead (.bool false), .flag⟩, ⟨"uids", .instead (.list []), .list .text⟩]

def ofValue? : Value → Option Candidate
  | .list [.text keyId, fingerprint, .text algorithm, bits, created, expires, .bool revoked,
      .bool disabled, .bool expired, uids] => do
    return ⟨keyId, ← fingerprint.optional? Value.text?, algorithm, ← bits.u32?,
      ← created.optional? Value.instant?, ← expires.optional? Value.instant?, revoked, disabled,
      expired, ← uids.list? Value.text?⟩
  | _ => none

end Candidate

namespace Listing

inductive Line where
  | key (key : Candidate)
  | uid (uid : String)
  | other
  deriving Repr

def time? (field : List Char) : Option Time.Instant := do
  let seconds ← Decimal.signed? (Text.trimChars field)
  if 0 < seconds then Time.Instant.ofSeconds? seconds else none

def algorithm (field : List Char) : String :=
  match Decimal.natural? Decimal.maxU32 field with
  | some number => Engine.keyAlgorithm (UInt32.ofNat number)
  | none => "Unknown"

def bits (field : List Char) : UInt32 :=
  UInt32.ofNat ((Decimal.natural? Decimal.maxU32 field).getD 0)

def key (id : List Char) (more : List (List Char)) : Candidate :=
  let name := String.ofList (Key.normalChars id)
  let field (n : Nat) := more.getD n []
  let flags := field 4
  { keyId := name
    fingerprint := if Key.isFingerprint name then some name else none
    algorithm := algorithm (field 0)
    bits := bits (field 1)
    created := time? (field 2)
    expires := time? (field 3)
    revoked := flags.contains 'r'
    disabled := flags.contains 'd'
    expired := flags.contains 'e'
    uids := [] }

def lineOf (fields : List (List Char)) : Line :=
  match fields with
  | ['p', 'u', 'b'] :: (c :: cs) :: more => .key (key (c :: cs) more)
  | ['u', 'i', 'd'] :: uid :: _ => .uid (Text.unescaped (String.ofList uid))
  | _ => .other

def lines (body : String) : List Line :=
  (Text.lines body.toList).map fun line => lineOf (Text.pieces ':' (Text.trimChars line))

/-- The user IDs before the first key, and the keys with the user IDs that follow them. -/
def collect : List Line → List String × List Candidate
  | [] => ([], [])
  | line :: rest =>
    let (uids, keys) := collect rest
    match line with
    | .key key => ([], { key with uids } :: keys)
    | .uid uid => (uid :: uids, keys)
    | .other => (uids, keys)

def read (body : String) : List Candidate :=
  (collect (lines body)).2

end Listing

end Vouch.Keyserver
