import Vouch.Json.Part
import Vouch.Key.Name
import Vouch.Key.Trust

/-!
What is known about a key: its names, its state and the policy recorded for it.
-/

namespace Vouch.Key

structure Reference where
  primaryId : String
  subkeyId : Option String
  fingerprint : String
  algorithm : String
  bits : UInt32
  deriving DecidableEq, Repr

namespace Reference

def ofName (name algorithm : String) : Reference :=
  { primaryId := longId (normal name), subkeyId := none, fingerprint := normal name,
    algorithm, bits := 0 }

def toValue (key : Reference) : Json.Value :=
  .object ([("primary_key_id", .text key.primaryId)] ++
    Json.Value.member? "subkey_id" .text key.subkeyId ++
    [("fingerprint", .text key.fingerprint), ("algorithm", .text key.algorithm),
      ("bits", .u32 key.bits)])

def shape : Json.Shape :=
  .record "struct KeyReference"
    [⟨"primary_key_id", .required, .text⟩, ⟨"subkey_id", .optional, .text⟩,
      ⟨"fingerprint", .required, .text⟩, ⟨"algorithm", .required, .text⟩,
      ⟨"bits", .instead (.int 0), .u32⟩]

def ofValue? : Json.Value → Option Reference
  | .list [.text primaryId, subkeyId, .text fingerprint, .text algorithm, bits] => do
    return ⟨primaryId, ← subkeyId.optional? Json.Value.text?, fingerprint, algorithm, ← bits.u32?⟩
  | _ => none

end Reference

structure State where
  present : Bool
  revoked : Bool
  expired : Bool
  disabled : Bool
  ownerTrust : TrustLevel
  deriving DecidableEq, Repr

namespace State

def absent : State :=
  { present := false, revoked := false, expired := false, disabled := false
    ownerTrust := .unknown }

def isUnusable (state : State) : Bool :=
  state.revoked || state.expired

def toValue (state : State) : Json.Value :=
  .object [("present_locally", .bool state.present), ("revoked", .bool state.revoked),
    ("expired", .bool state.expired), ("disabled", .bool state.disabled),
    ("owner_trust", .text state.ownerTrust.name)]

def shape : Json.Shape :=
  .record "struct KeyMaterialState"
    [⟨"present_locally", .required, .flag⟩, ⟨"revoked", .instead (.bool false), .flag⟩,
      ⟨"expired", .instead (.bool false), .flag⟩, ⟨"disabled", .instead (.bool false), .flag⟩,
      ⟨"owner_trust", .instead (.text "unknown"), TrustLevel.shape⟩]

def ofValue? : Json.Value → Option State
  | .list [.bool present, .bool revoked, .bool expired, .bool disabled, .text trust] => do
    return ⟨present, revoked, expired, disabled, ← TrustLevel.ofName? trust⟩
  | _ => none

end State

structure Entry where
  reference : Reference
  uid : Option String
  state : State
  deriving DecidableEq, Repr

def State.trust (state : State) (policy : TofuPolicy) : Trust :=
  Trust.evaluate state.ownerTrust policy

end Vouch.Key
