import Vouch.Json.Shape

/-!
Trust in the owner of a key, and what a signature gains from it.

Two things speak for or against a key: the trust its owner was assigned, and the policy that was
recorded for it on first use (TOFU).
-/

namespace Vouch.Key

inductive TrustLevel where
  | unknown
  | undefined
  | never
  | marginal
  | full
  | ultimate
  deriving DecidableEq, Repr, Inhabited

namespace TrustLevel

def all : List TrustLevel := [.unknown, .undefined, .never, .marginal, .full, .ultimate]

def name : TrustLevel → String
  | .unknown => "unknown"
  | .undefined => "undefined"
  | .never => "never"
  | .marginal => "marginal"
  | .full => "full"
  | .ultimate => "ultimate"

def ofName? (name : String) : Option TrustLevel :=
  all.find? (fun level => level.name == name)

def rank : TrustLevel → Nat
  | .unknown => 0
  | .undefined => 1
  | .never => 2
  | .marginal => 3
  | .full => 4
  | .ultimate => 5

def isSufficient (level : TrustLevel) : Bool :=
  TrustLevel.marginal.rank ≤ level.rank

def isExplicit : TrustLevel → Bool
  | .unknown | .undefined => false
  | _ => true

def shape : Json.Shape := .choice (all.map name)

end TrustLevel

inductive TofuPolicy where
  | auto
  | good
  | bad
  | ask
  | unknown
  deriving DecidableEq, Repr

instance : Inhabited TofuPolicy := ⟨.unknown⟩

namespace TofuPolicy

def all : List TofuPolicy := [.auto, .good, .bad, .ask, .unknown]

def name : TofuPolicy → String
  | .auto => "auto"
  | .good => "good"
  | .bad => "bad"
  | .ask => "ask"
  | .unknown => "unknown"

def ofName? (name : String) : Option TofuPolicy :=
  all.find? (fun policy => policy.name == name)

def ofCode (code : UInt32) : TofuPolicy :=
  if code = 1 then .auto
  else if code = 2 then .good
  else if code = 4 then .bad
  else if code = 5 then .ask
  else .unknown

def shape : Json.Shape := .choice (all.map name)

end TofuPolicy

inductive TrustSource where
  | ownerTrust
  | tofu
  | none
  deriving DecidableEq, Repr

namespace TrustSource

def all : List TrustSource := [.ownerTrust, .tofu, .none]

def name : TrustSource → String
  | .ownerTrust => "owner_trust"
  | .tofu => "tofu"
  | .none => "none"

def ofName? (name : String) : Option TrustSource :=
  all.find? (fun source => source.name == name)

def shape : Json.Shape := .choice (all.map name)

end TrustSource

structure Trust where
  level : TrustLevel
  source : TrustSource
  deriving DecidableEq, Repr

namespace Trust

/-- A bad policy forbids trust, an assigned owner trust counts as it is, and without one a good
policy counts as marginal trust. -/
def evaluate (owner : TrustLevel) (policy : TofuPolicy) : Trust :=
  if policy = .bad then ⟨.never, .tofu⟩
  else if owner.isExplicit then ⟨owner, .ownerTrust⟩
  else if policy = .good then ⟨.marginal, .tofu⟩
  else ⟨.unknown, .none⟩

def isSufficient (trust : Trust) : Bool :=
  trust.level.isSufficient

def toValue (trust : Trust) : Json.Value :=
  .object [("level", .text trust.level.name), ("source", .text trust.source.name)]

def shape : Json.Shape :=
  .record "struct TrustContribution"
    [⟨"level", .required, TrustLevel.shape⟩, ⟨"source", .required, TrustSource.shape⟩]

def ofValue? : Json.Value → Option Trust
  | .list [.text level, .text source] => do
    return ⟨← TrustLevel.ofName? level, ← TrustSource.ofName? source⟩
  | _ => Option.none

end Trust

end Vouch.Key
