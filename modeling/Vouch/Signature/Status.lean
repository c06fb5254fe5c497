import Vouch.Json.Shape

/-!
The classification of a signature, ordered by severity.
-/

namespace Vouch.Signature

inductive Status where
  | good
  | bad
  | expired
  | keyExpired
  | keyRevoked
  | missingKey
  | missingCrl
  | generalError
  deriving DecidableEq, Repr, Inhabited

namespace Status

def all : List Status :=
  [.good, .bad, .expired, .keyExpired, .keyRevoked, .missingKey, .missingCrl, .generalError]

def name : Status → String
  | .good => "good"
  | .bad => "bad"
  | .expired => "expired"
  | .keyExpired => "key_expired"
  | .keyRevoked => "key_revoked"
  | .missingKey => "missing_key"
  | .missingCrl => "missing_crl"
  | .generalError => "general_error"

def ofName? (name : String) : Option Status :=
  all.find? (fun status => status.name == name)

/-- Higher is more severe; no two classifications are equally severe. -/
def severity : Status → Nat
  | .good => 0
  | .generalError => 1
  | .missingCrl => 2
  | .missingKey => 3
  | .expired => 4
  | .keyExpired => 5
  | .keyRevoked => 6
  | .bad => 7

def isGood (status : Status) : Bool :=
  status == .good

def worse (a b : Status) : Status :=
  if a.severity < b.severity then b else a

def worst (found : List Status) : Status :=
  found.foldl worse .good

def describe : Status → String
  | .good => "A good signature"
  | .bad => "A bad signature; this signature is invalid"
  | .expired => "A signature is valid but expired"
  | .keyExpired => "A signature is valid but the key used to verify it has expired"
  | .keyRevoked => "A signature is valid but the key used to verify it has been revoked"
  | .missingKey => "A signature could not be verified due to a missing key"
  | .missingCrl => "A signature could not be fully checked because a CRL is missing"
  | .generalError => "Some other error prevented the signature verification"

def shape : Json.Shape := .choice (all.map name)

end Status

end Vouch.Signature
