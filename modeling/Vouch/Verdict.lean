import Vouch.Report

/-!
The verdict on a report: fully valid, or not and for which reasons.

Nothing is averaged.  One signature that does not qualify, one failed operation or the lack of any
signature makes a verdict not fully valid, and each of them is a reason.
-/

namespace Vouch

open Json (Value Shape Member)
open Signature (Record)

namespace Verdict

inductive Ground where
  | badSignature
  | signatureExpired
  | keyExpired
  | keyRevoked
  | missingKey
  | missingCrl
  | verificationError
  | insufficientTrust
  /-- The policy of the key is bad, which no owner trust can change. -/
  | tofuConflict
  | noSignatures
  | operationFailed
  deriving DecidableEq, Repr

namespace Ground

def all : List Ground :=
  [.badSignature, .signatureExpired, .keyExpired, .keyRevoked, .missingKey, .missingCrl,
    .verificationError, .insufficientTrust, .tofuConflict, .noSignatures, .operationFailed]

def name : Ground → String
  | .badSignature => "bad_signature"
  | .signatureExpired => "signature_expired"
  | .keyExpired => "key_expired"
  | .keyRevoked => "key_revoked"
  | .missingKey => "missing_key"
  | .missingCrl => "missing_crl"
  | .verificationError => "verification_error"
  | .insufficientTrust => "insufficient_trust"
  | .tofuConflict => "tofu_conflict"
  | .noSignatures => "no_signatures"
  | .operationFailed => "operation_failed"

def ofName? (name : String) : Option Ground :=
  all.find? (fun ground => ground.name == name)

def hint : Ground → String
  | .badSignature => "Do not trust the signed content; it may have been altered"
  | .signatureExpired => "Ask the signer for a fresh signature"
  | .keyExpired => "Refresh the signer's key; the owner may have extended it"
  | .keyRevoked => "Ask the signer for a signature made with a valid key"
  | .missingKey => "Import the signer's public key from a keyserver"
  | .missingCrl => "Update the certificate revocation lists and verify again"
  | .verificationError => "Check the engine setup and verify again"
  | .insufficientTrust => "Adjust Trust Level to make it Fully Valid"
  | .tofuConflict => "Review the key's TOFU policy before trusting this signature"
  | .noSignatures => "Make sure the input actually carries a signature"
  | .operationFailed => "Check the input data and verify again"

def ofStatus? : Signature.Status → Option Ground
  | .good => none
  | .bad => some .badSignature
  | .expired => some .signatureExpired
  | .keyExpired => some .keyExpired
  | .keyRevoked => some .keyRevoked
  | .missingKey => some .missingKey
  | .missingCrl => some .missingCrl
  | .generalError => some .verificationError

def shape : Shape := .choice (all.map name)

end Ground

structure Reason where
  /-- The position of the signature in the report, if the reason is about one. -/
  index : Option Nat
  fingerprint : Option String
  ground : Ground
  message : String
  hint : String
  deriving DecidableEq, Repr

namespace Reason

def general (ground : Ground) (message : String) : Reason :=
  { index := none, fingerprint := none, ground, message, hint := ground.hint }

def ofSignature (index : Nat) (record : Record) (ground : Ground) (message : String) : Reason :=
  { index := some index, fingerprint := some record.signer.fingerprint, ground, message
    hint := ground.hint }

def line (reason : Reason) : String :=
  (match reason.index with
    | some i => "Signature [" ++ Decimal.text (i + 1) ++ "]: "
    | none => "") ++
    reason.message ++ " (" ++ reason.hint ++ ")"

def toValue (reason : Reason) : Value :=
  .object (Value.member? "signature_index" .nat reason.index ++
    Value.member? "fingerprint" .text reason.fingerprint ++
    [("kind", .text reason.ground.name), ("message", .text reason.message),
      ("hint", .text reason.hint)])

def shape : Shape :=
  .record "struct Reason"
    [⟨"signature_index", .optional, .usize⟩, ⟨"fingerprint", .optional, .text⟩,
      ⟨"kind", .required, Ground.shape⟩, ⟨"message", .required, .text⟩, ⟨"hint", .required, .text⟩]

def ofValue? : Value → Option Reason
  | .list [index, fingerprint, .text ground, .text message, .text hint] => do
    return ⟨← index.optional? Value.nat?, ← fingerprint.optional? Value.text?,
      ← Ground.ofName? ground, message, hint⟩
  | _ => none

end Reason

inductive Overall where
  | fullyValid
  | notFullyValid
  deriving DecidableEq, Repr

namespace Overall

def all : List Overall := [.fullyValid, .notFullyValid]

def name : Overall → String
  | .fullyValid => "fully_valid"
  | .notFullyValid => "not_fully_valid"

def ofName? (name : String) : Option Overall :=
  all.find? (fun overall => overall.name == name)

def shape : Shape := .choice (all.map name)

end Overall

end Verdict

/-- The conclusion about a report, its reasons, and the signers whose key is missing. -/
structure Verdict where
  overall : Verdict.Overall
  reasons : List Verdict.Reason
  unknownSigners : List String
  deriving DecidableEq, Repr

namespace Verdict

def isFullyValid (verdict : Verdict) : Bool :=
  verdict.overall == .fullyValid

def toValue (verdict : Verdict) : Value :=
  .object [("overall", .text verdict.overall.name),
    ("reasons", .list (verdict.reasons.map Reason.toValue)),
    ("unknown_signers", .texts verdict.unknownSigners)]

def shape : Shape :=
  .record "struct Verdict"
    [⟨"overall", .required, Overall.shape⟩, ⟨"reasons", .required, .list Reason.shape⟩,
      ⟨"unknown_signers", .instead (.list []), .list .text⟩]

def ofValue? : Value → Option Verdict
  | .list [.text overall, reasons, unknownSigners] => do
    return ⟨← Overall.ofName? overall, ← reasons.list? Reason.ofValue?,
      ← unknownSigners.list? Value.text?⟩
  | _ => none

def read (document : String) : Except Json.Refusal Verdict :=
  Json.Document.decode shape ofValue? document

/-- The ground on which a signature does not qualify, with its message.  The engine's
classification comes first, then the state of the key, then trust. -/
def disqualifier (record : Record) : Option (Ground × String) :=
  match Ground.ofStatus? record.status with
  | some ground => some (ground, record.status.describe)
  | none =>
    if record.keyState.revoked then some (.keyRevoked, "The signing key has been revoked")
    else if record.keyState.expired then some (.keyExpired, "The signing key has expired")
    else if record.trust.source = .tofu ∧ record.policy = .bad then
      some (.tofuConflict, "A good signature, but the key's TOFU policy is bad")
    else if !record.trust.isSufficient then
      some (.insufficientTrust,
        "A good signature, but the signing key's trust level is " ++ record.trust.level.name)
    else none

inductive Stage where
  | pending
  | valid
  | notFullyValid
  deriving DecidableEq, Repr

def Stage.label : Stage → String
  | .pending => "Pending"
  | .valid => "Valid"
  | .notFullyValid => "NotFullyValid"

structure Tally where
  stage : Stage
  seen : Nat
  reasons : List Reason
  unknownSigners : List String
  deriving DecidableEq, Repr

namespace Tally

def start : Tally :=
  { stage := .pending, seen := 0, reasons := [], unknownSigners := [] }

def fail (tally : Tally) (message : String) : Tally :=
  { tally with
    stage := .notFullyValid
    reasons := tally.reasons ++ [Reason.general .operationFailed message] }

def push (tally : Tally) (record : Record) : Tally :=
  let unknownSigners :=
    if record.status = .missingKey then
      Report.withEntry tally.unknownSigners record.signer.fingerprint
    else tally.unknownSigners
  match disqualifier record with
  | none =>
    { tally with
      seen := tally.seen + 1
      unknownSigners
      stage := if tally.stage = .pending then .valid else tally.stage }
  | some (ground, message) =>
    { seen := tally.seen + 1
      unknownSigners
      stage := .notFullyValid
      reasons := tally.reasons ++ [Reason.ofSignature tally.seen record ground message] }

inductive Step where
  | push (record : Record)
  | fail (message : String)
  deriving DecidableEq, Repr

def after (tally : Tally) : Step → Tally
  | .push record => tally.push record
  | .fail message => tally.fail message

def ofSteps (steps : List Step) : Tally :=
  steps.foldl after start

def finish (tally : Tally) : Verdict :=
  match tally.stage with
  | .valid => ⟨.fullyValid, tally.reasons, tally.unknownSigners⟩
  | .notFullyValid => ⟨.notFullyValid, tally.reasons, tally.unknownSigners⟩
  | .pending =>
    ⟨.notFullyValid,
      tally.reasons ++
        [Reason.general .noSignatures
          "Could not find information that can be used for verification"],
      tally.unknownSigners⟩

end Tally

def ofRecords (records : List Record) : Verdict :=
  (Tally.ofSteps (records.map .push)).finish

def stepsOf (report : Report) : List Tally.Step :=
  (report.failure.map fun failure =>
      Tally.Step.fail (report.operation.label ++ " failed: " ++ failure.message)).toList ++
    report.signatures.map .push

def ofReport (report : Report) : Verdict :=
  (Tally.ofSteps (stepsOf report)).finish

end Verdict

end Vouch
