import Vouch.Time.Written
import Vouch.Verdict

/-!
Reports and verdicts as people read them, line by line.
-/

namespace Vouch

def lineOf? (before : String) (what : Option String) : List String :=
  match what with
  | some s => [before ++ s]
  | none => []

namespace Report

def Recipient.line (r : Recipient) : String :=
  "  recipient " ++ r.fingerprint.getD r.keyId ++ " [" ++ r.keyAlgorithm ++ "]" ++
    if r.ok then "" else ": " ++ r.reason.getD "unusable"

def InvalidKey.line (role : String) (k : InvalidKey) : String :=
  "  invalid " ++ role ++ " " ++ k.fingerprint ++ ": " ++ k.reason

def NewSignature.line (s : NewSignature) : String :=
  "  new signature by " ++ s.signer.fingerprint ++ " (" ++ s.keyAlgorithm ++ "/" ++
    s.hashAlgorithm ++ ") at " ++ s.createdLocal

def signatureLines (index : Nat) (record : Signature.Record) : List String :=
  ["  signature [" ++ Decimal.text (index + 1) ++ "] " ++ record.signer.fingerprint ++ ": " ++
      record.status.describe] ++
    lineOf? "      signer: " record.signerUid ++
    ["      signed: " ++ record.signedAt.plainText ++ "  trust: " ++ record.trust.level.name]

def signaturesLines (records : List Signature.Record) : List String :=
  records.zipIdx.flatMap fun (record, i) => signatureLines i record

def Failure.lines (failure : Option Failure) : List String :=
  lineOf? "  error: " (failure.map fun f =>
    f.message ++ " (code " ++ Decimal.text f.code.toNat ++ ")")

def ownLines : Report → List String
  | .decrypt r =>
    lineOf? "  cipher: " r.cipher ++
      (if r.guarded then [] else ["  warning: message is not integrity protected"]) ++
      lineOf? "  warning: unsupported algorithm " r.unsupportedAlgorithm ++
      lineOf? "  file: " r.fileName ++ r.recipients.map Recipient.line ++
      if r.verified then signaturesLines r.signatures else []
  | .encrypt r =>
    ("  recipients: " ++ Decimal.text r.validCount ++ " of " ++ Decimal.text r.recipientCount ++
        " usable") ::
      r.invalidRecipients.map (InvalidKey.line "recipient")
  | .sign r =>
    ("  mode: " ++ r.mode.label) :: r.newSignatures.map NewSignature.line ++
      r.invalidSigners.map (InvalidKey.line "signer")
  | .verify r => lineOf? "  file: " r.fileName ++ signaturesLines r.signatures

def lines (report : Report) : List String :=
  (report.operation.label ++ ": " ++ report.status.label) :: Failure.lines report.failure ++
    report.ownLines

end Report

namespace Verdict

def lines (verdict : Verdict) : List String :=
  if verdict.isFullyValid then ["verdict: fully valid"]
  else
    "verdict: not fully valid" :: verdict.reasons.map (fun reason => "  - " ++ reason.line) ++
      if verdict.unknownSigners.isEmpty then []
      else
        "unknown signers (try \x60sigverdict keyserver fetch\x60):" ::
          verdict.unknownSigners.map ("  " ++ ·)

end Verdict

end Vouch
