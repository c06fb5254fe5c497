import Vouch.Report

/-!
The report of an engine's result.

Every result has a report, also that of a call that failed.  A report has a failure if the engine
reported one, or if the operation can have had no effect: no recipient was usable, or no signature
was made.  The status follows from the failure and from what calls for a warning.
-/

namespace Vouch.Report

def Failure.ofEngine? (failure : Option Engine.Failure) : Option Failure :=
  match failure with
  | none => none
  | some raw =>
    if Engine.isSuccess raw.code then none
    else
      some
        { code := Engine.codeOf raw.code
          message := if raw.message = "" then Engine.describe raw.code else raw.message }

/-- A failure makes an operation fail; short of one, something may call for a warning. -/
def Status.of (failure : Option Failure) (warning : Bool) : Status :=
  if failure.isSome then .failed else if warning then .warnings else .success

def InvalidKey.ofEngine (raw : Engine.InvalidKey) : InvalidKey :=
  { fingerprint := raw.fingerprint
    code := Engine.codeOf raw.reason
    reason := raw.reasonText.getD (Engine.describe raw.reason) }

def Recipient.ofEngine (db : Key.Snapshot) (raw : Engine.Recipient) : Recipient :=
  let ok := Engine.isSuccess raw.status
  { keyId := raw.keyId
    fingerprint := (db.lookup raw.keyId).map (fun entry => entry.reference.fingerprint)
    keyAlgorithm := Engine.keyAlgorithm raw.keyAlgorithm
    ok
    reason := raw.reason.or (if ok then none else some (Engine.describe raw.status)) }

def NewSignature.ofEngine (zone : Time.Zone) (db : Key.Snapshot) (raw : Engine.NewSignature) :
    NewSignature :=
  let algorithm := Engine.keyAlgorithm raw.keyAlgorithm
  let entry := db.lookup raw.fingerprint
  let createdAt := Time.Instant.ofSeconds raw.timestamp.toInt
  { signer := match entry with
      | some entry => entry.reference
      | none => Key.Reference.ofName raw.fingerprint algorithm
    signerUid := entry.bind (·.uid)
    keyAlgorithm := algorithm
    hashAlgorithm := Engine.hashAlgorithm raw.hashAlgorithm
    createdAt
    createdLocal := zone.text createdAt
    sigClass := raw.sigClass }

def Decrypt.ofEngine (db : Key.Snapshot) (raw : Engine.DecryptResult)
    (verify : Option Engine.VerifyResult) : Decrypt :=
  let failure :=
    (Failure.ofEngine? raw.failure).or (verify.bind fun v => Failure.ofEngine? v.failure)
  { status := Status.of failure (raw.legacyCipher || raw.unsupportedAlgorithm.isSome)
    failure
    cipher := raw.cipher
    sessionKey := raw.sessionKey
    guarded := !raw.legacyCipher
    unsupportedAlgorithm := raw.unsupportedAlgorithm
    fileName := raw.fileName.or (verify.bind (·.fileName))
    recipients := raw.recipients.map (Recipient.ofEngine db)
    verified := verify.isSome
    signatures := match verify with
      | some v => v.signatures.map (Signature.Record.build db)
      | none => [] }

/-- The number of recipients asked for, which is at least the number of those refused. -/
def askedCount (raw : Engine.EncryptResult) : Nat :=
  max raw.recipientCount.toNat raw.invalidRecipients.length

def noRecipient? (raw : Engine.EncryptResult) : Option Failure :=
  if 0 < askedCount raw ∧ askedCount raw - raw.invalidRecipients.length = 0 then
    some ⟨Engine.unusableKeyCode, "no valid recipients"⟩
  else none

def Encrypt.ofEngine (raw : Engine.EncryptResult) : Encrypt :=
  let failure := (Failure.ofEngine? raw.failure).or (noRecipient? raw)
  { status := Status.of failure (!raw.invalidRecipients.isEmpty)
    failure
    recipientCount := askedCount raw
    invalidRecipients := raw.invalidRecipients.map InvalidKey.ofEngine }

def noSignature? (raw : Engine.SignResult) : Option Failure :=
  if raw.newSignatures.isEmpty then some (Failure.general "no signature was created") else none

def Sign.ofEngine (zone : Time.Zone) (db : Key.Snapshot) (raw : Engine.SignResult) : Sign :=
  let failure := (Failure.ofEngine? raw.failure).or (noSignature? raw)
  { status := Status.of failure (!raw.invalidSigners.isEmpty)
    failure
    mode := Engine.SignMode.ofCode raw.mode
    newSignatures := raw.newSignatures.map (NewSignature.ofEngine zone db)
    invalidSigners := raw.invalidSigners.map InvalidKey.ofEngine }

def Verify.ofEngine (db : Key.Snapshot) (raw : Engine.VerifyResult) : Verify :=
  let failure := Failure.ofEngine? raw.failure
  { status := Status.of failure false
    failure
    fileName := raw.fileName
    signatures := raw.signatures.map (Signature.Record.build db) }

def ofEngine (zone : Time.Zone) (db : Key.Snapshot) : Engine.Result → Report
  | .decrypt raw => .decrypt (Decrypt.ofEngine db raw none)
  | .encrypt raw => .encrypt (Encrypt.ofEngine raw)
  | .sign raw => .sign (Sign.ofEngine zone db raw)
  | .verify raw => .verify (Verify.ofEngine db raw)
  | .decryptVerify raw checked => .decrypt (Decrypt.ofEngine db raw (some checked))

def events (db : Key.Snapshot) : Engine.Result → List Log.Event
  | .decrypt raw => raw.recipients.flatMap (fun r => Signature.Record.lookupEvents db r.keyId)
  | .encrypt raw =>
    let report := Encrypt.ofEngine raw
    [Log.debug "normalized encrypt result"
      [("asked", Decimal.text report.recipientCount), ("valid", Decimal.text report.validCount),
        ("status", report.status.tag)]]
  | .sign raw =>
    raw.newSignatures.flatMap (fun s => Signature.Record.lookupEvents db s.fingerprint)
  | .verify raw => raw.signatures.flatMap (Signature.Record.events db)
  | .decryptVerify raw checked =>
    raw.recipients.flatMap (fun r => Signature.Record.lookupEvents db r.keyId) ++
      checked.signatures.flatMap (Signature.Record.events db)

end Vouch.Report
