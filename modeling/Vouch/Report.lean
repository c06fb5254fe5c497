import Vouch.Signature.Record
import Vouch.Time.Zone

/-!
Reports of operations: what became of a decryption, an encryption, a signing or a verification, in
the same terms whatever the engine.
-/

namespace Vouch

open Json (Value Shape Member)

inductive Operation where
  | decrypt
  | encrypt
  | sign
  | verify
  deriving DecidableEq, Repr

namespace Operation

def all : List Operation := [.decrypt, .encrypt, .sign, .verify]

def name : Operation → String
  | .decrypt => "decrypt"
  | .encrypt => "encrypt"
  | .sign => "sign"
  | .verify => "verify"

def label : Operation → String
  | .decrypt => "Decrypt"
  | .encrypt => "Encrypt"
  | .sign => "Sign"
  | .verify => "Verify"

def ofName? (name : String) : Option Operation :=
  all.find? (fun operation => operation.name == name)

end Operation

namespace Report

/-- What became of an operation itself, whatever its signatures are worth. -/
inductive Status where
  | success
  | warnings
  | failed
  deriving DecidableEq, Repr

namespace Status

def all : List Status := [.success, .warnings, .failed]

def name : Status → String
  | .success => "success"
  | .warnings => "succeeded_with_warnings"
  | .failed => "failed"

def label : Status → String
  | .success => "success"
  | .warnings => "succeeded with warnings"
  | .failed => "failed"

def tag : Status → String
  | .success => "Success"
  | .warnings => "SucceededWithWarnings"
  | .failed => "Failed"

def ofName? (name : String) : Option Status :=
  all.find? (fun status => status.name == name)

def shape : Shape := .choice (all.map name)

end Status

structure Failure where
  code : UInt32
  message : String
  deriving DecidableEq, Repr

namespace Failure

def general (message : String) : Failure := ⟨Engine.generalCode, message⟩

def toValue (failure : Failure) : Value :=
  .object [("code", .u32 failure.code), ("message", .text failure.message)]

def shape : Shape :=
  .record "struct OperationError" [⟨"code", .required, .u32⟩, ⟨"message", .required, .text⟩]

def ofValue? : Value → Option Failure
  | .list [code, .text message] => do return ⟨← code.u32?, message⟩
  | _ => none

def member (failure : Option Failure) : List (String × Value) :=
  Value.member? "error" toValue failure

def field : Member Shape := ⟨"error", .optional, shape⟩

end Failure

structure Recipient where
  keyId : String
  fingerprint : Option String
  keyAlgorithm : String
  ok : Bool
  reason : Option String
  deriving DecidableEq, Repr

namespace Recipient

def statusName (ok : Bool) : String :=
  if ok then "ok" else "general_error"

def ofStatusName? (name : String) : Option Bool :=
  if name = "ok" then some true else if name = "general_error" then some false else none

def toValue (r : Recipient) : Value :=
  .object ([("key_id", .text r.keyId)] ++ Value.member? "fingerprint" .text r.fingerprint ++
    [("pubkey_algo", .text r.keyAlgorithm), ("status", .text (statusName r.ok))] ++
    Value.member? "reason" .text r.reason)

def shape : Shape :=
  .record "struct RecipientRecord"
    [⟨"key_id", .required, .text⟩, ⟨"fingerprint", .optional, .text⟩,
      ⟨"pubkey_algo", .required, .text⟩, ⟨"status", .required, .choice ["ok", "general_error"]⟩,
      ⟨"reason", .optional, .text⟩]

def ofValue? : Value → Option Recipient
  | .list [.text keyId, fingerprint, .text keyAlgorithm, .text status, reason] => do
    return ⟨keyId, ← fingerprint.optional? Value.text?, keyAlgorithm, ← ofStatusName? status,
      ← reason.optional? Value.text?⟩
  | _ => none

end Recipient

structure InvalidKey where
  fingerprint : String
  code : UInt32
  reason : String
  deriving DecidableEq, Repr

namespace InvalidKey

def toValue (k : InvalidKey) : Value :=
  .object [("fingerprint", .text k.fingerprint), ("reason_code", .u32 k.code),
    ("reason", .text k.reason)]

def shape : Shape :=
  .record "struct InvalidKeyRecord"
    [⟨"fingerprint", .required, .text⟩, ⟨"reason_code", .required, .u32⟩,
      ⟨"reason", .required, .text⟩]

def ofValue? : Value → Option InvalidKey
  | .list [.text fingerprint, code, .text reason] => do
    return ⟨fingerprint, ← code.u32?, reason⟩
  | _ => none

end InvalidKey

structure NewSignature where
  signer : Key.Reference
  signerUid : Option String
  keyAlgorithm : String
  hashAlgorithm : String
  createdAt : Time.Instant
  createdLocal : String
  sigClass : UInt32
  deriving DecidableEq, Repr

namespace NewSignature

def toValue (s : NewSignature) : Value :=
  .object ([("signer", s.signer.toValue)] ++ Value.member? "signer_uid" .text s.signerUid ++
    [("pubkey_algo", .text s.keyAlgorithm), ("hash_algo", .text s.hashAlgorithm),
      ("created_at", .text s.createdAt.text), ("created_at_local", .text s.createdLocal),
      ("sig_class", .u32 s.sigClass)])

def shape : Shape :=
  .record "struct NewSignatureRecord"
    [⟨"signer", .required, Key.Reference.shape⟩, ⟨"signer_uid", .optional, .text⟩,
      ⟨"pubkey_algo", .required, .text⟩, ⟨"hash_algo", .required, .text⟩,
      ⟨"created_at", .required, .stamp⟩, ⟨"created_at_local", .required, .text⟩,
      ⟨"sig_class", .required, .u32⟩]

def ofValue? : Value → Option NewSignature
  | .list [signer, signerUid, .text keyAlgorithm, .text hashAlgorithm, createdAt,
      .text createdLocal, sigClass] => do
    return ⟨← Key.Reference.ofValue? signer, ← signerUid.optional? Value.text?, keyAlgorithm,
      hashAlgorithm, ← createdAt.instant?, createdLocal, ← sigClass.u32?⟩
  | _ => none

end NewSignature

structure Decrypt where
  status : Status
  failure : Option Failure
  cipher : Option String
  sessionKey : Option String
  /-- The message is protected against modification. -/
  guarded : Bool
  unsupportedAlgorithm : Option String
  fileName : Option String
  recipients : List Recipient
  verified : Bool
  signatures : List Signature.Record
  deriving DecidableEq, Repr

namespace Decrypt

def members (r : Decrypt) : List (String × Value) :=
  [("status", .text r.status.name)] ++ Failure.member r.failure ++
    Value.member? "symmetric_algo" .text r.cipher ++
    Value.member? "session_key" .text r.sessionKey ++
    [("integrity_protected", .bool r.guarded)] ++
    Value.member? "unsupported_algorithm" .text r.unsupportedAlgorithm ++
    Value.member? "file_name" .text r.fileName ++
    [("recipients", .list (r.recipients.map Recipient.toValue)), ("verified", .bool r.verified),
      ("signatures", .list (r.signatures.map Signature.Record.toValue))]

def fields : List (Member Shape) :=
  [⟨"status", .required, Status.shape⟩, Failure.field, ⟨"symmetric_algo", .optional, .text⟩,
    ⟨"session_key", .optional, .text⟩, ⟨"integrity_protected", .required, .flag⟩,
    ⟨"unsupported_algorithm", .optional, .text⟩, ⟨"file_name", .optional, .text⟩,
    ⟨"recipients", .required, .list Recipient.shape⟩, ⟨"verified", .instead (.bool false), .flag⟩,
    ⟨"signatures", .instead (.list []), .list Signature.Record.shape⟩]

def ofValue? : Value → Option Decrypt
  | .list [.text status, failure, cipher, sessionKey, .bool guarded, unsupported, fileName,
      recipients, .bool verified, signatures] => do
    return ⟨← Status.ofName? status, ← failure.optional? Failure.ofValue?,
      ← cipher.optional? Value.text?, ← sessionKey.optional? Value.text?, guarded,
      ← unsupported.optional? Value.text?, ← fileName.optional? Value.text?,
      ← recipients.list? Recipient.ofValue?, verified,
      ← signatures.list? Signature.Record.ofValue?⟩
  | _ => none

end Decrypt

structure Encrypt where
  status : Status
  failure : Option Failure
  recipientCount : Nat
  invalidRecipients : List InvalidKey
  deriving DecidableEq, Repr

namespace Encrypt

def validCount (r : Encrypt) : Nat :=
  r.recipientCount - r.invalidRecipients.length

def members (r : Encrypt) : List (String × Value) :=
  [("status", .text r.status.name)] ++ Failure.member r.failure ++
    [("recipient_count", .nat r.recipientCount),
      ("invalid_recipients", .list (r.invalidRecipients.map InvalidKey.toValue))]

def fields : List (Member Shape) :=
  [⟨"status", .required, Status.shape⟩, Failure.field, ⟨"recipient_count", .required, .usize⟩,
    ⟨"invalid_recipients", .required, .list InvalidKey.shape⟩]

def ofValue? : Value → Option Encrypt
  | .list [.text status, failure, recipientCount, invalidRecipients] => do
    return ⟨← Status.ofName? status, ← failure.optional? Failure.ofValue?, ← recipientCount.nat?,
      ← invalidRecipients.list? InvalidKey.ofValue?⟩
  | _ => none

end Encrypt

structure Sign where
  status : Status
  failure : Option Failure
  mode : Engine.SignMode
  newSignatures : List NewSignature
  invalidSigners : List InvalidKey
  deriving DecidableEq, Repr

namespace Sign

def members (r : Sign) : List (String × Value) :=
  [("status", .text r.status.name)] ++ Failure.member r.failure ++
    [("mode", .text r.mode.name),
      ("new_signatures", .list (r.newSignatures.map NewSignature.toValue)),
      ("invalid_signers", .list (r.invalidSigners.map InvalidKey.toValue))]

def fields : List (Member Shape) :=
  [⟨"status", .required, Status.shape⟩, Failure.field, ⟨"mode", .required, Engine.SignMode.shape⟩,
    ⟨"new_signatures", .required, .list NewSignature.shape⟩,
    ⟨"invalid_signers", .required, .list InvalidKey.shape⟩]

def ofValue? : Value → Option Sign
  | .list [.text status, failure, .text mode, newSignatures, invalidSigners] => do
    return ⟨← Status.ofName? status, ← failure.optional? Failure.ofValue?,
      ← Engine.SignMode.ofName? mode, ← newSignatures.list? NewSignature.ofValue?,
      ← invalidSigners.list? InvalidKey.ofValue?⟩
  | _ => none

end Sign

structure Verify where
  status : Status
  failure : Option Failure
  fileName : Option String
  signatures : List Signature.Record
  deriving DecidableEq, Repr

namespace Verify

def members (r : Verify) : List (String × Value) :=
  [("status", .text r.status.name)] ++ Failure.member r.failure ++
    Value.member? "file_name" .text r.fileName ++
    [("signatures", .list (r.signatures.map Signature.Record.toValue))]

def fields : List (Member Shape) :=
  [⟨"status", .required, Status.shape⟩, Failure.field, ⟨"file_name", .optional, .text⟩,
    ⟨"signatures", .required, .list Signature.Record.shape⟩]

def ofValue? : Value → Option Verify
  | .list [.text status, failure, fileName, signatures] => do
    return ⟨← Status.ofName? status, ← failure.optional? Failure.ofValue?,
      ← fileName.optional? Value.text?, ← signatures.list? Signature.Record.ofValue?⟩
  | _ => none

end Verify

end Report

inductive Report where
  | decrypt (report : Report.Decrypt)
  | encrypt (report : Report.Encrypt)
  | sign (report : Report.Sign)
  | verify (report : Report.Verify)
  deriving DecidableEq, Repr

namespace Report

def toValue : Report → Value
  | .decrypt r => .object (("kind", .text "decrypt") :: r.members)
  | .encrypt r => .object (("kind", .text "encrypt") :: r.members)
  | .sign r => .object (("kind", .text "sign") :: r.members)
  | .verify r => .object (("kind", .text "verify") :: r.members)

def union : Json.Tagged :=
  { title := "OperationReport"
    tag := "kind"
    variants :=
      [⟨"decrypt", "struct DecryptReport", Decrypt.fields⟩,
        ⟨"encrypt", "struct EncryptReport", Encrypt.fields⟩,
        ⟨"sign", "struct SignReport", Sign.fields⟩,
        ⟨"verify", "struct VerifyReport", Verify.fields⟩] }

def ofRecord? (kind : String) (record : Value) : Option Report :=
  match kind with
  | "decrypt" => (Decrypt.ofValue? record).map .decrypt
  | "encrypt" => (Encrypt.ofValue? record).map .encrypt
  | "sign" => (Sign.ofValue? record).map .sign
  | "verify" => (Verify.ofValue? record).map .verify
  | _ => none

def read (document : String) : Except Json.Refusal Report :=
  Json.Document.decodeTagged union ofRecord? document

def ofFailure (operation : Operation) (failure : Failure) : Report :=
  match operation with
  | .decrypt =>
    .decrypt
      { status := .failed, failure := some failure, cipher := none, sessionKey := none
        guarded := false, unsupportedAlgorithm := none, fileName := none, recipients := []
        verified := false, signatures := [] }
  | .encrypt =>
    .encrypt
      { status := .failed, failure := some failure, recipientCount := 0, invalidRecipients := [] }
  | .sign =>
    .sign
      { status := .failed, failure := some failure, mode := .normal, newSignatures := []
        invalidSigners := [] }
  | .verify =>
    .verify { status := .failed, failure := some failure, fileName := none, signatures := [] }

def operation : Report → Operation
  | .decrypt _ => .decrypt
  | .encrypt _ => .encrypt
  | .sign _ => .sign
  | .verify _ => .verify

def status : Report → Status
  | .decrypt r => r.status
  | .encrypt r => r.status
  | .sign r => r.status
  | .verify r => r.status

def failure : Report → Option Failure
  | .decrypt r => r.failure
  | .encrypt r => r.failure
  | .sign r => r.failure
  | .verify r => r.failure

def signatures : Report → List Signature.Record
  | .decrypt r => r.signatures
  | .verify r => r.signatures
  | .encrypt _ | .sign _ => []

def isVerification : Report → Bool
  | .verify _ => true
  | .decrypt r => r.verified
  | .encrypt _ | .sign _ => false

def withEntry (entries : List String) (entry : String) : List String :=
  if entry ∈ entries then entries else entries ++ [entry]

def unknownSigners (report : Report) : List String :=
  (report.signatures.filter (fun record => record.status == .missingKey)).foldl
    (fun found record => withEntry found record.signer.fingerprint) []

end Report

end Vouch
