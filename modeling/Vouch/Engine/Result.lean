import Vouch.Json.Part
import Vouch.Json.Union
import Vouch.Engine.Code

/-!
What an OpenPGP engine reports about an operation.

Engines differ in what they report, so every field of a result has a stand-in except the name of
the operation and the code of an error.
-/

namespace Vouch.Engine

open Json (Value Shape Member)

/-- The failure of an engine call: an error value and the engine's own words. -/
structure Failure where
  code : UInt32
  message : String
  deriving DecidableEq, Repr

namespace Failure

def toValue (failure : Failure) : Value :=
  .object [("code", .u32 failure.code), ("message", .text failure.message)]

def shape : Shape :=
  .record "struct RawEngineError"
    [⟨"code", .required, .u32⟩, ⟨"message", .instead (.text ""), .text⟩]

def ofValue? : Value → Option Failure
  | .list [code, .text message] => do return ⟨← code.u32?, message⟩
  | _ => none

end Failure

def failureField : Member Shape := ⟨"error", .optional, Failure.shape⟩

def countField (name : String) (shape : Shape) : Member Shape := ⟨name, .instead (.int 0), shape⟩

def textField (name : String) : Member Shape := ⟨name, .instead (.text ""), .text⟩

def optionalField (name : String) : Member Shape := ⟨name, .optional, .text⟩

def listField (name : String) (item : Shape) : Member Shape :=
  ⟨name, .instead (.list []), .list item⟩

structure Signature where
  fingerprint : String
  summary : UInt32
  status : UInt32
  timestamp : Int64
  expiry : Int64
  keyAlgorithm : UInt32
  hashAlgorithm : UInt32
  deriving DecidableEq, Repr

namespace Signature

def toValue (s : Signature) : Value :=
  .object [("fingerprint", .text s.fingerprint), ("summary", .u32 s.summary),
    ("status", .u32 s.status), ("timestamp", .i64 s.timestamp), ("exp_timestamp", .i64 s.expiry),
    ("pubkey_algo", .u32 s.keyAlgorithm), ("hash_algo", .u32 s.hashAlgorithm)]

def shape : Shape :=
  .record "struct RawSignature"
    [textField "fingerprint", countField "summary" .u32, countField "status" .u32,
      countField "timestamp" .i64, countField "exp_timestamp" .i64, countField "pubkey_algo" .u32,
      countField "hash_algo" .u32]

def ofValue? : Value → Option Signature
  | .list [.text fingerprint, summary, status, timestamp, expiry, keyAlgorithm, hashAlgorithm] => do
    return ⟨fingerprint, ← summary.u32?, ← status.u32?, ← timestamp.i64?, ← expiry.i64?,
      ← keyAlgorithm.u32?, ← hashAlgorithm.u32?⟩
  | _ => none

end Signature

structure VerifyResult where
  failure : Option Failure
  fileName : Option String
  signatures : List Signature
  deriving DecidableEq, Repr

namespace VerifyResult

def members (r : VerifyResult) : List (String × Value) :=
  [("error", .orNull Failure.toValue r.failure), ("file_name", .orNull .text r.fileName),
    ("signatures", .list (r.signatures.map Signature.toValue))]

def fields : List (Member Shape) :=
  [failureField, optionalField "file_name", listField "signatures" Signature.shape]

def title : String := "struct RawVerifyResult"

def ofValue? : Value → Option VerifyResult
  | .list [failure, fileName, signatures] => do
    return ⟨← failure.optional? Failure.ofValue?, ← fileName.optional? Value.text?,
      ← signatures.list? Signature.ofValue?⟩
  | _ => none

end VerifyResult

structure Recipient where
  keyId : String
  keyAlgorithm : UInt32
  /-- An error value; success if this recipient could decrypt. -/
  status : UInt32
  reason : Option String
  deriving DecidableEq, Repr

namespace Recipient

def toValue (r : Recipient) : Value :=
  .object [("key_id", .text r.keyId), ("pubkey_algo", .u32 r.keyAlgorithm),
    ("status", .u32 r.status), ("reason", .orNull .text r.reason)]

def shape : Shape :=
  .record "struct RawDecryptRecipient"
    [textField "key_id", countField "pubkey_algo" .u32, countField "status" .u32,
      optionalField "reason"]

def ofValue? : Value → Option Recipient
  | .list [.text keyId, keyAlgorithm, status, reason] => do
    return ⟨keyId, ← keyAlgorithm.u32?, ← status.u32?, ← reason.optional? Value.text?⟩
  | _ => none

end Recipient

structure DecryptResult where
  failure : Option Failure
  cipher : Option String
  sessionKey : Option String
  /-- The message used a legacy cipher without modification detection. -/
  legacyCipher : Bool
  unsupportedAlgorithm : Option String
  fileName : Option String
  recipients : List Recipient
  deriving DecidableEq, Repr

namespace DecryptResult

def members (r : DecryptResult) : List (String × Value) :=
  [("error", .orNull Failure.toValue r.failure), ("symkey_algo", .orNull .text r.cipher),
    ("session_key", .orNull .text r.sessionKey), ("legacy_cipher_nomdc", .bool r.legacyCipher),
    ("unsupported_algorithm", .orNull .text r.unsupportedAlgorithm),
    ("file_name", .orNull .text r.fileName),
    ("recipients", .list (r.recipients.map Recipient.toValue))]

def fields : List (Member Shape) :=
  [failureField, optionalField "symkey_algo", optionalField "session_key",
    ⟨"legacy_cipher_nomdc", .instead (.bool false), .flag⟩, optionalField "unsupported_algorithm",
    optionalField "file_name", listField "recipients" Recipient.shape]

def title : String := "struct RawDecryptResult"

def ofValue? : Value → Option DecryptResult
  | .list [failure, cipher, sessionKey, .bool legacyCipher, unsupported, fileName, recipients] => do
    return ⟨← failure.optional? Failure.ofValue?, ← cipher.optional? Value.text?,
      ← sessionKey.optional? Value.text?, legacyCipher, ← unsupported.optional? Value.text?,
      ← fileName.optional? Value.text?, ← recipients.list? Recipient.ofValue?⟩
  | _ => none

end DecryptResult

structure InvalidKey where
  fingerprint : String
  reason : UInt32
  reasonText : Option String
  deriving DecidableEq, Repr

namespace InvalidKey

def toValue (k : InvalidKey) : Value :=
  .object [("fingerprint", .text k.fingerprint), ("reason", .u32 k.reason),
    ("reason_text", .orNull .text k.reasonText)]

def shape : Shape :=
  .record "struct RawInvalidKey"
    [textField "fingerprint", countField "reason" .u32, optionalField "reason_text"]

def ofValue? : Value → Option InvalidKey
  | .list [.text fingerprint, reason, reasonText] => do
    return ⟨fingerprint, ← reason.u32?, ← reasonText.optional? Value.text?⟩
  | _ => none

end InvalidKey

structure EncryptResult where
  failure : Option Failure
  recipientCount : UInt64
  invalidRecipients : List InvalidKey
  deriving DecidableEq, Repr

namespace EncryptResult

def members (r : EncryptResult) : List (String × Value) :=
  [("error", .orNull Failure.toValue r.failure), ("recipient_count", .u64 r.recipientCount),
    ("invalid_recipients", .list (r.invalidRecipients.map InvalidKey.toValue))]

def fields : List (Member Shape) :=
  [failureField, countField "recipient_count" .usize,
    listField "invalid_recipients" InvalidKey.shape]

def title : String := "struct RawEncryptResult"

def ofValue? : Value → Option EncryptResult
  | .list [failure, recipientCount, invalidRecipients] => do
    return ⟨← failure.optional? Failure.ofValue?, ← recipientCount.u64?,
      ← invalidRecipients.list? InvalidKey.ofValue?⟩
  | _ => none

end EncryptResult

structure NewSignature where
  fingerprint : String
  keyAlgorithm : UInt32
  hashAlgorithm : UInt32
  timestamp : Int64
  sigClass : UInt32
  deriving DecidableEq, Repr

namespace NewSignature

def toValue (s : NewSignature) : Value :=
  .object [("fingerprint", .text s.fingerprint), ("pubkey_algo", .u32 s.keyAlgorithm),
    ("hash_algo", .u32 s.hashAlgorithm), ("timestamp", .i64 s.timestamp),
    ("sig_class", .u32 s.sigClass)]

def shape : Shape :=
  .record "struct RawNewSignature"
    [textField "fingerprint", countField "pubkey_algo" .u32, countField "hash_algo" .u32,
      countField "timestamp" .i64, countField "sig_class" .u32]

def ofValue? : Value → Option NewSignature
  | .list [.text fingerprint, keyAlgorithm, hashAlgorithm, timestamp, sigClass] => do
    return ⟨fingerprint, ← keyAlgorithm.u32?, ← hashAlgorithm.u32?, ← timestamp.i64?,
      ← sigClass.u32?⟩
  | _ => none

end NewSignature

structure SignResult where
  failure : Option Failure
  mode : UInt32
  newSignatures : List NewSignature
  invalidSigners : List InvalidKey
  deriving DecidableEq, Repr

namespace SignResult

def members (r : SignResult) : List (String × Value) :=
  [("error", .orNull Failure.toValue r.failure), ("mode", .u32 r.mode),
    ("new_signatures", .list (r.newSignatures.map NewSignature.toValue)),
    ("invalid_signers", .list (r.invalidSigners.map InvalidKey.toValue))]

def fields : List (Member Shape) :=
  [failureField, countField "mode" .u32, listField "new_signatures" NewSignature.shape,
    listField "invalid_signers" InvalidKey.shape]

def title : String := "struct RawSignResult"

def ofValue? : Value → Option SignResult
  | .list [failure, mode, newSignatures, invalidSigners] => do
    return ⟨← failure.optional? Failure.ofValue?, ← mode.u32?,
      ← newSignatures.list? NewSignature.ofValue?, ← invalidSigners.list? InvalidKey.ofValue?⟩
  | _ => none

end SignResult

inductive Result where
  | decrypt (result : DecryptResult)
  | encrypt (result : EncryptResult)
  | sign (result : SignResult)
  | verify (result : VerifyResult)
  | decryptVerify (decrypt : DecryptResult) (verify : VerifyResult)
  deriving DecidableEq, Repr

namespace Result

def toValue : Result → Value
  | .decrypt r => .object (("operation", .text "decrypt") :: r.members)
  | .encrypt r => .object (("operation", .text "encrypt") :: r.members)
  | .sign r => .object (("operation", .text "sign") :: r.members)
  | .verify r => .object (("operation", .text "verify") :: r.members)
  | .decryptVerify d v =>
    .object [("operation", .text "decrypt_verify"), ("decrypt", .object d.members),
      ("verify", .object v.members)]

def union : Json.Tagged :=
  { title := "RawOperationResult"
    tag := "operation"
    variants :=
      [⟨"decrypt", DecryptResult.title, DecryptResult.fields⟩,
        ⟨"encrypt", EncryptResult.title, EncryptResult.fields⟩,
        ⟨"sign", SignResult.title, SignResult.fields⟩,
        ⟨"verify", VerifyResult.title, VerifyResult.fields⟩,
        ⟨"decrypt_verify", "struct variant RawOperationResult::DecryptVerify",
          [⟨"decrypt", .required, .record DecryptResult.title DecryptResult.fields⟩,
            ⟨"verify", .required, .record VerifyResult.title VerifyResult.fields⟩]⟩] }

def ofRecord? (operation : String) (record : Value) : Option Result :=
  match operation with
  | "decrypt" => (DecryptResult.ofValue? record).map .decrypt
  | "encrypt" => (EncryptResult.ofValue? record).map .encrypt
  | "sign" => (SignResult.ofValue? record).map .sign
  | "verify" => (VerifyResult.ofValue? record).map .verify
  | "decrypt_verify" =>
    match record with
    | .list [d, v] => do
      return .decryptVerify (← DecryptResult.ofValue? d) (← VerifyResult.ofValue? v)
    | _ => none
  | _ => none

def read (document : String) : Except Json.Refusal Result :=
  Json.Document.decodeTagged union ofRecord? document

end Result

end Vouch.Engine
