import Vouch.Log
import Vouch.Key.Snapshot
import Vouch.Engine.Result

/-!
Records of verified signatures: what the engine said, together with what the key database knows
about the signer.
-/

namespace Vouch.Signature

open Json (Value Shape)

structure Record where
  signer : Key.Reference
  signerUid : Option String
  signedAt : Time.Instant
  expiresAt : Option Time.Instant
  status : Status
  keyState : Key.State
  policy : Key.TofuPolicy
  trust : Key.Trust
  keyAlgorithm : String
  hashAlgorithm : String
  deriving DecidableEq, Repr

namespace Record

/-- The signature is good, its key is neither revoked nor expired, and the trust suffices. -/
def isFullyValid (record : Record) : Bool :=
  record.status.isGood && !record.keyState.isUnusable && record.trust.isSufficient

def timeMember (name : String) (t : Option Time.Instant) : List (String × Value) :=
  Value.member? name (fun (t : Time.Instant) => .text t.text) t

def toValue (record : Record) : Value :=
  .object ([("signer", record.signer.toValue)] ++
    Value.member? "signer_uid" .text record.signerUid ++
    [("signed_at", .text record.signedAt.text)] ++ timeMember "expires_at" record.expiresAt ++
    [("status", .text record.status.name), ("key_state", record.keyState.toValue),
      ("tofu_policy", .text record.policy.name), ("trust", record.trust.toValue),
      ("pubkey_algo", .text record.keyAlgorithm), ("hash_algo", .text record.hashAlgorithm)])

def shape : Shape :=
  .record "struct SignatureRecord"
    [⟨"signer", .required, Key.Reference.shape⟩, ⟨"signer_uid", .optional, .text⟩,
      ⟨"signed_at", .required, .stamp⟩, ⟨"expires_at", .optional, .stamp⟩,
      ⟨"status", .required, Status.shape⟩, ⟨"key_state", .required, Key.State.shape⟩,
      ⟨"tofu_policy", .required, Key.TofuPolicy.shape⟩, ⟨"trust", .required, Key.Trust.shape⟩,
      ⟨"pubkey_algo", .required, .text⟩, ⟨"hash_algo", .required, .text⟩]

def ofValue? : Value → Option Record
  | .list [signer, signerUid, signedAt, expiresAt, .text status, keyState, .text policy, trust,
      .text keyAlgorithm, .text hashAlgorithm] => do
    return ⟨← Key.Reference.ofValue? signer, ← signerUid.optional? Value.text?,
      ← signedAt.instant?, ← expiresAt.optional? Value.instant?, ← Status.ofName? status,
      ← Key.State.ofValue? keyState, ← Key.TofuPolicy.ofName? policy, ← Key.Trust.ofValue? trust,
      keyAlgorithm, hashAlgorithm⟩
  | _ => none

def read (document : String) : Except Json.Refusal Record :=
  Json.Document.decode shape ofValue? document

/-- A key as the signer of something made with an algorithm, which stands in where the database
names none. -/
def signerOf (entry : Key.Entry) (algorithm : String) : Key.Reference :=
  if entry.reference.algorithm = "" then { entry.reference with algorithm } else entry.reference

/-- The record of a signature.  A signer that the database does not know always counts as a missing
key, whatever the engine said. -/
def build (db : Key.Snapshot) (raw : Engine.Signature) : Record :=
  let algorithm := Engine.keyAlgorithm raw.keyAlgorithm
  let entry := db.lookup raw.fingerprint
  let signer := match entry with
    | some entry => signerOf entry algorithm
    | none => Key.Reference.ofName raw.fingerprint algorithm
  let state := match entry with
    | some entry => entry.state
    | none => Key.State.absent
  let policy := db.policy signer.primaryId
  { signer
    signerUid := entry.bind (·.uid)
    signedAt := Time.Instant.ofSeconds raw.timestamp.toInt
    expiresAt :=
      if 0 < raw.expiry.toInt then some (Time.Instant.ofSeconds raw.expiry.toInt) else none
    status := if entry.isSome then Engine.statusOf raw.status raw.summary else .missingKey
    keyState := state
    policy
    trust := state.trust policy
    keyAlgorithm := algorithm
    hashAlgorithm := Engine.hashAlgorithm raw.hashAlgorithm }

def lookupEvents (db : Key.Snapshot) (name : String) : List Log.Event :=
  match db.missed name with
  | some key => [Log.debug "fingerprint lookup missed, trying key id" [("key", key)]]
  | none => []

def events (db : Key.Snapshot) (raw : Engine.Signature) : List Log.Event :=
  let status := Engine.statusOf raw.status raw.summary
  lookupEvents db raw.fingerprint ++
    if (db.lookup raw.fingerprint).isSome || status == .missingKey then []
    else
      [Log.debug "signer not in key database, forcing missing_key"
        [("fingerprint", raw.fingerprint), ("engine_status", status.name)]]

end Record

end Vouch.Signature
