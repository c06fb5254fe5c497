import Mathlib.Tactic
import Vouch.Proofs.Key.Answer
import Vouch.Proofs.Report.Normal

/-!
What a report keeps of the evidence.

A report lists what the engine listed, entry by entry and in the same order.  The engine's own words are
never replaced, and where it has none an error is described.  No entry depends on another one, and the
zone is seen in local times alone.
-/

namespace Vouch

open Key (Snapshot)

structure Texts where
  cipher : Option String
  sessionKey : Option String
  unsupportedAlgorithm : Option String
  fileName : Option String

namespace Engine.Result

def operation : Result → Operation
  | .decrypt _ | .decryptVerify _ _ => .decrypt
  | .encrypt _ => .encrypt
  | .sign _ => .sign
  | .verify _ => .verify

def recipients : Result → List Recipient
  | .decrypt result | .decryptVerify result _ => result.recipients
  | .encrypt _ | .sign _ | .verify _ => []

def invalidKeys : Result → List InvalidKey
  | .encrypt result => result.invalidRecipients
  | .sign result => result.invalidSigners
  | .decrypt _ | .verify _ | .decryptVerify _ _ => []

def newSignatures : Result → List NewSignature
  | .sign result => result.newSignatures
  | .decrypt _ | .encrypt _ | .verify _ | .decryptVerify _ _ => []

/-- The texts that the engine reported.  Where a message was decrypted and verified, its name from the
verification stands in for one from the decryption. -/
def texts : Result → Texts
  | .decrypt result =>
    ⟨result.cipher, result.sessionKey, result.unsupportedAlgorithm, result.fileName⟩
  | .decryptVerify result checked =>
    ⟨result.cipher, result.sessionKey, result.unsupportedAlgorithm,
      result.fileName.or checked.fileName⟩
  | .verify result => ⟨none, none, none, result.fileName⟩
  | .encrypt _ | .sign _ => ⟨none, none, none, none⟩

end Engine.Result

namespace Report

def recipients : Report → List Recipient
  | .decrypt report => report.recipients
  | .encrypt _ | .sign _ | .verify _ => []

def invalidKeys : Report → List InvalidKey
  | .encrypt report => report.invalidRecipients
  | .sign report => report.invalidSigners
  | .decrypt _ | .verify _ => []

def newSignatures : Report → List NewSignature
  | .sign report => report.newSignatures
  | .decrypt _ | .encrypt _ | .verify _ => []

def texts : Report → Texts
  | .decrypt report =>
    ⟨report.cipher, report.sessionKey, report.unsupportedAlgorithm, report.fileName⟩
  | .verify report => ⟨none, none, none, report.fileName⟩
  | .encrypt _ | .sign _ => ⟨none, none, none, none⟩

/-- A recipient as the engine reported it, under the fingerprint of the key that its ID finds. -/
structure Recipient.Kept (db : Snapshot) (raw : Engine.Recipient) (entry : Recipient) : Prop where
  keyId : entry.keyId = raw.keyId
  keyAlgorithm : entry.keyAlgorithm = Engine.keyAlgorithm raw.keyAlgorithm
  ok_iff : entry.ok = true ↔ Engine.codeOf raw.status = 0
  words : ∀ text, raw.reason = some text → entry.reason = some text
  silent : raw.reason = none → entry.ok = true → entry.reason = none
  described : raw.reason = none → entry.ok = false →
    entry.reason = some (Engine.describe raw.status)
  reasoned : entry.ok = false → ∃ text, entry.reason = some text
  found : ∀ fingerprint, entry.fingerprint = some fingerprint ↔
    ∃ hit key, db.resolve? raw.keyId = some hit ∧ db.keys[hit.position]? = some key ∧
      fingerprint = Key.normal key.fingerprint

structure InvalidKey.Kept (raw : Engine.InvalidKey) (entry : InvalidKey) : Prop where
  fingerprint : entry.fingerprint = raw.fingerprint
  code : entry.code = Engine.codeOf raw.reason
  words : ∀ text, raw.reasonText = some text → entry.reason = text
  described : raw.reasonText = none → entry.reason = Engine.describe entry.code

/-- Words of the engine are kept even if they say nothing. -/
example : (Recipient.ofEngine .empty ⟨"89ABCDEF", 1, 17, some ""⟩).reason = some "" := by decide

section
variable (zone : Time.Zone) (db : Snapshot) (result : Engine.Result)

end

/-- What a report keeps of a result: every entry of every list in its place, and all texts. -/
structure Kept (zone : Time.Zone) (db : Snapshot) (result : Engine.Result) (report : Report) :
    Prop where
  operation : report.operation = result.operation
  texts : report.texts = result.texts
  signatures : report.signatures = result.signatures.map (Signature.Record.build db)
  recipients : List.Forall₂ (Recipient.Kept db) result.recipients report.recipients
  newSignatures : report.newSignatures = result.newSignatures.map (NewSignature.ofEngine zone db)
  invalidKeys : List.Forall₂ InvalidKey.Kept result.invalidKeys report.invalidKeys

end Report

end Vouch
