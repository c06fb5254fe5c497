import Mathlib.Tactic
import Vouch.Report
import Vouch.Proofs.Json.Carries
import Vouch.Proofs.Json.Document
import Vouch.Proofs.Time.Stamp

/-!
Reports in documents.

The document form of a report describes the report.  Counts have at most 64 bits, and no time lies in a
leap second.
-/

namespace Vouch

open Json

section
variable {o : Origin}

/-! ### Keys -/

namespace Key

theorem TrustLevel.mem_all (level : TrustLevel) : level ∈ all := by
  cases level <;> decide

theorem TrustLevel.ofName?_name (level : TrustLevel) : ofName? level.name = some level :=
  find?_of_nodup (by decide) level.mem_all

theorem TofuPolicy.mem_all (policy : TofuPolicy) : policy ∈ all := by
  cases policy <;> decide

theorem TofuPolicy.ofName?_name (policy : TofuPolicy) : ofName? policy.name = some policy :=
  find?_of_nodup (by decide) policy.mem_all

theorem TrustSource.mem_all (source : TrustSource) : source ∈ all := by
  cases source <;> decide

theorem TrustSource.ofName?_name (source : TrustSource) : ofName? source.name = some source :=
  find?_of_nodup (by decide) source.mem_all

theorem Reference.carries (key : Reference) :
    Carries o .none Reference.shape Reference.ofValue? key.toValue key := by
  obtain ⟨subkey, subkey_entry, subkey_stands⟩ :=
    entry_member? "subkey_id" fun s (_ : s ∈ key.subkeyId) => carries_text s
  refine ⟨.list [.text key.primaryId, subkey, .text key.fingerprint, .text key.algorithm,
    .u32 key.bits], ?_, nofun, by simp [ofValue?, subkey_stands]⟩
  apply settles_record (by decide) (Leeway.fits_none _)
  exact .given (entry_same (settles_text _)) <| .cons subkey_entry <|
    .given (entry_same (settles_text _)) <| .given (entry_same (settles_text _)) <|
    .given (entry_same (settles_u32 _)) .nil

theorem State.carries (state : State) :
    Carries o .none State.shape State.ofValue? state.toValue state := by
  refine ⟨.list [.bool state.present, .bool state.revoked, .bool state.expired,
    .bool state.disabled, .text state.ownerTrust.name], ?_, nofun,
    by simp [ofValue?, TrustLevel.ofName?_name]⟩
  apply settles_record (by decide) (Leeway.fits_none _)
  exact .given (entry_same (settles_flag _)) <| .given (entry_same (settles_flag _)) <|
    .given (entry_same (settles_flag _)) <| .given (entry_same (settles_flag _)) <|
    .given (entry_same (settles_name _ state.ownerTrust.mem_all)) .nil

theorem Trust.carries (trust : Trust) :
    Carries o .none Trust.shape Trust.ofValue? trust.toValue trust := by
  refine ⟨.list [.text trust.level.name, .text trust.source.name], ?_, nofun,
    by simp [ofValue?, TrustLevel.ofName?_name, TrustSource.ofName?_name]⟩
  apply settles_record (by decide) (Leeway.fits_none _)
  exact .given (entry_same (settles_name _ trust.level.mem_all)) <|
    .given (entry_same (settles_name _ trust.source.mem_all)) .nil

end Key

/-! ### Signatures -/

def Time.Instant.Regular (t : Time.Instant) : Prop :=
  t.nanos < 1000000000

theorem carries_instant {t : Time.Instant} (regular : t.Regular) :
    Carries o .none .stamp Value.instant? (.text t.text) t :=
  carries_stamp (Time.Instant.read_text regular)

theorem entry_instant (name : String) {t : Time.Instant} (regular : t.Regular) :
    Entry o .none ⟨name, .required, .stamp⟩ [(name, .text t.text)] (.text t.text) :=
  entry_same (settles_stamp (Time.Instant.read_text regular))

theorem instant?_text {t : Time.Instant} (regular : t.Regular) :
    (Value.text t.text).instant? = some t := by
  rw [Value.instant?, Time.Instant.read_text regular]
  rfl

namespace Signature

theorem Status.mem_all (status : Status) : status ∈ all := by
  cases status <;> decide

theorem Status.ofName?_name (status : Status) : ofName? status.name = some status :=
  find?_of_nodup (by decide) status.mem_all

/-- No time of the record is in a leap second. -/
def Record.Regular (record : Record) : Prop :=
  record.signedAt.Regular ∧ ∀ t ∈ record.expiresAt, t.Regular

theorem Record.carries {record : Record} (regular : record.Regular) :
    Carries o .none Record.shape Record.ofValue? record.toValue record := by
  obtain ⟨signed, expires⟩ := regular
  obtain ⟨signer, signer_settles, -, signer_stands⟩ := record.signer.carries
  obtain ⟨uid, uid_entry, uid_stands⟩ :=
    entry_member? "signer_uid" fun s (_ : s ∈ record.signerUid) => carries_text s
  obtain ⟨expiry, expiry_entry, expiry_stands⟩ :=
    entry_member? "expires_at" fun t (listed : t ∈ record.expiresAt) =>
      carries_instant (expires t listed)
  obtain ⟨state, state_settles, -, state_stands⟩ := record.keyState.carries
  obtain ⟨trust, trust_settles, -, trust_stands⟩ := record.trust.carries
  refine ⟨.list [signer, uid, .text record.signedAt.text, expiry, .text record.status.name, state,
    .text record.policy.name, trust, .text record.keyAlgorithm, .text record.hashAlgorithm], ?_,
    nofun, by simp [ofValue?, signer_stands, uid_stands, instant?_text signed, expiry_stands,
      Status.ofName?_name, state_stands, Key.TofuPolicy.ofName?_name, trust_stands]⟩
  apply settles_record (by decide) (Leeway.fits_none _)
  simp only [timeMember, List.append_assoc, List.singleton_append]
  exact .given (entry_required rfl signer_settles) <| .cons uid_entry <|
    .given (entry_instant _ signed) <| .cons expiry_entry <|
    .given (entry_same (settles_name _ record.status.mem_all)) <|
    .given (entry_required rfl state_settles) <|
    .given (entry_same (settles_name _ record.policy.mem_all)) <|
    .given (entry_required rfl trust_settles) <| .given (entry_same (settles_text _)) <|
    .given (entry_same (settles_text _)) .nil

end Signature

/-! ### Reports -/

theorem Engine.SignMode.mem_all (mode : SignMode) : mode ∈ all := by
  cases mode <;> decide

theorem Engine.SignMode.ofName?_name (mode : SignMode) : ofName? mode.name = some mode :=
  find?_of_nodup (by decide) mode.mem_all

namespace Report

theorem Status.mem_all (status : Status) : status ∈ all := by
  cases status <;> decide

theorem Status.ofName?_name (status : Status) : ofName? status.name = some status :=
  find?_of_nodup (by decide) status.mem_all

theorem Failure.carries (failure : Failure) :
    Carries o .none Failure.shape Failure.ofValue? failure.toValue failure := by
  refine ⟨.list [.u32 failure.code, .text failure.message], ?_, nofun, by simp [ofValue?]⟩
  apply settles_record (by decide) (Leeway.fits_none _)
  exact .given (entry_same (settles_u32 _)) <| .given (entry_same (settles_text _)) .nil

theorem Failure.entry (failure : Option Failure) :
    ∃ settled, Entry o .none Failure.field (Failure.member failure) settled ∧
      settled.optional? Failure.ofValue? = some failure :=
  entry_member? "error" fun f (_ : f ∈ failure) => f.carries

theorem Recipient.carries (r : Recipient) :
    Carries o .none Recipient.shape Recipient.ofValue? r.toValue r := by
  obtain ⟨fingerprint, fingerprint_entry, fingerprint_stands⟩ :=
    entry_member? "fingerprint" fun s (_ : s ∈ r.fingerprint) => carries_text s
  obtain ⟨reason, reason_entry, reason_stands⟩ :=
    entry_member? "reason" fun s (_ : s ∈ r.reason) => carries_text s
  have named : statusName r.ok ∈ ["ok", "general_error"] := by cases r.ok <;> decide
  have stands : ofStatusName? (statusName r.ok) = some r.ok := by cases r.ok <;> rfl
  refine ⟨.list [.text r.keyId, fingerprint, .text r.keyAlgorithm, .text (statusName r.ok), reason],
    ?_, nofun, by simp [ofValue?, fingerprint_stands, stands, reason_stands]⟩
  apply settles_record (by decide) (Leeway.fits_none _)
  simp only [List.append_assoc, List.cons_append, List.nil_append]
  rw [← List.append_nil (Value.member? "reason" Value.text r.reason)]
  exact .given (entry_same (settles_text _)) <| .cons fingerprint_entry <|
    .given (entry_same (settles_text _)) <| .given (entry_same (settles_choice named)) <|
    .cons reason_entry .nil

theorem InvalidKey.carries (k : InvalidKey) :
    Carries o .none InvalidKey.shape InvalidKey.ofValue? k.toValue k := by
  refine ⟨.list [.text k.fingerprint, .u32 k.code, .text k.reason], ?_, nofun, by simp [ofValue?]⟩
  apply settles_record (by decide) (Leeway.fits_none _)
  exact .given (entry_same (settles_text _)) <| .given (entry_same (settles_u32 _)) <|
    .given (entry_same (settles_text _)) .nil

/-- The signature was not made in a leap second. -/
def NewSignature.Regular (s : NewSignature) : Prop :=
  s.createdAt.Regular

theorem NewSignature.carries {s : NewSignature} (regular : s.Regular) :
    Carries o .none NewSignature.shape NewSignature.ofValue? s.toValue s := by
  obtain ⟨signer, signer_settles, -, signer_stands⟩ := s.signer.carries
  obtain ⟨uid, uid_entry, uid_stands⟩ :=
    entry_member? "signer_uid" fun a (_ : a ∈ s.signerUid) => carries_text a
  refine ⟨.list [signer, uid, .text s.keyAlgorithm, .text s.hashAlgorithm, .text s.createdAt.text,
    .text s.createdLocal, .u32 s.sigClass], ?_, nofun,
    by simp [ofValue?, signer_stands, uid_stands, instant?_text regular]⟩
  apply settles_record (by decide) (Leeway.fits_none _)
  simp only [List.singleton_append]
  exact .given (entry_required rfl signer_settles) <| .cons uid_entry <|
    .given (entry_same (settles_text _)) <| .given (entry_same (settles_text _)) <|
    .given (entry_instant _ regular) <| .given (entry_same (settles_text _)) <|
    .given (entry_same (settles_u32 _)) .nil

theorem Decrypt.entries {r : Decrypt} (regular : ∀ s ∈ r.signatures, s.Regular) :
    ∃ values, Entries o .none Decrypt.fields r.members values ∧
      Decrypt.ofValue? (.list values) = some r := by
  obtain ⟨failure, failure_entry, failure_stands⟩ := Failure.entry r.failure
  obtain ⟨cipher, cipher_entry, cipher_stands⟩ :=
    entry_member? "symmetric_algo" fun s (_ : s ∈ r.cipher) => carries_text s
  obtain ⟨key, key_entry, key_stands⟩ :=
    entry_member? "session_key" fun s (_ : s ∈ r.sessionKey) => carries_text s
  obtain ⟨unsupported, unsupported_entry, unsupported_stands⟩ :=
    entry_member? "unsupported_algorithm" fun s (_ : s ∈ r.unsupportedAlgorithm) => carries_text s
  obtain ⟨file, file_entry, file_stands⟩ :=
    entry_member? "file_name" fun s (_ : s ∈ r.fileName) => carries_text s
  obtain ⟨recipients, recipients_entry, recipients_stand⟩ :=
    entry_list "recipients" (.inl rfl) fun a (_ : a ∈ r.recipients) => a.carries
  obtain ⟨signed, signed_entry, signed_stand⟩ :=
    entry_list "signatures" (.inr rfl) fun s (listed : s ∈ r.signatures) =>
      Signature.Record.carries (regular s listed)
  refine ⟨[.text r.status.name, failure, cipher, key, .bool r.guarded, unsupported, file,
    recipients, .bool r.verified, signed], ?_,
    by simp [ofValue?, Status.ofName?_name, failure_stands, cipher_stands, key_stands,
      unsupported_stands, file_stands, recipients_stand, signed_stand]⟩
  simp only [members, List.append_assoc, List.singleton_append]
  exact .given (entry_same (settles_name _ r.status.mem_all)) <| .cons failure_entry <|
    .cons cipher_entry <| .cons key_entry <| .given (entry_same (settles_flag _)) <|
    .cons unsupported_entry <| .cons file_entry <| .given recipients_entry <|
    .given (entry_same (settles_flag _)) <| .given signed_entry .nil

theorem Verify.entries {r : Verify} (regular : ∀ s ∈ r.signatures, s.Regular) :
    ∃ values, Entries o .none Verify.fields r.members values ∧
      Verify.ofValue? (.list values) = some r := by
  obtain ⟨failure, failure_entry, failure_stands⟩ := Failure.entry r.failure
  obtain ⟨file, file_entry, file_stands⟩ :=
    entry_member? "file_name" fun s (_ : s ∈ r.fileName) => carries_text s
  obtain ⟨signed, signed_entry, signed_stand⟩ :=
    entry_list "signatures" (.inl rfl) fun s (listed : s ∈ r.signatures) =>
      Signature.Record.carries (regular s listed)
  refine ⟨[.text r.status.name, failure, file, signed], ?_,
    by simp [ofValue?, Status.ofName?_name, failure_stands, file_stands, signed_stand]⟩
  simp only [members, List.append_assoc, List.singleton_append]
  exact .given (entry_same (settles_name _ r.status.mem_all)) <| .cons failure_entry <|
    .cons file_entry <| .given signed_entry .nil

theorem Encrypt.entries {r : Encrypt} (countable : r.recipientCount ≤ Decimal.maxU64) :
    ∃ values, Entries o .none Encrypt.fields r.members values ∧
      Encrypt.ofValue? (.list values) = some r := by
  obtain ⟨failure, failure_entry, failure_stands⟩ := Failure.entry r.failure
  obtain ⟨invalid, invalid_entry, invalid_stand⟩ :=
    entry_list "invalid_recipients" (.inl rfl) fun k (_ : k ∈ r.invalidRecipients) => k.carries
  refine ⟨[.text r.status.name, failure, .nat r.recipientCount, invalid], ?_,
    by simp [ofValue?, Status.ofName?_name, failure_stands, invalid_stand]⟩
  simp only [members, List.singleton_append]
  exact .given (entry_same (settles_name _ r.status.mem_all)) <| .cons failure_entry <|
    .given (entry_same (settles_nat countable)) <| .given invalid_entry .nil

theorem Sign.entries {r : Sign} (regular : ∀ s ∈ r.newSignatures, s.Regular) :
    ∃ values, Entries o .none Sign.fields r.members values ∧
      Sign.ofValue? (.list values) = some r := by
  obtain ⟨failure, failure_entry, failure_stands⟩ := Failure.entry r.failure
  obtain ⟨signatures, signatures_entry, signatures_stand⟩ :=
    entry_list "new_signatures" (.inl rfl) fun s (listed : s ∈ r.newSignatures) =>
      NewSignature.carries (regular s listed)
  obtain ⟨invalid, invalid_entry, invalid_stand⟩ :=
    entry_list "invalid_signers" (.inl rfl) fun k (_ : k ∈ r.invalidSigners) => k.carries
  refine ⟨[.text r.status.name, failure, .text r.mode.name, signatures, invalid], ?_,
    by simp [ofValue?, Status.ofName?_name, failure_stands, Engine.SignMode.ofName?_name,
      signatures_stand, invalid_stand]⟩
  simp only [members, List.singleton_append]
  exact .given (entry_same (settles_name _ r.status.mem_all)) <| .cons failure_entry <|
    .given (entry_same (settles_name _ r.mode.mem_all)) <| .given signatures_entry <|
    .given invalid_entry .nil

end Report

end

namespace Report

/-- All counts have at most 64 bits, and no time is in a leap second. -/
def Regular : Report → Prop
  | .decrypt r => ∀ s ∈ r.signatures, s.Regular
  | .encrypt r => r.recipientCount ≤ Decimal.maxU64
  | .sign r => ∀ s ∈ r.newSignatures, s.Regular
  | .verify r => ∀ s ∈ r.signatures, s.Regular

def variant : Report → Variant Shape
  | .decrypt _ => ⟨"decrypt", "struct DecryptReport", Decrypt.fields⟩
  | .encrypt _ => ⟨"encrypt", "struct EncryptReport", Encrypt.fields⟩
  | .sign _ => ⟨"sign", "struct SignReport", Sign.fields⟩
  | .verify _ => ⟨"verify", "struct VerifyReport", Verify.fields⟩

def members : Report → List (String × Value)
  | .decrypt r => r.members
  | .encrypt r => r.members
  | .sign r => r.members
  | .verify r => r.members

theorem toValue_eq (report : Report) :
    report.toValue = .object ((union.tag, .text report.variant.name) :: report.members) := by
  cases report <;> rfl

theorem find?_variant (report : Report) :
    union.variants.find? (fun other => other.name == report.variant.name) =
      some report.variant := by
  cases report <;> rfl

theorem distinct_fields :
    ∀ variant ∈ union.variants, (fieldNames (union.fields variant)).Nodup := by
  decide

theorem entries {o : Origin} {report : Report} (regular : report.Regular) :
    ∃ values, Entries o .none report.variant.fields report.members values ∧
      ofRecord? report.variant.name (.list values) = some report := by
  cases report with
  | decrypt r =>
    obtain ⟨values, entries, stand⟩ := Decrypt.entries regular
    exact ⟨values, entries, by simp [ofRecord?, variant, stand]⟩
  | encrypt r =>
    obtain ⟨values, entries, stand⟩ := Encrypt.entries regular
    exact ⟨values, entries, by simp [ofRecord?, variant, stand]⟩
  | sign r =>
    obtain ⟨values, entries, stand⟩ := Sign.entries regular
    exact ⟨values, entries, by simp [ofRecord?, variant, stand]⟩
  | verify r =>
    obtain ⟨values, entries, stand⟩ := Verify.entries regular
    exact ⟨values, entries, by simp [ofRecord?, variant, stand]⟩

theorem within_record (record : Signature.Record) : record.toValue.Within 2 := by
  simp +contextual [Signature.Record.toValue, Signature.Record.timeMember, Key.Reference.toValue,
    Key.State.toValue, Key.Trust.toValue, or_imp]

theorem within_signature (s : NewSignature) : s.toValue.Within 2 := by
  simp +contextual [NewSignature.toValue, Key.Reference.toValue, or_imp]

theorem within_recipient (r : Recipient) : r.toValue.Within 2 := by
  simp +contextual [Recipient.toValue, or_imp]

theorem within_key (k : InvalidKey) : k.toValue.Within 2 := by
  simp [InvalidKey.toValue]

theorem within_members {report : Report} (regular : report.Regular) :
    ∀ member ∈ report.members, member.2.Within 3 := by
  cases report with
  | decrypt r =>
    simp +contextual [members, Decrypt.members, Failure.member, Failure.toValue, within_recipient,
      within_record, or_imp]
  | encrypt r =>
    simp +contextual [members, Encrypt.members, Failure.member, Failure.toValue, within_key,
      Value.within_nat regular, or_imp]
  | sign r =>
    simp +contextual [members, Sign.members, Failure.member, Failure.toValue, within_signature,
      within_key, or_imp]
  | verify r =>
    simp +contextual [members, Verify.members, Failure.member, Failure.toValue, within_record, or_imp]

/-- Every text of the document form of a report describes this report. -/
theorem read_of_text {report : Report} (regular : report.Regular) {text : String}
    (written : DocumentText report.toValue text.toList) : read text = .ok report := by
  obtain ⟨values, entries, stand⟩ := entries regular
  have listed : report.variant ∈ union.variants := List.mem_of_find?_eq_some report.find?_variant
  rw [toValue_eq] at written
  exact Document.decodeTagged_of_revised report.find?_variant (distinct_fields _ listed)
    (Leeway.fits_none _) entries stand (within_members regular) (by decide) .same written

end Report

end Vouch
