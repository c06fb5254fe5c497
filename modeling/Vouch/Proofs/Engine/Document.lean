import Mathlib.Tactic
import Vouch.Engine.Result
import Vouch.Proofs.Json.Carries
import Vouch.Proofs.Json.Document

/-!
Results of older and newer engines.

A document that an engine writes for a result, and every revision of it, describes the same result.
-/

namespace Vouch.Engine

open Json

/-- Every member may be left out with its default value, except the code of a failure, and added members
nest fewer than 100 levels. -/
def leeway : Leeway :=
  { spare := fun field value => field.name ≠ "code" ∧ field.default? = some value
    levels := 99 }

theorem fits_of_eq {fields : List (Member Shape)}
    (same : (fields.filter (fun field => field.name != "code")).map Member.default? =
      (fields.filter (fun field => field.name != "code")).map Member.standIn?) :
    leeway.Fits fields := by
  rintro field listed value ⟨other, default⟩
  have kept : field ∈ fields.filter (fun field => field.name != "code") :=
    List.mem_filter.mpr ⟨listed, by simpa using other⟩
  rw [← List.map_inj_left.mp same field kept]
  exact default

section
variable {o : Origin}

theorem Failure.carries (failure : Failure) :
    Carries o leeway Failure.shape Failure.ofValue? failure.toValue failure := by
  refine ⟨.list [.u32 failure.code, .text failure.message], ?_, nofun, by simp [ofValue?]⟩
  apply settles_record (by decide) (fits_of_eq rfl)
  exact .given (entry_same (settles_u32 _)) (.given (entry_same (settles_text _)) .nil)

theorem Signature.carries (s : Signature) :
    Carries o leeway Signature.shape Signature.ofValue? s.toValue s := by
  refine ⟨.list [.text s.fingerprint, .u32 s.summary, .u32 s.status, .i64 s.timestamp,
    .i64 s.expiry, .u32 s.keyAlgorithm, .u32 s.hashAlgorithm], ?_, nofun, by simp [ofValue?]⟩
  apply settles_record (by decide) (fits_of_eq rfl)
  exact .given (entry_same (settles_text _)) <| .given (entry_same (settles_u32 _)) <|
    .given (entry_same (settles_u32 _)) <| .given (entry_same (settles_i64 _)) <|
    .given (entry_same (settles_i64 _)) <| .given (entry_same (settles_u32 _)) <|
    .given (entry_same (settles_u32 _)) .nil

theorem Recipient.carries (r : Recipient) :
    Carries o leeway Recipient.shape Recipient.ofValue? r.toValue r := by
  obtain ⟨reason, reason_entry, reason_stands⟩ :=
    entry_orNull "reason" fun s (_ : s ∈ r.reason) => carries_text s
  refine ⟨.list [.text r.keyId, .u32 r.keyAlgorithm, .u32 r.status, reason], ?_, nofun,
    by simp [ofValue?, reason_stands]⟩
  apply settles_record (by decide) (fits_of_eq rfl)
  exact .given (entry_same (settles_text _)) <| .given (entry_same (settles_u32 _)) <|
    .given (entry_same (settles_u32 _)) <| .given reason_entry .nil

theorem InvalidKey.carries (k : InvalidKey) :
    Carries o leeway InvalidKey.shape InvalidKey.ofValue? k.toValue k := by
  obtain ⟨reason, reason_entry, reason_stands⟩ :=
    entry_orNull "reason_text" fun s (_ : s ∈ k.reasonText) => carries_text s
  refine ⟨.list [.text k.fingerprint, .u32 k.reason, reason], ?_, nofun,
    by simp [ofValue?, reason_stands]⟩
  apply settles_record (by decide) (fits_of_eq rfl)
  exact .given (entry_same (settles_text _)) <| .given (entry_same (settles_u32 _)) <|
    .given reason_entry .nil

theorem NewSignature.carries (s : NewSignature) :
    Carries o leeway NewSignature.shape NewSignature.ofValue? s.toValue s := by
  refine ⟨.list [.text s.fingerprint, .u32 s.keyAlgorithm, .u32 s.hashAlgorithm, .i64 s.timestamp,
    .u32 s.sigClass], ?_, nofun, by simp [ofValue?]⟩
  apply settles_record (by decide) (fits_of_eq rfl)
  exact .given (entry_same (settles_text _)) <| .given (entry_same (settles_u32 _)) <|
    .given (entry_same (settles_u32 _)) <| .given (entry_same (settles_i64 _)) <|
    .given (entry_same (settles_u32 _)) .nil

theorem VerifyResult.entries (r : VerifyResult) :
    ∃ values, Entries o leeway VerifyResult.fields r.members values ∧
      VerifyResult.ofValue? (.list values) = some r := by
  obtain ⟨failure, failure_entry, failure_stands⟩ :=
    entry_orNull "error" fun f (_ : f ∈ r.failure) => f.carries
  obtain ⟨file, file_entry, file_stands⟩ :=
    entry_orNull "file_name" fun s (_ : s ∈ r.fileName) => carries_text s
  obtain ⟨signatures, signatures_entry, signatures_stand⟩ :=
    entry_list "signatures" (.inr rfl) fun s (_ : s ∈ r.signatures) => s.carries
  refine ⟨[failure, file, signatures], ?_,
    by simp [ofValue?, failure_stands, file_stands, signatures_stand]⟩
  exact .given failure_entry <| .given file_entry <| .given signatures_entry .nil

theorem DecryptResult.entries (r : DecryptResult) :
    ∃ values, Entries o leeway DecryptResult.fields r.members values ∧
      DecryptResult.ofValue? (.list values) = some r := by
  obtain ⟨failure, failure_entry, failure_stands⟩ :=
    entry_orNull "error" fun f (_ : f ∈ r.failure) => f.carries
  obtain ⟨cipher, cipher_entry, cipher_stands⟩ :=
    entry_orNull "symkey_algo" fun s (_ : s ∈ r.cipher) => carries_text s
  obtain ⟨key, key_entry, key_stands⟩ :=
    entry_orNull "session_key" fun s (_ : s ∈ r.sessionKey) => carries_text s
  obtain ⟨unsupported, unsupported_entry, unsupported_stands⟩ :=
    entry_orNull "unsupported_algorithm" fun s (_ : s ∈ r.unsupportedAlgorithm) => carries_text s
  obtain ⟨file, file_entry, file_stands⟩ :=
    entry_orNull "file_name" fun s (_ : s ∈ r.fileName) => carries_text s
  obtain ⟨recipients, recipients_entry, recipients_stand⟩ :=
    entry_list "recipients" (.inr rfl) fun a (_ : a ∈ r.recipients) => a.carries
  refine ⟨[failure, cipher, key, .bool r.legacyCipher, unsupported, file, recipients], ?_,
    by simp [ofValue?, failure_stands, cipher_stands, key_stands, unsupported_stands, file_stands,
      recipients_stand]⟩
  exact .given failure_entry <| .given cipher_entry <| .given key_entry <|
    .given (entry_same (settles_flag _)) <| .given unsupported_entry <| .given file_entry <|
    .given recipients_entry .nil

theorem EncryptResult.entries (r : EncryptResult) :
    ∃ values, Entries o leeway EncryptResult.fields r.members values ∧
      EncryptResult.ofValue? (.list values) = some r := by
  obtain ⟨failure, failure_entry, failure_stands⟩ :=
    entry_orNull "error" fun f (_ : f ∈ r.failure) => f.carries
  obtain ⟨invalid, invalid_entry, invalid_stand⟩ :=
    entry_list "invalid_recipients" (.inr rfl) fun k (_ : k ∈ r.invalidRecipients) => k.carries
  refine ⟨[failure, .u64 r.recipientCount, invalid], ?_,
    by simp [ofValue?, failure_stands, invalid_stand]⟩
  exact .given failure_entry <| .given (entry_same (settles_u64 _)) <| .given invalid_entry .nil

theorem SignResult.entries (r : SignResult) :
    ∃ values, Entries o leeway SignResult.fields r.members values ∧
      SignResult.ofValue? (.list values) = some r := by
  obtain ⟨failure, failure_entry, failure_stands⟩ :=
    entry_orNull "error" fun f (_ : f ∈ r.failure) => f.carries
  obtain ⟨signatures, signatures_entry, signatures_stand⟩ :=
    entry_list "new_signatures" (.inr rfl) fun s (_ : s ∈ r.newSignatures) => s.carries
  obtain ⟨invalid, invalid_entry, invalid_stand⟩ :=
    entry_list "invalid_signers" (.inr rfl) fun k (_ : k ∈ r.invalidSigners) => k.carries
  refine ⟨[failure, .u32 r.mode, signatures, invalid], ?_,
    by simp [ofValue?, failure_stands, signatures_stand, invalid_stand]⟩
  exact .given failure_entry <| .given (entry_same (settles_u32 _)) <|
    .given signatures_entry <| .given invalid_entry .nil

end

namespace Result

def variant : Result → Variant Shape
  | .decrypt _ => ⟨"decrypt", DecryptResult.title, DecryptResult.fields⟩
  | .encrypt _ => ⟨"encrypt", EncryptResult.title, EncryptResult.fields⟩
  | .sign _ => ⟨"sign", SignResult.title, SignResult.fields⟩
  | .verify _ => ⟨"verify", VerifyResult.title, VerifyResult.fields⟩
  | .decryptVerify .. =>
    ⟨"decrypt_verify", "struct variant RawOperationResult::DecryptVerify",
      [⟨"decrypt", .required, .record DecryptResult.title DecryptResult.fields⟩,
        ⟨"verify", .required, .record VerifyResult.title VerifyResult.fields⟩]⟩

/-- The shape of the document form: the fields of the operation after its name. -/
def shape (r : Result) : Shape :=
  union.record r.variant

def members : Result → List (String × Value)
  | .decrypt r => r.members
  | .encrypt r => r.members
  | .sign r => r.members
  | .verify r => r.members
  | .decryptVerify d v => [("decrypt", .object d.members), ("verify", .object v.members)]

theorem toValue_eq (r : Result) :
    r.toValue = .object ((union.tag, .text r.variant.name) :: r.members) := by
  cases r <;> rfl

theorem find?_variant (r : Result) :
    union.variants.find? (fun other => other.name == r.variant.name) = some r.variant := by
  cases r <;> rfl

theorem distinct_fields :
    ∀ variant ∈ union.variants, (fieldNames (union.fields variant)).Nodup := by
  decide

theorem fits_fields : ∀ variant ∈ union.variants, leeway.Fits (union.fields variant) := by
  simp only [union, List.forall_mem_cons, List.not_mem_nil, false_implies, implies_true, and_true]
  exact ⟨fits_of_eq rfl, fits_of_eq rfl, fits_of_eq rfl, fits_of_eq rfl, fits_of_eq rfl⟩

theorem entries {o : Origin} (r : Result) :
    ∃ values, Entries o leeway r.variant.fields r.members values ∧
      ofRecord? r.variant.name (.list values) = some r := by
  cases r with
  | decrypt r =>
    obtain ⟨values, entries, stand⟩ := r.entries
    exact ⟨values, entries, by simp [ofRecord?, variant, stand]⟩
  | encrypt r =>
    obtain ⟨values, entries, stand⟩ := r.entries
    exact ⟨values, entries, by simp [ofRecord?, variant, stand]⟩
  | sign r =>
    obtain ⟨values, entries, stand⟩ := r.entries
    exact ⟨values, entries, by simp [ofRecord?, variant, stand]⟩
  | verify r =>
    obtain ⟨values, entries, stand⟩ := r.entries
    exact ⟨values, entries, by simp [ofRecord?, variant, stand]⟩
  | decryptVerify d v =>
    obtain ⟨decrypted, decrypt_entries, decrypt_stands⟩ := d.entries
    obtain ⟨verified, verify_entries, verify_stands⟩ := v.entries
    refine ⟨[.list decrypted, .list verified], ?_,
      by simp [ofRecord?, variant, decrypt_stands, verify_stands]⟩
    exact .given (entry_required rfl (settles_record (by decide) (fits_of_eq rfl) decrypt_entries)) <|
      .given (entry_required rfl (settles_record (by decide) (fits_of_eq rfl) verify_entries)) .nil

theorem within_failure (failure : Failure) : failure.toValue.Within 3 := by
  simp [Failure.toValue]

theorem within_verify (r : VerifyResult) : ∀ member ∈ r.members, member.2.Within 3 := by
  simp [VerifyResult.members, Signature.toValue, within_failure]

theorem within_decrypt (r : DecryptResult) : ∀ member ∈ r.members, member.2.Within 3 := by
  simp [DecryptResult.members, Recipient.toValue, within_failure]

theorem within_encrypt (r : EncryptResult) : ∀ member ∈ r.members, member.2.Within 3 := by
  simp [EncryptResult.members, InvalidKey.toValue, within_failure]

theorem within_sign (r : SignResult) : ∀ member ∈ r.members, member.2.Within 3 := by
  simp [SignResult.members, NewSignature.toValue, InvalidKey.toValue, within_failure]

/-- The two results of a combined operation stand one level deeper than those of others. -/
theorem within_members (r : Result) : ∀ member ∈ r.members, member.2.Within 4 := by
  have deeper : ∀ {members : List (String × Value)}, (∀ member ∈ members, member.2.Within 3) →
      ∀ member ∈ members, member.2.Within 4 :=
    fun inner member listed => (inner member listed).mono (by decide)
  cases r with
  | decrypt r => exact deeper (within_decrypt r)
  | encrypt r => exact deeper (within_encrypt r)
  | sign r => exact deeper (within_sign r)
  | verify r => exact deeper (within_verify r)
  | decryptVerify d v => simpa [members] using And.intro (within_decrypt d) (within_verify v)

/-- Every text of a revision of the document that an engine writes for a result describes this
result. -/
theorem read_of_revised (r : Result) {revision : Value} {text : String}
    (revised : Revised leeway r.shape r.toValue revision)
    (written : DocumentText revision text.toList) : read text = .ok r := by
  obtain ⟨values, entries, stand⟩ := r.entries
  have listed : r.variant ∈ union.variants := List.mem_of_find?_eq_some r.find?_variant
  rw [toValue_eq] at revised
  exact Document.decodeTagged_of_revised r.find?_variant (distinct_fields _ listed)
    (fits_fields _ listed) entries stand r.within_members (by decide) revised written

/-- The operation comes last, an unknown member first, and a signature tells no more than its summary. -/
theorem read_of_revised_reordered :
    let result : Result := .verify ⟨none, none, [⟨"", 3, 0, 0, 0, 0, 0⟩]⟩
    let revision : Value :=
      .object [("origin", .list [.null]), ("signatures", .list [.object [("summary", .u32 3)]]),
        ("operation", .text "verify")]
    let text : String :=
      "\x7b\"origin\":[null],\"signatures\":[\x7b\"summary\":3\x7d],\"operation\":\"verify\"\x7d"
    (Revised leeway result.shape result.toValue revision ∧ DocumentText revision text.toList) ∧
      read text = .ok result := by
  intro result revision text
  have signature : Revised leeway Signature.shape (Signature.toValue ⟨"", 3, 0, 0, 0, 0, 0⟩)
      (.object [("summary", .u32 3)]) := by
    refine @Revised.record _ _ _ _ [("summary", .u32 3)] [] _ ?_ nofun nofun (.refl _)
    exact .leftOut (.head _) ⟨by decide, rfl⟩ <| .kept (.tail _ (.head _)) .same <|
      .leftOut (.tail _ (.tail _ (.head _))) ⟨by decide, rfl⟩ <|
      .leftOut (.tail _ (.tail _ (.tail _ (.head _)))) ⟨by decide, rfl⟩ <|
      .leftOut (.tail _ (.tail _ (.tail _ (.tail _ (.head _))))) ⟨by decide, rfl⟩ <|
      .leftOut (.tail _ (.tail _ (.tail _ (.tail _ (.tail _ (.head _)))))) ⟨by decide, rfl⟩ <|
      .leftOut (.tail _ (.tail _ (.tail _ (.tail _ (.tail _ (.tail _ (.head _))))))) ⟨by decide, rfl⟩
        .nil
  have revised : Revised leeway result.shape result.toValue revision := by
    refine @Revised.record _ _ _ _
      [("operation", .text "verify"), ("signatures", .list [.object [("summary", .u32 3)]])]
      [("origin", .list [.null])] _ ?_ ?_ ?_ (List.reverse_perm _).symm
    · exact .kept (.head _) .same <| .leftOut (.tail _ (.head _)) ⟨by decide, rfl⟩ <|
        .leftOut (.tail _ (.tail _ (.head _))) ⟨by decide, rfl⟩ <|
        .kept (.tail _ (.tail _ (.tail _ (.head _)))) (.list (.cons signature .nil)) .nil
    · rw [List.forall_mem_singleton]
      decide
    · rw [List.forall_mem_singleton]
      exact .list (by simpa using Value.Within.null)
  have written : DocumentText revision text.toList := documentText_line revision
  exact ⟨⟨revised, written⟩, read_of_revised result revised written⟩

end Result

end Vouch.Engine
