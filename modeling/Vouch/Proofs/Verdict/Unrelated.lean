import Mathlib.Tactic
import Vouch.Proofs.Key.Inserted
import Vouch.Proofs.Signature.Record
import Vouch.Report.Normal
import Vouch.Verdict

/-!
Keys that have no part in a result.

A report looks up the names of signers, of makers of signatures and of recipients, and nothing else in
the database counts for it.  A key that is unrelated to all of these names can be put anywhere into
the database, and the report and its verdict stay what they were.
-/

namespace Vouch

open Key (Listed Snapshot IsDigits longId normal isFingerprint)

def Engine.Result.keyNames : Engine.Result → List String
  | .decrypt result => result.recipients.map (·.keyId)
  | .encrypt _ => []
  | .sign result => result.newSignatures.map (·.fingerprint)
  | .verify result => result.signatures.map (·.fingerprint)
  | .decryptVerify result checked =>
    result.recipients.map (·.keyId) ++ checked.signatures.map (·.fingerprint)

namespace Report

def signerId (db : Snapshot) (name : String) : String :=
  match db.lookup name with
  | some entry => entry.reference.primaryId
  | none => longId (normal name)

structure Agree (db other : Snapshot) (name : String) : Prop where
  lookup : other.lookup name = db.lookup name
  policy : other.policy (signerId db name) = db.policy (signerId db name)

section
variable {db other : Snapshot}

theorem build_eq_of_agree {raw : Engine.Signature} (agree : Agree db other raw.fingerprint) :
    Signature.Record.build other raw = Signature.Record.build db raw := by
  have policy := agree.policy
  unfold signerId at policy
  unfold Signature.Record.build
  rw [agree.lookup]
  cases known : db.lookup raw.fingerprint with
  | none =>
    simp only [known] at policy
    simp only [Key.Reference.ofName, policy]
  | some entry =>
    simp only [known] at policy
    simp only [Signature.Record.primaryId_signerOf, policy]

theorem recipient_eq_of_agree {raw : Engine.Recipient} (agree : Agree db other raw.keyId) :
    Recipient.ofEngine other raw = Recipient.ofEngine db raw := by
  rw [Recipient.ofEngine, Recipient.ofEngine, agree.lookup]

theorem newSignature_eq_of_agree {zone : Time.Zone} {raw : Engine.NewSignature}
    (agree : Agree db other raw.fingerprint) :
    NewSignature.ofEngine zone other raw = NewSignature.ofEngine zone db raw := by
  rw [NewSignature.ofEngine, NewSignature.ofEngine, agree.lookup]

/-- A report depends on a database by what that says of the names in the result. -/
theorem ofEngine_eq_of_agree {zone : Time.Zone} {result : Engine.Result}
    (agree : ∀ name ∈ result.keyNames, Agree db other name) :
    ofEngine zone other result = ofEngine zone db result := by
  have signatures : ∀ raws : List Engine.Signature,
      (∀ name ∈ raws.map (·.fingerprint), Agree db other name) →
        raws.map (Signature.Record.build other) = raws.map (Signature.Record.build db) := by
    intro raws same
    exact List.map_congr_left fun raw listed => build_eq_of_agree (same _ (List.mem_map_of_mem listed))
  have recipients : ∀ raws : List Engine.Recipient,
      (∀ name ∈ raws.map (·.keyId), Agree db other name) →
        raws.map (Recipient.ofEngine other) = raws.map (Recipient.ofEngine db) := by
    intro raws same
    exact List.map_congr_left fun raw listed => recipient_eq_of_agree (same _ (List.mem_map_of_mem listed))
  cases result with
  | decrypt raw => simp only [ofEngine, Decrypt.ofEngine, recipients raw.recipients agree]
  | encrypt raw => rfl
  | sign raw =>
    have made : raw.newSignatures.map (NewSignature.ofEngine zone other) =
        raw.newSignatures.map (NewSignature.ofEngine zone db) :=
      List.map_congr_left fun s listed => newSignature_eq_of_agree (agree _ (List.mem_map_of_mem listed))
    simp only [ofEngine, Sign.ofEngine, made]
  | verify raw => simp only [ofEngine, Verify.ofEngine, signatures raw.signatures agree]
  | decryptVerify raw checked =>
    obtain ⟨of_recipients, of_signers⟩ := List.forall_mem_append.mp agree
    simp only [ofEngine, Decrypt.ofEngine, recipients raw.recipients of_recipients,
      signatures checked.signatures of_signers]

end

theorem agree_inserted {before after : List Listed} {key : Listed} {name : String}
    (canonical : (Snapshot.ofKeys (before ++ after)).Canonical)
    (own_digits : ∀ own ∈ key.fingerprints, IsDigits own) (digits : IsDigits (normal name))
    (unrelated : (Snapshot.ofKeys (before ++ after)).Unrelated key name) :
    Agree (.ofKeys (before ++ after)) (.ofKeys (before ++ key :: after)) name := by
  refine ⟨Snapshot.lookup_inserted own_digits digits unrelated, ?_⟩
  unfold signerId
  cases known : (Snapshot.ofKeys (before ++ after)).lookup name with
  | none =>
    have short : (longId (normal name)).toList.length ≤ 16 := by
      rw [Key.length_longId digits]
      exact min_le_left 16 _
    apply Snapshot.policy_inserted own_digits (Key.isDigits_longId digits) short
    intro own listed
    rw [Key.longId_normal digits]
    exact unrelated.asked own listed
  | some entry =>
    obtain ⟨found, listed, primary⟩ := Snapshot.exists_listed_of_lookup known
    have fingerprint := canonical found listed _ List.mem_cons_self
    apply Snapshot.policy_inserted own_digits _ _ (unrelated.found entry known)
    · rw [primary]
      exact Key.isDigits_longId (Key.isDigits_of_isFingerprint fingerprint)
    · rw [primary]
      exact (Key.length_longId_of_isFingerprint fingerprint).le

end Report

namespace Verdict

/-- A key that has nothing to do with the names in a result can be put anywhere into the database.  The
report stays the same, and so does the verdict. -/
theorem unmoved_by_unrelated_key (zone : Time.Zone) (result : Engine.Result)
    (before after : List Listed) (key : Listed)
    (canonical : (Snapshot.ofKeys (before ++ after)).Canonical)
    (fingerprints : ∀ own ∈ key.fingerprints, isFingerprint own = true)
    (digits : ∀ name ∈ result.keyNames, IsDigits (normal name))
    (unrelated : ∀ name ∈ result.keyNames,
      (Snapshot.ofKeys (before ++ after)).Unrelated key name) :
    Report.ofEngine zone (.ofKeys (before ++ key :: after)) result =
        Report.ofEngine zone (.ofKeys (before ++ after)) result ∧
      ofReport (Report.ofEngine zone (.ofKeys (before ++ key :: after)) result) =
        ofReport (Report.ofEngine zone (.ofKeys (before ++ after)) result) := by
  have own_digits : ∀ own ∈ key.fingerprints, IsDigits own := by
    intro own listed
    exact Key.isDigits_of_isFingerprint (fingerprints own listed)
  have agree : ∀ name ∈ result.keyNames, Report.Agree (.ofKeys (before ++ after))
      (.ofKeys (before ++ key :: after)) name := by
    intro name asked
    exact Report.agree_inserted canonical own_digits (digits name asked) (unrelated name asked)
  have same : Report.ofEngine zone (.ofKeys (before ++ key :: after)) result =
      Report.ofEngine zone (.ofKeys (before ++ after)) result := Report.ofEngine_eq_of_agree agree
  exact ⟨same, congrArg ofReport same⟩

/-- A distrusted key that ends with the same eight digits as a signer is put in front of it. -/
theorem unmoved_by_key_with_same_end :
    let signer := Listed.bare "AAAAAAAAAAAAAAAAAAAAAAAA0123456789ABCDEF" .full .good
    let other := Listed.bare "AAAAAAAAAAAAAAAAAAAAAAAA0000000089ABCDEF" .never .bad
    let result : Engine.Result :=
      .decryptVerify ⟨none, none, none, false, none, none, [⟨"0xdeadbeef", 1, 0, none⟩]⟩
        ⟨none, none, [.clean "01234567 89abcdef", .clean ""]⟩
    (∀ name ∈ result.keyNames, (Snapshot.ofKeys ([] ++ [signer])).Unrelated other name) ∧
      Report.ofEngine .utc (.ofKeys ([] ++ other :: [signer])) result =
          Report.ofEngine .utc (.ofKeys ([] ++ [signer])) result ∧
        ofReport (Report.ofEngine .utc (.ofKeys ([] ++ other :: [signer])) result) =
          ofReport (Report.ofEngine .utc (.ofKeys ([] ++ [signer])) result) := by
  intro signer other result
  have unrelated : ∀ name ∈ result.keyNames,
      (Snapshot.ofKeys ([] ++ [signer])).Unrelated other name := by decide +kernel
  refine ⟨unrelated, ?_⟩
  exact unmoved_by_unrelated_key .utc result [] [signer] other (by decide +kernel)
    (by decide +kernel) (by decide +kernel) unrelated

end Verdict

end Vouch
