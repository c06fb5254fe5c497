import Mathlib.Tactic
import Vouch.Verdict
import Vouch.Proofs.Report.Document

/-!
Verdicts in documents.

The document form of a verdict describes the verdict, if the positions in it have at most 64 bits.
-/

namespace Vouch

open Json

namespace Verdict

theorem Ground.mem_all (ground : Ground) : ground ∈ all := by
  cases ground <;> decide

theorem Ground.ofName?_name (ground : Ground) : ofName? ground.name = some ground :=
  find?_of_nodup (by decide) ground.mem_all

theorem Overall.mem_all (overall : Overall) : overall ∈ all := by
  cases overall <;> decide

theorem Overall.ofName?_name (overall : Overall) : ofName? overall.name = some overall :=
  find?_of_nodup (by decide) overall.mem_all

/-- The position of the signature has at most 64 bits. -/
def Reason.Regular (reason : Reason) : Prop :=
  ∀ i ∈ reason.index, i ≤ Decimal.maxU64

/-- All positions of signatures have at most 64 bits. -/
def Regular (verdict : Verdict) : Prop :=
  ∀ reason ∈ verdict.reasons, reason.Regular

section
variable {o : Origin}

theorem carries_nat {n : Nat} (bound : n ≤ Decimal.maxU64) :
    Carries o .none .usize Value.nat? (.nat n) n :=
  ⟨.nat n, settles_nat bound, nofun, rfl⟩

theorem Reason.carries {reason : Reason} (regular : reason.Regular) :
    Carries o .none Reason.shape Reason.ofValue? reason.toValue reason := by
  obtain ⟨index, index_entry, index_stands⟩ :=
    entry_member? "signature_index" fun i (given : i ∈ reason.index) => carries_nat (regular i given)
  obtain ⟨fingerprint, fingerprint_entry, fingerprint_stands⟩ :=
    entry_member? "fingerprint" fun s (_ : s ∈ reason.fingerprint) => carries_text s
  refine ⟨.list [index, fingerprint, .text reason.ground.name, .text reason.message,
    .text reason.hint], ?_, nofun,
    by simp [ofValue?, index_stands, fingerprint_stands, Ground.ofName?_name]⟩
  apply settles_record (by decide) (Leeway.fits_none _)
  simp only [List.append_assoc]
  exact .cons index_entry <| .cons fingerprint_entry <|
    .given (entry_same (settles_name _ reason.ground.mem_all)) <|
    .given (entry_same (settles_text _)) <| .given (entry_same (settles_text _)) .nil

theorem carries {verdict : Verdict} (regular : verdict.Regular) :
    Carries o .none shape ofValue? verdict.toValue verdict := by
  obtain ⟨reasons, reasons_entry, reasons_stand⟩ :=
    entry_list "reasons" (.inl rfl) fun reason (listed : reason ∈ verdict.reasons) =>
      Reason.carries (regular reason listed)
  obtain ⟨signers, signers_entry, signers_stand⟩ :=
    entry_list "unknown_signers" (.inr rfl) fun s (_ : s ∈ verdict.unknownSigners) => carries_text s
  refine ⟨.list [.text verdict.overall.name, reasons, signers], ?_, nofun,
    by simp [ofValue?, Overall.ofName?_name, reasons_stand, signers_stand]⟩
  apply settles_record (by decide) (Leeway.fits_none _)
  exact .given (entry_same (settles_name _ verdict.overall.mem_all)) <| .given reasons_entry <|
    .given signers_entry .nil

end

theorem within_reason {reason : Reason} (regular : reason.Regular) : reason.toValue.Within 1 := by
  have index : ∀ i ∈ reason.index, (Value.nat i).Within 0 :=
    fun i given => Value.within_nat (regular i given)
  simp +contextual [Reason.toValue, index, or_imp]

theorem within_toValue {verdict : Verdict} (regular : verdict.Regular) :
    verdict.toValue.Within 3 := by
  have reasons : ∀ reason ∈ verdict.reasons, reason.toValue.Within 1 :=
    fun reason listed => within_reason (regular reason listed)
  simp +contextual [toValue, Value.texts, reasons]

/-- Every text of the document form of a verdict describes this verdict. -/
theorem read_of_text {verdict : Verdict} (regular : verdict.Regular) {text : String}
    (written : DocumentText verdict.toValue text.toList) : read text = .ok verdict := by
  obtain ⟨settled, settles, -, stands⟩ := carries regular
  exact Document.decode_of_text written ((within_toValue regular).mono (by decide))
    settles.conforms stands

end Verdict

/-- The documents that are written for a report and for a verdict, in one line or over several lines,
are read as this report and this verdict. -/
theorem reports_and_verdicts_survive {report : Report} {verdict : Verdict}
    (regular_report : report.Regular) (regular_verdict : verdict.Regular) :
    (Report.read report.toValue.line = .ok report ∧
      Report.read report.toValue.pretty = .ok report) ∧
    Verdict.read verdict.toValue.line = .ok verdict ∧
      Verdict.read verdict.toValue.pretty = .ok verdict := by
  refine ⟨⟨?_, ?_⟩, ?_, ?_⟩
  · exact Report.read_of_text regular_report (documentText_line _)
  · exact Report.read_of_text regular_report (documentText_pretty _)
  · exact Verdict.read_of_text regular_verdict (documentText_line _)
  · exact Verdict.read_of_text regular_verdict (documentText_pretty _)

/-- A signature made in the last nanosecond of the first second that can be told, and a reason about the
last position that can be numbered. -/
theorem survives_at_the_ends :
    let signature : Report.NewSignature :=
      { signer := Key.Reference.ofName "0xa1" "RSA", signerUid := some "Ada \"é\" \n"
        keyAlgorithm := "RSA", hashAlgorithm := "SHA256"
        createdAt := ⟨Time.firstSecond, 999999999, by decide, by decide⟩, createdLocal := ""
        sigClass := 4294967295 }
    let report : Report :=
      .sign { status := .warnings, failure := none, mode := .detach, newSignatures := [signature]
              invalidSigners := [] }
    let verdict : Verdict :=
      ⟨.notFullyValid, [⟨some Decimal.maxU64, none, .badSignature, "", ""⟩], ["A1"]⟩
    (report.Regular ∧ verdict.Regular) ∧
      (Report.read report.toValue.line = .ok report ∧
        Report.read report.toValue.pretty = .ok report) ∧
      Verdict.read verdict.toValue.line = .ok verdict ∧
        Verdict.read verdict.toValue.pretty = .ok verdict := by
  intro signature report verdict
  have regular_report : report.Regular := by
    intro s listed
    rw [List.mem_singleton.mp listed]
    show 999999999 < 1000000000
    decide
  have regular_verdict : verdict.Regular := by
    intro reason listed i given
    rw [List.mem_singleton.mp listed] at given
    cases given
    exact le_rfl
  exact ⟨⟨regular_report, regular_verdict⟩,
    reports_and_verdicts_survive regular_report regular_verdict⟩

end Vouch
