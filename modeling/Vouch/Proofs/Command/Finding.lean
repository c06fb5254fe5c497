import Mathlib.Tactic
import Vouch.Command.Analyse
import Vouch.Proofs.Report.Regular

/-!
Printed findings.

The document that is printed for a finding describes the finding.
-/

namespace Vouch

open Json

namespace Report

def ofNode? (node : Node) : Option Report :=
  match union.conform node with
  | .ok (kind, record) => ofRecord? kind record
  | .error _ => none

theorem ofNode?_of_value? {report : Report} (regular : report.Regular) {node : Node}
    (holds : node.value? = some report.toValue) : ofNode? node = some report := by
  obtain ⟨values, entries, stand⟩ := entries regular
  have listed : report.variant ∈ union.variants := List.mem_of_find?_eq_some report.find?_variant
  rw [toValue_eq] at holds
  rw [ofNode?, Tagged.conform_of_revised report.find?_variant (distinct_fields _ listed)
    (Leeway.fits_none _) entries .same holds]
  exact stand

theorem within_toValue {report : Report} (regular : report.Regular) : report.toValue.Within 4 := by
  rw [toValue_eq]
  refine .object fun member listed => ?_
  obtain rfl | later := List.mem_cons.mp listed
  · exact .text _
  · exact within_members regular member later

end Report

namespace Verdict

def ofNode? (node : Node) : Option (Option Verdict) :=
  match node with
  | .null _ => some none
  | node =>
    match node.conform .written shape with
    | .ok settled => (ofValue? settled).map some
    | .error _ => none

theorem ofNode?_of_value? {verdict : Option Verdict} (regular : ∀ v ∈ verdict, v.Regular)
    {node : Node} (holds : node.value? = some (Value.orNull toValue verdict)) :
    ofNode? node = some verdict := by
  cases verdict with
  | none =>
    obtain ⟨span, rfl⟩ := Node.eq_of_value?_null holds
    rfl
  | some verdict =>
    obtain ⟨settled, settles, -, stands⟩ := carries (o := .written) (regular verdict rfl)
    obtain ⟨start, nodes, stop, rfl, -⟩ := Node.eq_of_value?_object holds
    change (match Node.conform .written shape _ with | .ok settled => _ | .error _ => _) = _
    rw [settles.conforms _ holds]
    dsimp only
    rw [stands]
    rfl

end Verdict

namespace Command.Finding

def read? (document : String) : Option Finding :=
  match Document.read document with
  | ⟨.object _ false [(first, report), (second, verdict)] (.closed _), none⟩ => do
    guard (first.name = "report" ∧ second.name = "verdict")
    return { report := ← Report.ofNode? report, verdict := ← Verdict.ofNode? verdict }
  | _ => none

/-- The document that is printed for a finding describes this finding. -/
theorem read?_pretty {finding : Finding} (regular_report : finding.report.Regular)
    (regular_verdict : ∀ verdict ∈ finding.verdict, verdict.Regular) :
    read? finding.toValue.pretty = some finding := by
  have within : finding.toValue.Within 5 := by
    have report := Report.within_toValue regular_report
    have verdict : (Value.orNull Verdict.toValue finding.verdict).Within 4 := by
      rw [Value.within_orNull_iff]
      exact fun v given => (Verdict.within_toValue (regular_verdict v given)).mono (by decide)
    simp [toValue, report, verdict]
  obtain ⟨root, read, holds⟩ :=
    Document.read_of_text (documentText_pretty finding.toValue) (within.mono (by decide))
  obtain ⟨start, nodes, stop, rfl, valued⟩ := Node.eq_of_value?_object holds
  obtain ⟨first, one, second, two, rfl, ⟨one_named, two_named⟩, -, one_valued, two_valued⟩ :=
    Node.eq_of_memberValues?_pair valued
  rw [read?, read]
  dsimp only
  rw [Report.ofNode?_of_value? regular_report one_valued,
    Verdict.ofNode?_of_value? regular_verdict two_valued]
  simp [one_named, two_named]

end Command.Finding

end Vouch
