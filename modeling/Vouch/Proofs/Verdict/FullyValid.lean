import Mathlib.Tactic
import Vouch.Proofs.Key.Snapshot
import Vouch.Proofs.Report.Normal
import Vouch.Proofs.Signature.Record
import Vouch.Proofs.Verdict.Tally

/-!
Full validity from the engine's result to the verdict.

A verdict is fully valid exactly if signatures were verified without a failure and every one of them
has all that it needs.  The order in which a tally looks at the findings makes no difference to
this.
-/

namespace Vouch.Verdict

open Signature (Record)

/-- A record qualifies exactly if it is fully valid: the trust of a record never suffices against a
bad policy. -/
theorem disqualifier_build_eq_none_iff (db : Key.Snapshot) (raw : Engine.Signature) :
    disqualifier (Record.build db raw) = none ↔ (Record.build db raw).isFullyValid = true := by
  rw [disqualifier_eq_none_iff]
  constructor
  · intro qualifies
    exact qualifies.1
  · intro valid
    refine ⟨valid, ?_⟩
    rintro ⟨_, bad⟩
    rw [Record.isFullyValid_build_of_bad bad] at valid
    cases valid

/-- A signature never passes exactly if it lacks something that it needs. -/
theorem neverPasses_build_iff (db : Key.Snapshot) (raw : Engine.Signature) :
    NeverPasses (Record.build db raw) ↔ ¬Record.Vouched db raw := by
  rw [neverPasses_iff, ne_eq, disqualifier_build_eq_none_iff, Record.isFullyValid_build_iff]

/-- The verdict on an operation, from the records of its report. -/
theorem overall_ofEngine_iff_records (zone : Time.Zone) (db : Key.Snapshot)
    (result : Engine.Result) :
    (ofReport (Report.ofEngine zone db result)).overall = .fullyValid ↔
      result.Judged ∧ ∀ raw ∈ result.signatures, (Record.build db raw).isFullyValid = true := by
  have signatures := Report.signatures_ofEngine zone db result
  simp only [overall_ofReport_iff, signatures, ne_eq, List.map_eq_nil_iff, List.forall_mem_map,
    disqualifier_build_eq_none_iff]
  constructor
  · rintro ⟨success, signed, valid⟩
    have verifies := Report.verifies_of_signatures_ne_nil result signed
    have faultless :=
      (Report.failure_ofEngine_eq_none_iff zone db result verifies).mp success
    exact ⟨⟨verifies, faultless, signed⟩, valid⟩
  · rintro ⟨judged, valid⟩
    have success :=
      (Report.failure_ofEngine_eq_none_iff zone db result judged.verifies).mpr judged.faultless
    exact ⟨success, judged.signed, valid⟩

/-- No false and no missed full validity.  The verdict on an operation is fully valid exactly if
signatures were verified without a failure and each of them has all that it needs; in terms of the
report, exactly if each of its records is fully valid. -/
theorem fullyValid_ofEngine_iff (zone : Time.Zone) (db : Key.Snapshot) (result : Engine.Result) :
    ((ofReport (Report.ofEngine zone db result)).overall = .fullyValid ↔
      result.Judged ∧ ∀ raw ∈ result.signatures, Record.Vouched db raw) ∧
    (result.Judged →
      ((ofReport (Report.ofEngine zone db result)).overall = .fullyValid ↔
        ∀ record ∈ (Report.ofEngine zone db result).signatures, record.isFullyValid = true)) := by
  have records := overall_ofEngine_iff_records zone db result
  constructor
  · simp only [records, Record.isFullyValid_build_iff]
  · intro judged
    rw [records, Report.signatures_ofEngine, List.forall_mem_map]
    constructor
    · intro conditions
      exact conditions.2
    · intro valid
      exact ⟨judged, valid⟩

theorem fullyValid_ofEngine_of_trusted_key :
    let fingerprint := "0123456789ABCDEF0123456789ABCDEF01234567"
    let db := Key.Snapshot.ofKeys [.bare fingerprint .full .unknown]
    let result := Engine.Result.verify ⟨none, none, [.clean fingerprint]⟩
    result.Judged ∧ (ofReport (Report.ofEngine .utc db result)).overall = .fullyValid := by
  intro fingerprint db result
  have judged : result.Judged := by
    refine ⟨rfl, ?_, List.cons_ne_nil _ _⟩
    intro failure reported
    cases reported
  have valid : ∀ record ∈ (Report.ofEngine .utc db result).signatures,
      record.isFullyValid = true := by
    decide +kernel
  exact ⟨judged, ((fullyValid_ofEngine_iff .utc db result).2 judged).mpr valid⟩

end Vouch.Verdict
