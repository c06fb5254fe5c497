import Mathlib.Tactic
import Vouch.Proofs.Report.Normal
import Vouch.Proofs.Signature.Record
import Vouch.Proofs.Verdict.Account

/-!
The signers that a report and its verdict call unknown.

The report collects them from its signatures, and the tally collects them while it counts.  Both
lists are the same: every signer of a missing key once, in the order in which they are first met.
-/

namespace Vouch.Verdict

open Signature (Record)

def Misses (record : Record) (name : String) : Prop :=
  record.status = .missingKey ∧ record.signer.fingerprint = name

instance (record : Record) (name : String) : Decidable (Misses record name) :=
  inferInstanceAs (Decidable (_ ∧ _))

def firstMiss (records : List Record) (name : String) : Nat :=
  records.findIdx fun record => decide (Misses record name)

/-- The names are those of the signers whose key is missing, each once, in the order in which they
are first met. -/
structure MetInOrder (records : List Record) (names : List String) : Prop where
  distinct : names.Nodup
  complete : ∀ name, name ∈ names ↔ ∃ record ∈ records, Misses record name
  ordered : names.Pairwise fun earlier later =>
    firstMiss records earlier < firstMiss records later

namespace MetInOrder

variable {records : List Record} {names : List String} {record : Record} {name : String}

theorem nil : MetInOrder [] [] where
  distinct := List.nodup_nil
  complete := by simp
  ordered := List.Pairwise.nil

theorem exists_misses_concat_iff :
    (∃ other ∈ records ++ [record], Misses other name) ↔
      (∃ other ∈ records, Misses other name) ∨ Misses record name := by
  simp only [List.mem_append, List.mem_singleton, or_and_right, exists_or, exists_eq_left]

theorem firstMiss_lt (met : MetInOrder records names) (listed : name ∈ names) :
    firstMiss records name < records.length := by
  obtain ⟨record, member, misses⟩ := (met.complete name).mp listed
  exact List.findIdx_lt_length_of_exists ⟨record, member, decide_eq_true misses⟩

/-- Nothing that comes later changes where a signer was first met. -/
theorem firstMiss_concat (met : MetInOrder records names) (listed : name ∈ names)
    (record : Record) : firstMiss (records ++ [record]) name = firstMiss records name := by
  rw [firstMiss, List.findIdx_append]
  exact if_pos (met.firstMiss_lt listed)

theorem ordered_concat (met : MetInOrder records names) (record : Record) :
    names.Pairwise fun earlier later =>
      firstMiss (records ++ [record]) earlier < firstMiss (records ++ [record]) later := by
  refine met.ordered.imp_of_mem ?_
  intro earlier later first second before
  rw [met.firstMiss_concat first, met.firstMiss_concat second]
  exact before

/-- A record that misses no key, or that of a signer who was met before. -/
theorem kept (met : MetInOrder records names) (known : ∀ name, Misses record name → name ∈ names) :
    MetInOrder (records ++ [record]) names where
  distinct := met.distinct
  complete name := by
    rw [met.complete, exists_misses_concat_iff]
    refine (or_iff_left_of_imp fun misses => ?_).symm
    exact (met.complete name).mp (known name misses)
  ordered := met.ordered_concat record

/-- A record that misses the key of a signer who is met for the first time. -/
theorem added (met : MetInOrder records names) (misses : Misses record name)
    (fresh : name ∉ names) : MetInOrder (records ++ [record]) (names ++ [name]) where
  distinct := List.nodup_append.mpr ⟨met.distinct, List.nodup_singleton name, by
    rintro listed member _ last rfl
    exact fresh (List.mem_singleton.mp last ▸ member)⟩
  complete other := by
    have here : Misses record other ↔ other = name :=
      ⟨fun again => again.2.symm.trans misses.2, fun same => same ▸ misses⟩
    rw [List.mem_append, List.mem_singleton, met.complete, exists_misses_concat_iff, here]
  ordered := by
    refine List.pairwise_append.mpr ⟨met.ordered_concat record, List.pairwise_singleton _ _, ?_⟩
    intro earlier first later last
    cases List.mem_singleton.mp last
    have unmet : ¬firstMiss records name < records.length := by
      rw [firstMiss, List.findIdx_lt_length]
      rintro ⟨other, member, found⟩
      exact fresh ((met.complete name).mpr ⟨other, member, of_decide_eq_true found⟩)
    have late : firstMiss (records ++ [record]) name =
        firstMiss [record] name + records.length := by
      rw [firstMiss, List.findIdx_append]
      exact if_neg unmet
    have early := met.firstMiss_lt first
    rw [met.firstMiss_concat first, late]
    omega

end MetInOrder

theorem metInOrder_unknownSigners (records : List Record) :
    MetInOrder records ((records.filter fun record => record.status == .missingKey).foldl
      (fun found record => Report.withEntry found record.signer.fingerprint) []) := by
  induction records using List.reverseRecOn with
  | nil => exact .nil
  | append_singleton records record met =>
    rw [List.filter_append, List.foldl_append]
    by_cases missing : record.status = .missingKey
    · have counted : [record].filter (fun record => record.status == .missingKey) = [record] := by
        simp [missing]
      rw [counted, List.foldl_cons, List.foldl_nil, Report.withEntry]
      split_ifs with listed
      · exact met.kept fun name misses => misses.2 ▸ listed
      · exact met.added ⟨missing, rfl⟩ listed
    · have passed : [record].filter (fun record => record.status == .missingKey) = [] := by
        simp [missing]
      rw [passed, List.foldl_nil]
      exact met.kept fun name misses => absurd misses.1 missing

theorem unknownSigners_ofReport (report : Report) :
    (ofReport report).unknownSigners = report.unknownSigners := by
  have collected := Tally.foldl_withEntry (missingSigners report.signatures) []
  rw [missingSigners, List.foldl_map] at collected
  rw [ofReport, Tally.unknownSigners_finish_ofSteps, recordsOf_stepsOf]
  exact collected.symm

/-- A record misses a key if the database knows no key of its signer, or if it is the engine that
misses it. -/
theorem misses_build_iff (db : Key.Snapshot) (raw : Engine.Signature) (name : String) :
    Misses (Record.build db raw) name ↔
      (db.lookup raw.fingerprint = none ∨
        Engine.statusOf raw.status raw.summary = .missingKey) ∧
      (Record.build db raw).signer.fingerprint = name := by
  refine and_congr_left fun _ => ?_
  cases known : db.lookup raw.fingerprint with
  | none => exact iff_of_true (Record.status_build_of_unknown known) (.inl rfl)
  | some entry =>
    rw [Record.status_build_of_known known]
    exact (or_iff_right (Option.some_ne_none entry)).symm

/-- A report and the verdict on it have the same unknown signers: all whose key is missing, each once,
in the order in which they are first met.  In the report of an engine's result, the signatures that
count are those whose signer is not found, and those that the engine could not check without a
key. -/
theorem unknownSigners_agree :
    (∀ report : Report,
      (ofReport report).unknownSigners = report.unknownSigners ∧
        MetInOrder report.signatures report.unknownSigners) ∧
    ∀ (zone : Time.Zone) (db : Key.Snapshot) (result : Engine.Result),
      (Report.ofEngine zone db result).signatures = result.signatures.map (Record.build db) ∧
        ∀ raw name, Misses (Record.build db raw) name ↔
          (db.lookup raw.fingerprint = none ∨
            Engine.statusOf raw.status raw.summary = .missingKey) ∧
          (Record.build db raw).signer.fingerprint = name := by
  constructor
  · intro report
    exact ⟨unknownSigners_ofReport report, metInOrder_unknownSigners report.signatures⟩
  · intro zone db result
    exact ⟨Report.signatures_ofEngine zone db result, misses_build_iff db⟩

/-- Three signatures of two signers. -/
example : (ofRecords (["B", "A", "B"].map fun name =>
    Record.build .empty (.clean name))).unknownSigners = ["B", "A"] := by
  decide +kernel

end Vouch.Verdict
