import Mathlib.Tactic
import Vouch.Analysis
import Vouch.Proofs.Json.Breadth
import Vouch.Proofs.Report.Normal
import Vouch.Proofs.Verdict.Account
import Vouch.Proofs.Verdict.Document

/-!
The reports of engine results can be written down.

The times of an engine are whole seconds, and a text with fewer than 2 ^ 63 characters lists fewer than
2 ^ 64 things, so that every count and every position has at most 64 bits.
-/

namespace Vouch

open Json

namespace Engine

variable {most : Nat} {value : Value}

def Result.Within (most : Nat) : Result → Prop
  | .encrypt result => result.invalidRecipients.length ≤ most
  | .verify result | .decryptVerify _ result => result.signatures.length ≤ most
  | .decrypt _ | .sign _ => True

theorem Result.Within.mono {more : Nat} {result : Result} (within : result.Within most)
    (wider : most ≤ more) : result.Within more := by
  cases result with
  | decrypt => trivial
  | encrypt => exact le_trans within wider
  | sign => trivial
  | verify => exact le_trans within wider
  | decryptVerify => exact le_trans within wider

theorem Result.Within.length_signatures_le {result : Result} (within : result.Within most) :
    result.signatures.length ≤ most := by
  cases result with
  | verify => exact within
  | decryptVerify => exact within
  | _ => exact Nat.zero_le _

theorem exists_third {first second third : Member Shape}
    (gathers : Gathers most [first, second, third] value) :
    ∃ a b c, value = .list [a, b, c] ∧ third.Yields most c := by
  obtain ⟨values, rfl, yields⟩ := gathers
  obtain _ | ⟨-, _ | ⟨-, _ | ⟨listed, ⟨⟩⟩⟩⟩ := yields
  exact ⟨_, _, _, rfl, listed⟩

theorem EncryptResult.length_le {result : EncryptResult} (gathers : Gathers most fields value)
    (stands : ofValue? value = some result) : result.invalidRecipients.length ≤ most := by
  obtain ⟨failure, count, keys, rfl, listed⟩ := exists_third gathers
  simp only [ofValue?, Option.bind_eq_bind, Option.bind_eq_some_iff, Option.pure_def] at stands
  obtain ⟨_, _, _, _, _, stand, ⟨⟩⟩ := stands
  exact listed.length_le stand

theorem VerifyResult.length_le {result : VerifyResult} (gathers : Gathers most fields value)
    (stands : ofValue? value = some result) : result.signatures.length ≤ most := by
  obtain ⟨failure, file, signatures, rfl, listed⟩ := exists_third gathers
  simp only [ofValue?, Option.bind_eq_bind, Option.bind_eq_some_iff, Option.pure_def] at stands
  obtain ⟨_, _, _, _, _, stand, ⟨⟩⟩ := stands
  exact listed.length_le stand

namespace Result

theorem within_of_read {text : String} {result : Result} (read : Result.read text = .ok result) :
    result.Within (2 * text.length + 1) := by
  have distinct : ∀ variant ∈ union.variants, (fieldNames variant.fields).Nodup := by decide
  obtain ⟨variant, listed, value, gathers, stands⟩ := Document.gathers_of_decodeTagged distinct read
  simp only [union, List.mem_cons, List.not_mem_nil, or_false] at listed
  obtain rfl | rfl | rfl | rfl | rfl := listed
  · obtain ⟨_, _, rfl⟩ := Option.map_eq_some_iff.mp stands
    trivial
  · obtain ⟨_, stand, rfl⟩ := Option.map_eq_some_iff.mp stands
    exact EncryptResult.length_le gathers stand
  · obtain ⟨_, _, rfl⟩ := Option.map_eq_some_iff.mp stands
    trivial
  · obtain ⟨_, stand, rfl⟩ := Option.map_eq_some_iff.mp stands
    exact VerifyResult.length_le gathers stand
  · obtain ⟨values, rfl, yields⟩ := gathers
    obtain _ | ⟨-, _ | ⟨verified, ⟨⟩⟩⟩ := yields
    obtain ⟨_, _, stands⟩ := Option.bind_eq_some_iff.mp stands
    obtain ⟨_, stand, stands⟩ := Option.bind_eq_some_iff.mp stands
    cases stands
    obtain missing | ⟨o, node, narrow, conforms⟩ := verified
    · cases missing
    · exact VerifyResult.length_le (gathers_of_conform (by decide) narrow conforms) stand

end Result

end Engine

/-! ### Reports -/

theorem Time.Instant.regular_ofSeconds (seconds : Int) : (ofSeconds seconds).Regular := by
  rw [Regular, nanos_ofSeconds]
  decide

theorem Signature.Record.regular_build (db : Key.Snapshot) (raw : Engine.Signature) :
    (build db raw).Regular := by
  refine ⟨Time.Instant.regular_ofSeconds _, ?_⟩
  intro expiry given
  change expiry ∈ ite _ _ _ at given
  split_ifs at given
  · cases given
    exact Time.Instant.regular_ofSeconds _
  · cases given

namespace Report

theorem regular_ofEngine (zone : Time.Zone) (db : Key.Snapshot) {raw : Engine.Result}
    (within : raw.Within Decimal.maxU64) : (ofEngine zone db raw).Regular := by
  have built : ∀ signatures : List Engine.Signature,
      ∀ record ∈ signatures.map (Signature.Record.build db), record.Regular := by
    intro signatures record listed
    obtain ⟨signature, _, rfl⟩ := List.mem_map.mp listed
    exact Signature.Record.regular_build db signature
  cases raw with
  | decrypt raw =>
    intro record listed
    cases listed
  | encrypt raw =>
    have asked : raw.recipientCount.toNat ≤ Decimal.maxU64 :=
      Nat.le_of_lt_succ raw.recipientCount.toNat_lt
    change (Encrypt.ofEngine raw).recipientCount ≤ Decimal.maxU64
    exact max_le asked within
  | sign raw =>
    intro signature listed
    obtain ⟨signature, _, rfl⟩ := List.mem_map.mp listed
    exact Time.Instant.regular_ofSeconds _
  | verify raw => exact built raw.signatures
  | decryptVerify raw checked => exact built checked.signatures

end Report

namespace Verdict

/-- No reason is about a position behind the last signature. -/
theorem regular_ofReport {report : Report}
    (few : report.signatures.length ≤ Decimal.maxU64) : (ofReport report).Regular := by
  intro reason listed position about
  have here : reason ∈ (ofReport report).reasonsAt position :=
    List.mem_filter.mpr ⟨listed, by rw [about]; exact beq_self_eq_true _⟩
  rw [reasonsAt_ofReport] at here
  have inside : position < report.signatures.length := by
    by_contra outside
    rw [List.getElem?_eq_none (not_lt.mp outside)] at here
    cases here
  exact (inside.trans_le few).le

theorem regular_ofEngine (zone : Time.Zone) (db : Key.Snapshot) {raw : Engine.Result}
    (within : raw.Within Decimal.maxU64) : (ofReport (Report.ofEngine zone db raw)).Regular := by
  apply regular_ofReport
  rw [Report.signatures_ofEngine, List.length_map]
  exact within.length_signatures_le

end Verdict

end Vouch
