import Mathlib.Tactic
import Vouch.Keyserver.Config
import Vouch.Proofs.Yaml.Record

/-!
The configuration that a document stands for.

Each setting is what the document says for it, or else its default.  Names that no setting has are passed
over.
-/

namespace Vouch

namespace Json.Value

variable {value : Value}

theorem eq_nat_of_nat? {n : Nat} (read : value.nat? = some n) : value = .nat n := by
  cases value with
  | int i =>
    cases i with
    | ofNat m =>
      cases read
      rfl
    | negSucc m => cases read
  | _ => cases read

theorem eq_u32_of_u32? {n : UInt32} (read : value.u32? = some n) : value = .u32 n := by
  cases value with
  | int i =>
    cases i with
    | ofNat m =>
      change (if m < UInt32.size then some (UInt32.ofNat m) else none) = some n at read
      split_ifs at read with small
      cases read
      rw [u32, UInt32.toNat_ofNat_of_lt' small]
      rfl
    | negSucc m => cases read
  | _ => cases read

theorem eq_u64_of_u64? {n : UInt64} (read : value.u64? = some n) : value = .u64 n := by
  cases value with
  | int i =>
    cases i with
    | ofNat m =>
      change (if m < UInt64.size then some (UInt64.ofNat m) else none) = some n at read
      split_ifs at read with small
      cases read
      rw [u64, UInt64.toNat_ofNat_of_lt' small]
      rfl
    | negSucc m => cases read
  | _ => cases read

theorem eq_text_of_text? {s : String} (read : value.text? = some s) : value = .text s := by
  cases value <;> cases read
  rfl

theorem eq_texts_of_list? {items : List String} (read : value.list? text? = some items) :
    value = .texts items := by
  cases value with
  | list parts =>
    have each := forall₂_of_mapM_some read
    refine congrArg Value.list ?_
    clear read
    induction each with
    | nil => rfl
    | cons here _ ih => rw [List.map_cons, eq_text_of_text? here, ih]
  | _ => cases read

end Json.Value

namespace Keyserver.Config

open Json (Member Shape Value)
open Yaml (Gives HasMembers)

variable {config : Config} {path text : String} {members : List (Yaml.Node × Yaml.Node)}

/-- The settings are those of the members, and the defaults where there are none. -/
structure Reads (members : List (Yaml.Node × Yaml.Node)) (config : Config) : Prop where
  servers : Gives members "servers" (.list .text)
    (.texts ["https://keyserver.ubuntu.com", "https://keys.openpgp.org"]) (.texts config.servers)
  selected : Gives members "default_server" .usize (.nat 0) (.nat config.selected)
  timeout : Gives members "timeout_secs" .u64 (.nat 30) (.u64 config.timeout)
  maxRetries : Gives members "max_retries" .u32 (.nat 2) (.u32 config.maxRetries)
  concurrency : Gives members "sync_concurrency" .usize (.nat 4) (.u64 config.concurrency)
  probeTimeout : Gives members "probe_timeout_ms" .u64 (.nat 2500) (.u64 config.probeTimeout)

theorem eq_of_ofValue? {values : List Value} (read : ofValue? (.list values) = some config) :
    values = [.texts config.servers, .nat config.selected, .u64 config.timeout,
      .u32 config.maxRetries, .u64 config.concurrency, .u64 config.probeTimeout] := by
  unfold ofValue? at read
  split at read
  case h_1 servers selected timeout maxRetries concurrency probeTimeout same =>
    obtain ⟨_, servers, read⟩ := Option.bind_eq_some_iff.mp read
    obtain ⟨_, selected, read⟩ := Option.bind_eq_some_iff.mp read
    obtain ⟨_, timeout, read⟩ := Option.bind_eq_some_iff.mp read
    obtain ⟨_, maxRetries, read⟩ := Option.bind_eq_some_iff.mp read
    obtain ⟨_, concurrency, read⟩ := Option.bind_eq_some_iff.mp read
    obtain ⟨_, probeTimeout, read⟩ := Option.bind_eq_some_iff.mp read
    cases read
    cases same
    rw [Value.eq_texts_of_list? servers, Value.eq_nat_of_nat? selected,
      Value.eq_u64_of_u64? timeout, Value.eq_u32_of_u32? maxRetries,
      Value.eq_u64_of_u64? concurrency, Value.eq_u64_of_u64? probeTimeout]
  case h_2 => cases read

/-- A file that loads has one document, and its settings are those of the document. -/
theorem reads_of_ofFile (loaded : Config.ofFile path (.ok text) = .ok config) :
    ∃ members, HasMembers text members ∧ Reads members config := by
  have decoded : Yaml.decode? shape ofValue? text = some config := by
    rw [ofFile] at loaded
    split at loaded
    case h_1 other found =>
      cases loaded
      exact found
    case h_2 => cases loaded
  obtain ⟨value, settled, read⟩ := Option.bind_eq_some_iff.mp decoded
  obtain ⟨members, all, values, has, ran, given, rfl⟩ := Yaml.exists_members settled
  refine ⟨members, has, ?_⟩
  have each := forall₂_of_mapM given
  rw [eq_of_ofValue? read] at each
  simp only [List.forall₂_cons] at each
  obtain ⟨servers, selected, timeout, maxRetries, concurrency, probeTimeout, _⟩ := each
  exact ⟨Yaml.gives_of_settle rfl rfl ran servers, Yaml.gives_of_settle rfl rfl ran selected,
    Yaml.gives_of_settle rfl rfl ran timeout, Yaml.gives_of_settle rfl rfl ran maxRetries,
    Yaml.gives_of_settle rfl rfl ran concurrency, Yaml.gives_of_settle rfl rfl ran probeTimeout⟩

end Keyserver.Config

end Vouch
