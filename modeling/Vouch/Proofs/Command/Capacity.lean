import Mathlib.Tactic
import Vouch.Proofs.Command.Fetch
import Vouch.Proofs.Keyserver.Config
import Vouch.Proofs.Keyserver.Outcome

/-!
How many keys a batch may work on at the same time.

Any number is accepted, from wherever it comes.  A batch that has no more slots than a batch can have
runs until it says what has become of each key, and one with more of them cannot begin: the program
breaks off.
-/

namespace Vouch.Keyserver

variable {config : Config} {client : Client}

theorem Config.withEnvironment_concurrency (config : Config) (n : UInt64) :
    config.withEnvironment [("SIGVERDICT_SYNC_CONCURRENCY", Decimal.text n.toNat)] =
      { config with concurrency := n } := by
  have solid : ∀ c ∈ Decimal.digits n.toNat, Text.isBlank c = false :=
    fun c member => Text.isBlank_of_isDigit (Decimal.isDigit_of_mem_digits c member)
  have fits : n.toNat ≤ Decimal.maxU64 := Nat.le_of_lt_succ n.toNat_lt
  have read : number? [("SIGVERDICT_SYNC_CONCURRENCY", Decimal.text n.toNat)] Decimal.maxU64
      "SIGVERDICT_SYNC_CONCURRENCY" = some n.toNat := by
    rw [number?, List.lookup_cons_self, Option.bind_some, Decimal.text, String.toList_ofList]
    change Decimal.natural? Decimal.maxU64 (Text.trimChars (Decimal.digits n.toNat)) = _
    rw [Text.trimChars_of_solid solid, Decimal.natural?_digits, if_pos fits]
  unfold withEnvironment
  rw [read]
  dsimp only
  rw [UInt64.ofNat_toNat]
  rfl

/-- No number of keys at the same time is refused. -/
theorem Client.ofConfig_concurrency (accepted : Client.ofConfig config = .ok client) (n : UInt64) :
    Client.ofConfig { config with concurrency := n } =
      .ok { client with config := { config with concurrency := n } } := by
  obtain ⟨valid, server, selected, rfl⟩ := Config.exists_server accepted
  have same : { config with concurrency := n }.validate = .ok () := valid
  have likewise : { config with concurrency := n }.server = .ok server := selected
  rw [ofConfig, same, likewise]
  rfl

namespace Batch

variable {plan : Plan} {cancelRequested : Bool}

/-- Unless work breaks off, the batch can go on until it is over, and not forever, and it says then
what has become of each key. -/
def Concludes (batch : Batch) : Prop :=
  ∀ events last, Survived events → batch.run? events = some last →
    Acc Onward last ∧ (last.isOver = false → ∃ next, Onward next last) ∧
      (last.isOver = true → last.outcome.entries.map Import.Entry.keyId = batch.plan.keyIds)

theorem concludes_initial (slots : 0 < plan.slots) : (initial plan cancelRequested).Concludes := by
  intro events last survived ran
  have sound := sound_of_run? survived ran
  refine ⟨acc_onward sound, exists_onward (by rwa [sound.plan_eq]), fun _ => ?_⟩
  rw [keyIds_entries, sound.plan_eq]
  rfl

end Batch

theorem Client.slots_plan (client : Client) (keyIds : List String) :
    (client.plan keyIds).slots = max client.config.concurrency.toNat 1 :=
  rfl

end Vouch.Keyserver

namespace Vouch.Command

open Keyserver

variable {config : Config} {client : Client} {keyIds : List String}

def Aborts (client : Client) (keyIds : List String) : Prop :=
  ∀ folder followed json before deeds after ending,
    Course (.transfer ⟨client, keyIds, folder, followed⟩ (reportTransfer folder json)) before deeds
      after ending → ending = .aborted ∧ deeds = [] ∧ after = before

def Reports (client : Client) (keyIds : List String) : Prop :=
  ∀ folder followed json before deeds after ending,
    Course (.transfer ⟨client, keyIds, folder, followed⟩ (reportTransfer folder json)) before deeds
      after ending → ∃ outcome, .concluded outcome ∈ deeds ∧
        outcome.entries.map Import.Entry.keyId = keyIds ∧ ending = .exit outcome.exitCode

theorem aborts_of_crowded (crowded : Batch.greatestSlots < (client.plan keyIds).slots) :
    Aborts client keyIds := by
  intro folder followed json before deeds after ending course
  cases course with
  | refuse _ later =>
    cases later
    exact ⟨rfl, rfl, rfl⟩
  | transfer begun =>
    rw [Batch.ofPlan?_eq_none_iff.mpr crowded] at begun
    cases begun

theorem reports_of_fits (fits : (client.plan keyIds).slots ≤ Batch.greatestSlots) :
    Reports client keyIds := by
  intro folder followed json before deeds after ending course
  cases course with
  | refuse crowded _ => exact absurd fits (not_le.mpr (Batch.ofPlan?_eq_none_iff.mp crowded))
  | @transfer _ _ _ _ more _ _ _ storage begun ran closed interrupted later =>
    have whole := Course.transfer begun ran closed interrupted later
    have concluded : .concluded storage.batch.outcome ∈
        storage.deeds ++ .concluded storage.batch.outcome :: more :=
      List.mem_append_right _ List.mem_cons_self
    refine ⟨_, concluded, (accounts_of_transfer whole).entries _ concluded, ?_⟩
    cases course_printAll later
    rfl

/-- Every number of keys at the same time is accepted, also from the environment.  A batch never has
less than one slot, and it begins, runs and says what has become of each key if the number is at
most the slots that a batch can have.  With any greater number the program breaks off. -/
theorem capacity_of_accepted (accepted : Client.ofConfig config = .ok client) :
    (∀ n : UInt64,
      config.withEnvironment [("SIGVERDICT_SYNC_CONCURRENCY", Decimal.text n.toNat)] =
        { config with concurrency := n } ∧
      ∃ other, Client.ofConfig { config with concurrency := n } = .ok other) ∧
    ∀ keyIds : List String, 1 ≤ (client.plan keyIds).slots ∧
      (config.concurrency.toNat ≤ Batch.greatestSlots →
        (∀ cancelRequested, ∃ batch,
          Batch.ofPlan? (client.plan keyIds) cancelRequested = some batch ∧
            batch.plan.slots ≤ Batch.greatestSlots ∧ batch.Concludes) ∧
        Reports client keyIds) ∧
      (Batch.greatestSlots < config.concurrency.toNat →
        (∀ cancelRequested, Batch.ofPlan? (client.plan keyIds) cancelRequested = none) ∧
        Aborts client keyIds) := by
  constructor
  · exact fun n => ⟨config.withEnvironment_concurrency n, _, Client.ofConfig_concurrency accepted n⟩
  intro keyIds
  have slots := client.slots_plan keyIds
  rw [Config.config_eq accepted] at slots
  have some_slot : 1 ≤ (client.plan keyIds).slots := by
    rw [slots]
    exact le_max_right _ _
  refine ⟨some_slot, fun small => ?_, fun large => ?_⟩
  · have fits : (client.plan keyIds).slots ≤ Batch.greatestSlots := by
      rw [slots]
      exact max_le small (by decide)
    refine ⟨fun cancelRequested => ?_, reports_of_fits fits⟩
    exact ⟨_, if_pos fits, fits, Batch.concludes_initial some_slot⟩
  · have crowded : Batch.greatestSlots < (client.plan keyIds).slots := by
      rw [slots]
      exact large.trans_le (le_max_left _ _)
    exact ⟨fun _ => Batch.ofPlan?_eq_none_iff.mpr crowded, aborts_of_crowded crowded⟩

/-- The standard configuration with the greatest number. -/
def overfull : Config :=
  { Config.standard with concurrency := 18446744073709551615 }

/-- The client of a configuration that differs from the standard one in this number. -/
def clientWith (n : UInt64) : Client :=
  ⟨{ Config.standard with concurrency := n }, "https://keyserver.ubuntu.com"⟩

theorem capacity_of_standard :
    (Client.ofConfig .standard = .ok (clientWith 4) ∧
      (clientWith 4).config.concurrency.toNat ≤ Batch.greatestSlots ∧
      Reports (clientWith 4) ["0123456789ABCDEF"]) ∧
    Client.ofConfig overfull = .ok (clientWith 18446744073709551615) ∧
      Batch.greatestSlots < overfull.concurrency.toNat ∧
      Aborts (clientWith 18446744073709551615) ["0123456789ABCDEF"] := by
  have accepted : Client.ofConfig .standard = .ok (clientWith 4) := rfl
  have likewise : Client.ofConfig overfull = .ok (clientWith 18446744073709551615) := rfl
  have small : Config.standard.concurrency.toNat ≤ Batch.greatestSlots := by decide
  have large : Batch.greatestSlots < overfull.concurrency.toNat := by decide
  refine ⟨⟨accepted, small, ?_⟩, likewise, large, ?_⟩
  · exact (((capacity_of_accepted accepted).2 ["0123456789ABCDEF"]).2.1 small).2
  · exact (((capacity_of_accepted likewise).2 ["0123456789ABCDEF"]).2.2 large).2

/-- The greatest number can be set in each of three ways and is accepted, and a sync of a key breaks
off with it. -/
theorem crowded_sync_aborts :
    Config.ofFile "c.yaml" (.ok "sync_concurrency: 18446744073709551615\n") = .ok overfull ∧
    Config.standard.withEnvironment [("SIGVERDICT_SYNC_CONCURRENCY", "18446744073709551615")] =
      overfull ∧
    Client.ofConfig overfull = .ok (clientWith 18446744073709551615) ∧
    Batch.ofPlan? ((clientWith 18446744073709551615).plan
      ["0123456789ABCDEF0123456789ABCDEF01234567"]) false = none ∧
    Course (sync [] "k.yaml" "." (some 18446744073709551615) false ⟨none, none, none⟩) .empty []
      .empty .aborted := by
  have decoded : Yaml.decode? Config.shape Config.ofValue?
      "sync_concurrency: 18446744073709551615\n" = some overfull := by
    decide +kernel
  have begun : Batch.ofPlan? ((clientWith 18446744073709551615).plan
      ["0123456789ABCDEF0123456789ABCDEF01234567"]) false = none := rfl
  refine ⟨?_, by decide +kernel, rfl, begun, ?_⟩
  · rw [Config.ofFile, decoded]
    rfl
  · let document := "keys:\n  - fingerprint: \"0123456789ABCDEF0123456789ABCDEF01234567\"\n"
    have listed : (snapshotIn "k.yaml" (.ok document)).toOption.map Key.Snapshot.fingerprints =
        some ["0123456789ABCDEF0123456789ABCDEF01234567"] := by
      decide +kernel
    obtain ⟨db, parsed, names⟩ := Option.map_eq_some_iff.mp listed
    refine .read (.ok document) ?_
    rw [ok_of_toOption parsed]
    dsimp only
    rw [names]
    exact .refuse begun (.finish _ _)

end Vouch.Command
