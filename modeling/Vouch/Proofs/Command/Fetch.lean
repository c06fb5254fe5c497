import Mathlib.Tactic
import Vouch.Proofs.Command.Course

/-!
The commands that fetch keys.

They write into their folder only, and nothing but what the server sent.  A file holds all of a key
once this was stored, unless another key of the same name came between.  A fetch by a term asks for the
keys that the server has listed, in the order of the list.
-/

namespace Vouch.Command

open Keyserver
open Job (Exchange)

variable {folder : String} {env : Environment} {settings : Settings} {before after : Folder}
  {deeds : List Deed} {ending : Ending}

theorem quiet_printAll {stream : Stream} {next : Program} (lines : List String)
    (quiet : next.Quiet) : (Program.printAll stream lines next).Quiet := by
  induction lines with
  | nil => exact quiet
  | cons line rest ih => exact ih

theorem quiet_reportTransfer (folder : String) (json : Bool) (outcome : Option Import.Outcome) :
    (reportTransfer folder json outcome).Quiet := by
  cases outcome with
  | none => trivial
  | some outcome => exact quiet_printAll _ trivial

def fetchFrom (client : Client) (query folder : String) : Program :=
  if Key.isKeyId query then
    .transfer ⟨client, [query], folder, false⟩ (reportTransfer folder false)
  else
    .search client query fun result =>
      match result with
      | .found keys =>
        .transfer ⟨client, keys.map Candidate.fetchId, folder, false⟩ (reportTransfer folder false)
      | _ => reportMiss client result

theorem fetch_eq (query : String) : fetch env query folder settings =
    settings.load env fun config =>
      withClient config fun client => fetchFrom client (Text.trim query) folder :=
  rfl

theorem course_printAll {stream : Stream} {lines : List String} {next : Program}
    (course : Course (Program.printAll stream lines next) before deeds after ending) :
    Course next before deeds after ending := by
  induction lines with
  | nil => exact course
  | cons line rest ih =>
    cases course with
    | print later => exact ih later

/-- The settings lead to the configuration, if the file that they name holds the right content. -/
def Settings.Yields (settings : Settings) (env : Environment) (config : Config) : Prop :=
  match settings.config with
  | none => config = settings.applied env .standard
  | some path => ∃ content base, Config.ofFile path content = .ok base ∧
      config = settings.applied env base

/-- The program ends like this because there is no configuration that can be used. -/
def Settings.Refused (settings : Settings) (env : Environment) (ending : Ending) : Prop :=
  (∃ path content cause, settings.config = some path ∧
      Config.ofFile path content = .error cause ∧ ending = .failed (.config path cause)) ∨
    ∃ config cause, settings.Yields env config ∧ Client.ofConfig config = .error cause ∧
      ending = .failed (.client cause)

/-- A program that needs a client does nothing with the outside before it has one. -/
theorem course_configured {next : Client → Program}
    (course : Course (settings.load env fun config => withClient config next) before deeds after
      ending) :
    deeds = [] ∧ settings.Refused env ending ∨
      ∃ config client, settings.Yields env config ∧ Client.ofConfig config = .ok client ∧
        Course (next client) before deeds after ending := by
  have client_of_config {config : Config} (yields : settings.Yields env config)
      (course : Course (withClient config next) before deeds after ending) :
      deeds = [] ∧ settings.Refused env ending ∨
        ∃ config client, settings.Yields env config ∧ Client.ofConfig config = .ok client ∧
          Course (next client) before deeds after ending := by
    unfold withClient at course
    cases made : Client.ofConfig config with
    | error cause =>
      rw [made] at course
      cases course
      exact .inl ⟨rfl, .inr ⟨config, cause, yields, made, rfl⟩⟩
    | ok client =>
      rw [made] at course
      exact .inr ⟨config, client, yields, made, course⟩
  unfold Settings.load at course
  cases configured : settings.config with
  | none =>
    rw [configured] at course
    refine client_of_config ?_ course
    rw [Settings.Yields, configured]
  | some path =>
    rw [configured] at course
    cases course with
    | read content later =>
      dsimp only at later
      cases loaded : Config.ofFile path content with
      | error cause =>
        rw [loaded] at later
        cases later
        exact .inl ⟨rfl, .inl ⟨path, content, cause, configured, loaded, rfl⟩⟩
      | ok config =>
        rw [loaded] at later
        refine client_of_config ?_ later
        rw [Settings.Yields, configured]
        exact ⟨content, config, loaded, rfl⟩

/-- The transfer of the keys has one entry for each of them, in their order, and it concludes unless
its batch is too large to begin. -/
structure Accounts (client : Client) (keyIds : List String) (deeds : List Deed) : Prop where
  entries : ∀ outcome, .concluded outcome ∈ deeds →
    outcome.entries.map Import.Entry.keyId = keyIds
  concludes : client.config.effectiveConcurrency ≤ Batch.greatestSlots →
    ∃ outcome, .concluded outcome ∈ deeds

theorem accounts_of_transfer {transfer : Transfer} {json : Bool}
    (course : Course (.transfer transfer (reportTransfer folder json)) before deeds after ending) :
    Accounts transfer.client transfer.keyIds deeds := by
  cases course with
  | refuse crowded later =>
    obtain ⟨rfl, _⟩ := (quiet_reportTransfer folder json none).deeds_eq_nil later
    exact ⟨nofun, fun fits => absurd fits (not_le.mpr (Batch.ofPlan?_eq_none_iff.mp crowded))⟩
  | transfer begun ran closed interrupted later =>
    obtain ⟨rfl, _⟩ := (quiet_reportTransfer folder json _).deeds_eq_nil later
    cases ofPlan?_eq_some begun
    obtain ⟨inside, traced⟩ := traced_of_run? ran
    refine ⟨fun outcome concluded => ?_,
      fun _ => ⟨_, List.mem_append_right _ (List.mem_singleton_self _)⟩⟩
    obtain early | late := List.mem_append.mp concluded
    · exact absurd early (traced.unconcluded outcome)
    · cases List.mem_singleton.mp late
      rw [Batch.keyIds_entries, Batch.plan_eq_of_run? inside]
      rfl

theorem exists_course_printAll (stream : Stream) (lines : List String) (code : Nat)
    (place : Folder) :
    Course (Program.printAll stream lines (Program.exit code)) place [] place (.exit code) := by
  induction lines with
  | nil => exact .finish _ _
  | cons line rest ih => exact .print ih

end Vouch.Command
