import Mathlib.Tactic
import Vouch.Proofs.Command.Layers
import Vouch.Proofs.Keyserver.Probe

/-!
The command that probes all known servers.

It reports every server once, in the order of the list, and its exit code tells whether all of them
were reached.
-/

namespace Vouch.Command

open Keyserver
open Keyserver.Probe (Connection Round)
open Keyserver.Probe.Round (Unbroken Reported Alike Hears)

variable {env : Environment} {timeout : Option UInt64} {settings : Settings} {client : Client}
  {within : Surroundings Id}

/-- The settings lead to the client that probes, where files are read like this. -/
def Probes (env : Environment) (timeout : Option UInt64) (settings : Settings)
    (read : String → Except File.Problem String) (client : Client) : Prop :=
  ∃ base, settings.base read = .ok base ∧
    Client.ofConfig { settings.applied env base with
      probeTimeout := timeout.getD (settings.applied env base).probeTimeout } = .ok client

theorem run_printAll (stream : Stream) (lines : List String) (next : Program) :
    (Program.printAll stream lines next).run within = next.run within := by
  induction lines with
  | nil => rfl
  | cons line rest ih => exact ih

theorem run_probe {results : List Reachability}
    (probes : Probes env timeout settings within.read client) (came : within.probe client = results) :
    (probe env timeout settings).run within =
      .exit (if ∀ result ∈ results, result.reachable = true then 0 else 5) := by
  obtain ⟨base, found, accepted⟩ := probes
  rw [probe, run_load_of_ok found, withClient, accepted]
  change (Program.printAll .output (Reachability.line <$> within.probe client)
    (.exit (Probe.exitCode (within.probe client)))).run within = _
  rw [run_printAll, came]
  unfold Probe.exitCode
  simp only [List.all_eq_true]
  rfl

/-- The probes of an accepted configuration may end in any order.  Unless one of them breaks off, every
server has one result, which is how its own connection has ended; apart from the times the order does
not matter, and neither does it matter that the probes are under way at the same time.  The exit code
tells whether all servers were reached. -/
theorem probes_reported {config : Config} (accepted : Client.ofConfig config = .ok client) :
    (∀ (connections : Nat → Connection) (order : List Nat),
      order.Perm (List.range client.config.servers.length) →
        ∃ round, (Round.initial client).run?
          (order.map fun position => .finish position (connections position)) = some round ∧
            round.isOver = true) ∧
    ∀ events round, Unbroken events → (Round.initial client).run? events = some round →
      round.isOver = true →
        Reported client events round.results ∧
        (∀ others again, Unbroken others → (Round.initial client).run? others = some again →
          again.isOver = true → Alike events others →
            round.results.map Reachability.untimed = again.results.map Reachability.untimed) ∧
        (∀ connect, Hears connect client.config.servers events →
          round.results = client.config.servers.map
            (Keyserver.Probe.probe connect client.config.effectiveProbeTimeout)) ∧
        ∀ env timeout settings, ∀ within : Surroundings Id,
          Probes env timeout settings within.read client → within.probe client = round.results →
            (probe env timeout settings).run within =
              .exit (if ∀ result ∈ round.results, result.reachable = true then 0 else 5) := by
  constructor
  · intro connections order perm
    exact Round.exists_run connections order (fun position member => List.mem_range.mp member) perm
  intro events round unbroken ran ended
  have reported := Round.reported accepted unbroken ran ended
  refine ⟨reported, ?_, fun connect hears => reported.eq_map_probe hears, ?_⟩
  · intro others again whole repeated finished alike
    exact reported.untimed_eq (Round.reported accepted whole repeated finished) alike
  · intro env timeout settings within probes came
    exact run_probe probes came

def twofold : Config :=
  { Config.standard with
    servers := ["http://127.0.0.1:8080", "http://127.0.0.1:1", "http://127.0.0.1:8080"] }

theorem probes_reported_of_twofold :
    let client : Client := ⟨twofold, "http://127.0.0.1:8080"⟩
    let events : List Round.Event :=
      [.finish 2 (.made 7), .finish 1 (.failed "refused"), .finish 0 (.made 9)]
    let settings : Settings := ⟨some "servers.yaml", none, none⟩
    Client.ofConfig twofold = .ok client ∧ Unbroken events ∧
      ∃ round, (Round.initial client).run? events = some round ∧ round.isOver = true ∧
        round.results =
          [⟨"http://127.0.0.1:8080", true, some 9, none⟩,
            ⟨"http://127.0.0.1:1", false, none, some "refused"⟩,
            ⟨"http://127.0.0.1:8080", true, some 7, none⟩] ∧
        Reported client events round.results ∧
        ∃ within : Surroundings Id, Probes [] none settings within.read client ∧
          within.probe client = round.results ∧ (probe [] none settings).run within = .exit 5 := by
  intro client events settings
  have accepted : Client.ofConfig twofold = .ok client := rfl
  have unbroken : Unbroken events := by
    intro position member
    simp [events] at member
  have ends : ((Round.initial client).run? events).map (fun round => (round.isOver, round.results)) =
      some (true, [⟨"http://127.0.0.1:8080", true, some 9, none⟩,
        ⟨"http://127.0.0.1:1", false, none, some "refused"⟩,
        ⟨"http://127.0.0.1:8080", true, some 7, none⟩]) := by
    decide +kernel
  obtain ⟨round, ran, ends⟩ := Option.map_eq_some_iff.mp ends
  obtain ⟨ended, results⟩ := Prod.mk.inj ends
  obtain ⟨reported, -, -, exits⟩ := (probes_reported accepted).2 events round unbroken ran ended
  let document := "servers: [http://127.0.0.1:8080, http://127.0.0.1:1, http://127.0.0.1:8080]\n"
  have decoded : Yaml.decode? Config.shape Config.ofValue? document = some twofold := by
    decide +kernel
  let within : Surroundings Id :=
    { print := fun _ _ => (), read := fun _ => Except.ok document, search := fun _ _ => .notFound
      upload := fun _ _ => Except.ok (), transfer := fun _ => none, probe := fun _ => round.results }
  have found : settings.base within.read = .ok twofold := by
    change (Config.ofFile "servers.yaml" (.ok document)).mapError _ = _
    rw [Config.ofFile, decoded]
    rfl
  have probes : Probes [] none settings within.read client := ⟨twofold, found, accepted⟩
  have exit := exits [] none settings within probes rfl
  rw [results] at exit
  exact ⟨accepted, unbroken, round, ran, ended, results, reported, within, probes, rfl, exit⟩

end Vouch.Command
