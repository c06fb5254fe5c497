import Mathlib.Tactic
import Vouch.Command.Keyserver
import Vouch.Proofs.Keyserver.Config
import Vouch.Proofs.Keyserver.Config.Document

/-!
The configuration that a command works with.

A file or the standard configuration is the lowest layer, the environment lies above it, and the user
above both.  A server that a layer asks for is used and stays known when a higher layer asks for
another one; a number counts in the highest layer that says it.
-/

namespace Vouch.Command

open Keyserver
open Config (Names Holds Grown)

/-- The user says the value, or else the environment. -/
def Said {α : Type} (flag : Option α) (held : α → Prop) (value : α) : Prop :=
  flag = some value ∨ flag = none ∧ held value

def Settled {α : Type} (flag : Option α) (held : α → Prop) (standing value : α) : Prop :=
  Said flag held value ∨ (¬∃ other, Said flag held other) ∧ value = standing

def Overlaid (asked : String → Prop) (below above : List String) : Prop :=
  (∀ server, asked server → Grown server below above) ∧
    ((¬∃ server, asked server) → above = below)

/-- The configuration has the layers of the environment and of the user above the base. -/
structure Settings.Layered (settings : Settings) (env : Environment) (base config : Config) :
    Prop where
  /-- Requests go to the server of the highest layer that asks for one. -/
  chosen : ∀ server, Said settings.server (Names env) server → config.Selects server
  unchosen : (¬∃ server, Said settings.server (Names env) server) →
    config.servers = base.servers ∧ config.selected = base.selected
  kept : base.servers <+: config.servers
  grown : ∃ between, Overlaid (Names env) base.servers between ∧
    Overlaid (settings.server = some ·) between config.servers
  timeout : Settled settings.timeout
    (fun n => Holds env "SIGVERDICT_KEYSERVER_TIMEOUT" n.toNat) base.timeout config.timeout
  maxRetries : Settled none
    (fun n => Holds env "SIGVERDICT_KEYSERVER_MAX_RETRIES" n.toNat) base.maxRetries config.maxRetries
  concurrency : Settled none
    (fun n => Holds env "SIGVERDICT_SYNC_CONCURRENCY" n.toNat) base.concurrency config.concurrency
  probeTimeout : config.probeTimeout = base.probeTimeout

/-- The lowest layer, where files hold what is read like this. -/
def Settings.base (settings : Settings) (read : String → Except File.Problem String) :
    Except Failure Config :=
  match settings.config with
  | none => .ok .standard
  | some path => (Config.ofFile path (read path)).mapError (.config path)

/-- The lowest layer is the standard configuration, or what the document in the file says. -/
theorem reads_base {settings : Settings} {read : String → Except File.Problem String}
    {base : Config} (found : settings.base read = .ok base) :
    settings.config = none ∧ base = .standard ∨ ∃ path text members,
      settings.config = some path ∧ read path = .ok text ∧ Yaml.HasMembers text members ∧
      base.Reads members := by
  unfold Settings.base at found
  cases configured : settings.config with
  | none =>
    rw [configured] at found
    cases found
    exact .inl ⟨rfl, rfl⟩
  | some path =>
    rw [configured] at found
    dsimp only at found
    cases given : read path with
    | error cause =>
      rw [given] at found
      cases found
    | ok text =>
      rw [given] at found
      cases loaded : Config.ofFile path (.ok text) with
      | error problem =>
        rw [loaded] at found
        cases found
      | ok config =>
        rw [loaded] at found
        cases found
        obtain ⟨members, has, reads⟩ := Config.reads_of_ofFile loaded
        exact .inr ⟨path, text, members, rfl, given, has, reads⟩

/-! ### Layers of servers -/

structure Turned (asked : String → Prop) (below above : Config) : Prop where
  selects : ∀ server, asked server → above.Selects server
  same : (¬∃ server, asked server) → above.servers = below.servers ∧ above.selected = below.selected
  overlaid : Overlaid asked below.servers above.servers

variable {asked : String → Prop} {below above : Config}

theorem Turned.congr {other : Config} (turned : Turned asked below above)
    (servers : other.servers = above.servers) (selected : other.selected = above.selected) :
    Turned asked below other where
  selects server named := (turned.selects server named).congr servers selected
  same silent := by
    rw [servers, selected]
    exact turned.same silent
  overlaid := by
    rw [servers]
    exact turned.overlaid

theorem turned_of_none (config : Config) : Turned (none = some ·) config config where
  selects _ named := by contradiction
  same _ := ⟨rfl, rfl⟩
  overlaid := ⟨fun _ named => by contradiction, fun _ => rfl⟩

theorem turned_of_some (server : String) (config : Config) :
    Turned (some server = some ·) config (config.withServer server) where
  selects := by
    rintro _ ⟨⟩
    exact config.selects_withServer server
  same silent := absurd ⟨server, rfl⟩ silent
  overlaid := by
    refine ⟨?_, fun silent => absurd ⟨server, rfl⟩ silent⟩
    rintro _ ⟨⟩
    exact config.grown_withServer server

theorem names_eq (env : Environment) : Names env = (Config.namedServer? env = some ·) := by
  funext server
  exact propext Config.namedServer?_eq_some_iff.symm

theorem turned_withEnvironment (env : Environment) (config : Config) :
    Turned (Names env) config (config.withEnvironment env) := by
  rw [names_eq]
  unfold Config.withEnvironment
  cases Config.namedServer? env with
  | none => exact (turned_of_none config).congr rfl rfl
  | some server => exact (turned_of_some server config).congr rfl rfl

theorem turned_applied (settings : Settings) (env : Environment) (config : Config) :
    Turned (settings.server = some ·) (config.withEnvironment env)
      (settings.applied env config) := by
  unfold Settings.applied
  generalize config.withEnvironment env = below
  cases settings.server with
  | none => cases settings.timeout <;> exact (turned_of_none below).congr rfl rfl
  | some server => cases settings.timeout <;> exact (turned_of_some server below).congr rfl rfl

theorem Overlaid.isPrefix {below above : List String} (overlaid : Overlaid asked below above) :
    below <+: above := by
  by_cases named : ∃ server, asked server
  · obtain ⟨server, named⟩ := named
    exact (overlaid.1 server named).isPrefix
  · rw [overlaid.2 named]

/-! ### Layers of numbers -/

theorem settled_number {α : Type} {ofNat : Nat → α} {toNat : α → Nat} {limit : Nat}
    (toNat_ofNat : ∀ n ≤ limit, toNat (ofNat n) = n) (fits : ∀ value, toNat value ≤ limit)
    (env : Environment) (name : String) (flag : Option α) (standing : α) :
    Settled flag (fun value => Holds env name (toNat value)) standing
      (flag.getD (match Config.number? env limit name with
        | some n => ofNat n
        | none => standing)) := by
  cases flag with
  | some value => exact .inl (.inl rfl)
  | none =>
    cases read : Config.number? env limit name with
    | some n =>
      obtain ⟨holds, small⟩ := Config.number?_eq_some_iff.mp read
      refine .inl (.inr ⟨rfl, ?_⟩)
      dsimp only [Option.getD_none]
      rwa [toNat_ofNat n small]
    | none =>
      refine .inr ⟨?_, rfl⟩
      rintro ⟨value, said⟩
      obtain given | ⟨-, holds⟩ := said
      · contradiction
      have found := Config.number?_eq_some_iff.mpr ⟨holds, fits value⟩
      rw [read] at found
      contradiction

variable (settings : Settings) (env : Environment) (base : Config)

theorem exists_withEnvironment : ∃ servers selected, base.withEnvironment env =
    { servers, selected
      timeout := match Config.number? env Decimal.maxU64 "SIGVERDICT_KEYSERVER_TIMEOUT" with
        | some n => UInt64.ofNat n
        | none => base.timeout
      maxRetries := match Config.number? env Decimal.maxU32 "SIGVERDICT_KEYSERVER_MAX_RETRIES" with
        | some n => UInt32.ofNat n
        | none => base.maxRetries
      concurrency := match Config.number? env Decimal.maxU64 "SIGVERDICT_SYNC_CONCURRENCY" with
        | some n => UInt64.ofNat n
        | none => base.concurrency
      probeTimeout := base.probeTimeout } := by
  unfold Config.withEnvironment
  cases Config.namedServer? env with
  | none => exact ⟨_, _, rfl⟩
  | some server =>
    obtain ⟨servers, selected, turned⟩ := base.exists_withServer server
    refine ⟨servers, selected, ?_⟩
    dsimp only
    generalize base.withServer server = above at turned ⊢
    subst turned
    rfl

theorem exists_applied : ∃ servers selected, settings.applied env base =
    { base.withEnvironment env with
      servers := servers
      selected := selected
      timeout := settings.timeout.getD (base.withEnvironment env).timeout } := by
  unfold Settings.applied
  generalize base.withEnvironment env = below
  cases settings.server with
  | none => cases settings.timeout <;> exact ⟨_, _, rfl⟩
  | some server =>
    obtain ⟨servers, selected, turned⟩ := below.exists_withServer server
    refine ⟨servers, selected, ?_⟩
    dsimp only
    generalize below.withServer server = above at turned ⊢
    subst turned
    cases settings.timeout <;> rfl

/-! ### All layers -/

theorem layered_applied : settings.Layered env base (settings.applied env base) := by
  have environment := turned_withEnvironment env base
  have user := turned_applied settings env base
  obtain ⟨_, _, above⟩ := exists_applied settings env base
  obtain ⟨_, _, between⟩ := exists_withEnvironment env base
  constructor
  case chosen =>
    intro server said
    obtain given | ⟨silent, named⟩ := said
    · exact user.selects server given
    · have same := user.same (by simp [silent])
      exact (environment.selects server named).congr same.1 same.2
  case unchosen =>
    intro silent
    have unasked : ¬∃ server, settings.server = some server :=
      fun ⟨server, given⟩ => silent ⟨server, .inl given⟩
    have flagless : settings.server = none :=
      Option.eq_none_iff_forall_ne_some.mpr fun server given => unasked ⟨server, given⟩
    have unnamed : ¬∃ server, Names env server :=
      fun ⟨server, named⟩ => silent ⟨server, .inr ⟨flagless, named⟩⟩
    have below := environment.same unnamed
    have same := user.same unasked
    exact ⟨same.1.trans below.1, same.2.trans below.2⟩
  case kept => exact environment.overlaid.isPrefix.trans user.overlaid.isPrefix
  case grown => exact ⟨_, environment.overlaid, user.overlaid⟩
  case timeout =>
    rw [above, between]
    exact settled_number (fun n small => UInt64.toNat_ofNat_of_lt' (Nat.lt_succ_of_le small))
      (fun value => Nat.le_of_lt_succ value.toNat_lt) env _ settings.timeout base.timeout
  case maxRetries =>
    rw [above, between]
    exact settled_number (fun n small => UInt32.toNat_ofNat_of_lt' (Nat.lt_succ_of_le small))
      (fun value => Nat.le_of_lt_succ value.toNat_lt) env _ none base.maxRetries
  case concurrency =>
    rw [above, between]
    exact settled_number (fun n small => UInt64.toNat_ofNat_of_lt' (Nat.lt_succ_of_le small))
      (fun value => Nat.le_of_lt_succ value.toNat_lt) env _ none base.concurrency
  case probeTimeout => rw [above, between]

section Run

variable {within : Surroundings Id}

theorem run_read (path : String) (next : Except File.Problem String → Program) :
    (Program.read path next).run within = (next (within.read path)).run within :=
  rfl

/-- Either the lowest layer is not there, or the program goes on with all layers. -/
theorem run_load_cases (within : Surroundings Id) :
    (∃ failure, settings.base within.read = .error failure ∧
      ∀ next, (settings.load env next).run within = .failed failure) ∨
    ∃ base, settings.base within.read = .ok base ∧
      ∀ next, (settings.load env next).run within =
        (next (settings.applied env base)).run within := by
  unfold Settings.base Settings.load
  cases settings.config with
  | none => exact .inr ⟨.standard, rfl, fun _ => rfl⟩
  | some path =>
    dsimp only
    cases loaded : Config.ofFile path (within.read path) with
    | error cause =>
      refine .inl ⟨.config path cause, rfl, fun next => ?_⟩
      rw [run_read, loaded]
      rfl
    | ok base =>
      refine .inr ⟨base, rfl, fun next => ?_⟩
      rw [run_read, loaded]

variable {settings env base}

theorem run_load_of_ok (found : settings.base within.read = .ok base) (next : Config → Program) :
    (settings.load env next).run within = (next (settings.applied env base)).run within := by
  obtain ⟨failure, unfound, -⟩ | ⟨other, loaded, runs⟩ := run_load_cases settings env within
  · cases found.symm.trans unfound
  · cases found.symm.trans loaded
    exact runs next

end Run

/-- A command fails with the problem of its file, or it works with a configuration that has all layers
in their order.  To ask for a server twice is to ask for it once. -/
theorem configuration_layered :
    (∀ within : Surroundings Id,
      (∃ failure, settings.base within.read = .error failure ∧
        ∀ next, (settings.load env next).run within = .failed failure) ∨
      ∃ base config, settings.base within.read = .ok base ∧ settings.Layered env base config ∧
        ∀ next, (settings.load env next).run within = (next config).run within) ∧
    ∀ config : Config, ∀ server,
      (config.withServer server).withServer server = config.withServer server := by
  refine ⟨fun within => ?_, fun config server => config.withServer_withServer server⟩
  obtain unfound | ⟨base, found, runs⟩ := run_load_cases settings env within
  · exact .inl unfound
  · exact .inr ⟨base, settings.applied env base, found, layered_applied settings env base, runs⟩

example : (Settings.applied ⟨none, some "https://keys.openpgp.org/", none⟩
    [("SIGVERDICT_KEYSERVER", " hkp.example "), ("SIGVERDICT_KEYSERVER_TIMEOUT", "+7")] .standard) =
    { Config.standard with
      servers := Config.knownServers ++ ["hkp.example"], selected := 1, timeout := 7 } := by
  decide +kernel

end Vouch.Command
