import Mathlib.Data.List.DropRight
import Mathlib.Tactic
import Vouch.Keyserver.Client
import Vouch.Proofs.Decimal
import Vouch.Proofs.Except

/-!
What overrides a configuration, and what an accepted one is.

A server that is asked for is selected where it stands among the known ones, slashes at the end
aside, or else put behind them.  A variable of the environment says a number only if nothing but
blanks stands around the digits.  All servers of an accepted configuration can be used.
-/

namespace Vouch.Keyserver.Config

def Alike (known server : String) : Prop :=
  Text.withoutTrailingSlashes known = Text.withoutTrailingSlashes server

/-- The variable is a number with nothing but blanks around it. -/
def Holds (env : Environment) (name : String) (n : Nat) : Prop :=
  ∃ text, env.lookup name = some text ∧ Decimal.Denotes (Text.trimChars text.toList) n

def Names (env : Environment) (server : String) : Prop :=
  ∃ text, env.lookup "SIGVERDICT_KEYSERVER" = some text ∧ Text.isBlankText text = false ∧
    server = Text.trim text

structure Selects (config : Config) (server : String) : Prop where
  inside : config.selected < config.servers.length
  used : ∃ known, config.server = .ok known ∧ Alike known server

def place? (config : Config) (server : String) : Option Nat :=
  config.servers.findIdx? fun known =>
    Text.withoutTrailingSlashes known == Text.withoutTrailingSlashes server

def Grown (server : String) (before after : List String) : Prop :=
  (∃ known ∈ before, Alike known server) ∧ after = before ∨
    (∀ known ∈ before, ¬Alike known server) ∧
      after = before ++ [Text.withoutTrailingSlashes server]

/-! ### What the environment says -/

variable {env : Environment} {name server : String} {limit n : Nat}

theorem number?_eq_some_iff : number? env limit name = some n ↔ Holds env name n ∧ n ≤ limit := by
  rw [number?, Option.bind_eq_some_iff]
  constructor
  · rintro ⟨text, found, read⟩
    obtain ⟨denotes, fits⟩ := Decimal.natural?_eq_some_iff.mp read
    exact ⟨⟨text, found, denotes⟩, fits⟩
  · rintro ⟨⟨text, found, denotes⟩, fits⟩
    exact ⟨text, found, Decimal.natural?_eq_some_iff.mpr ⟨denotes, fits⟩⟩

theorem trimChars_eq_nil_iff (cs : List Char) :
    Text.trimChars cs = [] ↔ ∀ c ∈ cs, Text.isBlank c = true := by
  change (cs.dropWhile Text.isBlank).rdropWhile Text.isBlank = [] ↔ _
  rw [List.rdropWhile_eq_nil_iff, ← List.dropWhile_eq_nil_iff, ← List.dropWhile_eq_nil_iff,
    List.dropWhile_idempotent]

theorem trim_isEmpty (text : String) : (Text.trim text).isEmpty = Text.isBlankText text := by
  rw [Bool.eq_iff_iff, String.isEmpty_iff, Text.isBlankText, List.all_eq_true,
    ← trimChars_eq_nil_iff, Text.trim, String.ofList_eq_empty_iff]

theorem namedServer?_eq_some_iff : namedServer? env = some server ↔ Names env server := by
  rw [namedServer?, Option.filter_eq_some_iff, Option.map_eq_some_iff, Bool.not_eq_true']
  constructor
  · rintro ⟨⟨text, found, rfl⟩, solid⟩
    exact ⟨text, found, by rwa [trim_isEmpty] at solid, rfl⟩
  · rintro ⟨text, found, solid, rfl⟩
    exact ⟨⟨text, found, rfl⟩, by rwa [trim_isEmpty]⟩

/-! ### Asking for a server -/

variable {config : Config}

theorem alike_withoutTrailingSlashes (server : String) :
    Alike (Text.withoutTrailingSlashes server) server := by
  rw [Alike, Text.withoutTrailingSlashes, Text.withoutTrailingSlashes, String.toList_ofList]
  exact congrArg String.ofList (List.rdropWhile_idempotent (· == '/') server.toList)

theorem withServer_of_place {position : Nat} (found : config.place? server = some position) :
    config.withServer server = { config with selected := position } := by
  rw [place?] at found
  unfold withServer
  dsimp only
  rw [found]

theorem withServer_of_unknown (unknown : config.place? server = none) :
    config.withServer server =
      { config with
        servers := config.servers ++ [Text.withoutTrailingSlashes server]
        selected := config.servers.length } := by
  rw [place?] at unknown
  unfold withServer
  dsimp only
  rw [unknown]

theorem alike_of_place {position : Nat} (found : config.place? server = some position) :
    ∃ inside : position < config.servers.length, Alike config.servers[position] server := by
  obtain ⟨inside, alike, -⟩ := List.findIdx?_eq_some_iff_getElem.mp found
  exact ⟨inside, beq_iff_eq.mp alike⟩

theorem not_alike_of_unknown (unknown : config.place? server = none) :
    ∀ known ∈ config.servers, ¬Alike known server := by
  intro known member alike
  exact beq_eq_false_iff_ne.mp (List.findIdx?_eq_none_iff.mp unknown known member) alike

theorem server_eq_ok_iff {known : String} :
    config.server = .ok known ↔ config.servers[config.selected]? = some known := by
  unfold Config.server
  cases config.servers[config.selected]? with
  | none => simp
  | some other => simp

theorem Selects.congr {other : Config} (selects : config.Selects server)
    (servers : other.servers = config.servers) (selected : other.selected = config.selected) :
    other.Selects server := by
  obtain ⟨inside, known, found, alike⟩ := selects
  refine ⟨by rwa [servers, selected], known, ?_, alike⟩
  rwa [Config.server, servers, selected]

variable (config server)

theorem selects_withServer : (config.withServer server).Selects server := by
  cases found : config.place? server with
  | some position =>
    obtain ⟨inside, alike⟩ := alike_of_place found
    rw [withServer_of_place found]
    exact ⟨inside, _, server_eq_ok_iff.mpr (List.getElem?_eq_getElem inside), alike⟩
  | none =>
    rw [withServer_of_unknown found]
    have inside : config.servers.length <
        (config.servers ++ [Text.withoutTrailingSlashes server]).length := by simp
    exact ⟨inside, _, server_eq_ok_iff.mpr List.getElem?_concat_length,
      alike_withoutTrailingSlashes server⟩

theorem grown_withServer : Grown server config.servers (config.withServer server).servers := by
  cases found : config.place? server with
  | some position =>
    obtain ⟨inside, alike⟩ := alike_of_place found
    exact .inl ⟨⟨_, List.getElem_mem inside, alike⟩, by rw [withServer_of_place found]⟩
  | none => exact .inr ⟨not_alike_of_unknown found, by rw [withServer_of_unknown found]⟩

theorem Grown.isPrefix {before after : List String} (grown : Grown server before after) :
    before <+: after := by
  obtain ⟨-, rfl⟩ | ⟨-, rfl⟩ := grown
  · exact List.prefix_rfl
  · exact List.prefix_append _ _

/-- Asking for a server changes the servers and the choice among them only. -/
theorem exists_withServer : ∃ servers selected,
    config.withServer server = { config with servers := servers, selected := selected } := by
  cases found : config.place? server with
  | some position => exact ⟨_, _, withServer_of_place found⟩
  | none => exact ⟨_, _, withServer_of_unknown found⟩

theorem place?_withServer :
    (config.withServer server).place? server = some (config.withServer server).selected := by
  cases found : config.place? server with
  | some position =>
    rw [withServer_of_place found]
    exact found
  | none =>
    have last : (Text.withoutTrailingSlashes (Text.withoutTrailingSlashes server) ==
        Text.withoutTrailingSlashes server) = true :=
      beq_iff_eq.mpr (alike_withoutTrailingSlashes server)
    rw [withServer_of_unknown found]
    rw [place?] at found
    rw [place?, List.findIdx?_append, found, List.findIdx?_cons, if_pos last]
    simp

theorem withServer_withServer :
    (config.withServer server).withServer server = config.withServer server :=
  withServer_of_place (config.place?_withServer server)

/-! ### Accepted configurations -/

variable {config server}

theorem usable_of_validate (valid : config.validate = .ok ()) :
    ∀ known ∈ config.servers, problemOf? known = none := by
  unfold validate at valid
  split at valid
  case h_1 => cases valid
  case h_2 sound =>
    unfold problem? at sound
    split_ifs at sound
    cases selected : config.server with
    | error problem =>
      rw [selected] at sound
      cases sound
    | ok used =>
      rw [selected] at sound
      exact List.findSome?_eq_none_iff.mp sound

/-- A server that can be used is a web address. -/
theorem exists_web (usable : problemOf? server = none) :
    ∃ url, Url.read server = .ok url ∧ (url.scheme = "https" ∨ url.scheme = "http") := by
  unfold problemOf? at usable
  cases described : Url.read server with
  | error flaw =>
    rw [described] at usable
    cases usable
  | ok url =>
    rw [described] at usable
    dsimp only at usable
    split_ifs at usable with scheme
    exact ⟨url, rfl, scheme⟩

theorem exists_server {client : Client} (accepted : Client.ofConfig config = .ok client) :
    config.validate = .ok () ∧ ∃ used, config.server = .ok used ∧
      client = { config, server := Text.withoutTrailingSlashes used } := by
  obtain ⟨⟨⟩, valid, rest⟩ := ok_of_bind accepted
  obtain ⟨used, selected, made⟩ := ok_of_bind rest
  cases made
  exact ⟨valid, used, selected, rfl⟩

theorem config_eq {client : Client} (accepted : Client.ofConfig config = .ok client) :
    client.config = config := by
  obtain ⟨-, used, -, rfl⟩ := exists_server accepted
  rfl

end Vouch.Keyserver.Config
