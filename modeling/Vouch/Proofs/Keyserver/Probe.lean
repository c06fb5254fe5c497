import Mathlib.Tactic
import Vouch.Keyserver.Probe
import Vouch.Proofs.Keyserver.Config
import Vouch.Proofs.Url.Parts

/-!
What a round of probes reports.

The probes end in any order.  Each of them leaves its own result at its own position, so what is
reported of a server is how the connection to that server has ended, whatever came before it.
-/

namespace Vouch.Url

theorem exists_host {s : String} {url : Url} (described : read s = .ok url)
    (web : Kind.ofScheme url.scheme = .web) : ∃ host, url.host = some host := by
  obtain ⟨text, same⟩ := exists_webText described web
  rw [text.read_eq same] at described
  cases located : authority .web text.scheme text.place text.tail with
  | error flaw =>
    rw [located] at described
    cases described
  | ok found =>
    obtain ⟨host, port, -, -, -, rfl⟩ := authority_web_eq_ok_iff.mp located
    rw [located] at described
    cases described
    exact ⟨host, rfl⟩

end Vouch.Url

namespace Vouch.Keyserver

/-- The result without the time that it took. -/
def Reachability.untimed (result : Reachability) : Reachability :=
  { result with latency := result.latency.map fun _ => 0 }

namespace Probe

/-- The end of a connection without the time that it took. -/
def Connection.untimed : Connection → Connection
  | .made _ => .made 0
  | .failed cause => .failed cause
  | .silent => .silent

structure Speaks (server : String) (result : Reachability) : Prop where
  server_eq : result.server = server
  reachable_iff_latency : result.reachable = true ↔ result.latency.isSome = true
  latency_iff_error : result.latency.isSome = true ↔ result.error = none

/-! ### One probe -/

variable {server : String} {timeout : Nat} {connection other : Connection}

theorem exists_target (usable : Config.problemOf? server = none) :
    ∃ host port, target server = .ok (host, port) := by
  obtain ⟨url, described, scheme⟩ := Config.exists_web usable
  have web : Url.Kind.ofScheme url.scheme = .web := by
    obtain scheme | scheme := scheme <;> rw [scheme] <;> rfl
  have usual : (Url.usualPort? url.scheme).isSome = true := by
    obtain scheme | scheme := scheme <;> rw [scheme] <;> rfl
  obtain ⟨host, hosted⟩ := Url.exists_host described web
  have ported : url.portOrUsual?.isSome = true := by
    rw [Url.portOrUsual?, Option.isSome_or, usual, Bool.or_true]
  obtain ⟨port, ported⟩ := Option.isSome_iff_exists.mp ported
  refine ⟨host, port, ?_⟩
  unfold target
  rw [described]
  dsimp only
  rw [hosted, ported]

theorem speaks_unreachable (server error : String) : Speaks server (unreachable server error) where
  server_eq := rfl
  reachable_iff_latency := by simp [unreachable]
  latency_iff_error := by simp [unreachable]

theorem speaks_result (server : String) (timeout : Nat) (connection : Connection) :
    Speaks server (result server timeout connection) := by
  cases connection with
  | made latency => constructor <;> simp [result]
  | failed cause => exact speaks_unreachable server cause
  | silent => exact speaks_unreachable server _

theorem probe_of_target {connect : Url.Host → Nat → Connection} {host : Url.Host} {port : Nat}
    (found : target server = .ok (host, port)) :
    probe connect timeout server = result server timeout (connect host port) := by
  rw [probe, found]

theorem untimed_result (same : connection.untimed = other.untimed) :
    (result server timeout connection).untimed = (result server timeout other).untimed := by
  cases connection with
  | made latency =>
    cases other with
    | made _ => rfl
    | _ => cases same
  | failed cause =>
    cases other with
    | failed _ =>
      cases same
      rfl
    | _ => cases same
  | silent =>
    cases other with
    | silent => rfl
    | _ => cases same

/-! ### A round of probes -/

namespace Round

/-- The position of the server that something happens to. -/
def Event.position : Event → Nat
  | .finish position _ => position
  | .die position => position

def Unbroken (events : List Event) : Prop :=
  ∀ position, .die position ∉ events

/-- The account of a round after events: every position is either under way or has had its one event,
and the results are those of the probes that have ended. -/
structure Kept (client : Client) (events : List Event) (round : Round) : Prop where
  servers_eq : round.servers = client.config.servers
  timeout_eq : round.timeout = client.config.effectiveProbeTimeout
  positions : (round.pending ++ events.map Event.position).Perm
    (List.range client.config.servers.length)
  arrived_iff : ∀ position found, (position, found) ∈ round.arrived ↔
    ∃ server connection, .finish position connection ∈ events ∧
      client.config.servers[position]? = some server ∧
      found = probe (fun _ _ => connection) client.config.effectiveProbeTimeout server

variable {client : Client} {events : List Event} {event : Event} {round next : Round}

theorem kept_initial (client : Client) : Kept client [] (initial client) where
  servers_eq := rfl
  timeout_eq := rfl
  positions := by simp [initial]
  arrived_iff := by simp [initial]

theorem erase_append_perm {pending gone : List Nat} {position : Nat} (listed : position ∈ pending) :
    (pending.erase position ++ (gone ++ [position])).Perm (pending ++ gone) := by
  have apart := (List.perm_cons_erase listed).append_right gone
  refine List.Perm.trans ?_ apart.symm
  rw [← List.append_assoc]
  exact List.perm_append_comm

namespace Kept

theorem step (kept : Kept client events round) (happens : round.after? event = some next) :
    Kept client (events ++ [event]) next := by
  cases event with
  | finish position connection =>
    obtain ⟨server, found, happens⟩ := Option.bind_eq_some_iff.mp happens
    split_ifs at happens with listed
    cases happens
    refine ⟨kept.servers_eq, kept.timeout_eq, ?_, ?_⟩
    · rw [List.map_append]
      exact (erase_append_perm listed).trans kept.positions
    · intro own result
      rw [kept.servers_eq] at found
      rw [List.mem_cons, kept.arrived_iff, Prod.mk.injEq, kept.timeout_eq]
      constructor
      · rintro (⟨rfl, rfl⟩ | ⟨server, connection, member, same, rfl⟩)
        · exact ⟨server, connection, List.mem_concat_self, found, rfl⟩
        · exact ⟨server, connection, List.mem_append_left _ member, same, rfl⟩
      · rintro ⟨other, made, member, same, rfl⟩
        obtain before | now := List.mem_append.mp member
        · exact .inr ⟨other, made, before, same, rfl⟩
        · cases List.mem_singleton.mp now
          cases found.symm.trans same
          exact .inl ⟨rfl, rfl⟩
  | die position =>
    rw [after?] at happens
    split_ifs at happens with listed
    cases happens
    refine ⟨kept.servers_eq, kept.timeout_eq, ?_, ?_⟩
    · rw [List.map_append]
      exact (erase_append_perm listed).trans kept.positions
    · intro own result
      rw [kept.arrived_iff]
      simp

/-- The account is kept through a whole run. -/
theorem run {before : List Event} {last : Round} (kept : Kept client before round)
    (ran : round.run? events = some last) : Kept client (before ++ events) last := by
  induction events generalizing before round with
  | nil =>
    cases ran
    rwa [List.append_nil]
  | cons event rest ih =>
    rw [run?] at ran
    obtain ⟨next, happens, ran⟩ := Option.bind_eq_some_iff.mp ran
    have later := ih (kept.step happens) ran
    rwa [List.append_assoc] at later

theorem positions_of_isOver (kept : Kept client events round) (ended : round.isOver = true) :
    (events.map Event.position).Perm (List.range client.config.servers.length) := by
  have positions := kept.positions
  rwa [List.isEmpty_iff.mp ended, List.nil_append] at positions

theorem event_unique (kept : Kept client events round) (ended : round.isOver = true)
    (first : event ∈ events) {second : Event} (member : second ∈ events)
    (same : event.position = second.position) : event = second := by
  have distinct : (events.map Event.position).Nodup :=
    (kept.positions_of_isOver ended).nodup_iff.mpr List.nodup_range
  exact List.inj_on_of_nodup_map distinct first member same

/-- If nothing breaks off, a server's own probe has ended in one way and has left its result. -/
theorem exists_lookup (kept : Kept client events round) (unbroken : Unbroken events)
    (ended : round.isOver = true) {position : Nat} {server : String}
    (listed : client.config.servers[position]? = some server) :
    ∃ connection, (∀ other, .finish position other ∈ events ↔ other = connection) ∧
      round.arrived.lookup position =
        some (probe (fun _ _ => connection) client.config.effectiveProbeTimeout server) := by
  obtain ⟨inside, -⟩ := List.getElem?_eq_some_iff.mp listed
  have covered : position ∈ events.map Event.position :=
    (kept.positions_of_isOver ended).mem_iff.mpr (List.mem_range.mpr inside)
  obtain ⟨event, member, here⟩ := List.mem_map.mp covered
  cases event with
  | die own => exact absurd member (unbroken own)
  | finish own connection =>
    change own = position at here
    subst here
    have only (other : Connection) : .finish own other ∈ events ↔ other = connection := by
      constructor
      · intro again
        cases kept.event_unique ended member again rfl
        rfl
      · rintro rfl
        exact member
    refine ⟨connection, only, ?_⟩
    have there := (kept.arrived_iff own _).mpr ⟨server, connection, member, listed, rfl⟩
    have some_result : (round.arrived.lookup own).isSome = true :=
      List.lookup_isSome_iff.mpr ⟨_, there, beq_self_eq_true _⟩
    obtain ⟨found, looked⟩ := Option.isSome_iff_exists.mp some_result
    obtain ⟨before, after, split, -⟩ := List.lookup_eq_some_iff.mp looked
    have kept_there : (own, found) ∈ round.arrived := by rw [split]; simp
    obtain ⟨other, made, again, likewise, rfl⟩ := (kept.arrived_iff own found).mp kept_there
    cases listed.symm.trans likewise
    rw [looked, (only made).mp again]

end Kept

/-- In whatever order probes end, there is a round in which they do. -/
theorem exists_run (connections : Nat → Connection) (order : List Nat)
    (inside : ∀ position ∈ round.pending, position < round.servers.length)
    (perm : order.Perm round.pending) :
    ∃ last, round.run? (order.map fun position => .finish position (connections position)) =
      some last ∧ last.isOver = true := by
  induction order generalizing round with
  | nil => exact ⟨round, rfl, List.isEmpty_iff.mpr perm.symm.eq_nil⟩
  | cons position rest ih =>
    obtain ⟨listed, left⟩ := List.cons_perm_iff_perm_erase.mp perm
    obtain ⟨server, known⟩ : ∃ server, round.servers[position]? = some server :=
      ⟨_, List.getElem?_eq_getElem (inside position listed)⟩
    let next : Round :=
      { round with
        pending := round.pending.erase position
        arrived :=
          (position, probe (fun _ _ => connections position) round.timeout server) :: round.arrived }
    have still : ∀ other ∈ next.pending, other < next.servers.length :=
      fun other member => inside other (List.mem_of_mem_erase member)
    obtain ⟨last, ran, ended⟩ := ih still left
    refine ⟨last, ?_, ended⟩
    rw [List.map_cons, run?, after?, known]
    simp only [Option.bind_eq_bind, Option.bind_some, if_pos listed]
    exact ran

theorem getElem?_results (round : Round) (position : Nat) :
    round.results[position]? = round.servers[position]?.map fun server =>
      (round.arrived.lookup position).getD (unreachable server "probe aborted") := by
  simp [results, inOrder, List.getElem?_zipIdx]
  rfl

/-- At every position the connections of both rounds have ended alike, apart from the times. -/
def Alike (events others : List Event) : Prop :=
  ∀ position one two, .finish position one ∈ events → .finish position two ∈ others →
    one.untimed = two.untimed

/-- The connections have ended as a network says. -/
def Hears (connect : Url.Host → Nat → Connection) (servers : List String) (events : List Event) :
    Prop :=
  ∀ position server host port connection, servers[position]? = some server →
    target server = .ok (host, port) → .finish position connection ∈ events →
      connection = connect host port

structure Reported (client : Client) (events : List Event) (results : List Reachability) : Prop where
  speaks : List.Forall₂ Speaks client.config.servers results
  own : ∀ position server, client.config.servers[position]? = some server →
    ∃ host port connection, target server = .ok (host, port) ∧
      (∀ other, .finish position other ∈ events ↔ other = connection) ∧
      results[position]? =
        some (result server client.config.effectiveProbeTimeout connection)

theorem reported {config : Config} (accepted : Client.ofConfig config = .ok client)
    (unbroken : Unbroken events) (ran : (initial client).run? events = some round)
    (ended : round.isOver = true) : Reported client events round.results := by
  have kept : Kept client events round := (kept_initial client).run ran
  have own : ∀ position server, client.config.servers[position]? = some server →
      ∃ host port connection, target server = .ok (host, port) ∧
        (∀ other, .finish position other ∈ events ↔ other = connection) ∧
        round.results[position]? =
          some (result server client.config.effectiveProbeTimeout connection) := by
    intro position server listed
    obtain ⟨connection, only, looked⟩ := kept.exists_lookup unbroken ended listed
    have known : server ∈ config.servers := by
      rw [← Config.config_eq accepted]
      exact List.mem_of_getElem? listed
    obtain ⟨valid, -⟩ := Config.exists_server accepted
    obtain ⟨host, port, found⟩ := exists_target (Config.usable_of_validate valid server known)
    refine ⟨host, port, connection, found, only, ?_⟩
    rw [getElem?_results, kept.servers_eq, listed, Option.map_some, looked, Option.getD_some,
      probe_of_target found]
  refine ⟨?_, own⟩
  have total : client.config.servers.length = round.results.length := by
    simp [results, inOrder, kept.servers_eq]
  refine List.forall₂_iff_get.mpr ⟨total, fun position inside within => ?_⟩
  obtain ⟨host, port, connection, -, -, shown⟩ := own position _ (List.getElem?_eq_getElem inside)
  rw [List.getElem?_eq_getElem within, Option.some_inj] at shown
  simp only [List.get_eq_getElem, shown]
  exact speaks_result _ _ _

namespace Reported

variable {others : List Event} {results again : List Reachability}

theorem getElem?_eq_none (reported : Reported client events results) {position : Nat}
    (unlisted : client.config.servers[position]? = none) : results[position]? = none := by
  rw [List.getElem?_eq_none_iff] at unlisted ⊢
  exact reported.speaks.length_eq ▸ unlisted

/-- Apart from the times, only the ends of the connections matter, and not their order. -/
theorem untimed_eq (first : Reported client events results) (second : Reported client others again)
    (alike : Alike events others) :
    results.map Reachability.untimed = again.map Reachability.untimed := by
  apply List.ext_getElem?
  intro position
  rw [List.getElem?_map, List.getElem?_map]
  cases listed : client.config.servers[position]? with
  | none => rw [first.getElem?_eq_none listed, second.getElem?_eq_none listed]
  | some server =>
    obtain ⟨_, _, one, _, ended, shown⟩ := first.own position server listed
    obtain ⟨_, _, two, _, likewise, repeated⟩ := second.own position server listed
    have same := alike position one two ((ended one).mpr rfl) ((likewise two).mpr rfl)
    rw [shown, repeated, Option.map_some, Option.map_some, untimed_result same]

/-- If the connections end as a network says, the results are those of one probe after another. -/
theorem eq_map_probe (reported : Reported client events results)
    {connect : Url.Host → Nat → Connection} (hears : Hears connect client.config.servers events) :
    results = client.config.servers.map (probe connect client.config.effectiveProbeTimeout) := by
  apply List.ext_getElem?
  intro position
  rw [List.getElem?_map]
  cases listed : client.config.servers[position]? with
  | none => rw [reported.getElem?_eq_none listed, Option.map_none]
  | some server =>
    obtain ⟨host, port, connection, found, ended, shown⟩ := reported.own position server listed
    have told := hears position server host port connection listed found ((ended connection).mpr rfl)
    rw [shown, Option.map_some, probe_of_target found, told]

end Reported

end Round

end Probe

end Vouch.Keyserver
