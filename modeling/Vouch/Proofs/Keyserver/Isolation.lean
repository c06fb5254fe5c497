import Mathlib.Tactic
import Vouch.Proofs.Keyserver.Batch.Place
import Vouch.Proofs.Keyserver.Client
import Vouch.Proofs.Keyserver.Outcome

/-!
What becomes of a key depends on the answers for this key only.

Two runs of a batch that answer the work on a key in the same way have the same entry for it, whatever
they answer for the other keys, however many keys they work on at the same time and in whatever order
things happen.  Keys are told apart by their positions, so this holds of keys with one name as well.
-/

namespace Vouch.Keyserver.Batch

open Job (replies takings)

variable {plan : Plan} {events first second : List Event} {batch one two : Batch}
  {client : Client} {keyIds : List String} {limit firstLimit secondLimit position : Nat}

/-- What has become of a key that was started, in a batch that is over: it has the result of its own
work, or that work broke off. -/
theorem fateAt_of_run? {cancelRequested : Bool}
    (ran : (initial plan cancelRequested).run? events = some batch) (ended : batch.isOver = true)
    (tried : position < batch.started) :
    Event.die position ∉ events ∧ Reached plan events position (.done (batch.fateAt position)) ∨
      Event.die position ∈ events ∧ batch.fateAt position = .aborted := by
  cases standing_of_run? ran position with
  | untried untried => exact absurd tried (not_lt.mpr untried)
  | worked _ worker found =>
    have member := mem_running_of_worker? found
    rw [running_of_isOver ended] at member
    cases member
  | settled _ _ fate listed reached alive =>
    rw [fateAt, listed]
    exact .inl ⟨alive, reached⟩
  | dead _ _ unsettled died =>
    rw [fateAt, unsettled]
    exact .inr ⟨died, if_pos tried⟩

/-- A run over keys, at most so many of them at the same time, that comes to its end without being
cancelled. -/
structure Completes (client : Client) (keyIds : List String) (limit : Nat) (events : List Event)
    (last : Batch) : Prop where
  ran : (initial { client.plan keyIds with slots := max limit 1 } false).run? events = some last
  ended : last.isOver = true
  uncancelled : last.outcome.cancelled = false

/-- Two runs answer the work on the key at a position in the same way: the server has the same replies
to its requests, one after another, the importer has the same answer, and the work breaks off in both
or in neither. -/
structure SameFor (position : Nat) (first second : List Event) : Prop where
  replies : Agree (replies (answersTo position first)) (replies (answersTo position second))
  takings : Agree (takings (answersTo position first)) (takings (answersTo position second))
  deaths : Event.die position ∈ first ↔ Event.die position ∈ second

namespace Completes

theorem keyIds_eq (completes : Completes client keyIds limit events batch) :
    batch.plan.keyIds = keyIds := by
  rw [plan_eq_of_run? completes.ran]
  rfl

theorem tried (completes : Completes client keyIds limit events batch)
    (listed : position < keyIds.length) : position < batch.started := by
  have stopped := completes.ended
  rw [isOver, Bool.and_eq_true, Bool.not_eq_true', Bool.eq_false_iff, ne_eq, mayStart_iff,
    completes.keyIds_eq] at stopped
  by_contra untried
  exact stopped.2 ⟨completes.uncancelled, (not_lt.mp untried).trans_lt listed⟩

theorem fateAt_eq (completes : Completes client keyIds firstLimit first one)
    (likewise : Completes client keyIds secondLimit second two)
    (same : SameFor position first second) (listed : position < keyIds.length) :
    one.fateAt position = two.fateAt position := by
  obtain ⟨alive, reached⟩ | ⟨died, aborted⟩ :=
    fateAt_of_run? completes.ran completes.ended (completes.tried listed)
  · obtain ⟨_, arrived⟩ | ⟨died, _⟩ :=
      fateAt_of_run? likewise.ran likewise.ended (likewise.tried listed)
    · obtain ⟨keyId, found, ran⟩ := reached
      obtain ⟨other, foundAgain, ranAgain⟩ := arrived
      cases found.symm.trans foundAgain
      obtain ⟨_, _, course, replied, taken⟩ := Job.course_of_run? ran
      obtain ⟨_, _, again, repliedAgain, takenAgain⟩ := Job.course_of_run? ranAgain
      refine Client.fate_unique course again ?_ ?_
      · rw [replied, repliedAgain]
        exact same.replies
      · rw [taken, takenAgain]
        exact same.takings
    · exact absurd (same.deaths.mpr died) alive
  · obtain ⟨alive, _⟩ | ⟨_, likewiseAborted⟩ :=
      fateAt_of_run? likewise.ran likewise.ended (likewise.tried listed)
    · exact absurd (same.deaths.mp died) alive
    · rw [aborted, likewiseAborted]

theorem entry_eq (completes : Completes client keyIds firstLimit first one)
    (likewise : Completes client keyIds secondLimit second two)
    (same : SameFor position first second) :
    one.outcome.entries[position]? = two.outcome.entries[position]? := by
  rw [getElem?_entries, getElem?_entries, completes.keyIds_eq, likewise.keyIds_eq]
  cases listed : keyIds[position]? with
  | none => rfl
  | some keyId =>
    obtain ⟨within, _⟩ := List.getElem?_eq_some_iff.mp listed
    rw [Option.map_some, Option.map_some, completes.fateAt_eq likewise same within]

end Completes

/-- Two runs over the same keys that come to their end without being cancelled, with any bounds on the
keys that are worked on at the same time and any orders of events.  Whatever happens to one key, every
other key that is answered in the same way has the same entry in both outcomes.  If all keys are
answered in the same way, then the outcomes are the same. -/
theorem isolated_of_completes (client : Client) (keyIds : List String)
    (firstLimit secondLimit : Nat) (first second : List Event) (one two : Batch)
    (completes : Completes client keyIds firstLimit first one)
    (likewise : Completes client keyIds secondLimit second two) :
    (∀ failing, (∀ position, position ≠ failing → SameFor position first second) →
      ∀ position, position ≠ failing →
        one.outcome.entries[position]? = two.outcome.entries[position]?) ∧
      ((∀ position, SameFor position first second) → one.outcome = two.outcome) := by
  constructor
  · intro failing same position spared
    exact completes.entry_eq likewise (same position spared)
  · intro same
    have entries : one.outcome.entries = two.outcome.entries := by
      apply List.ext_getElem?
      intro position
      exact completes.entry_eq likewise (same position)
    have cancelled := completes.uncancelled.trans likewise.uncancelled.symm
    calc
      one.outcome = ⟨one.outcome.entries, one.outcome.cancelled⟩ := rfl
      _ = ⟨two.outcome.entries, two.outcome.cancelled⟩ := by rw [entries, cancelled]
      _ = two.outcome := rfl

/-- The first key is unknown to the server in one run only, and the other key is imported in both. -/
theorem isolated_of_unknown_key :
    let client : Client := ⟨Config.standard, "https://keys.openpgp.org"⟩
    let keyIds := ["0123456789ABCDEF", "FEDCBA9876543210"]
    let first : List Event :=
      [.check, .take, .start, .answer 0 .logged, .answer 0 (.reply (.answer 404 "")),
        .answer 0 .logged, .count 0, .report 0, .check, .take, .start, .answer 1 .logged,
        .answer 1 (.reply (.answer 200 armorHeader)), .answer 1 (.taken (.ok ())),
        .answer 1 .logged, .count 1, .report 1]
    let second : List Event :=
      [.check, .take, .start, .check, .take, .start, .answer 1 .logged, .answer 0 .logged,
        .answer 1 (.reply (.answer 200 armorHeader)), .answer 0 (.reply (.answer 200 armorHeader)),
        .answer 0 (.taken (.ok ())), .answer 1 (.taken (.ok ())), .answer 1 .logged, .count 1,
        .report 1, .answer 0 .logged, .count 0, .report 0]
    ∃ one two, Completes client keyIds 1 first one ∧ Completes client keyIds 2 second two ∧
      one.outcome.entries.map (fun entry => entry.fate.isFailed) = [true, false] ∧
      two.outcome.entries.map (fun entry => entry.fate.isFailed) = [false, false] ∧
      one.outcome.entries[1]? = two.outcome.entries[1]? := by
  intro client keyIds first second
  have same : ∀ position, position ≠ 0 → SameFor position first second := by
    intro position spared
    by_cases other : position = 1
    · subst other
      exact ⟨.inl (List.prefix_refl _), .inl (List.prefix_refl _), by simp [first, second]⟩
    · have silent : answersTo position first = [] ∧ answersTo position second = [] := by
        simp [first, second, answersTo, Event.answerTo?, spared.symm, Ne.symm other]
      refine ⟨?_, ?_, by simp [first, second]⟩
      · rw [silent.1, silent.2]
        exact .inl (List.prefix_refl _)
      · rw [silent.1, silent.2]
        exact .inl (List.prefix_refl _)
  have ends : ((initial { client.plan keyIds with slots := max 1 1 } false).run? first).map
      (fun last => (last.isOver, last.outcome.cancelled,
        last.outcome.entries.map fun entry => entry.fate.isFailed)) =
      some (true, false, [true, false]) := by
    decide +kernel
  have endsAgain : ((initial { client.plan keyIds with slots := max 2 1 } false).run? second).map
      (fun last => (last.isOver, last.outcome.cancelled,
        last.outcome.entries.map fun entry => entry.fate.isFailed)) =
      some (true, false, [false, false]) := by
    decide +kernel
  obtain ⟨one, ran, fates⟩ := Option.map_eq_some_iff.mp ends
  obtain ⟨two, ranAgain, fatesAgain⟩ := Option.map_eq_some_iff.mp endsAgain
  simp only [Prod.mk.injEq] at fates fatesAgain
  have completes : Completes client keyIds 1 first one := ⟨ran, fates.1, fates.2.1⟩
  have likewise : Completes client keyIds 2 second two := ⟨ranAgain, fatesAgain.1, fatesAgain.2.1⟩
  have isolated := isolated_of_completes client keyIds 1 2 first second one two completes likewise
  exact ⟨one, two, completes, likewise, fates.2.2, fatesAgain.2.2,
    isolated.1 0 same 1 Nat.one_ne_zero⟩

end Vouch.Keyserver.Batch
