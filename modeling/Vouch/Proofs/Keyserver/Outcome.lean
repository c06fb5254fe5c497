import Mathlib.Tactic
import Vouch.Proofs.Keyserver.Batch.Ending

/-!
What a batch that is over says of its keys.

The first keys of the list were started, and each of them has the result of its own work, whenever
that ended and whatever became of the others.  No work on the other keys was ever begun, and they are
cancelled.
-/

namespace Vouch.Keyserver

def Import.Fate.IsResult (fate : Fate) : Prop :=
  fate = .imported ∨ fate.isFailed = true

theorem Import.Fate.IsResult.ne_cancelled {fate : Fate} (result : fate.IsResult) :
    fate ≠ .cancelled := by
  rintro rfl
  obtain imported | failed := result
  · cases imported
  · cases failed

theorem Client.ensures_fetchAndImport (client : Client) (keyId : String) :
    (client.fetchAndImport keyId).Ensures Import.Fate.IsResult := by
  apply Job.ensures_bind
  intro fetched
  cases fetched with
  | error problem => exact Or.inr rfl
  | ok armored =>
    intro answer
    cases answer with
    | error problem => exact Or.inr rfl
    | ok taken => exact Or.inl rfl

namespace Batch

variable {plan : Plan} {events : List Event} {batch : Batch} {position : Nat}

theorem running_of_isOver (ended : batch.isOver = true) : batch.running = [] := by
  rw [isOver, Bool.and_eq_true, List.isEmpty_iff] at ended
  exact ended.1

namespace Sound

/-- In a batch that is over, every key that was started has the result of its own work. -/
theorem reached_fateAt (sound : Sound plan events batch) (ended : batch.isOver = true)
    (tried : position < batch.started) :
    Reached plan events position (.done (batch.fateAt position)) := by
  have positions := sound.positions
  rw [running_of_isOver ended, List.map_nil, List.nil_append] at positions
  have settled : position ∈ batch.settled.map Prod.fst :=
    positions.mem_iff.mpr (List.mem_range.mpr tried)
  obtain ⟨entry, member, rfl⟩ := List.mem_map.mp settled
  have listed : (batch.settled.lookup entry.1).isSome = true :=
    List.lookup_isSome_iff.mpr ⟨entry, member, beq_self_eq_true _⟩
  obtain ⟨fate, found⟩ := Option.isSome_iff_exists.mp listed
  obtain ⟨before, after, split, _⟩ := List.lookup_eq_some_iff.mp found
  have kept : (entry.1, fate) ∈ batch.settled := by rw [split]; simp
  rw [fateAt, found]
  exact sound.settled (entry.1, fate) kept

theorem fateAt_of_le (sound : Sound plan events batch) (untried : batch.started ≤ position) :
    batch.fateAt position = .cancelled := by
  have unsettled : batch.settled.lookup position = none := by
    rw [List.lookup_eq_none_iff]
    intro entry member
    have listed : entry.1 ∈ batch.running.map Worker.position ++ batch.settled.map Prod.fst :=
      List.mem_append_right _ (List.mem_map_of_mem member)
    have before := List.mem_range.mp (sound.positions.mem_iff.mp listed)
    rw [bne_iff_ne]
    omega
  rw [fateAt, unsettled]
  exact if_neg (not_lt.mpr untried)

theorem worker?_of_le (sound : Sound plan events batch) (untried : batch.started ≤ position) :
    batch.worker? position = none := by
  cases found : batch.worker? position with
  | none => rfl
  | some worker =>
    have before := sound.position_lt (mem_running_of_worker? found)
    rw [position_of_worker? found] at before
    omega

end Sound

theorem getElem?_entries (batch : Batch) (position : Nat) :
    batch.outcome.entries[position]? =
      (batch.plan.keyIds[position]?).map fun keyId => ⟨keyId, batch.fateAt position⟩ := by
  simp [outcome, List.getElem?_zipIdx]
  rfl

theorem keyIds_entries (batch : Batch) :
    batch.outcome.entries.map Import.Entry.keyId = batch.plan.keyIds := by
  rw [outcome, List.map_map]
  exact List.zipIdx_map_fst 0 batch.plan.keyIds

theorem length_filter_of_prefix {α : Type} (p : α → Bool) (items : List α) (m : Nat)
    (bound : m ≤ items.length) (first : ∀ i item, items[i]? = some item → (p item = true ↔ i < m)) :
    (items.filter p).length = m := by
  induction items generalizing m with
  | nil => exact (Nat.le_zero.mp bound).symm
  | cons item rest ih =>
    have head := first 0 item rfl
    cases m with
    | zero =>
      have rejected : ¬p item = true := fun accepted => absurd (head.mp accepted) (Nat.lt_irrefl 0)
      rw [List.filter_cons_of_neg rejected]
      apply ih 0 (Nat.zero_le _)
      intro i other found
      have later := first (i + 1) other found
      exact later.trans (by omega)
    | succ m =>
      rw [List.filter_cons_of_pos (head.mpr (Nat.succ_pos m)), List.length_cons]
      congr 1
      apply ih m (Nat.le_of_succ_le_succ bound)
      intro i other found
      have later := first (i + 1) other found
      exact later.trans Nat.add_lt_add_iff_right

def sending? (batch : Batch) (position : Nat) : Option Request :=
  match batch.worker? position with
  | some ⟨_, .working (.send request _)⟩ => some request
  | _ => none

def Passes (start : Batch) (events : List Event) (mid : Batch) : Prop :=
  ∃ before after, events = before ++ after ∧ start.run? before = some mid

/-- In the course of a run a batch keeps a right account, and the rest of the run is its own. -/
theorem sound_of_passes {cancelRequested : Bool} {mid : Batch} (survived : Survived events)
    (ran : (initial plan cancelRequested).run? events = some batch)
    (passes : Passes (initial plan cancelRequested) events mid) :
    (∃ before, Sound plan before mid) ∧ ∃ after, mid.run? after = some batch := by
  obtain ⟨before, after, rfl, reached⟩ := passes
  have alive : Survived before := by
    intro position member
    exact survived position (List.mem_append_left _ member)
  rw [run?_append, reached, Option.bind_some] at ran
  exact ⟨⟨before, sound_of_run? alive reached⟩, after, ran⟩

/-- The outcome of a run over keys that ends with a batch, of which the first `m` keys were tried:
nothing is lost, and whatever was not cancelled has its own result. -/
structure Faithful (client : Client) (keyIds : List String) (start : Batch) (events : List Event)
    (last : Batch) (m : Nat) : Prop where
  tried_le : m ≤ keyIds.length
  /-- There is one entry for every key, in the order of the list. -/
  keyIds_entries : last.outcome.entries.map Import.Entry.keyId = keyIds
  /-- A key that was tried has the result that its own answers lead to. -/
  tried : ∀ position keyId, position < m → keyIds[position]? = some keyId →
    ∃ fate, last.outcome.entries[position]? = some ⟨keyId, fate⟩ ∧
      (client.fetchAndImport keyId).run? (answersTo position events) = some (.done fate) ∧
      fate.IsResult
  /-- Any other key is cancelled. -/
  untried : ∀ position keyId, m ≤ position → keyIds[position]? = some keyId →
    last.outcome.entries[position]? = some ⟨keyId, .cancelled⟩
  /-- Nothing is ever done for a key that was not tried, and no request is sent. -/
  untouched : ∀ mid, Passes start events mid → ∀ position, m ≤ position →
    mid.worker? position = none ∧ mid.sending? position = none
  cancelled_iff : last.outcome.cancelled = true ↔ m < keyIds.length
  progress_eq : last.outcome.progress = ⟨m, keyIds.length⟩
  /-- A batch that was found cancelled has started all the keys that it will. -/
  stopped : ∀ mid, Passes start events mid → mid.cancelled = true → mid.started = m
  isCompleteSuccess_iff : last.outcome.isCompleteSuccess = true ↔
    ∀ entry ∈ last.outcome.entries, entry.fate = .imported

namespace Sound

theorem entry_of_lt (sound : Sound plan events batch) (ended : batch.isOver = true)
    (results : ∀ keyId, (plan.work keyId).Ensures Import.Fate.IsResult)
    (tried : position < batch.started) {keyId : String}
    (listed : plan.keyIds[position]? = some keyId) :
    ∃ fate, batch.outcome.entries[position]? = some ⟨keyId, fate⟩ ∧
      (plan.work keyId).run? (answersTo position events) = some (.done fate) ∧
      fate.IsResult := by
  obtain ⟨other, same, ran⟩ := sound.reached_fateAt ended tried
  cases listed.symm.trans same
  refine ⟨batch.fateAt position, ?_, ran, Job.ensures_run? (results keyId) ran⟩
  rw [getElem?_entries, sound.plan_eq, listed, Option.map_some]

theorem entry_of_le (sound : Sound plan events batch) (untried : batch.started ≤ position)
    {keyId : String} (listed : plan.keyIds[position]? = some keyId) :
    batch.outcome.entries[position]? = some ⟨keyId, .cancelled⟩ := by
  rw [getElem?_entries, sound.plan_eq, listed, Option.map_some, sound.fateAt_of_le untried]

theorem cancelled_iff (sound : Sound plan events batch) (ended : batch.isOver = true) :
    batch.cancelled = true ↔ batch.started < plan.keyIds.length := by
  constructor
  · exact sound.unfinished
  · intro left
    rw [isOver, Bool.and_eq_true, Bool.not_eq_true', Bool.eq_false_iff, ne_eq, mayStart_iff,
      sound.plan_eq] at ended
    by_contra active
    exact ended.2 ⟨Bool.eq_false_iff.mpr active, left⟩

/-- The entry of a key says that it is cancelled exactly if the key was not started. -/
theorem fateAt_eq_cancelled_iff (sound : Sound plan events batch) (ended : batch.isOver = true)
    (results : ∀ keyId, (plan.work keyId).Ensures Import.Fate.IsResult) :
    batch.fateAt position = .cancelled ↔ batch.started ≤ position := by
  constructor
  · intro cancelled
    by_contra tried
    obtain ⟨keyId, _, ran⟩ := sound.reached_fateAt ended (not_le.mp tried)
    have result : (batch.fateAt position).IsResult := Job.ensures_run? (results keyId) ran
    exact result.ne_cancelled cancelled
  · exact sound.fateAt_of_le

theorem progress_outcome (sound : Sound plan events batch) (ended : batch.isOver = true)
    (results : ∀ keyId, (plan.work keyId).Ensures Import.Fate.IsResult) :
    batch.outcome.progress = ⟨batch.started, plan.keyIds.length⟩ := by
  have total : batch.outcome.entries.length = plan.keyIds.length := by
    rw [← sound.plan_eq, ← Batch.keyIds_entries, List.length_map]
  have done : (batch.outcome.entries.filter (fun entry => entry.fate != .cancelled)).length =
      batch.started := by
    apply length_filter_of_prefix
    · rw [total]
      exact sound.started_le
    · intro position entry found
      rw [getElem?_entries] at found
      obtain ⟨keyId, _, rfl⟩ := Option.map_eq_some_iff.mp found
      rw [bne_iff_ne, ne_eq, sound.fateAt_eq_cancelled_iff ended results, not_le]
  rw [Import.Outcome.progress, done, total]

/-- A batch is a complete success exactly if every key was imported: one that was cancelled has an
entry that says so. -/
theorem isCompleteSuccess_outcome_iff (sound : Sound plan events batch)
    (ended : batch.isOver = true) :
    batch.outcome.isCompleteSuccess = true ↔
      ∀ entry ∈ batch.outcome.entries, entry.fate = .imported := by
  have all : batch.outcome.imported.length = batch.outcome.entries.length ↔
      ∀ entry ∈ batch.outcome.entries, entry.fate = .imported := by
    simp [Import.Outcome.imported, List.length_filter_eq_length_iff]
  rw [Import.Outcome.isCompleteSuccess, Bool.and_eq_true, beq_iff_eq, all, Bool.not_eq_true']
  constructor
  · intro success
    exact success.2
  · intro imported
    refine ⟨?_, imported⟩
    -- A cancelled batch has a key that was not started, and its entry is no import.
    by_contra cancelled
    rw [Bool.not_eq_false] at cancelled
    have left := (sound.cancelled_iff ended).mp cancelled
    have entry := getElem?_entries batch batch.started
    rw [sound.plan_eq, List.getElem?_eq_getElem left, Option.map_some,
      sound.fateAt_of_le le_rfl] at entry
    cases imported _ (List.mem_of_getElem? entry)

end Sound

theorem faithful_of_isOver {client : Client} {keyIds : List String} {slots : Nat}
    {cancelRequested : Bool} (survived : Survived events)
    (ran : (initial { client.plan keyIds with slots } cancelRequested).run? events = some batch)
    (ended : batch.isOver = true) :
    Faithful client keyIds (initial { client.plan keyIds with slots } cancelRequested) events batch
      batch.started := by
  have sound := sound_of_run? survived ran
  have results := client.ensures_fetchAndImport
  refine
    { tried_le := sound.started_le, keyIds_entries := ?_, tried := ?_, untried := ?_
      untouched := ?_, cancelled_iff := sound.cancelled_iff ended
      progress_eq := sound.progress_outcome ended results, stopped := ?_
      isCompleteSuccess_iff := sound.isCompleteSuccess_outcome_iff ended }
  · rw [Batch.keyIds_entries, sound.plan_eq]
    rfl
  · intro position keyId tried listed
    exact sound.entry_of_lt ended results tried listed
  · intro position keyId untried listed
    exact sound.entry_of_le untried listed
  · intro mid passes position untried
    obtain ⟨⟨before, earlier⟩, after, rest⟩ := sound_of_passes survived ran passes
    have untouched := earlier.worker?_of_le ((started_le_of_run? rest).trans untried)
    rw [sending?, untouched]
    exact ⟨rfl, rfl⟩
  · intro mid passes cancelled
    obtain ⟨_, after, rest⟩ := sound_of_passes survived ran passes
    exact (started_eq_of_cancelled rest cancelled).symm

/-- Importing keys in a batch, with any number of slots that a batch can have.  The batch begins.
Whenever cancelling is asked for and in whatever order things happen, unless work on a key breaks off:
the batch can go on until it is over, and not forever, and its outcome is then faithful to the keys
that were tried, which are the first ones of the list. -/
theorem faithful_of_run (client : Client) (keyIds : List String) (limit : Nat)
    (fits : limit ≤ greatestSlots) (cancelRequested : Bool) :
    ∃ start,
      ofPlan? { client.plan keyIds with slots := max limit 1 } cancelRequested = some start ∧
      ∀ events batch, Survived events → start.run? events = some batch →
        Acc Onward batch ∧ (batch.isOver = false → ∃ next, Onward next batch) ∧
          (batch.isOver = true → ∃ m, Faithful client keyIds start events batch m) := by
  have begins : max limit 1 ≤ greatestSlots := max_le fits (by decide)
  refine ⟨_, if_pos begins, ?_⟩
  intro events batch survived ran
  have sound := sound_of_run? survived ran
  refine ⟨acc_onward sound, ?_, ?_⟩
  · intro unfinished
    refine exists_onward ?_ unfinished
    rw [sound.plan_eq]
    exact Nat.lt_of_lt_of_le Nat.one_pos (le_max_right limit 1)
  · intro ended
    exact ⟨batch.started, faithful_of_isOver survived ran ended⟩

/-- A key that is given twice, and a cancellation while the first is fetched. -/
theorem faithful_of_cancelled_run :
    let client : Client := ⟨Config.standard, "https://keys.openpgp.org"⟩
    let keyIds := ["0123456789ABCDEF", "0123456789ABCDEF"]
    let events : List Event :=
      [.check, .take, .start, .answer 0 .logged, .cancel,
        .answer 0 (.reply (.answer 200 armorHeader)), .answer 0 (.taken (.ok ())),
        .answer 0 .logged, .count 0, .check, .report 0]
    0 ≤ greatestSlots ∧ Survived events ∧ ∃ start batch,
      ofPlan? { client.plan keyIds with slots := max 0 1 } false = some start ∧
      start.run? events = some batch ∧ batch.isOver = true ∧
      batch.outcome.entries.map Import.Entry.fate = [.imported, .cancelled] ∧
      ∃ m, Faithful client keyIds start events batch m := by
  intro client keyIds events
  have survived : Survived events := by
    intro position member
    simp [events] at member
  have ends : ((ofPlan? { client.plan keyIds with slots := max 0 1 } false).bind fun start =>
      (start.run? events).map fun batch =>
        (batch.isOver, batch.outcome.entries.map Import.Entry.fate)) =
        some (true, [.imported, .cancelled]) := by
    decide +kernel
  obtain ⟨start, begun, faithful⟩ := faithful_of_run client keyIds 0 (Nat.zero_le _) false
  rw [begun, Option.bind_some] at ends
  obtain ⟨batch, ran, ends⟩ := Option.map_eq_some_iff.mp ends
  obtain ⟨closed, fates⟩ := Prod.mk.inj ends
  exact ⟨Nat.zero_le _, survived, start, batch, begun, ran, closed, fates,
    (faithful events batch survived ran).2.2 closed⟩

/-- With more slots than a batch can have no batch begins, and no run over the key says what has
become of it. -/
theorem no_outcome_of_crowded_limit :
    let client : Client := ⟨Config.standard, "https://keys.openpgp.org"⟩
    let plan := { client.plan ["0123456789ABCDEF"] with slots := max 18446744073709551615 1 }
    ofPlan? plan false = none ∧
      ¬∃ start events batch, ofPlan? plan false = some start ∧ start.run? events = some batch ∧
        batch.isOver = true ∧
        batch.outcome.entries.map Import.Entry.keyId = ["0123456789ABCDEF"] := by
  intro client plan
  have crowded : ofPlan? plan false = none := rfl
  refine ⟨crowded, ?_⟩
  rintro ⟨start, _, _, begun, _⟩
  rw [crowded] at begun
  cases begun

end Batch

end Vouch.Keyserver
