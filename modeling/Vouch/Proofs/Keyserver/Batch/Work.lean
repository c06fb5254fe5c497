import Mathlib.Tactic
import Vouch.Proofs.Keyserver.Batch.Place
import Vouch.Proofs.Keyserver.Client
import Vouch.Proofs.Keyserver.Outcome

/-!
What the work on a key of a batch does with the outside.

Whatever a worker sends asks for its own key, and whatever it hands to the importer is a key that the
server sent for it.  This is so in every state of every run, whether or not work breaks off.
-/

namespace Vouch.Keyserver.Batch

variable {events : List Event} {event : Event} {batch : Batch} {position : Nat} {client : Client}
  {keyIds : List String} {slots : Nat} {cancelRequested : Bool}

theorem answersTo_concat (position : Nat) (events : List Event) (event : Event) :
    answersTo position (events ++ [event]) =
      answersTo position events ++ (event.answerTo? position).toList := by
  rw [answersTo, List.filterMap_append, ← answersTo]
  cases given : event.answerTo? position with
  | none => rw [List.filterMap_cons_none given]; rfl
  | some answer => rw [List.filterMap_cons_some given]; rfl

theorem answerTo?_eq_some_iff {answer : Job.Answer} :
    event.answerTo? position = some answer ↔ event = .answer position answer := by
  cases event with
  | answer own given =>
    rw [Event.answerTo?]
    split_ifs with same
    · simp [same]
    · simp [same]
  | _ => simp [Event.answerTo?]

theorem mem_answersTo_iff {answer : Job.Answer} :
    answer ∈ answersTo position events ↔ .answer position answer ∈ events := by
  rw [answersTo, List.mem_filterMap]
  constructor
  · rintro ⟨event, listed, given⟩
    rwa [answerTo?_eq_some_iff.mp given] at listed
  · intro listed
    exact ⟨_, listed, answerTo?_eq_some_iff.mpr rfl⟩

theorem mem_replies_iff {reply : Reply} :
    reply ∈ Job.replies (answersTo position events) ↔ .answer position (.reply reply) ∈ events := by
  rw [← mem_answersTo_iff, Job.replies, List.mem_filterMap]
  constructor
  · rintro ⟨answer, listed, given⟩
    cases answer <;> cases given
    exact listed
  · intro listed
    exact ⟨_, listed, rfl⟩

theorem mem_takings_iff {answer : Except Problem Unit} :
    answer ∈ Job.takings (answersTo position events) ↔
      .answer position (.taken answer) ∈ events := by
  rw [← mem_answersTo_iff, Job.takings, List.mem_filterMap]
  constructor
  · rintro ⟨given, listed, taken⟩
    cases given <;> cases taken
    exact listed
  · intro listed
    exact ⟨_, listed, rfl⟩

theorem request_of_sending?
    (ran : (initial { client.plan keyIds with slots } cancelRequested).run? events = some batch)
    {request : Request} (sending : batch.sending? position = some request) :
    ∃ keyId, keyIds[position]? = some keyId ∧ client.request (.key (termFor keyId)) = .ok request := by
  unfold sending? at sending
  split at sending
  case h_2 => cases sending
  case h_1 found =>
    cases sending
    obtain ⟨_, _, ⟨keyId, listed, reached⟩, _⟩ := (standing_of_run? ran position).of_worker? found
    exact ⟨keyId, listed, Client.request_of_run? reached⟩

def delivering? (batch : Batch) (position : Nat) : Option (String × String) :=
  match batch.worker? position with
  | some ⟨_, .working (.deliver keyId armored _)⟩ => some (keyId, armored)
  | _ => none

/-- The importer is given nothing but a key that the server sent for the key ID. -/
theorem delivery_of_delivering?
    (ran : (initial { client.plan keyIds with slots } cancelRequested).run? events = some batch)
    {name armored : String} (delivering : batch.delivering? position = some (name, armored)) :
    keyIds[position]? = some name ∧ Text.mentions armored armorHeader = true ∧
      Job.takings (answersTo position events) = [] ∧
      ∃ status, isSuccess status = true ∧
        .answer status armored ∈ Job.replies (answersTo position events) := by
  unfold delivering? at delivering
  split at delivering
  case h_2 => cases delivering
  case h_1 found =>
    cases delivering
    obtain ⟨_, _, ⟨keyId, listed, reached⟩, _⟩ := (standing_of_run? ran position).of_worker? found
    obtain ⟨rfl, received⟩ := Client.delivery_of_run? reached
    exact ⟨listed, received⟩

theorem untaken_of_delivering?
    (ran : (initial { client.plan keyIds with slots } cancelRequested).run? events = some batch)
    {name armored : String} (delivering : batch.delivering? position = some (name, armored))
    (answer : Except Problem Unit) : .answer position (.taken answer) ∉ events := by
  intro taken
  obtain ⟨_, _, none_taken, _⟩ := delivery_of_delivering? ran delivering
  rw [← mem_takings_iff, none_taken] at taken
  cases taken

/-- The importer is given nothing twice, whether or not the work on the key breaks off. -/
theorem takings_le_of_run?
    (ran : (initial { client.plan keyIds with slots } cancelRequested).run? events = some batch)
    (position : Nat) : (Job.takings (answersTo position events)).length ≤ 1 := by
  refine history_of_run? (fun events _ => (Job.takings (answersTo position events)).length ≤ 1) ?_ ?_
    ran
  · exact Nat.zero_le _
  · intro before event mid next ran happens bound
    cases happens with
    | answer own answer worker found job rest working answered =>
      by_cases same : own = position
      · subst same
        obtain ⟨_, _, ⟨keyId, _, reached⟩, _⟩ := (standing_of_run? ran own).of_worker? found
        rw [working] at reached
        have got : Event.answerTo? own (.answer own answer) = some answer := if_pos rfl
        rw [answersTo_concat, got, Job.takings, List.filterMap_append, ← Job.takings, List.length_append]
        cases answer with
        | taken given =>
          -- Only a delivery is answered like this, and nothing was delivered before it.
          cases job with
          | deliver name armored more =>
            obtain ⟨_, _, none_taken, _⟩ := Client.delivery_of_run? reached
            rw [none_taken]
            exact le_rfl
          | _ => cases answered
        | _ => exact bound
      · have silent : Event.answerTo? position (.answer own answer) = none := if_neg same
        rw [answersTo_concat_of_none silent]
        exact bound
    | _ =>
      rw [answersTo_concat_of_none rfl]
      exact bound

end Vouch.Keyserver.Batch
