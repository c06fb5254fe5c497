import Mathlib.Tactic

/-!
Steps that succeed: what each of them has come to.
-/

namespace Vouch

theorem ok_of_bind {ε α β : Type} {first : Except ε α} {next : α → Except ε β} {b : β}
    (bound : first >>= next = .ok b) : ∃ a, first = .ok a ∧ next a = .ok b := by
  cases first with
  | error problem => cases bound
  | ok a => exact ⟨a, rfl, bound⟩

theorem ok_of_toOption {ε α : Type} {step : Except ε α} {a : α} (found : step.toOption = some a) :
    step = .ok a := by
  cases step with
  | error problem => cases found
  | ok other =>
    cases found
    rfl

theorem forall₂_of_mapM {ε α β : Type} {step : α → Except ε β} {items : List α} {results : List β}
    (mapped : items.mapM step = .ok results) :
    List.Forall₂ (fun item result => step item = .ok result) items results := by
  induction items generalizing results with
  | nil =>
    cases mapped
    exact .nil
  | cons item rest ih =>
    rw [List.mapM_cons] at mapped
    obtain ⟨first, here, mapped⟩ := ok_of_bind mapped
    obtain ⟨others, later, mapped⟩ := ok_of_bind mapped
    cases mapped
    exact .cons here (ih later)

theorem forall₂_of_mapM_some {α β : Type} {step : α → Option β} {items : List α}
    {results : List β} (mapped : items.mapM step = some results) :
    List.Forall₂ (fun item result => step item = some result) items results := by
  induction items generalizing results with
  | nil =>
    cases mapped
    exact .nil
  | cons item rest ih =>
    rw [List.mapM_cons] at mapped
    obtain ⟨first, here, mapped⟩ := Option.bind_eq_some_iff.mp mapped
    obtain ⟨others, later, mapped⟩ := Option.bind_eq_some_iff.mp mapped
    cases mapped
    exact .cons here (ih later)

theorem length_of_mapM {α β : Type} {step : α → Option β} {items : List α} {results : List β}
    (mapped : items.mapM step = some results) : results.length = items.length :=
  (forall₂_of_mapM_some mapped).length_eq.symm

theorem exists_of_mapM_of_mem {α β : Type} {step : α → Option β} {items : List α}
    {results : List β} (mapped : items.mapM step = some results) {a : α} (listed : a ∈ items) :
    ∃ b, step a = some b := by
  have each := forall₂_of_mapM_some mapped
  clear mapped
  induction each with
  | nil => cases listed
  | cons here _ ih =>
    obtain rfl | later := List.mem_cons.mp listed
    · exact ⟨_, here⟩
    · exact ih later

theorem exists_of_mem_mapM {α β : Type} {step : α → Option β} {items : List α} {results : List β}
    (mapped : items.mapM step = some results) {b : β} (listed : b ∈ results) :
    ∃ a ∈ items, step a = some b := by
  have each := forall₂_of_mapM_some mapped
  clear mapped
  induction each with
  | nil => cases listed
  | cons here _ ih =>
    obtain rfl | later := List.mem_cons.mp listed
    · exact ⟨_, List.mem_cons_self, here⟩
    · obtain ⟨a, member, stands⟩ := ih later
      exact ⟨a, List.mem_cons_of_mem _ member, stands⟩

end Vouch
