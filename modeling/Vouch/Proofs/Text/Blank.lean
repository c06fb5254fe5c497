import Mathlib.Data.List.DropRight
import Mathlib.Tactic
import Vouch.Text.Blank

/-!
Blanks at the ends of a text.

Trimming takes away blanks only, all that stand at an end, and stops at the first other character.
-/

namespace Vouch.Text

variable {cs front back : List Char} {c : Char}

theorem isBlank_of_isDigit (digit : c.isDigit = true) : isBlank c = false := by
  rw [Char.isDigit, Bool.and_eq_true, decide_eq_true_eq, decide_eq_true_eq] at digit
  have range : 48 ≤ c.toNat ∧ c.toNat ≤ 57 := digit
  simp only [isBlank, Bool.or_eq_false_iff, Bool.and_eq_false_iff, decide_eq_false_iff_not,
    beq_eq_false_iff_ne]
  omega

/-- What holds of the small letters, and of all that is its own capital letter, holds of every
character. -/
theorem toUpper_cases {motive : Char → Prop}
    (letters : ∀ n ≤ 122, 97 ≤ n → motive (Char.ofNat n))
    (others : ∀ c : Char, c.toUpper = c → motive c) (c : Char) : motive c := by
  by_cases small : 97 ≤ c.toNat ∧ c.toNat ≤ 122
  · rw [← Char.ofNat_toNat c]
    exact letters c.toNat small.2 small.1
  · apply others
    unfold Char.toUpper
    exact dif_neg small

theorem isBlank_toUpper (c : Char) : isBlank c.toUpper = isBlank c := by
  induction c using toUpper_cases with
  | letters => decide +revert
  | others c kept => rw [kept]

theorem toUpper_toUpper (c : Char) : c.toUpper.toUpper = c.toUpper := by
  induction c using toUpper_cases with
  | letters => decide +revert
  | others c kept => rw [kept, kept]

theorem trimFront_append (blank : ∀ c ∈ front, isBlank c = true) :
    trimFront (front ++ cs) = trimFront cs :=
  List.dropWhile_append_of_pos blank

theorem trimFront_cons (solid : isBlank c = false) : trimFront (c :: cs) = c :: cs := by
  rw [trimFront, List.dropWhile_cons, solid, if_neg Bool.false_ne_true]

theorem trimBack_append (blank : ∀ c ∈ back, isBlank c = true) :
    trimBack (cs ++ back) = trimBack cs := by
  have blank' : ∀ c ∈ back.reverse, isBlank c = true := by
    intro c member
    exact blank c (List.mem_reverse.mp member)
  rw [trimBack, trimBack, List.reverse_append, List.dropWhile_append_of_pos blank']

/-- Nothing before the last solid character is lost. -/
theorem trimBack_append_cons (solid : isBlank c = false) :
    trimBack (cs ++ c :: back) = cs ++ c :: trimBack back := by
  have stop : (c :: back).reverse.dropWhile isBlank = back.reverse.dropWhile isBlank ++ [c] := by
    rw [List.reverse_cons, List.dropWhile_append]
    split_ifs with gone
    · rw [List.isEmpty_iff.mp gone, List.dropWhile_cons, solid, if_neg Bool.false_ne_true]
      rfl
    · rfl
  have left : ((c :: back).reverse.dropWhile isBlank).isEmpty = false := by
    rw [stop]
    simp
  rw [trimBack, List.reverse_append, List.dropWhile_append, left, if_neg Bool.false_ne_true, stop]
  simp [trimBack]

theorem trimBack_of_solid (solid : ∀ c ∈ cs, isBlank c = false) : trimBack cs = cs := by
  change List.rdropWhile isBlank cs = cs
  apply List.rdropWhile_eq_self_iff.mpr
  intro inhabited
  rw [solid _ (List.getLast_mem inhabited)]
  exact Bool.false_ne_true

theorem trimChars_of_solid (solid : ∀ c ∈ cs, isBlank c = false) : trimChars cs = cs := by
  have front : trimFront cs = cs := by
    cases cs with
    | nil => rfl
    | cons c rest => exact trimFront_cons (solid c List.mem_cons_self)
  rw [trimChars, front, trimBack_of_solid solid]

theorem withoutBlanks_of_blank (blank : ∀ c ∈ cs, isBlank c = true) : withoutBlanks cs = [] := by
  apply List.filter_eq_nil_iff.mpr
  intro c member
  rw [blank c member]
  exact Bool.false_ne_true

theorem withoutBlanks_of_solid (solid : ∀ c ∈ cs, isBlank c = false) : withoutBlanks cs = cs := by
  apply List.filter_eq_self.mpr
  intro c member
  rw [solid c member, Bool.not_false]

theorem solid_of_mem_withoutBlanks (member : c ∈ withoutBlanks cs) : isBlank c = false := by
  have kept := (List.mem_filter.mp member).2
  rwa [Bool.not_eq_true'] at kept

theorem withoutBlanks_append (cs ds : List Char) :
    withoutBlanks (cs ++ ds) = withoutBlanks cs ++ withoutBlanks ds :=
  List.filter_append cs ds

theorem exists_trimFront (cs : List Char) :
    ∃ front, (∀ c ∈ front, isBlank c = true) ∧ cs = front ++ trimFront cs :=
  ⟨cs.takeWhile isBlank, fun _ member => List.mem_takeWhile_imp member,
    List.takeWhile_append_dropWhile.symm⟩

theorem exists_trimBack (cs : List Char) :
    ∃ back, (∀ c ∈ back, isBlank c = true) ∧ cs = trimBack cs ++ back := by
  refine ⟨(cs.reverse.takeWhile isBlank).reverse, ?_, ?_⟩
  · exact fun c member => List.mem_takeWhile_imp (List.mem_reverse.mp member)
  · rw [trimBack, ← List.reverse_append, List.takeWhile_append_dropWhile, List.reverse_reverse]

theorem withoutBlanks_trimFront (cs : List Char) :
    withoutBlanks (trimFront cs) = withoutBlanks cs := by
  obtain ⟨front, blank, parts⟩ := exists_trimFront cs
  conv_rhs => rw [parts, withoutBlanks_append, withoutBlanks_of_blank blank, List.nil_append]

theorem withoutBlanks_trimBack (cs : List Char) :
    withoutBlanks (trimBack cs) = withoutBlanks cs := by
  obtain ⟨back, blank, parts⟩ := exists_trimBack cs
  conv_rhs => rw [parts, withoutBlanks_append, withoutBlanks_of_blank blank, List.append_nil]

end Vouch.Text
