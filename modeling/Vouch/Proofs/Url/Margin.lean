import Mathlib.Data.List.DropRight
import Mathlib.Tactic
import Vouch.Url.Basic

/-!
Blanks and control characters around a URL.

They are passed over, unless something else is written behind them.  Then only the tabs and line
breaks among them are.
-/

namespace Vouch.Url

theorem ne_of_isMargin {c d : Char} (margin : isMargin c = true) (solid : isMargin d = false) :
    c ≠ d := by
  rintro rfl
  rw [margin] at solid
  cases solid

theorem not_le_of_isMargin {c : Char} (margin : isMargin c = true) {least : UInt32}
    (large : 32 < least.toNat) : ¬least ≤ c.val := by
  intro le
  have small : c.toNat ≤ 32 := of_decide_eq_true margin
  exact absurd (UInt32.le_iff_toNat_le.mp le) (not_le.mpr (small.trans_lt large))

theorem isDigit_of_isMargin {c : Char} (margin : isMargin c = true) : c.isDigit = false := by
  simp [Char.isDigit, not_le_of_isMargin margin (show 32 < (48 : UInt32).toNat by decide)]

theorem endsHost_of_isMargin {c : Char} (margin : isMargin c = true) :
    endsHost .web c = false := by
  have apart {d : Char} (solid : isMargin d = false) : c ≠ d := ne_of_isMargin margin solid
  simp [endsHost, isSlash, apart (show isMargin '/' = false by decide),
    apart (show isMargin '\\' = false by decide), apart (show isMargin '?' = false by decide),
    apart (show isMargin '#' = false by decide)]

theorem not_isSlash {c : Char} (unended : endsHost .web c = false) : isSlash .web c = false := by
  simp only [endsHost, Bool.or_eq_false_iff] at unended
  exact unended.1.1

/-! ### Characters that matter -/

/-- The characters of a text that matter when others follow. -/
def body (s : String) : List Char :=
  (s.toList.dropWhile isMargin).filter (!isBreak ·)

def margin (s : String) : List Char :=
  (s.toList.rtakeWhile isMargin).filter (!isBreak ·)

theorem head_dropWhile {p : Char → Bool} {cs : List Char} :
    ∀ c ∈ (cs.dropWhile p).head?, p c = false := by
  intro c first
  have head := List.head?_dropWhile_not p cs
  rw [Option.mem_def.mp first] at head
  simpa using head

theorem isMargin_of_isBreak {c : Char} (breaks : isBreak c = true) : isMargin c = true := by
  simp only [isBreak, Bool.or_eq_true, beq_iff_eq] at breaks
  obtain (rfl | rfl) | rfl := breaks <;> rfl

theorem filter_solid {cs : List Char} (solid : ∀ c ∈ cs, isMargin c = false) :
    cs.filter (!isBreak ·) = cs := by
  rw [List.filter_eq_self]
  intro c member
  by_contra breaks
  have blank := isMargin_of_isBreak (by simpa using breaks)
  rw [solid c member] at blank
  cases blank

theorem dropWhile_append_cons {c : Char} (solid : isMargin c = false) (cs tail : List Char) :
    (cs ++ c :: tail).dropWhile isMargin = cs.dropWhile isMargin ++ c :: tail := by
  rw [List.dropWhile_append]
  split_ifs with gone
  · rw [List.isEmpty_iff.mp gone, List.dropWhile_cons_of_neg (by simp [solid]), List.nil_append]
  · rfl

theorem relevant_append (s tail : String) (inhabited : tail.toList ≠ [])
    (solid : ∀ c ∈ tail.toList, isMargin c = false) :
    relevant (s ++ tail) = body s ++ tail.toList := by
  have ends : (s.toList.dropWhile isMargin ++ tail.toList).rdropWhile isMargin =
      s.toList.dropWhile isMargin ++ tail.toList := by
    rw [List.rdropWhile_eq_self_iff]
    intro some_char
    rw [List.getLast_append_of_ne_nil _ inhabited, solid _ (List.getLast_mem inhabited)]
    exact Bool.false_ne_true
  have starts : (s.toList ++ tail.toList).dropWhile isMargin =
      s.toList.dropWhile isMargin ++ tail.toList := by
    obtain ⟨c, cs, parts⟩ := List.exists_cons_of_ne_nil inhabited
    rw [parts]
    exact dropWhile_append_cons (solid c (parts ▸ List.mem_cons_self)) _ _
  unfold relevant
  rw [String.toList_append, starts]
  change ((s.toList.dropWhile isMargin ++ tail.toList).rdropWhile isMargin).filter _ = _
  rw [ends, List.filter_append, filter_solid solid]
  rfl

theorem rtakeWhile_append_cons {c : Char} (solid : isMargin c = false) (before after : List Char) :
    (before ++ c :: after).rtakeWhile isMargin = after.rtakeWhile isMargin := by
  unfold List.rtakeWhile
  rw [List.reverse_append, List.reverse_cons, List.append_assoc, List.singleton_append,
    List.takeWhile_append]
  split_ifs with whole
  · have all : after.reverse.takeWhile isMargin = after.reverse :=
      (List.takeWhile_prefix isMargin).eq_of_length whole
    rw [List.takeWhile_cons_of_neg (by simp [solid]), List.append_nil, all]
  · rfl

theorem body_eq {s : String} (inhabited : relevant s ≠ []) : body s = relevant s ++ margin s := by
  have some_left : s.toList.dropWhile isMargin ≠ [] := by
    intro none_left
    rw [relevant, none_left] at inhabited
    exact inhabited rfl
  obtain ⟨c, cs, left⟩ := List.exists_cons_of_ne_nil some_left
  have solid : isMargin c = false := head_dropWhile c (by rw [left]; rfl)
  have same : s.toList.rtakeWhile isMargin = (c :: cs).rtakeWhile isMargin := by
    rw [← List.takeWhile_append_dropWhile (p := isMargin) (l := s.toList), left,
      rtakeWhile_append_cons solid]
    exact (rtakeWhile_append_cons solid [] cs).symm
  unfold body relevant margin
  rw [left, same]
  change _ = ((c :: cs).rdropWhile isMargin).filter _ ++ _
  rw [← List.filter_append, List.rdropWhile_append_rtakeWhile]

theorem isMargin_of_mem_margin {s : String} {c : Char} (listed : c ∈ margin s) :
    isMargin c = true := by
  have blank := List.mem_rtakeWhile_imp (List.mem_filter.mp listed).1
  exact blank

theorem mem_of_mem_relevant {s : String} {c : Char} (listed : c ∈ relevant s) : c ∈ s.toList := by
  have inner := List.mem_reverse.mp (List.mem_filter.mp listed).1
  have kept := List.mem_reverse.mp ((List.dropWhile_suffix _).subset inner)
  exact (List.dropWhile_suffix _).subset kept

/-- What stands before a character that matters does not depend on what follows it. -/
theorem relevant_of_append_cons {s : String} {before after : List Char} {mark : Char}
    (parts : s.toList = before ++ mark :: after) (solid : isMargin mark = false) :
    ∃ rest, relevant s = (before.dropWhile isMargin).filter (!isBreak ·) ++ mark :: rest := by
  have kept : isBreak mark = false := by
    by_contra breaks
    rw [isMargin_of_isBreak (by simpa using breaks)] at solid
    cases solid
  unfold relevant
  rw [parts, dropWhile_append_cons solid, List.reverse_append, List.reverse_cons, List.append_assoc,
    List.singleton_append, dropWhile_append_cons solid]
  refine ⟨(after.reverse.dropWhile isMargin).reverse.filter (!isBreak ·), ?_⟩
  simp [kept]

end Vouch.Url
