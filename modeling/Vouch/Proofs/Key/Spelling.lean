import Mathlib.Tactic
import Vouch.Proofs.Key.Name
import Vouch.Proofs.Text.Blank

/-!
The spellings of a name.

A name of digits may be spelled in either letter case, with `0x` before it and with blanks around and
between its digits.  These are the texts whose normal form is the name.
-/

namespace Vouch.Key

inductive Spaced : List Char → List Char → Prop
  | nil : Spaced [] []
  | blank {b : Char} {digits text : List Char} :
      Text.isBlank b = true → Spaced digits text → Spaced digits (b :: text)
  | digit {c d : Char} {digits text : List Char} :
      c.toUpper = d → Spaced digits text → Spaced (d :: digits) (c :: text)

/-- The text spells the name, which is in upper case: blanks, then perhaps `0x` or `0X`, then the
digits. -/
def Spells (name text : String) : Prop :=
  ∃ front mark body, text.toList = front ++ mark ++ body ∧
    (∀ c ∈ front, Text.isBlank c = true) ∧
    (mark = [] ∨ mark = ['0', 'x'] ∨ mark = ['0', 'X']) ∧ Spaced name.toList body

theorem toUpper_of_isBlank {c : Char} (blank : Text.isBlank c = true) : c.toUpper = c := by
  simp only [Text.isBlank, Bool.or_eq_true, Bool.and_eq_true, decide_eq_true_eq,
    beq_iff_eq] at blank
  unfold Char.toUpper
  rw [dif_neg]
  rintro ⟨low, high⟩
  have letter : 97 ≤ c.toNat ∧ c.toNat ≤ 122 := ⟨low, high⟩
  omega

/-- A digit of either case is no blank. -/
theorem solid_of_toUpper {c : Char} (digit : isCanonicalDigit c.toUpper = true) :
    Text.isBlank c = false := by
  by_contra blank
  rw [Bool.not_eq_false] at blank
  rw [toUpper_of_isBlank blank] at digit
  rw [isBlank_of_isCanonicalDigit c digit] at blank
  cases blank

theorem spaced_upper (cs : List Char) : Spaced ((Text.withoutBlanks cs).map Char.toUpper) cs := by
  induction cs with
  | nil => exact .nil
  | cons c rest ih =>
    by_cases blank : Text.isBlank c = true
    · have skipped : Text.withoutBlanks (c :: rest) = Text.withoutBlanks rest :=
        List.filter_cons_of_neg (by simp [blank])
      rw [skipped]
      exact .blank blank ih
    · have kept : Text.withoutBlanks (c :: rest) = c :: Text.withoutBlanks rest :=
        List.filter_cons_of_pos (by simp [blank])
      rw [kept]
      exact .digit rfl ih

theorem upper_of_spaced {digits text : List Char} (spaced : Spaced digits text)
    (canonical : ∀ d ∈ digits, isCanonicalDigit d = true) :
    (Text.withoutBlanks text).map Char.toUpper = digits := by
  induction spaced with
  | nil => rfl
  | @blank b digits text blank _ ih =>
    have skipped : Text.withoutBlanks (b :: text) = Text.withoutBlanks text :=
      List.filter_cons_of_neg (by simp [blank])
    rw [skipped, ih canonical]
  | @digit c d digits text upper _ ih =>
    obtain ⟨first, others⟩ := List.forall_mem_cons.mp canonical
    have kept : Text.withoutBlanks (c :: text) = c :: Text.withoutBlanks text :=
      List.filter_cons_of_pos (by simp [solid_of_toUpper (upper ▸ first)])
    rw [kept, List.map_cons, upper, ih others]

/-- A spelling holds blanks and digits only, so that none of it can be taken for a mark. -/
theorem plain_of_spaced {digits text : List Char} (spaced : Spaced digits text)
    (canonical : ∀ d ∈ digits, isCanonicalDigit d = true) :
    ∀ c ∈ text, Text.isBlank c = true ∨ isCanonicalDigit c.toUpper = true := by
  induction spaced with
  | nil => simp
  | blank blank _ ih => exact List.forall_mem_cons.mpr ⟨.inl blank, ih canonical⟩
  | digit upper _ ih =>
    obtain ⟨first, others⟩ := List.forall_mem_cons.mp canonical
    exact List.forall_mem_cons.mpr ⟨.inr (upper ▸ first), ih others⟩

theorem not_isMarked_of_plain {cs : List Char}
    (plain : ∀ c ∈ cs, Text.isBlank c = true ∨ isCanonicalDigit c.toUpper = true) :
    isMarked cs = false := by
  unfold isMarked
  split
  · exact absurd (plain 'x' (by simp)) (by decide)
  · exact absurd (plain 'X' (by simp)) (by decide)
  · rfl

theorem withoutMark_cases (cs : List Char) :
    cs = withoutMark cs ∨ cs = '0' :: 'x' :: withoutMark cs ∨ cs = '0' :: 'X' :: withoutMark cs := by
  unfold withoutMark
  split <;> simp

theorem trimChars_sublist (cs : List Char) : (Text.trimChars cs).Sublist cs := by
  have leading : Text.trimChars cs <+: Text.trimFront cs := List.rdropWhile_prefix _ _
  exact leading.sublist.trans (List.dropWhile_sublist _)

theorem withoutBlanks_trimChars (cs : List Char) :
    Text.withoutBlanks (Text.trimChars cs) = Text.withoutBlanks cs := by
  rw [Text.trimChars, Text.withoutBlanks_trimBack, Text.withoutBlanks_trimFront]

/-- Of a text with a mark in front, only the mark and blanks are taken away. -/
theorem withoutBlanks_of_mark {x : Char} (marks : x = 'x' ∨ x = 'X') (body : List Char) :
    Text.withoutBlanks (withoutMark (Text.trimChars ('0' :: x :: body))) =
      Text.withoutBlanks body := by
  have zero : Text.isBlank '0' = false := by decide
  have solid : Text.isBlank x = false := by
    obtain rfl | rfl := marks <;> decide
  have kept : Text.trimBack (['0'] ++ x :: body) = ['0'] ++ x :: Text.trimBack body :=
    Text.trimBack_append_cons solid
  have cut : withoutMark ('0' :: x :: Text.trimBack body) = Text.trimBack body := by
    obtain rfl | rfl := marks <;> rfl
  rw [Text.trimChars, Text.trimFront_cons zero, ← List.singleton_append, kept,
    List.singleton_append, cut, Text.withoutBlanks_trimBack]

theorem solid_normalChars (cs : List Char) : ∀ c ∈ normalChars cs, Text.isBlank c = false := by
  intro upper member
  obtain ⟨c, listed, rfl⟩ := List.mem_map.mp member
  rw [Text.isBlank_toUpper]
  exact Text.solid_of_mem_withoutBlanks listed

variable {name text : String}

theorem normal_of_spells (digits : IsDigits name) (spells : Spells name text) :
    normal text = name := by
  obtain ⟨front, mark, body, parts, blank, marked, spaced⟩ := spells
  have upper := upper_of_spaced spaced digits
  have front_gone : Text.trimChars (front ++ mark ++ body) = Text.trimChars (mark ++ body) := by
    rw [List.append_assoc, Text.trimChars, Text.trimFront_append blank, ← Text.trimChars]
  have solid_kept : Text.withoutBlanks (withoutMark (Text.trimChars (mark ++ body))) =
      Text.withoutBlanks body := by
    obtain rfl | rfl | rfl := marked
    · have unmarked : isMarked (Text.trimChars body) = false := by
        apply not_isMarked_of_plain
        intro c member
        exact plain_of_spaced spaced digits c ((trimChars_sublist body).subset member)
      rw [List.nil_append, withoutMark_of_not_isMarked unmarked, withoutBlanks_trimChars]
    · exact withoutBlanks_of_mark (.inl rfl) body
    · exact withoutBlanks_of_mark (.inr rfl) body
  apply String.toList_inj.mp
  rw [normal, String.toList_ofList, normalChars, parts, front_gone, solid_kept, upper]

theorem spells_normal (text : String) : Spells (normal text) text := by
  obtain ⟨front, front_blank, at_front⟩ := Text.exists_trimFront text.toList
  obtain ⟨back, back_blank, at_back⟩ := Text.exists_trimBack (Text.trimFront text.toList)
  rw [← Text.trimChars] at at_back
  have spaced : Spaced (normal text).toList (withoutMark (Text.trimChars text.toList) ++ back) := by
    have whole := spaced_upper (withoutMark (Text.trimChars text.toList) ++ back)
    rw [Text.withoutBlanks_append, Text.withoutBlanks_of_blank back_blank, List.append_nil] at whole
    rw [normal, String.toList_ofList]
    exact whole
  have parts : ∀ mark, Text.trimChars text.toList =
      mark ++ withoutMark (Text.trimChars text.toList) →
      text.toList = front ++ mark ++ (withoutMark (Text.trimChars text.toList) ++ back) := by
    intro mark marked
    calc
      text.toList
        = front ++ (Text.trimChars text.toList ++ back) := by rw [← at_back, ← at_front]
      _ = front ++ (mark ++ withoutMark (Text.trimChars text.toList) ++ back) := by rw [← marked]
      _ = front ++ mark ++ (withoutMark (Text.trimChars text.toList) ++ back) := by
        rw [List.append_assoc, List.append_assoc]
  obtain bare | small | capital := withoutMark_cases (Text.trimChars text.toList)
  · exact ⟨front, [], _, parts [] bare, front_blank, .inl rfl, spaced⟩
  · exact ⟨front, ['0', 'x'], _, parts _ small, front_blank, .inr (.inl rfl), spaced⟩
  · exact ⟨front, ['0', 'X'], _, parts _ capital, front_blank, .inr (.inr rfl), spaced⟩

theorem spells_iff (digits : IsDigits name) : Spells name text ↔ normal text = name := by
  constructor
  · exact normal_of_spells digits
  · rintro rfl
    exact spells_normal text

/-- Small letters of hexadecimal digits are followed by capital ones. -/
theorem isCanonicalDigit_toUpper {c : Char} (digit : Text.isHexDigit c = true) :
    isCanonicalDigit c.toUpper = true := by
  by_cases small : 'a' ≤ c ∧ c ≤ 'z'
  · have capital : ∀ n ≤ 102, 97 ≤ n → isCanonicalDigit (Char.ofNat n).toUpper = true := by decide
    have range : c.toNat ≤ 102 ∧ 97 ≤ c.toNat := by
      simp only [Text.isHexDigit, Char.isDigit, Bool.and_eq_true, Bool.or_eq_true,
        decide_eq_true_eq, Char.le_def, UInt32.le_iff_toNat_le, ge_iff_le] at digit small
      unfold Char.toNat
      change 97 ≤ c.val.toNat ∧ c.val.toNat ≤ 122 at small
      obtain (number | letter) | letter := digit
      · change 48 ≤ c.val.toNat ∧ c.val.toNat ≤ 57 at number
        omega
      · change 97 ≤ c.val.toNat ∧ c.val.toNat ≤ 102 at letter
        omega
      · change 65 ≤ c.val.toNat ∧ c.val.toNat ≤ 70 at letter
        omega
    rw [← Char.ofNat_toNat c]
    exact capital c.toNat range.1 range.2
  · have canonical : isCanonicalDigit c = true := by
      rw [isCanonicalDigit, digit, Bool.true_and, ← Bool.decide_and, Bool.not_eq_true',
        decide_eq_false_iff_not]
      exact small
    rwa [toUpper_of_isCanonicalDigit c canonical]

variable (digits : ∀ c ∈ name.toList, Text.isHexDigit c = true)
include digits

theorem isDigits_upper : IsDigits (Text.upper name) := by
  intro c member
  rw [Text.upper, String.toList_ofList] at member
  obtain ⟨d, there, rfl⟩ := List.mem_map.mp member
  exact isCanonicalDigit_toUpper (digits d there)

theorem normal_of_hexDigits : normal name = Text.upper name := by
  have solid : ∀ c ∈ name.toList, Text.isBlank c = false := by
    intro c member
    exact solid_of_toUpper (isCanonicalDigit_toUpper (digits c member))
  have kept : Text.withoutBlanks name.toList = name.toList := Text.withoutBlanks_of_solid solid
  have spaced : Spaced (Text.upper name).toList name.toList := by
    rw [Text.upper, String.toList_ofList]
    conv_lhs => rw [← kept]
    exact spaced_upper name.toList
  exact normal_of_spells (isDigits_upper digits)
    ⟨[], [], name.toList, rfl, by simp, .inl rfl, spaced⟩

end Vouch.Key
