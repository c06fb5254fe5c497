import Mathlib.Tactic
import Vouch.Decimal

/-!
Decimal digits and the numbers that they denote.

The digits of a number are read back as the number, also when zeros are put in front of them, and no
number but zero has digits that start with a zero.
-/

namespace Vouch.Decimal

def Denotes (cs : List Char) (n : Nat) : Prop :=
  ∃ sign digits, cs = sign ++ digits ∧ (sign = [] ∨ sign = ['+']) ∧ digits ≠ [] ∧
    (∀ c ∈ digits, c.isDigit = true) ∧ Nat.ofDigitChars 10 digits 0 = n

theorem ofDigits_eq_ofDigitChars (start : Nat) (cs : List Char) :
    ofDigits start cs = Nat.ofDigitChars 10 cs start := by
  rw [ofDigits, Nat.ofDigitChars]
  congr 1
  funext n c
  rw [Nat.mul_comm]
  rfl

theorem ofDigits_append (start : Nat) (cs ds : List Char) :
    ofDigits start (cs ++ ds) = ofDigits (ofDigits start cs) ds :=
  List.foldl_append

theorem ofDigits_eq_add (start : Nat) (cs : List Char) :
    ofDigits start cs = 10 ^ cs.length * start + ofDigits 0 cs := by
  rw [ofDigits_eq_ofDigitChars, ofDigits_eq_ofDigitChars, Nat.ofDigitChars_eq_ofDigitChars_zero]

theorem le_ofDigits (start : Nat) (cs : List Char) : start ≤ ofDigits start cs := by
  rw [ofDigits_eq_add]
  have scaled : start ≤ 10 ^ cs.length * start := Nat.le_mul_of_pos_left start (by positivity)
  omega

theorem digitValue_lt {c : Char} (digit : c.isDigit = true) : c.toNat - 48 < 10 := by
  rw [Char.isDigit, Bool.and_eq_true, decide_eq_true_eq, decide_eq_true_eq] at digit
  have range : 48 ≤ c.toNat ∧ c.toNat ≤ 57 := digit
  omega

theorem ofDigits_lt {cs : List Char} (digits : ∀ c ∈ cs, c.isDigit = true) :
    ofDigits 0 cs < 10 ^ cs.length := by
  induction cs with
  | nil => exact Nat.one_pos
  | cons c rest ih =>
    have later := ih fun d member => digits d (List.mem_cons_of_mem c member)
    have first := digitValue_lt (digits c List.mem_cons_self)
    have step : ofDigits 0 (c :: rest) = 10 ^ rest.length * (c.toNat - 48) + ofDigits 0 rest := by
      rw [← ofDigits_eq_add, ofDigits, ofDigits, List.foldl_cons, Nat.zero_mul, Nat.zero_add]
    have bound := Nat.mul_le_mul_left (10 ^ rest.length) (Nat.le_of_lt_succ first)
    rw [step, List.length_cons, Nat.pow_succ]
    omega

theorem ofDigits_digits (n : Nat) : ofDigits 0 (digits n) = n := by
  rw [ofDigits_eq_ofDigitChars]
  exact Nat.ofDigitChars_ten_toDigits

theorem isDigit_of_mem_digits {n : Nat} : ∀ c ∈ digits n, c.isDigit = true := by
  intro c member
  exact Nat.isDigit_of_mem_toDigits (Nat.succ_pos 9) le_rfl member

theorem digits_ne_nil (n : Nat) : digits n ≠ [] :=
  Nat.toDigits_ne_nil

theorem digits?_digits (n : Nat) : digits? (digits n) = some n := by
  have written : (!(digits n).isEmpty && (digits n).all Char.isDigit) = true := by
    rw [Bool.and_eq_true, Bool.not_eq_true', List.isEmpty_eq_false_iff, List.all_eq_true]
    exact ⟨digits_ne_nil n, isDigit_of_mem_digits⟩
  rw [digits?, if_pos written, ofDigits_digits]

theorem exists_digits_cons (n : Nat) : ∃ d ds, digits n = d :: ds ∧ d.isDigit = true := by
  obtain ⟨d, ds, written⟩ := List.exists_cons_of_ne_nil (digits_ne_nil n)
  exact ⟨d, ds, written, isDigit_of_mem_digits (n := n) d (written ▸ List.mem_cons_self)⟩

theorem digits?_eq_some_iff {cs : List Char} {n : Nat} : digits? cs = some n ↔
    cs ≠ [] ∧ (∀ c ∈ cs, c.isDigit = true) ∧ Nat.ofDigitChars 10 cs 0 = n := by
  rw [digits?, Option.ite_none_right_eq_some, Bool.and_eq_true, Bool.not_eq_true',
    List.isEmpty_eq_false_iff, List.all_eq_true, Option.some_inj, ofDigits_eq_ofDigitChars, and_assoc]

/-- Reading accepts all numbers that are written in digits and are not too large. -/
theorem natural?_eq_some_iff {limit n : Nat} {cs : List Char} :
    natural? limit cs = some n ↔ Denotes cs n ∧ n ≤ limit := by
  unfold natural?
  rw [Option.filter_eq_some_iff, decide_eq_true_eq]
  refine and_congr_left fun _ => ?_
  split
  case h_1 rest =>
    rw [digits?_eq_some_iff]
    constructor
    · exact fun written => ⟨['+'], rest, rfl, .inr rfl, written⟩
    · rintro ⟨sign, digits, parts, rfl | rfl, written⟩
      · rw [List.nil_append] at parts
        have digit := written.2.1 '+' (parts ▸ List.mem_cons_self)
        contradiction
      · rwa [List.cons.inj parts |>.2]
  case h_2 unsigned =>
    rw [digits?_eq_some_iff]
    constructor
    · exact fun written => ⟨[], cs, rfl, .inl rfl, written⟩
    · rintro ⟨sign, digits, parts, rfl | rfl, written⟩
      · rwa [parts]
      · exact absurd parts (unsigned digits)

/-- The digits of a number have no sign before them. -/
theorem digits_ne_cons {c : Char} (sign : c.isDigit = false) (n : Nat) (rest : List Char) :
    digits n ≠ c :: rest := by
  obtain ⟨d, ds, written, digit⟩ := exists_digits_cons n
  rw [written]
  rintro ⟨⟩
  rw [sign] at digit
  contradiction

theorem natural?_digits (limit n : Nat) :
    natural? limit (digits n) = if n ≤ limit then some n else none := by
  unfold natural?
  split
  case h_1 rest leading => exact absurd leading (digits_ne_cons (by decide) n rest)
  case h_2 => simp only [digits?_digits, Option.filter_some, decide_eq_true_eq]

theorem signed?_digits {n : Nat} (fits : (n : Int) ≤ maxI64) : signed? (digits n) = some (n : Int) := by
  have range : minI64 ≤ (n : Int) ∧ (n : Int) ≤ maxI64 := by
    unfold minI64
    omega
  unfold signed?
  split
  case h_1 rest leading => exact absurd leading (digits_ne_cons (by decide) n rest)
  case h_2 rest leading => exact absurd leading (digits_ne_cons (by decide) n rest)
  case h_3 =>
    rw [digits?_digits, Option.map_some, Option.filter_some]
    exact if_pos (by simpa using range)

theorem length_digits_le {n width : Nat} (positive : 0 < width) (fits : n < 10 ^ width) :
    (digits n).length ≤ width :=
  (Nat.length_toDigits_le_iff (by decide) positive).mpr fits

/-- A zero in front stands alone. -/
theorem eq_nil_of_digits_eq_zero_cons {n : Nat} {rest : List Char}
    (leading : digits n = '0' :: rest) : rest = [] := by
  have value := ofDigits_digits n
  have tail : ∀ c ∈ rest, c.isDigit = true := by
    intro c member
    exact isDigit_of_mem_digits (n := n) c (leading ▸ List.mem_cons_of_mem _ member)
  have small : n < 10 ^ rest.length := by
    have bound := ofDigits_lt tail
    rw [leading] at value
    change ofDigits 0 rest = n at value
    rwa [value] at bound
  cases rest with
  | nil => rfl
  | cons d ds =>
    have short := length_digits_le (Nat.succ_pos ds.length) small
    rw [leading, List.length_cons, List.length_cons] at short
    omega

theorem isDigit_of_mem_padded {width n : Nat} : ∀ c ∈ padded width n, c.isDigit = true := by
  intro c member
  obtain zeros | written := List.mem_append.mp member
  · rw [List.eq_of_mem_replicate zeros]
    rfl
  · exact isDigit_of_mem_digits c written

theorem ofDigits_padded (width n : Nat) : ofDigits 0 (padded width n) = n := by
  rw [padded, ofDigits_append, ofDigits_eq_ofDigitChars 0, Nat.ofDigitChars_replicate_zero,
    Nat.mul_zero, ofDigits_digits]

theorem length_padded {width n : Nat} (positive : 0 < width) (fits : n < 10 ^ width) :
    (padded width n).length = width := by
  have short := length_digits_le positive fits
  rw [padded, List.length_append, List.length_replicate]
  omega

theorem padded_ne_nil (width n : Nat) : padded width n ≠ [] := by
  rw [padded]
  exact List.append_ne_nil_of_right_ne_nil _ (digits_ne_nil n)

end Vouch.Decimal
