import Mathlib.Tactic
import Vouch.Proofs.Decimal
import Vouch.Proofs.Json.Grammar

/-!
Strings and numbers are scanned as what they were written for.

A string is read back however its characters are spelled, and a whole number of at most 64 bits is read
as that number, provided that no character follows that a number could go on with.
-/

namespace Vouch.Json

/-! ### Strings -/

theorem length_le_byteCount (cs : List Char) : cs.length ≤ byteCount cs := by
  have counted : ∀ (cs : List Char) (n : Nat),
      n + cs.length ≤ cs.foldl (fun n c => n + c.utf8Size) n := by
    intro cs
    induction cs with
    | nil => exact fun n => le_rfl
    | cons c rest ih =>
      intro n
      have positive := c.utf8Size_pos
      have later := ih (n + c.utf8Size)
      rw [List.foldl_cons, List.length_cons]
      omega
  simpa [byteCount] using counted cs 0

theorem hexUnit_of_unit? {digits : List Char} {n : Nat} (number : unit? digits = some n)
    (offset : Nat) (rest : List Char) :
    hexUnit offset (digits ++ rest) = .ok (n, offset + 4, rest) := by
  unfold unit? at number
  split_ifs at number with four
  obtain ⟨values, read, rfl⟩ := Option.map_eq_some_iff.mp number
  have taken : (digits ++ rest).take 4 = digits := by rw [← four, List.take_left]
  have dropped : (digits ++ rest).drop 4 = rest := by rw [← four, List.drop_left]
  have enough := length_le_byteCount digits
  rw [hexUnit, taken, dropped, if_neg (by omega), read]

structure Escape (c : Char) (tail : List Char) : Prop where
  read : ∀ offset rest, ∃ stop, escape offset (tail ++ rest) = .ok (c, stop, rest)

theorem escape_of_short {c letter : Char} (named : shortEscape? c = some letter) :
    Escape c [letter] := by
  refine ⟨fun offset rest => ⟨offset + 1, ?_⟩⟩
  unfold shortEscape? at named
  split at named <;> cases named <;> rfl

theorem escape_of_unit {c : Char} {digits : List Char} (number : unit? digits = some c.toNat) :
    Escape c ('u' :: digits) := by
  refine ⟨fun offset rest => ⟨offset + 1 + 4, ?_⟩⟩
  have valid := c.valid
  change c.toNat < 0xD800 ∨ 0xDFFF < c.toNat ∧ c.toNat < 0x110000 at valid
  rw [List.cons_append, escape, hexUnit_of_unit? number]
  dsimp only [bind, Except.bind]
  rw [if_neg (by omega), if_neg (by omega), Char.ofNat_toNat]
  rfl

theorem escape_of_pair {high low : Nat} {highDigits lowDigits : List Char}
    (highNumber : unit? highDigits = some high) (isHigh : 0xD800 ≤ high ∧ high ≤ 0xDBFF)
    (lowNumber : unit? lowDigits = some low) (isLow : 0xDC00 ≤ low ∧ low ≤ 0xDFFF) :
    Escape (paired high low) ('u' :: highDigits ++ '\\' :: 'u' :: lowDigits) := by
  refine ⟨fun offset rest => ⟨offset + 1 + 4 + 2 + 4, ?_⟩⟩
  simp only [List.cons_append, List.append_assoc]
  rw [escape, hexUnit_of_unit? highNumber]
  dsimp only [bind, Except.bind]
  rw [if_neg (by omega), if_pos isHigh, lowSurrogate, hexUnit_of_unit? lowNumber]
  dsimp only [bind, Except.bind]
  rw [if_pos isLow]
  rfl

theorem spelling_cases {c : Char} {spelled : List Char} (spelling : Spelling c spelled) :
    (spelled = [c] ∧ 32 ≤ c.toNat ∧ c ≠ '"' ∧ c ≠ '\\') ∨
      ∃ tail, spelled = '\\' :: tail ∧ Escape c tail := by
  cases spelling with
  | plain printable unquoted unescaped => exact .inl ⟨rfl, printable, unquoted, unescaped⟩
  | short named => exact .inr ⟨_, rfl, escape_of_short named⟩
  | slash => exact .inr ⟨_, rfl, ⟨fun offset rest => ⟨offset + 1, rfl⟩⟩⟩
  | unit number => exact .inr ⟨_, rfl, escape_of_unit number⟩
  | pair highNumber isHigh lowNumber isLow =>
    exact .inr ⟨_, rfl, escape_of_pair highNumber isHigh lowNumber isLow⟩

/-- Each character takes a step and at least one place, so the steps that a text allows are enough. -/
theorem stringBody_of_body {cs text : List Char} (body : Body cs text) (rest : List Char) :
    ∀ steps offset, (text ++ '"' :: rest).length ≤ steps →
      ∃ stop, stringBody steps offset (text ++ '"' :: rest) = .ok (cs, stop, rest) := by
  induction body with
  | nil =>
    intro steps offset _
    exact ⟨offset + 1, by rw [List.nil_append, stringBody]⟩
  | @cons c cs spelled more first others ih =>
    intro steps offset enough
    cases steps with
    | zero => simp at enough
    | succ steps =>
      obtain ⟨rfl, printable, unquoted, unescaped⟩ | ⟨tail, rfl, escaped⟩ := spelling_cases first
      · have fewer : (more ++ '"' :: rest).length ≤ steps := by
          simp only [List.length_append, List.length_cons, List.length_nil] at enough ⊢
          omega
        obtain ⟨stop, read⟩ := ih steps (offset + c.utf8Size) fewer
        refine ⟨stop, ?_⟩
        rw [List.append_assoc, List.singleton_append, stringBody.eq_5 _ _ _ _ unquoted unescaped,
          if_neg (not_lt.mpr printable), read]
        rfl
      · have fewer : (more ++ '"' :: rest).length ≤ steps := by
          simp only [List.length_append, List.length_cons] at enough ⊢
          omega
        obtain ⟨after, unescaped⟩ := escaped.read (offset + 1) (more ++ '"' :: rest)
        obtain ⟨stop, read⟩ := ih steps after fewer
        refine ⟨stop, ?_⟩
        rw [List.append_assoc, List.cons_append, stringBody, unescaped]
        dsimp only [bind, Except.bind]
        rw [read]
        rfl

/-- A string is read as the characters that it was written for. -/
theorem scanString_of_body {s : String} {text : List Char} (body : Body s.toList text)
    (offset : Nat) (rest : List Char) :
    ∃ stop, scanString offset (text ++ '"' :: rest) = .good s stop rest := by
  obtain ⟨stop, read⟩ := stringBody_of_body body rest _ offset le_rfl
  refine ⟨stop, ?_⟩
  rw [scanString, read]
  simp [Except.map, Scanned.of, String.ofList_toList]

/-! ### Numbers -/

def Ends (rest : List Char) : Prop :=
  ∀ c ∈ rest.head?, c.isDigit = false ∧ c ≠ '.' ∧ c ≠ 'e' ∧ c ≠ 'E'

theorem takeWhile_of_ends {rest : List Char} (ends : Ends rest) :
    rest.takeWhile Char.isDigit = [] := by
  cases rest with
  | nil => rfl
  | cons c rest => rw [List.takeWhile_cons, (ends c rfl).1, if_neg Bool.false_ne_true]

theorem significand_of_digits {ds rest : List Char} (digits : ∀ c ∈ ds, c.isDigit = true)
    (ends : Ends rest) {start : Nat} (fits : Decimal.ofDigits start ds ≤ Decimal.maxU64) :
    significand start (ds ++ rest) = (Decimal.ofDigits start ds, ds.length, rest) := by
  induction ds generalizing start with
  | nil =>
    cases rest with
    | nil => rfl
    | cons c rest =>
      rw [List.nil_append, significand, (ends c rfl).1, if_neg Bool.false_ne_true]
      rfl
  | cons d ds ih =>
    have first := digits d List.mem_cons_self
    have next : start * 10 + (d.toNat - 48) ≤ Decimal.maxU64 :=
      (Decimal.le_ofDigits _ ds).trans fits
    have later := ih (fun c member => digits c (List.mem_cons_of_mem d member)) fits
    rw [List.cons_append, significand, if_pos first]
    dsimp only
    rw [if_pos next, later]
    rfl

theorem magnitude_of_digits {n : Nat} (fits : n ≤ Decimal.maxU64) {rest : List Char}
    (ends : Ends rest) (negative : Bool) (offset : Nat) :
    ∃ stop, magnitude negative offset (Decimal.digits n ++ rest) =
      .ok (whole negative n, stop, rest) := by
  have digits := Decimal.isDigit_of_mem_digits (n := n)
  have all : (Decimal.digits n ++ rest).takeWhile Char.isDigit = Decimal.digits n := by
    rw [List.takeWhile_append_of_pos digits, takeWhile_of_ends ends, List.append_nil]
  have value_fits : Decimal.ofDigits 0 (Decimal.digits n) ≤ Decimal.maxU64 := by
    rw [Decimal.ofDigits_digits]
    exact fits
  have read := significand_of_digits digits ends value_fits
  rw [Decimal.ofDigits_digits] at read
  refine ⟨offset + (Decimal.digits n).length, ?_⟩
  cases written : Decimal.digits n with
  | nil => exact absurd written (Decimal.digits_ne_nil n)
  | cons d ds =>
    rw [written] at all read digits
    have first : d.isDigit = true := digits d List.mem_cons_self
    have unpadded : (d == '0' && (ds ++ rest).head?.any Char.isDigit) = false := by
      rw [Bool.and_eq_false_iff, or_iff_not_imp_left, Bool.not_eq_false, beq_iff_eq]
      rintro rfl
      rw [Decimal.eq_nil_of_digits_eq_zero_cons written, List.nil_append]
      cases follow : rest.head? with
      | none => rfl
      | some c => exact (ends c follow).1
    have dropped : (d :: (ds ++ rest)).drop (d :: ds).length = rest := List.drop_left
    rw [List.cons_append] at all read ⊢
    unfold magnitude
    dsimp only
    rw [first, unpadded, all, read, dropped]
    cases rest with
    | nil => simp
    | cons c rest =>
      obtain ⟨_, point, small, capital⟩ := ends c rfl
      simp [point, small, capital]

theorem scanNumber_of_chars {n : Int} (least : Decimal.minI64 ≤ n) (greatest : n ≤ Decimal.maxU64)
    {rest : List Char} (ends : Ends rest) (offset : Nat) :
    ∃ stop, scanNumber offset (Decimal.chars n ++ rest) = .good (.whole n) stop rest := by
  cases n with
  | ofNat n =>
    have fits : n ≤ Decimal.maxU64 := Int.ofNat_le.mp greatest
    obtain ⟨stop, read⟩ := magnitude_of_digits fits ends false offset
    refine ⟨stop, ?_⟩
    have unsigned : ∀ more, Decimal.digits n ++ rest = '-' :: more → False := by
      intro more signed
      obtain ⟨d, ds, written, digit⟩ := Decimal.exists_digits_cons n
      rw [written, List.cons_append] at signed
      cases signed
      cases digit
    rw [Decimal.chars, scanNumber.eq_2 _ _ unsigned, read]
    rfl
  | negSucc n =>
    have small : n + 1 ≤ 9223372036854775808 := by
      rw [Decimal.minI64] at least
      omega
    have fits : n + 1 ≤ Decimal.maxU64 := by
      rw [Decimal.maxU64]
      omega
    obtain ⟨stop, read⟩ := magnitude_of_digits fits ends true (offset + 1)
    refine ⟨stop, ?_⟩
    rw [Decimal.chars, List.cons_append, scanNumber, read]
    have exact_whole : whole true (n + 1) = .whole (Int.negSucc n) := by
      have beyond : ¬(n + 1 = 0 ∨ Nat.pow 2 63 < n + 1) := by
        change ¬(n + 1 = 0 ∨ 9223372036854775808 < n + 1)
        omega
      rw [whole, Bool.not_true, if_neg Bool.false_ne_true, if_neg beyond]
      rfl
    rw [exact_whole]
    rfl

end Vouch.Json
