import Mathlib.Tactic
import Vouch.Time.Stamp
import Vouch.Proofs.Decimal
import Vouch.Proofs.Except
import Vouch.Proofs.Text.Blank
import Vouch.Proofs.Time.Date

/-!
The text of an instant is read back as the instant.

This holds in all years that an instant can lie in, with or without a sign, and for every number of
nanoseconds.  A clock shows a leap second at the end of a minute as its second 60; anywhere else it
would show the second after it, so such instants cannot be told.  No stamp denotes one of them:
reading a stamp gives an instant that a clock shows.
-/

namespace Vouch.Time

open Decimal (padded)

namespace Stamp

theorem trimFront_digits {ds : List Char} (some_digits : ds ≠ [])
    (digits : ∀ c ∈ ds, c.isDigit = true) (rest : List Char) :
    Text.trimFront (ds ++ rest) = ds ++ rest := by
  cases ds with
  | nil => exact absurd rfl some_digits
  | cons d ds => exact Text.trimFront_cons (Text.isBlank_of_isDigit (digits d List.mem_cons_self))

def Stops (rest : List Char) : Prop :=
  ∀ c ∈ rest.head?, c.isDigit = false

theorem takeWhile_digits {ds rest : List Char} (digits : ∀ c ∈ ds, c.isDigit = true)
    (stops : Stops rest) : (ds ++ rest).takeWhile Char.isDigit = ds := by
  rw [List.takeWhile_append_of_pos digits]
  cases rest with
  | nil => rw [List.takeWhile_nil, List.append_nil]
  | cons c rest =>
    rw [List.takeWhile_cons_of_neg (by simp [stops c rfl]), List.append_nil]

section
variable {ds rest : List Char} (some_digits : ds ≠ [])
  (fits : (Decimal.ofDigits 0 ds : Int) ≤ Decimal.maxI64)
include some_digits fits

theorem number_of_taken {width : Option Nat}
    (taken : (width.elim (ds ++ rest) (ds ++ rest).take).takeWhile Char.isDigit = ds) :
    number width (ds ++ rest) = .ok (Decimal.ofDigits 0 ds, rest) := by
  have inhabited : ds ++ rest ≠ [] := List.append_ne_nil_of_left_ne_nil some_digits rest
  cases width <;>
  · dsimp only [Option.elim] at taken
    unfold number
    dsimp only
    rw [taken, if_neg some_digits, if_pos fits, List.drop_left]
    split
    · contradiction
    · rfl

variable (digits : ∀ c ∈ ds, c.isDigit = true)
include digits

theorem number_unbounded (stops : Stops rest) :
    number none (ds ++ rest) = .ok (Decimal.ofDigits 0 ds, rest) :=
  number_of_taken some_digits fits (takeWhile_digits digits stops)

/-- A number that is as wide as it may be can be followed by anything. -/
theorem number_bounded {width : Nat} (room : ds.length ≤ width)
    (stops : Stops rest ∨ ds.length = width) :
    number (some width) (ds ++ rest) = .ok (Decimal.ofDigits 0 ds, rest) := by
  apply number_of_taken some_digits fits
  dsimp only [Option.elim]
  rw [List.take_append, List.take_of_length_le room]
  apply takeWhile_digits digits
  obtain stops | rfl := stops
  · intro c first
    rw [List.head?_take] at first
    split at first
    · cases first
    · exact stops c first
  · intro c first
    rw [Nat.sub_self, List.take_zero] at first
    cases first

end

theorem fits_of_lt {width n : Nat} (short : width ≤ 18) (small : n < 10 ^ width) :
    (n : Int) ≤ Decimal.maxI64 := by
  have bound : 10 ^ width ≤ 10 ^ 18 := Nat.pow_le_pow_right (by decide) short
  have large : n < 10 ^ 18 := lt_of_lt_of_le small bound
  change (n : Int) ≤ 9223372036854775807
  omega

theorem number_padded {width n : Nat} (positive : 0 < width) (short : width ≤ 18)
    (small : n < 10 ^ width) (rest : List Char) :
    number (some width) (padded width n ++ rest) = .ok (n, rest) := by
  have same := Decimal.length_padded positive small
  have fits := fits_of_lt short small
  rw [← Decimal.ofDigits_padded width n] at fits
  rw [number_bounded (Decimal.padded_ne_nil width n) fits Decimal.isDigit_of_mem_padded same.le
    (.inr same), Decimal.ofDigits_padded]

theorem trimFront_padded (width n : Nat) (rest : List Char) :
    Text.trimFront (padded width n ++ rest) = padded width n ++ rest :=
  trimFront_digits (Decimal.padded_ne_nil width n) Decimal.isDigit_of_mem_padded rest

theorem field_padded {least greatest n : Nat} (bounds : least ≤ n ∧ n ≤ greatest)
    (two_digits : greatest ≤ 99) (rest : List Char) :
    field least greatest (padded 2 n ++ rest) = .ok (n, rest) := by
  have small : n < 10 ^ 2 := by omega
  rw [field, trimFront_padded, number_padded (by decide) (by decide) small]
  simp only [bind, Except.bind, within, if_pos bounds, pure, Except.pure]

theorem mark_cons {c : Char} (solid : Text.isBlank c = false) (rest : List Char) :
    mark c (c :: rest) = .ok rest := by
  rw [mark, Text.trimFront_cons solid]
  dsimp only
  rw [if_pos rfl]

theorem year_yearChars {y : Int} (range : -262143 ≤ y ∧ y ≤ 262142) {rest : List Char}
    (stops : Stops rest) : year (yearChars y ++ rest) = .ok (y, rest) := by
  have small : -2147483648 ≤ y ∧ y ≤ 2147483647 := by omega
  have fits : (Decimal.ofDigits 0 (padded 4 y.natAbs) : Int) ≤ Decimal.maxI64 := by
    rw [Decimal.ofDigits_padded]
    change (y.natAbs : Int) ≤ 9223372036854775807
    omega
  have signed := number_unbounded (Decimal.padded_ne_nil 4 y.natAbs) fits
    Decimal.isDigit_of_mem_padded stops
  rw [Decimal.ofDigits_padded] at signed
  rw [yearChars]
  by_cases plain : 0 ≤ y ∧ y ≤ 9999
  · -- Four digits are all that is taken without a sign, whatever comes after them.
    have four : y.toNat < 10 ^ 4 := by omega
    have read := number_padded (by decide) (by decide) four rest
    have value : (y.toNat : Int) = y := by omega
    obtain ⟨d, ds, written⟩ := List.exists_cons_of_ne_nil (Decimal.padded_ne_nil 4 y.toNat)
    have digit : d.isDigit = true :=
      Decimal.isDigit_of_mem_padded d (written ▸ List.mem_cons_self)
    rw [if_pos plain, year, trimFront_padded]
    rw [written, List.cons_append] at read ⊢
    split
    · rename_i same
      cases same
      cases digit
    · rename_i same
      cases same
      cases digit
    · simp only [read, Except.map, bind, Except.bind, value, if_pos small, pure, Except.pure]
  · rw [if_neg plain]
    by_cases negative : y < 0
    · have value : -(y.natAbs : Int) = y := by omega
      rw [if_pos negative, year, List.cons_append, Text.trimFront_cons (by decide)]
      simp only [signed, Except.map, bind, Except.bind, value, if_pos small, pure, Except.pure]
    · have value : (y.natAbs : Int) = y := by omega
      rw [if_neg negative, year, List.cons_append, Text.trimFront_cons (by decide)]
      simp only [signed, Except.map, bind, Except.bind, value, if_pos small, pure, Except.pure]

theorem stops_cons {c : Char} (other : c.isDigit = false) (rest : List Char) : Stops (c :: rest) := by
  intro d first
  cases first
  exact other

theorem fraction_point {width n : Nat} (positive : 0 < width) (short : width ≤ 9)
    (small : n < 10 ^ width) {rest : List Char} (stops : Stops rest) :
    fraction ('.' :: padded width n ++ rest) = .ok (n * 10 ^ (9 - width), rest) := by
  have same := Decimal.length_padded positive small
  have fits := fits_of_lt (short.trans (by decide)) small
  rw [← Decimal.ofDigits_padded width n] at fits
  have read := number_bounded (Decimal.padded_ne_nil width n) fits Decimal.isDigit_of_mem_padded
    (same.le.trans short) (.inl stops)
  rw [Decimal.ofDigits_padded] at read
  have passed : rest.dropWhile Char.isDigit = rest := by
    cases rest with
    | nil => rfl
    | cons c rest => rw [List.dropWhile_cons_of_neg (by simp [stops c rfl])]
  rw [List.cons_append, fraction]
  simp only [read, bind, Except.bind, pure, Except.pure, passed, List.length_append, same,
    Nat.add_sub_cancel, Nat.pow_eq]

theorem fraction_fractionChars {nanos : Nat} (small : nanos < 1000000000) :
    fraction (fractionChars nanos ++ ['Z']) = .ok (nanos, ['Z']) := by
  have stops : Stops ['Z'] := stops_cons (by decide) []
  unfold fractionChars
  split_ifs with none_at_all thousandths millionths
  · rw [none_at_all]
    rfl
  · rw [fraction_point (by decide) (by decide) (by omega) stops]
    congr 2
    omega
  · rw [fraction_point (by decide) (by decide) (by omega) stops]
    congr 2
    omega
  · rw [fraction_point (by decide) (by decide) (by omega) stops]
    congr 2
    omega

structure Shown (r : Reading) : Prop where
  year : -262143 ≤ r.date.year ∧ r.date.year ≤ 262142
  date : r.date.isValid = true
  hour : r.hour ≤ 23
  minute : r.minute ≤ 59
  second : r.second ≤ 60
  nanos : r.nanos < 1000000000

theorem read_chars {r : Reading} (shown : Shown r) :
    read (r.date.chars ++ 'T' :: r.clockChars ++ fractionChars r.nanos ++ ['Z']) = resolve r 0 := by
  have date := shown.date
  simp only [Date.isValid, Bool.and_eq_true, decide_eq_true_eq] at date
  obtain ⟨⟨⟨least_month, greatest_month⟩, least_day⟩, greatest_day⟩ := date
  have day_le : r.date.day ≤ 31 := greatest_day.trans (Date.daysIn_le _ _)
  have year_read := fun rest => year_yearChars shown.year
    (stops_cons (show '-'.isDigit = false by decide) rest)
  have month_read := field_padded ⟨least_month, greatest_month⟩ (show 12 ≤ 99 by decide)
  have day_read := field_padded ⟨least_day, day_le⟩ (show 31 ≤ 99 by decide)
  have hour_read := field_padded ⟨Nat.zero_le _, shown.hour⟩ (show 23 ≤ 99 by decide)
  have minute_read := field_padded ⟨Nat.zero_le _, shown.minute⟩ (show 59 ≤ 99 by decide)
  have second_read := field_padded ⟨Nat.zero_le _, shown.second⟩ (show 60 ≤ 99 by decide)
  have hyphen := mark_cons (show Text.isBlank '-' = false by decide)
  have colon := mark_cons (show Text.isBlank ':' = false by decide)
  simp only [Date.chars, Reading.clockChars, List.append_assoc, List.cons_append]
  simp only [read, bind, Except.bind, pure, Except.pure, year_read, hyphen, month_read, day_read,
    hour_read, colon, minute_read, second_read, fraction_fractionChars shown.nanos]
  rfl

/-- A leap second is a billion nanoseconds more in the second before it. -/
theorem resolve_reading {r : Reading} (shown : Shown r) {t : Instant}
    (seconds : r.toSeconds - (if r.second = 60 then 1 else 0) = t.seconds)
    (nanos : r.nanos + (if r.second = 60 then 1000000000 else 0) = t.nanos) :
    resolve r 0 = .ok t := by
  have year : yearInRange r.date.year = true := by
    simpa [yearInRange] using shown.year
  simp only [resolve, year, shown.date, Int.sub_zero, seconds, nanos, t.in_range,
    t.nanos_lt]
  rfl

end Stamp

/-- A clock shows the instant: it lies in no leap second, or in one at the end of a minute. -/
def Instant.IsTellable (t : Instant) : Prop :=
  t.nanos < 1000000000 ∨ t.seconds % 60 = 59

theorem Instant.shown (t : Instant) : Stamp.Shown t.reading := by
  obtain ⟨least, greatest⟩ := t.in_range
  have fewer := t.nanos_lt
  unfold firstSecond at least
  unfold lastSecond at greatest
  have day : -96465292 ≤ t.seconds / 86400 ∧ t.seconds / 86400 ≤ 95026236 := by omega
  have second := Reading.second_ofSeconds t.seconds t.nanos
  exact
    { year := Date.year_ofDayNumber day
      date := Date.isValid_ofDayNumber _
      hour := Nat.le_of_lt_succ (Reading.hour_ofSeconds_lt _ _)
      minute := Nat.le_of_lt_succ (Reading.minute_ofSeconds_lt _ _)
      second := by rw [Instant.reading, second]; omega
      nanos := Nat.mod_lt _ (by decide) }

/-- The text of an instant that a clock shows denotes the instant. -/
theorem Instant.read_text_of_isTellable {t : Instant} (tellable : t.IsTellable) :
    Instant.read t.text = .ok t := by
  have fewer := t.nanos_lt
  have seconds : t.reading.toSeconds = t.seconds + (t.nanos / 1000000000 : Nat) :=
    Reading.toSeconds_ofSeconds _ _
  have second : t.reading.second = (t.seconds % 60).toNat + t.nanos / 1000000000 :=
    Reading.second_ofSeconds _ _
  have nanos : t.reading.nanos = t.nanos % 1000000000 := rfl
  rw [Instant.read, Instant.text, String.toList_ofList, Instant.chars,
    Stamp.read_chars (Instant.shown t)]
  apply Stamp.resolve_reading (Instant.shown t)
  all_goals
    unfold IsTellable at tellable
    split_ifs <;> omega

/-- Outside leap seconds, the text of an instant denotes the instant. -/
theorem Instant.read_text {t : Instant} (regular : t.nanos < 1000000000) :
    Instant.read t.text = .ok t :=
  read_text_of_isTellable (.inl regular)

namespace Stamp

/-- A bounded number takes its digits from the front and is as large as they allow. -/
theorem number_lt {width n : Nat} {cs rest : List Char}
    (taken : number (some width) cs = .ok (n, rest)) :
    ∃ digits, cs = digits ++ rest ∧ digits.length ≤ width ∧ n < 10 ^ digits.length := by
  obtain ⟨digits, same⟩ : ∃ digits, digits = (cs.take width).takeWhile Char.isDigit := ⟨_, rfl⟩
  unfold number at taken
  simp only [← same] at taken
  split at taken
  case h_1 => cases taken
  case h_2 =>
    split_ifs at taken with none fits
    cases taken
    have leading : digits <+: cs.take width := same ▸ List.takeWhile_prefix _
    have all_digits : ∀ c ∈ digits, c.isDigit = true := by
      rw [same]
      exact fun c member => List.mem_takeWhile_imp member
    exact ⟨digits, (List.prefix_iff_eq_append.mp (leading.trans (List.take_prefix _ _))).symm,
      leading.length_le.trans (List.length_take_le _ _), Decimal.ofDigits_lt all_digits⟩

theorem fraction_lt {cs rest : List Char} {nanos : Nat} (taken : fraction cs = .ok (nanos, rest)) :
    nanos < 1000000000 := by
  unfold fraction at taken
  split at taken
  case h_2 =>
    cases taken
    decide
  case h_1 point =>
    obtain ⟨⟨n, after⟩, counted, taken⟩ := ok_of_bind taken
    obtain ⟨digits, rfl, room, small⟩ := number_lt counted
    cases taken
    rw [List.length_append, Nat.add_sub_cancel, Nat.pow_eq]
    calc
      n * 10 ^ (9 - digits.length) < 10 ^ digits.length * 10 ^ (9 - digits.length) :=
        Nat.mul_lt_mul_of_pos_right small (by positivity)
      _ = 10 ^ 9 := by rw [← Nat.pow_add, Nat.add_sub_cancel' room]

theorem span_mod {cs rest : List Char} {n : Nat} (taken : span cs = .ok (n, rest)) :
    n % 60 = 0 := by
  unfold span at taken
  obtain ⟨⟨⟨a, b⟩, rest⟩, _, taken⟩ := ok_of_bind taken
  obtain ⟨⟨⟨c, d⟩, rest⟩, _, taken⟩ := ok_of_bind taken
  dsimp only at taken
  split_ifs at taken
  cases taken
  omega

/-- Offsets come in minutes, and so a leap second stays at the end of a minute. -/
theorem offset_emod {cs rest : List Char} {east : Int} (taken : offset cs = .ok (east, rest)) :
    east % 60 = 0 := by
  have signed {sign : Nat → Int} {spanned : List Char} (whole : ∀ n, n % 60 = 0 → sign n % 60 = 0)
      (taken : (span spanned >>= fun a => pure (sign a.1, a.2)) = Except.ok (east, rest)) :
      east % 60 = 0 := by
    obtain ⟨a, spanned, taken⟩ := ok_of_bind taken
    cases taken
    exact whole a.1 (span_mod spanned)
  have eastward (n : Nat) (whole : n % 60 = 0) : (n : Int) % 60 = 0 := by omega
  have westward (n : Nat) (whole : n % 60 = 0) : -(n : Int) % 60 = 0 := by omega
  unfold offset at taken
  dsimp only at taken
  split at taken
  · split_ifs at taken
    · cases taken
      rfl
    · split at taken
      all_goals first
        | exact signed eastward taken
        | exact signed westward taken
        | (cases taken <;> rfl)
  · split at taken
    all_goals first
      | exact signed eastward taken
      | exact signed westward taken
      | (cases taken <;> rfl)

theorem isTellable_of_resolve {r : Reading} {east : Int} {t : Instant}
    (nanos : r.nanos < 1000000000) (minutes : east % 60 = 0) (resolved : resolve r east = .ok t) :
    t.IsTellable := by
  unfold resolve at resolved
  split_ifs at resolved with wrong far
  dsimp only at resolved
  by_cases leap : r.second = 60
  · simp only [leap, if_true] at resolved
    split_ifs at resolved
    cases resolved
    right
    dsimp only
    unfold Reading.toSeconds
    omega
  · simp only [leap, if_false] at resolved
    split_ifs at resolved
    cases resolved
    exact .inl nanos

theorem isTellable_of_read {cs : List Char} {t : Instant} (denotes : read cs = .ok t) :
    t.IsTellable := by
  unfold read at denotes
  obtain ⟨⟨year, rest⟩, _, denotes⟩ := ok_of_bind denotes
  obtain ⟨rest, _, denotes⟩ := ok_of_bind denotes
  obtain ⟨⟨month, rest⟩, _, denotes⟩ := ok_of_bind denotes
  obtain ⟨rest, _, denotes⟩ := ok_of_bind denotes
  obtain ⟨⟨day, rest⟩, _, denotes⟩ := ok_of_bind denotes
  dsimp only at denotes
  split at denotes
  case h_4 => cases denotes
  case h_5 => cases denotes
  all_goals
    obtain ⟨rest, _, denotes⟩ := ok_of_bind denotes
    obtain ⟨⟨hour, rest⟩, _, denotes⟩ := ok_of_bind denotes
    obtain ⟨rest, _, denotes⟩ := ok_of_bind denotes
    obtain ⟨⟨minute, rest⟩, _, denotes⟩ := ok_of_bind denotes
    obtain ⟨rest, _, denotes⟩ := ok_of_bind denotes
    obtain ⟨⟨second, rest⟩, _, denotes⟩ := ok_of_bind denotes
    obtain ⟨⟨nanos, rest⟩, fraction_taken, denotes⟩ := ok_of_bind denotes
    obtain ⟨⟨east, rest⟩, offset_taken, denotes⟩ := ok_of_bind denotes
    dsimp only at denotes
    split_ifs at denotes
    · cases denotes
    exact isTellable_of_resolve (fraction_lt fraction_taken) (offset_emod offset_taken) denotes

end Stamp

/-- What a stamp denotes can be told again. -/
theorem Instant.isTellable_of_read {stamp : String} {t : Instant} (denotes : read stamp = .ok t) :
    t.IsTellable :=
  Stamp.isTellable_of_read denotes

end Vouch.Time
