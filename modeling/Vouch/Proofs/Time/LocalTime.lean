import Mathlib.Tactic
import Vouch.Proofs.Decimal
import Vouch.Proofs.Text.Line
import Vouch.Proofs.Time.Calendar
import Vouch.Proofs.Time.Date
import Vouch.Time.Zone

/-!
Local times read back.

The text of a local time is a date, a time of day and an offset from universal time.  Its instant is
found by counting the days of the date and taking off the offset.  This gives back the instant that was
written, in every year and also where the local date lies beyond the years of all instants.
-/

namespace Vouch.Time

open Decimal (padded)

structure LocalTime where
  date : Date
  hour : Nat
  minute : Nat
  second : Nat
  /-- How far local time is ahead of universal time, in seconds. -/
  east : Int
  deriving DecidableEq, Repr

namespace LocalTime

structure IsProper (shown : LocalTime) : Prop where
  date : shown.date.isValid = true
  hour : shown.hour < 24
  minute : shown.minute < 60
  second : shown.second < 60

def seconds (shown : LocalTime) : Int :=
  86400 * shown.date.count + 3600 * shown.hour + 60 * shown.minute + shown.second - shown.east

def number? (width : Nat) (wide : Bool) (cs : List Char) : Option Nat :=
  if cs.length = width ∨ wide = true ∧ width ≤ cs.length then Decimal.digits? cs else none

def civil? (signed : Bool) (cs : List Char) : Option Date :=
  match Text.pieces '-' cs with
  | [year, month, day] => do
    return ⟨← number? 4 signed year, ← number? 2 false month, ← number? 2 false day⟩
  | _ => none

def date? (cs : List Char) : Option Date :=
  match cs with
  | '-' :: rest => (civil? true rest).map fun d => { d with year := -d.year }
  | '+' :: rest => civil? true rest
  | _ => civil? false cs

def clock? (cs : List Char) : Option (Nat × Nat × Nat) :=
  match Text.pieces ':' cs with
  | [hour, minute, second] => do
    return (← number? 2 false hour, ← number? 2 false minute, ← number? 2 false second)
  | _ => none

def span? (cs : List Char) : Option Int :=
  match Text.pieces ':' cs with
  | [hours, minutes] => do
    return 3600 * (← number? 2 true hours : Nat) + 60 * (← number? 2 false minutes : Nat)
  | _ => none

def offset? (cs : List Char) : Option Int :=
  match cs with
  | '+' :: rest => span? rest
  | '-' :: rest => (span? rest).map Neg.neg
  | _ => none

/-- What a text tells of a local time: a date, a time of day and an offset with blanks between them. -/
def read? (text : String) : Option LocalTime :=
  match Text.pieces ' ' text.toList with
  | [date, clock, offset] => do
    let date ← date? date
    let (hour, minute, second) ← clock? clock
    return ⟨date, hour, minute, second, ← offset? offset⟩
  | _ => none

theorem digits?_padded (width n : Nat) : Decimal.digits? (padded width n) = some n := by
  rw [Decimal.digits?_eq_some_iff, ← Decimal.ofDigits_eq_ofDigitChars]
  exact ⟨Decimal.padded_ne_nil width n, Decimal.isDigit_of_mem_padded,
    Decimal.ofDigits_padded width n⟩

theorem number?_narrow {width n : Nat} (positive : 0 < width) (fits : n < 10 ^ width) (wide : Bool) :
    number? width wide (padded width n) = some n := by
  rw [number?, if_pos (.inl (Decimal.length_padded positive fits)), digits?_padded]

theorem number?_wide (width n : Nat) : number? width true (padded width n) = some n := by
  have long : width ≤ (padded width n).length := by
    rw [padded, List.length_append, List.length_replicate]
    omega
  rw [number?, if_pos (.inr ⟨rfl, long⟩), digits?_padded]

theorem not_mem_padded {c : Char} (other : c.isDigit = false) (width n : Nat) :
    c ∉ padded width n := by
  intro member
  rw [Decimal.isDigit_of_mem_padded c member] at other
  contradiction

section
variable {c : Char} (other : c.isDigit = false)
include other

theorem pieces_padded (width n : Nat) : Text.pieces c (padded width n) = [padded width n] :=
  Text.pieces_of_not_mem (not_mem_padded other width n)

theorem pieces_padded_cons (width n : Nat) (rest : List Char) :
    Text.pieces c (padded width n ++ c :: rest) = padded width n :: Text.pieces c rest := by
  rw [Text.pieces_append_cons, pieces_padded other, List.singleton_append]

end

theorem civil?_of_year {signed : Bool} {year : Nat} (told : number? 4 signed (padded 4 year) = some year)
    {month day : Nat} (months : month < 10 ^ 2) (days : day < 10 ^ 2) :
    civil? signed (padded 4 year ++ '-' :: padded 2 month ++ '-' :: padded 2 day) =
      some ⟨year, month, day⟩ := by
  have hyphen : '-'.isDigit = false := by decide
  rw [civil?, List.append_assoc, List.cons_append, pieces_padded_cons hyphen,
    pieces_padded_cons hyphen, pieces_padded hyphen]
  simp only [told, number?_narrow (by decide) months, number?_narrow (by decide) days]
  rfl

theorem date?_of_digit {cs : List Char} (first : ∀ c ∈ cs.head?, c.isDigit = true) :
    date? cs = civil? false cs := by
  unfold date?
  split
  · exact absurd (first '-' rfl) (by decide)
  · exact absurd (first '+' rfl) (by decide)
  · rfl

theorem head_padded {width n : Nat} {rest : List Char} :
    ∀ c ∈ (padded width n ++ rest).head?, c.isDigit = true := by
  intro c first
  rw [List.head?_append_of_ne_nil _ (Decimal.padded_ne_nil width n)] at first
  exact Decimal.isDigit_of_mem_padded c (List.mem_of_mem_head? first)

theorem date?_chars {d : Date} (valid : d.isValid = true) : date? d.chars = some d := by
  obtain ⟨year, month, day⟩ := d
  simp only [Date.isValid, Bool.and_eq_true, decide_eq_true_eq] at valid
  obtain ⟨⟨⟨-, greatest⟩, -⟩, last⟩ := valid
  have months : month < 10 ^ 2 := by omega
  have days : day < 10 ^ 2 := by
    have bound := Date.daysIn_le year month
    omega
  have signed := fun n => civil?_of_year (number?_wide 4 n) months days
  rw [Date.chars, yearChars]
  by_cases plain : 0 ≤ year ∧ year ≤ 9999
  · have four : year.toNat < 10 ^ 4 := by omega
    have value : (year.toNat : Int) = year := by omega
    rw [if_pos plain, List.append_assoc, date?_of_digit head_padded, ← List.append_assoc,
      civil?_of_year (number?_narrow (by decide) four false) months days, value]
  · rw [if_neg plain]
    by_cases negative : year < 0
    · have value : -(year.natAbs : Int) = year := by omega
      rw [if_pos negative]
      change (civil? true (padded 4 year.natAbs ++ _ ++ _)).map _ = _
      rw [signed, Option.map_some, value]
    · have value : (year.natAbs : Int) = year := by omega
      rw [if_neg negative]
      change civil? true (padded 4 year.natAbs ++ _ ++ _) = _
      rw [signed, value]

theorem clock?_chars {r : Reading} (hour : r.hour < 10 ^ 2) (minute : r.minute < 10 ^ 2)
    (second : r.second < 10 ^ 2) : clock? r.clockChars = some (r.hour, r.minute, r.second) := by
  have colon : ':'.isDigit = false := by decide
  rw [clock?, Reading.clockChars, List.append_assoc, List.cons_append, pieces_padded_cons colon,
    pieces_padded_cons colon, pieces_padded colon]
  simp only [number?_narrow (by decide) hour, number?_narrow (by decide) minute,
    number?_narrow (by decide) second]
  rfl

theorem span?_padded (hours : Nat) {minutes : Nat} (fits : minutes < 10 ^ 2) :
    span? (padded 2 hours ++ ':' :: padded 2 minutes) =
      some (3600 * (hours : Int) + 60 * (minutes : Int)) := by
  have colon : ':'.isDigit = false := by decide
  rw [span?, pieces_padded_cons colon, pieces_padded colon]
  simp only [number?_wide, number?_narrow (by decide) fits]
  rfl

/-- An offset of whole minutes is written without loss. -/
theorem offset?_chars (minutes : Int) :
    offset? (Zone.offsetChars ⟨60 * minutes⟩) = some (60 * minutes) := by
  have whole : ((60 * minutes).natAbs + 30) / 60 = minutes.natAbs := by omega
  have fits : minutes.natAbs % 60 < 10 ^ 2 := by omega
  have told := span?_padded (minutes.natAbs / 60) fits
  rw [Zone.offsetChars, whole]
  by_cases west : 60 * minutes < 0
  · rw [if_pos west]
    change (span? (padded 2 _ ++ ':' :: padded 2 _)).map _ = _
    rw [told, Option.map_some]
    congr 1
    omega
  · rw [if_neg west]
    change span? (padded 2 _ ++ ':' :: padded 2 _) = _
    rw [told]
    congr 1
    omega

theorem blank_not_mem_dateChars (d : Date) : ' ' ∉ d.chars := by
  have digits := not_mem_padded (show ' '.isDigit = false by decide)
  rw [Date.chars, yearChars]
  split
  · simp [digits]
  · split <;> simp [digits]

theorem blank_not_mem_clockChars (r : Reading) : ' ' ∉ r.clockChars := by
  have digits := not_mem_padded (show ' '.isDigit = false by decide)
  simp [Reading.clockChars, digits]

theorem blank_not_mem_offsetChars (z : Zone) : ' ' ∉ z.offsetChars := by
  have digits := not_mem_padded (show ' '.isDigit = false by decide)
  rw [Zone.offsetChars]
  split <;> simp [digits]

theorem pieces_text (z : Zone) (t : Instant) : Text.pieces ' ' (z.text t).toList =
    [(z.reading t).date.chars, (z.reading t).clockChars, z.offsetChars] := by
  rw [Zone.text, String.toList_ofList, Reading.plainChars, List.append_assoc, List.cons_append,
    Text.pieces_append_cons, Text.pieces_append_cons,
    Text.pieces_of_not_mem (blank_not_mem_dateChars _),
    Text.pieces_of_not_mem (blank_not_mem_clockChars _),
    Text.pieces_of_not_mem (blank_not_mem_offsetChars z)]
  rfl

/-- The text of an instant in local time tells the instant, outside leap seconds. -/
theorem exists_read?_text (minutes : Int) {t : Instant} (regular : t.nanos < 1000000000) :
    ∃ shown, read? (Zone.text ⟨60 * minutes⟩ t) = some shown ∧ shown.IsProper ∧
      shown.east = 60 * minutes ∧ shown.seconds = t.seconds := by
  obtain ⟨r, same⟩ : ∃ r, r = Reading.ofSeconds (t.seconds + 60 * minutes) t.nanos := ⟨_, rfl⟩
  have reading : Zone.reading ⟨60 * minutes⟩ t = r := same.symm
  have total : r.toSeconds = t.seconds + 60 * minutes + (t.nanos / 1000000000 : Nat) :=
    same ▸ Reading.toSeconds_ofSeconds _ _
  have second : r.second = ((t.seconds + 60 * minutes) % 60).toNat + t.nanos / 1000000000 :=
    same ▸ Reading.second_ofSeconds _ _
  have proper : IsProper ⟨r.date, r.hour, r.minute, r.second, 60 * minutes⟩ :=
    { date := same ▸ Date.isValid_ofDayNumber _
      hour := same ▸ Reading.hour_ofSeconds_lt _ t.nanos
      minute := same ▸ Reading.minute_ofSeconds_lt _ t.nanos
      second := by dsimp only; omega }
  refine ⟨_, ?_, proper, rfl, ?_⟩
  · have clock : clock? r.clockChars = some (r.hour, r.minute, r.second) := by
      apply clock?_chars
      · exact proper.hour.trans (by decide)
      · exact proper.minute.trans (by decide)
      · exact proper.second.trans (by decide)
    rw [read?, pieces_text, reading]
    simp only [date?_chars proper.date, clock, offset?_chars]
    rfl
  · rw [Reading.toSeconds, Date.dayNumber_eq_count proper.date] at total
    rw [seconds]
    dsimp only at total ⊢
    omega

/-- The epoch, an hour less a minute behind universal time. -/
example : (read? "1969-12-31 23:01:00 -00:59").map seconds = some 0 := by decide +kernel

end LocalTime

end Vouch.Time
