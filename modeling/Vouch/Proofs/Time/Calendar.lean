import Mathlib.Tactic
import Vouch.Time.Date

/-!
Days counted by the calendar.

The number of a day is what one gets by going from 1 January 1970 year by year, then month by month and
then day by day, in years after 1970 as in years before it.
-/

namespace Vouch.Time

def yearLength (year : Int) : Nat :=
  if Date.isLeap year then 366 else 365

/-- The days from 1 January 1970 to 1 January of a year: those of the years between, which are counted
down for a year before 1970. -/
def newYear (year : Int) : Int :=
  ((List.range (year - 1970).toNat).map fun n : ℕ => (yearLength (1970 + n) : Int)).sum -
    ((List.range (1970 - year).toNat).map fun n : ℕ => (yearLength (1969 - n) : Int)).sum

def daysBefore (year : Int) (month : Nat) : Nat :=
  ((List.range (month - 1)).map fun n : ℕ => Date.daysIn year (n + 1)).sum

namespace Date

def count (d : Date) : Int :=
  newYear d.year + daysBefore d.year d.month + d.day - 1

/-- Every leap year has one more of the leap days that a day number counts. -/
theorem yearLength_eq (year : Int) : (yearLength year : Int) = 365 + (year / 4 - (year - 1) / 4) -
    (year / 100 - (year - 1) / 100) + (year / 400 - (year - 1) / 400) := by
  rw [yearLength]
  split
  case isTrue leap =>
    simp only [isLeap, Bool.and_eq_true, Bool.or_eq_true, beq_iff_eq, bne_iff_ne] at leap
    omega
  case isFalse common =>
    simp only [isLeap, Bool.and_eq_true, Bool.or_eq_true, beq_iff_eq, bne_iff_ne] at common
    omega

theorem daysIn_february (year : Int) : (daysIn year 2 : Int) = yearLength year - 337 := by
  rw [daysIn, yearLength]
  split <;> rfl

theorem dayNumber_january (year : Int) (day : Nat) : dayNumber ⟨year, 1, day⟩ =
    365 * (year - 1) + (year - 1) / 4 - (year - 1) / 100 + (year - 1) / 400 + 306 + day - 719469 := by
  simp [dayNumber]

theorem dayNumber_succ_year (year : Int) :
    dayNumber ⟨year + 1, 1, 1⟩ = dayNumber ⟨year, 1, 1⟩ + yearLength year := by
  rw [dayNumber_january, dayNumber_january, yearLength_eq, Int.add_sub_cancel]
  omega

theorem dayNumber_succ_month (year : Int) {month : Nat} (bounds : 1 ≤ month ∧ month ≤ 11)
    (day : Nat) :
    dayNumber ⟨year, month + 1, day⟩ = dayNumber ⟨year, month, day⟩ + daysIn year month := by
  obtain ⟨least, greatest⟩ := bounds
  interval_cases month
  case «2» =>
    rw [daysIn_february, yearLength_eq]
    simp [dayNumber]
    omega
  all_goals
    simp [dayNumber, daysIn]
    omega

theorem sum_later (n : ℕ) : ((List.range n).map fun n : ℕ => (yearLength (1970 + n) : Int)).sum =
    dayNumber ⟨1970 + n, 1, 1⟩ := by
  induction n with
  | zero => rfl
  | succ n ih =>
    rw [List.range_succ, List.map_append, List.sum_append, ih, List.map_singleton,
      List.sum_singleton, ← dayNumber_succ_year, Nat.cast_succ, add_assoc]

theorem sum_earlier (n : ℕ) : ((List.range n).map fun n : ℕ => (yearLength (1969 - n) : Int)).sum =
    -dayNumber ⟨1970 - n, 1, 1⟩ := by
  induction n with
  | zero => rfl
  | succ n ih =>
    have year : (1970 : Int) - n = 1969 - n + 1 := by omega
    have earlier : (1970 : Int) - (n + 1 : ℕ) = 1969 - n := by omega
    rw [List.range_succ, List.map_append, List.sum_append, ih, List.map_singleton,
      List.sum_singleton, year, dayNumber_succ_year, earlier]
    omega

theorem newYear_eq (year : Int) : newYear year = dayNumber ⟨year, 1, 1⟩ := by
  have first : dayNumber ⟨1970, 1, 1⟩ = 0 := rfl
  rw [newYear, sum_later, sum_earlier]
  obtain later | earlier := le_total 1970 year
  · have after : (1970 : Int) + (year - 1970).toNat = year := by omega
    have before : (1970 : Int) - (1970 - year).toNat = 1970 := by omega
    rw [after, before, first]
    omega
  · have after : (1970 : Int) + (year - 1970).toNat = 1970 := by omega
    have before : (1970 : Int) - (1970 - year).toNat = year := by omega
    rw [after, before, first]
    omega

theorem daysBefore_succ (year : Int) {month : Nat} (least : 1 ≤ month) :
    daysBefore year (month + 1) = daysBefore year month + daysIn year month := by
  obtain ⟨before, rfl⟩ := Nat.exists_eq_add_of_le' least
  rw [daysBefore, daysBefore, Nat.add_sub_cancel, Nat.add_sub_cancel, List.range_succ,
    List.map_append, List.sum_append, List.map_singleton, List.sum_singleton]

theorem dayNumber_eq_count {d : Date} (valid : d.isValid = true) : d.dayNumber = d.count := by
  obtain ⟨year, month, day⟩ := d
  simp only [isValid, Bool.and_eq_true, decide_eq_true_eq] at valid
  obtain ⟨⟨⟨least, greatest⟩, -⟩, -⟩ := valid
  have months : dayNumber ⟨year, month, day⟩ = dayNumber ⟨year, 1, day⟩ + daysBefore year month := by
    induction month, least using Nat.le_induction with
    | base => simp [daysBefore]
    | succ month least ih =>
      rw [dayNumber_succ_month year ⟨least, by omega⟩, ih (by omega), daysBefore_succ year least]
      push_cast
      omega
  rw [count, newYear_eq, months, dayNumber_january, dayNumber_january]
  push_cast
  omega

end Date

end Vouch.Time
