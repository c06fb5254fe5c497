import Mathlib.Tactic
import Vouch.Time.Instant

/-!
Days counted and dated.

Every day number is the number of its date, and this date is in the calendar.  So what a clock shows at a
second denotes this second again.

The instant of a number of seconds is the one that stands for it, and the epoch if there is none.
-/

namespace Vouch.Time.Date

structure Since (era century cycle turn inYear : Int) : Prop where
  centuries : 0 ≤ century ∧ century ≤ 3
  cycles : 0 ≤ cycle ∧ cycle ≤ 24
  turns : 0 ≤ turn ∧ turn ≤ 3
  days : 0 ≤ inYear ∧ inYear ≤ 365
  longest : inYear = 365 → turn = 3 ∧ (cycle = 24 → century = 3)

def ofMarch (year inYear : Int) : Date :=
  let month := (5 * inYear + 2) / 153
  let day := inYear - (153 * month + 2) / 5 + 1
  if month < 10 then ⟨year, (month + 3).toNat, day.toNat⟩
  else ⟨year + 1, (month - 9).toNat, day.toNat⟩

theorem since_ofDayNumber (n : Int) :
    ∃ era century cycle turn inYear, Since era century cycle turn inYear ∧
      n + 719468 = 146097 * era + 36524 * century + 1461 * cycle + 365 * turn + inYear ∧
      ofDayNumber n = ofMarch (400 * era + 100 * century + 4 * cycle + turn) inYear := by
  -- The last century of an era and the last year of a cycle are a day longer than the others.
  obtain ⟨inEra, inEra_eq⟩ : ∃ m, m = (n + 719468) % 146097 := ⟨_, rfl⟩
  obtain ⟨century, century_eq⟩ : ∃ m, m = min (inEra / 36524) 3 := ⟨_, rfl⟩
  obtain ⟨inCentury, inCentury_eq⟩ : ∃ m, m = inEra - 36524 * century := ⟨_, rfl⟩
  obtain ⟨cycle, cycle_eq⟩ : ∃ m, m = inCentury / 1461 := ⟨_, rfl⟩
  obtain ⟨inCycle, inCycle_eq⟩ : ∃ m, m = inCentury - 1461 * cycle := ⟨_, rfl⟩
  obtain ⟨turn, turn_eq⟩ : ∃ m, m = min (inCycle / 365) 3 := ⟨_, rfl⟩
  have era_bounds : 0 ≤ inEra ∧ inEra ≤ 146096 := by omega
  have century_bounds : 0 ≤ century ∧ century ≤ 3 := by omega
  have inCentury_bounds : 0 ≤ inCentury ∧ inCentury ≤ 36524 ∧
      (inCentury = 36524 → century = 3) := by omega
  have cycle_bounds : 0 ≤ cycle ∧ cycle ≤ 24 := by omega
  have inCycle_bounds : 0 ≤ inCycle ∧ inCycle ≤ 1460 := by omega
  have turn_bounds : 0 ≤ turn ∧ turn ≤ 3 := by omega
  refine ⟨(n + 719468) / 146097, century, cycle, turn, inCycle - 365 * turn, ?_, ?_, ?_⟩
  · refine ⟨century_bounds, cycle_bounds, turn_bounds, ?_, ?_⟩ <;> omega
  · omega
  · subst turn_eq inCycle_eq cycle_eq inCentury_eq century_eq inEra_eq
    rfl

theorem dayNumber_ofMarch (year : Int) {inYear : Int} (bounds : 0 ≤ inYear ∧ inYear ≤ 365) :
    (ofMarch year inYear).dayNumber =
      365 * year + year / 4 - year / 100 + year / 400 + inYear - 719468 := by
  obtain ⟨month, month_eq⟩ : ∃ m, m = (5 * inYear + 2) / 153 := ⟨_, rfl⟩
  have month_bounds : 0 ≤ month ∧ month ≤ 11 := by omega
  have day_bounds : 0 ≤ inYear - (153 * month + 2) / 5 := by omega
  unfold ofMarch dayNumber
  simp only [← month_eq]
  by_cases early : month < 10
  · have march : ¬(month + 3).toNat ≤ 2 := by omega
    simp only [if_pos early, if_neg march]
    omega
  · have january : (month - 9).toNat ≤ 2 := by omega
    simp only [if_neg early, if_pos january]
    omega

theorem Since.dayCount {era century cycle turn inYear : Int} (since : Since era century cycle turn inYear)
    {year : Int} (year_eq : year = 400 * era + 100 * century + 4 * cycle + turn) :
    365 * year + year / 4 - year / 100 + year / 400 =
      146097 * era + 36524 * century + 1461 * cycle + 365 * turn := by
  obtain ⟨century_bounds, cycle_bounds, turn_bounds, -, -⟩ := since
  have quarters : year / 4 = 100 * era + 25 * century + cycle := by omega
  have hundreds : year / 100 = 4 * era + century := by omega
  have eras : year / 400 = era := by omega
  omega

theorem dayNumber_ofDayNumber (n : Int) : (ofDayNumber n).dayNumber = n := by
  obtain ⟨era, century, cycle, turn, inYear, since, days, date⟩ := since_ofDayNumber n
  have years := since.dayCount rfl
  rw [date, dayNumber_ofMarch _ since.days, years]
  omega

/-- A year that starts in March ends in a leap day when it has one day more. -/
theorem Since.isLeap {era century cycle turn : Int} (since : Since era century cycle turn 365) :
    isLeap (400 * era + 100 * century + 4 * cycle + turn + 1) = true := by
  obtain ⟨century_bounds, cycle_bounds, -, -, longest⟩ := since
  obtain ⟨rfl, last⟩ := longest rfl
  simp only [Date.isLeap, Bool.and_eq_true, Bool.or_eq_true, beq_iff_eq, bne_iff_ne]
  omega

theorem isValid_ofMarch (year : Int) {inYear : Int} (bounds : 0 ≤ inYear ∧ inYear ≤ 365)
    (leap : inYear = 365 → isLeap (year + 1) = true) : (ofMarch year inYear).isValid = true := by
  obtain ⟨month, month_eq⟩ : ∃ m, m = (5 * inYear + 2) / 153 := ⟨_, rfl⟩
  obtain ⟨day, day_eq⟩ : ∃ d, d = inYear - (153 * month + 2) / 5 + 1 := ⟨_, rfl⟩
  have month_bounds : 0 ≤ month ∧ month ≤ 11 := by omega
  have february : month = 11 → day.toNat ≤ daysIn (year + 1) 2 := by
    intro last
    rw [daysIn]
    by_cases full : inYear = 365
    · rw [if_pos (leap full)]
      omega
    · have short : day.toNat ≤ 28 := by omega
      split <;> omega
  unfold ofMarch isValid
  simp only [← month_eq, ← day_eq]
  obtain ⟨least, greatest⟩ := month_bounds
  interval_cases month
  case «11» =>
    have short := february rfl
    simp
    omega
  all_goals simp [daysIn]
  all_goals omega

theorem isValid_ofDayNumber (n : Int) : (ofDayNumber n).isValid = true := by
  obtain ⟨era, century, cycle, turn, inYear, since, -, date⟩ := since_ofDayNumber n
  rw [date]
  apply isValid_ofMarch _ since.days
  rintro rfl
  exact since.isLeap

theorem daysIn_le (year : Int) (month : Nat) : daysIn year month ≤ 31 := by
  unfold daysIn
  split
  · split <;> decide
  all_goals decide

/-- The days from the first to the last second of all instants lie in years that stamps may name. -/
theorem year_ofDayNumber {n : Int} (bounds : -96465292 ≤ n ∧ n ≤ 95026236) :
    -262143 ≤ (ofDayNumber n).year ∧ (ofDayNumber n).year ≤ 262142 := by
  obtain ⟨era, century, cycle, turn, inYear, since, days, date⟩ := since_ofDayNumber n
  obtain ⟨year, year_eq⟩ : ∃ y, y = 400 * era + 100 * century + 4 * cycle + turn := ⟨_, rfl⟩
  have counted : n + 719468 = 365 * year + year / 4 - year / 100 + year / 400 + inYear := by
    rw [since.dayCount year_eq, days]
  have inside := since.days
  rw [date, ← year_eq, ofMarch]
  clear year_eq days since date
  -- The first of these years starts in its January, and the last one ends in its December.
  have range : -262144 ≤ year ∧ year ≤ 262142 := by omega
  have early : year = -262144 → 306 ≤ inYear := by
    rintro rfl
    omega
  have late : year = 262142 → inYear ≤ 305 := by
    rintro rfl
    omega
  split <;> dsimp only <;> omega

end Vouch.Time.Date

namespace Vouch.Time.Reading

/-- A clock shows a leap second as the second after the one that it belongs to. -/
theorem toSeconds_ofSeconds (seconds : Int) (nanos : Nat) :
    (ofSeconds seconds nanos).toSeconds = seconds + (nanos / 1000000000 : Nat) := by
  simp only [ofSeconds, toSeconds, Date.dayNumber_ofDayNumber]
  omega

theorem hour_ofSeconds_lt (seconds : Int) (nanos : Nat) : (ofSeconds seconds nanos).hour < 24 := by
  simp only [ofSeconds]
  omega

theorem minute_ofSeconds_lt (seconds : Int) (nanos : Nat) :
    (ofSeconds seconds nanos).minute < 60 :=
  Nat.mod_lt _ (by decide)

theorem second_ofSeconds (seconds : Int) (nanos : Nat) :
    (ofSeconds seconds nanos).second = (seconds % 60).toNat + nanos / 1000000000 := by
  simp only [ofSeconds]
  omega

end Vouch.Time.Reading

namespace Vouch.Time.Instant

theorem ofSeconds_seconds {t : Instant} (whole : t.nanos = 0) : ofSeconds t.seconds = t := by
  obtain ⟨seconds, nanos, in_range, few⟩ := t
  obtain rfl : nanos = 0 := whole
  rw [ofSeconds, ofSeconds?, dif_pos in_range, Option.getD_some]

theorem nanos_ofSeconds (seconds : Int) : (ofSeconds seconds).nanos = 0 := by
  unfold ofSeconds ofSeconds?
  split_ifs <;> rfl

theorem ofSeconds_of_unmet {seconds : Int} (unmet : ∀ t : Instant, t.seconds ≠ seconds) :
    ofSeconds seconds = epoch := by
  have beyond : ¬(firstSecond ≤ seconds ∧ seconds ≤ lastSecond) := by
    intro in_range
    exact unmet ⟨seconds, 0, in_range, by decide⟩ rfl
  rw [ofSeconds, ofSeconds?, dif_neg beyond, Option.getD_none]

end Vouch.Time.Instant
