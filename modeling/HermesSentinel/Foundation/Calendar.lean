import Mathlib.Data.List.Basic

namespace Foundation
namespace Calendar

/-!
# The proleptic Gregorian calendar as a numbering of days

Days are counted from zero at 0001-01-01.  A date is read off a day number
one unit at a time: first its year, then its month inside that year, then the
day of the month.  Each unit is characterised by the interval of day numbers
it covers, and everything later (the chronological order of dates, the
reconstruction of a day number) follows from these intervals alone.
-/

/-- Days before January 1 of the given year.  The leap years, centuries and
fourth centuries that have passed are counted by nested division. -/
def daysBeforeYear (year : Nat) : Nat :=
  let passed := year - 1
  365 * passed + passed / 4 - passed / 4 / 25 + passed / 4 / 25 / 4

def isLeap (year : Nat) : Bool :=
  decide (year % 4 = 0 ∧ (year % 100 ≠ 0 ∨ year % 400 = 0))

/-- The year containing a day, by the 400, 100, 4 and 1 year cycles.  A last
leap day overflows its cycle, hence the correction. -/
def yearOf (day : Nat) : Nat :=
  let n400 := day / 146097
  let r400 := day % 146097
  let n100 := r400 / 36524
  let r100 := r400 % 36524
  let n4 := r100 / 1461
  let r4 := r100 % 1461
  let n1 := r4 / 365
  let year := 400 * n400 + 100 * n100 + 4 * n4 + n1 + 1
  if n1 = 4 ∨ n100 = 4 then year - 1 else year

/-- Within its cycles a year begins where the cycles' lengths add up to. -/
theorem daysBeforeYear_cycles (n400 n100 n4 n1 : Nat)
    (h100 : n100 ≤ 3) (h4 : n4 ≤ 24) (h1 : n1 ≤ 3) :
    daysBeforeYear (400 * n400 + 100 * n100 + 4 * n4 + n1 + 1) =
      146097 * n400 + 36524 * n100 + 1461 * n4 + 365 * n1 := by
  have fours : (400 * n400 + 100 * n100 + 4 * n4 + n1) / 4 = 100 * n400 + 25 * n100 + n4 := by
    omega
  have hundreds : (100 * n400 + 25 * n100 + n4) / 25 = 4 * n400 + n100 := by omega
  have fourHundreds : (4 * n400 + n100) / 4 = n400 := by omega
  simp only [daysBeforeYear, Nat.add_sub_cancel, fours, hundreds, fourHundreds]
  omega

theorem daysBeforeYear_step (year : Nat) (positive : 1 ≤ year) :
    daysBeforeYear year + 365 ≤ daysBeforeYear (year + 1) := by
  simp only [daysBeforeYear, Nat.add_sub_cancel]
  have hundreds : year / 4 / 25 ≤ (year - 1) / 4 / 25 + (year / 4 - (year - 1) / 4) := by omega
  have fourHundreds : (year - 1) / 4 / 25 / 4 ≤ year / 4 / 25 / 4 := by omega
  omega

/-- A year has at most 366 days. -/
theorem daysBeforeYear_succ_le (year : Nat) :
    daysBeforeYear (year + 1) ≤ daysBeforeYear year + 366 := by
  simp only [daysBeforeYear, Nat.add_sub_cancel]
  have fours : year / 4 ≤ (year - 1) / 4 + 1 := by omega
  have hundreds : (year - 1) / 4 / 25 ≤ year / 4 / 25 := by omega
  have fourHundreds : year / 4 / 25 / 4 ≤ (year - 1) / 4 / 25 / 4 +
      (year / 4 / 25 - (year - 1) / 4 / 25) := by omega
  omega

theorem daysBeforeYear_mono {first second : Nat} (le : first ≤ second) :
    daysBeforeYear first ≤ daysBeforeYear second := by
  induction le with
  | refl => exact Nat.le_refl _
  | @step year _ inductionHypothesis =>
      refine Nat.le_trans inductionHypothesis ?_
      cases year with
      | zero => decide
      | succ previous =>
          exact Nat.le_trans (Nat.le_add_right _ 365)
            (daysBeforeYear_step (previous + 1) (Nat.succ_le_succ (Nat.zero_le _)))

/-- The year found starts on or before the day and ends after it.  The two
overflowing remainders are the last days of a leap year. -/
theorem yearOf_spec (day : Nat) :
    daysBeforeYear (yearOf day) ≤ day ∧ day < daysBeforeYear (yearOf day + 1) := by
  obtain ⟨n400, hn400⟩ : exists n, n = day / 146097 := ⟨_, rfl⟩
  obtain ⟨n100, hn100⟩ : exists n, n = day % 146097 / 36524 := ⟨_, rfl⟩
  obtain ⟨n4, hn4⟩ : exists n, n = day % 146097 % 36524 / 1461 := ⟨_, rfl⟩
  obtain ⟨n1, hn1⟩ : exists n, n = day % 146097 % 36524 % 1461 / 365 := ⟨_, rfl⟩
  simp only [yearOf, ← hn400, ← hn100, ← hn4, ← hn1]
  by_cases century : n100 = 4
  · have start := daysBeforeYear_cycles n400 3 24 3
      (by decide) (by decide) (by decide)
    have next := daysBeforeYear_cycles (n400 + 1) 0 0 0
      (by decide) (by decide) (by decide)
    rw [if_pos (Or.inr century)]
    rw [show 400 * n400 + 100 * n100 + 4 * n4 + n1 + 1 - 1 =
        400 * n400 + 100 * 3 + 4 * 24 + 3 + 1 by omega]
    rw [show 400 * n400 + 100 * 3 + 4 * 24 + 3 + 1 + 1 =
        400 * (n400 + 1) + 100 * 0 + 4 * 0 + 0 + 1 by omega]
    omega
  by_cases leapDay : n1 = 4
  · have start := daysBeforeYear_cycles n400 n100 n4 3
      (by omega) (by omega) (by decide)
    have next := daysBeforeYear_cycles n400 n100 (n4 + 1) 0
      (by omega) (by omega) (by decide)
    rw [if_pos (Or.inl leapDay)]
    rw [show 400 * n400 + 100 * n100 + 4 * n4 + n1 + 1 - 1 =
        400 * n400 + 100 * n100 + 4 * n4 + 3 + 1 by omega]
    rw [show 400 * n400 + 100 * n100 + 4 * n4 + 3 + 1 + 1 =
        400 * n400 + 100 * n100 + 4 * (n4 + 1) + 0 + 1 by omega]
    omega
  · have start := daysBeforeYear_cycles n400 n100 n4 n1
      (by omega) (by omega) (by omega)
    have step := daysBeforeYear_step (400 * n400 + 100 * n100 + 4 * n4 + n1 + 1) (by omega)
    rw [if_neg (by omega)]
    omega

theorem daysBeforeYear_yearOf_le (day : Nat) : daysBeforeYear (yearOf day) ≤ day :=
  (yearOf_spec day).1

theorem lt_daysBeforeYear_succ_yearOf (day : Nat) :
    day < daysBeforeYear (yearOf day + 1) :=
  (yearOf_spec day).2

theorem yearOf_mono {first second : Nat} (le : first ≤ second) :
    yearOf first ≤ yearOf second := by
  by_contra later
  have step : daysBeforeYear (yearOf second + 1) ≤ daysBeforeYear (yearOf first) :=
    daysBeforeYear_mono (by omega)
  have below := daysBeforeYear_yearOf_le first
  have above := lt_daysBeforeYear_succ_yearOf second
  omega

/-- The day of the year (from zero) on which each month starts. -/
def monthStarts (leap : Bool) : List Nat :=
  let extra := if leap then 1 else 0
  [0, 31, 59 + extra, 90 + extra, 120 + extra, 151 + extra, 181 + extra, 212 + extra,
    243 + extra, 273 + extra, 304 + extra, 334 + extra]

/-- The month of a day of the year is the number of months already begun. -/
def monthOf (leap : Bool) (dayOfYear : Nat) : Nat :=
  (monthStarts leap).countP (fun start => decide (start ≤ dayOfYear))

/-- Days of the year before the given month, numbered from one. -/
def daysBeforeMonth (leap : Bool) (month : Nat) : Nat :=
  (monthStarts leap).getD (month - 1) 0

theorem monthOf_mono (leap : Bool) {first second : Nat} (le : first ≤ second) :
    monthOf leap first ≤ monthOf leap second := by
  apply List.countP_mono_left
  intro start _ begun
  have reached : start ≤ first := of_decide_eq_true begun
  exact decide_eq_true (Nat.le_trans reached le)

theorem monthOf_le (leap : Bool) (dayOfYear : Nat) : monthOf leap dayOfYear ≤ 12 :=
  List.countP_le_length

/-- A date of the calendar; months and days are numbered from one. -/
structure Date where
  year : Nat
  month : Nat
  day : Nat
  deriving DecidableEq, Repr

def dayOfYear (day : Nat) : Nat :=
  day - daysBeforeYear (yearOf day)

def dateOf (day : Nat) : Date :=
  let leap := isLeap (yearOf day)
  let month := monthOf leap (dayOfYear day)
  { year := yearOf day
    month := month
    day := dayOfYear day - daysBeforeMonth leap month + 1 }

/-- The day number of a date. -/
def dayNumber (date : Date) : Nat :=
  daysBeforeYear date.year + daysBeforeMonth (isLeap date.year) date.month + (date.day - 1)

theorem dayOfYear_lt (day : Nat) : dayOfYear day < 366 := by
  have above := lt_daysBeforeYear_succ_yearOf day
  have length := daysBeforeYear_succ_le (yearOf day)
  simp only [dayOfYear]
  omega

/-- The month found has begun, and the day of the month has two digits.
Both are finite checks of the two tables of month starts. -/
theorem monthOf_spec (leap : Bool) : forall rest, rest < 366 ->
    1 ≤ monthOf leap rest ∧ daysBeforeMonth leap (monthOf leap rest) ≤ rest ∧
      rest < daysBeforeMonth leap (monthOf leap rest) + 32 := by
  cases leap <;> decide +kernel

/-- A date is read off its own day number. -/
theorem dayNumber_dateOf (day : Nat) : dayNumber (dateOf day) = day := by
  have start := daysBeforeYear_yearOf_le day
  have begun := (monthOf_spec (isLeap (yearOf day)) _ (dayOfYear_lt day)).2.1
  simp only [dayNumber, dateOf, dayOfYear] at begun ⊢
  omega

theorem yearOf_lt {day year : Nat} (before : day < daysBeforeYear year) : yearOf day < year := by
  have start := daysBeforeYear_yearOf_le day
  by_contra late
  have := daysBeforeYear_mono (Nat.le_of_not_lt late)
  omega

/-- Months and days of a date fit in two digits. -/
theorem dateOf_small (day : Nat) : (dateOf day).month ≤ 12 ∧ (dateOf day).day ≤ 32 := by
  have begun := monthOf_spec (isLeap (yearOf day)) _ (dayOfYear_lt day)
  refine ⟨monthOf_le _ _, ?_⟩
  simp only [dateOf]
  omega

/-- Chronological order of dates, coarsest unit first. -/
def Date.Before (first second : Date) : Prop :=
  first.year < second.year ∨ (first.year = second.year ∧
    (first.month < second.month ∨ (first.month = second.month ∧ first.day < second.day)))

/-- Reading dates off day numbers is strictly chronological. -/
theorem dateOf_before {first second : Nat} (lt : first < second) :
    (dateOf first).Before (dateOf second) := by
  simp only [Date.Before, dateOf]
  rcases Nat.lt_or_eq_of_le (yearOf_mono (Nat.le_of_lt lt)) with earlier | sameYear
  · exact Or.inl earlier
  have start := daysBeforeYear_yearOf_le first
  have days : dayOfYear first < dayOfYear second := by
    simp only [dayOfYear]
    rw [← sameYear]
    omega
  refine Or.inr ⟨sameYear, ?_⟩
  rw [← sameYear]
  rcases Nat.lt_or_eq_of_le (monthOf_mono (isLeap (yearOf first)) (Nat.le_of_lt days)) with
    earlier | sameMonth
  · exact Or.inl earlier
  have begun := (monthOf_spec (isLeap (yearOf first)) _ (dayOfYear_lt first)).2.1
  refine Or.inr ⟨sameMonth, ?_⟩
  rw [← sameMonth]
  omega

end Calendar
end Foundation
