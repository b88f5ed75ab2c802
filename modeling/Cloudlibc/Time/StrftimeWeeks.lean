import Cloudlibc.Time.LocaltimeUtc

/-!
# Numbers of weeks

The conversions `%g`, `%G`, `%U`, `%V` and `%W` of `strftime()`, which print the year of a week and
the number of a week.

In ISO 8601 weeks begin on Monday, and week 1 of a year is the one with its first Thursday. So the
first days of January may belong to the previous year and the last ones of December to the next
(`isoYear`). The conversions print these numbers for every date, if the computations of the year,
which are made with values of type `int`, do not overflow (`weekNumber_iff`).
-/

set_option autoImplicit false

namespace Cloudlibc.Time

open Gregorian MachineInteger List Option

/-! ## The computations -/

/-- `get_ydays()`. -/
def getYdays (year : ℤ) : ℤ := if isLeap year then 366 else 365

/-- `iso_8601_yday()`. -/
def iso8601Yday (yday wday : ℤ) : ℤ :=
  let firstthursday := (yday - wday + 4).tmod 7
  let firstthursday := if firstthursday < 0 then firstthursday + 7 else firstthursday
  yday - firstthursday + 3

/-- `iso_8601_week()`. -/
def iso8601Week (tm : Tm) : Option ℤ := do
  let yday := iso8601Yday tm.tmYday tm.tmWday
  if yday < 0 then
    let year ← signed 32 (tm.tmYear - 1)
    return (iso8601Yday (tm.tmYday + getYdays year) tm.tmWday).tdiv 7 + 1
  else
    let nextyday := iso8601Yday (tm.tmYday - getYdays tm.tmYear) tm.tmWday
    return (if nextyday ≥ 0 then nextyday else yday).tdiv 7 + 1

/-- `iso_8601_year()`. -/
def iso8601Year (tm : Tm) : Option ℤ :=
  if iso8601Yday tm.tmYday tm.tmWday < 0 then
    signed 32 (tm.tmYear - 1)
  else if iso8601Yday (tm.tmYday - getYdays tm.tmYear) tm.tmWday ≥ 0 then
    signed 32 (tm.tmYear + 1)
  else
    some tm.tmYear

/-- The conversions that are about weeks. -/
inductive WeekConversion
  | g | G | U | V | W
  deriving DecidableEq, Repr

/-- The variables `number` and `number_precision` of `strftime_l()` at these conversions. -/
def weekNumber (tm : Tm) : WeekConversion → Option (ℤ × ℕ)
  | .g => do
      let number := (← signed 32 ((← iso8601Year tm) + 1900)).tmod 100
      return (if number < 0 then -number else number, 2)
  | .G => do return ((← iso8601Year tm) + 1900, 4)
  | .U => some ((tm.tmYday - tm.tmWday + 7).tdiv 7, 2)
  | .V => do return (← iso8601Week tm, 2)
  | .W => some ((tm.tmYday - (tm.tmWday + 6).tmod 7 + 7).tdiv 7, 2)

/-! ## The calendar -/

/-- The Monday of week 1 of a year. The days that are multiples of seven are Thursdays. -/
noncomputable def firstMonday (year : ℤ) : ℤ := startOfYear year + -startOfYear year % 7 - 3

/-- The year of ISO 8601 that a date belongs to. -/
noncomputable def isoYear (date : Date) : ℤ :=
  if date.dayNumber < firstMonday date.year then date.year - 1
  else if firstMonday (date.year + 1) ≤ date.dayNumber then date.year + 1
  else date.year

/-- The number of the week of ISO 8601. -/
noncomputable def isoWeek (date : Date) : ℤ :=
  (date.dayNumber - firstMonday (isoYear date)) / 7 + 1

/-- How often a day of the week has occurred in the year, up to the date. -/
noncomputable def weekDays (date : Date) (weekDay : ℤ) : ℕ :=
  (List.range (date.yearDay.toNat + 1)).countP fun i : ℕ =>
    (startOfYear date.year + i + 4) % 7 = weekDay

/-- The conversions have the numbers of the calendar. -/
def PrintsWeeks (tm : Tm) (date : Date) : Prop :=
  weekNumber tm .G = some (isoYear date, 4) ∧ weekNumber tm .V = some (isoWeek date, 2) ∧
    weekNumber tm .g = some (((isoYear date).natAbs : ℤ) % 100, 2) ∧
    weekNumber tm .U = some ((weekDays date 0 : ℤ), 2) ∧
    weekNumber tm .W = some ((weekDays date 1 : ℤ), 2)

theorem yearDay_bounds (date : Date) :
    0 ≤ date.yearDay ∧ date.yearDay < yearLength date.year := by
  have first := date.one_le_day
  have last := date.day_le
  have start := startOfMonth_nonneg (decide (IsLeapYear date.year)) date.month
  have inside := startOfMonth_add_monthLength_le_yearLength
    (decide (IsLeapYear date.year)) date.month
  simp only [decide_eq_true_eq] at inside
  rw [Date.yearDay, yearLength]
  omega

theorem isoYear_weeks (date : Date) :
    firstMonday (isoYear date) ≤ date.dayNumber ∧
      date.dayNumber < firstMonday (isoYear date + 1) := by
  have long (year : ℤ) : startOfYear year + 365 ≤ startOfYear (year + 1) := by
    rw [startOfYear_succ, yearLength]
    split_ifs <;> omega
  have before := long (date.year - 1)
  rw [sub_add_cancel] at before
  have after := long (date.year + 1)
  have inside := yearDay_bounds date
  have next := startOfYear_succ date.year
  have numbered : date.dayNumber = startOfYear date.year + date.yearDay := rfl
  rw [isoYear]
  split_ifs with early late
  · rw [sub_add_cancel]
    unfold firstMonday at early ⊢
    omega
  · unfold firstMonday at late ⊢
    omega
  · omega

theorem weekDays_eq (date : Date) {weekDay : ℤ} (low : 0 ≤ weekDay) (high : weekDay < 7) :
    (weekDays date weekDay : ℤ) =
      (date.yearDay - (date.dayNumber + 4 - weekDay) % 7 + 7) / 7 := by
  have counted : ∀ n : ℕ, (((range (n + 1)).countP fun i : ℕ =>
      (startOfYear date.year + i + 4) % 7 = weekDay : ℕ) : ℤ) =
      (n - (startOfYear date.year + n + 4 - weekDay) % 7 + 7) / 7 := by
    intro n
    induction n with
    | zero =>
      simp only [range_succ, range_zero, nil_append, countP_singleton]
      split_ifs with same <;> simp only [decide_eq_true_eq] at same <;> omega
    | succ n ih =>
      rw [range_succ, countP_append, countP_singleton]
      split_ifs with same <;> simp only [decide_eq_true_eq] at same <;> omega
  obtain ⟨nonneg, -⟩ := yearDay_bounds date
  rw [weekDays, counted, Int.toNat_of_nonneg nonneg]
  rfl

/-! ## The numbers of a date -/

theorem getYdays_eq (year : ℤ) : getYdays year = yearLength (1900 + year) := by
  rw [getYdays, isLeap_eq, yearLength]
  simp only [decide_eq_true_eq]

/-- The day counted from the Monday of week 1 of a year that begins on the day `start`. -/
theorem iso8601Yday_eq (start yday : ℤ) :
    iso8601Yday yday ((start + yday + 4) % 7) = yday - -start % 7 + 3 := by
  rw [iso8601Yday, tmod_eq_of_pos (by norm_num)]
  split_ifs <;> omega

variable {timer : ℤ} {date : Date} {tm : Tm}

section

variable (down : BreaksDown timer date tm)

include down

section

variable (year : tm.tmYear = date.year - 1900)

include year

/-- The days of the date from the Mondays of the three years that it may belong to. -/
theorem iso8601Yday_years :
    iso8601Yday tm.tmYday tm.tmWday = date.dayNumber - firstMonday date.year ∧
      iso8601Yday (tm.tmYday + getYdays (tm.tmYear - 1)) tm.tmWday =
        date.dayNumber - firstMonday (date.year - 1) ∧
      iso8601Yday (tm.tmYday - getYdays tm.tmYear) tm.tmWday =
        date.dayNumber - firstMonday (date.year + 1) := by
  have next := startOfYear_succ date.year
  have before := startOfYear_succ (date.year - 1)
  rw [sub_add_cancel] at before
  have relative (other days : ℤ) (start : startOfYear other + days = date.dayNumber) :
      iso8601Yday days tm.tmWday = date.dayNumber - firstMonday other := by
    rw [down.wday, Date.weekDay, ← start, iso8601Yday_eq, firstMonday]
    ring
  rw [down.yday, getYdays_eq, getYdays_eq, show 1900 + (tm.tmYear - 1) = date.year - 1 by omega,
    show 1900 + tm.tmYear = date.year by omega]
  refine ⟨relative _ _ rfl, relative _ _ ?_, relative _ _ ?_⟩
  · rw [Date.dayNumber, before]
    ring
  · rw [Date.dayNumber, next]
    ring

theorem iso8601Year_eq
    (fits : Fits 32 (date.year - 1900)) : iso8601Year tm = signed 32 (isoYear date - 1900) := by
  obtain ⟨this, -, next⟩ := iso8601Yday_years down year
  rw [iso8601Year, isoYear, this, next, year]
  by_cases early : date.dayNumber < firstMonday date.year
  · rw [if_pos (by omega), if_pos early, sub_right_comm]
  · rw [if_neg (by omega), if_neg early]
    by_cases late : firstMonday (date.year + 1) ≤ date.dayNumber
    · rw [if_pos (by omega), if_pos late, sub_add_eq_add_sub]
    · rw [if_neg (by omega), if_neg late, signed_of_fits fits]

theorem iso8601Week_eq
    (fits : Fits 32 (isoYear date - 1900)) : iso8601Week tm = some (isoWeek date) := by
  obtain ⟨this, before, next⟩ := iso8601Yday_years down year
  obtain ⟨started, -⟩ := isoYear_weeks date
  rw [isoWeek, ← Int.tdiv_eq_ediv_of_nonneg (by omega)]
  rw [isoYear] at fits started ⊢
  unfold iso8601Week
  dsimp only
  rw [this, next]
  by_cases early : date.dayNumber < firstMonday date.year
  · rw [if_pos early] at fits ⊢
    have previous : signed 32 (tm.tmYear - 1) = some (tm.tmYear - 1) :=
      signed_of_fits (by rwa [year, sub_right_comm])
    rw [if_pos (by omega), previous, bind_eq_bind, bind_some, before]
    rfl
  · rw [if_neg early] at started ⊢
    rw [if_neg (by omega)]
    by_cases late : firstMonday (date.year + 1) ≤ date.dayNumber
    · rw [if_pos (by omega), if_pos late]
      rfl
    · rw [if_neg (by omega), if_neg late]
      rfl

/-- **The numbers are those of the calendar if and only if the year of the week can be computed
with values of type `int`.** -/
theorem printsWeeks_iff (fits : Fits 32 (date.year - 1900)) :
    PrintsWeeks tm date ↔ intMin ≤ isoYear date - 1900 ∧ isoYear date ≤ intMax := by
  have isYear := iso8601Year_eq down year fits
  obtain ⟨nonneg, -⟩ := yearDay_bounds date
  constructor
  · rintro ⟨printed, -, digits, -⟩
    simp only [weekNumber, isYear, bind_eq_bind] at printed digits
    obtain ⟨stored, found, -⟩ := bind_eq_some_iff.mp printed
    have low := (ite_none_right_eq_some.mp found).1
    rw [signed_of_fits low, bind_some, sub_add_cancel] at digits
    obtain ⟨_, found, -⟩ := bind_eq_some_iff.mp digits
    have high := fits_thirtyTwo.mp (ite_none_right_eq_some.mp found).1
    rw [fits_thirtyTwo] at low
    rw [intMin, intMax]
    omega
  · rintro ⟨low, high⟩
    rw [intMin] at low
    rw [intMax] at high
    have inside : Fits 32 (isoYear date - 1900) := fits_thirtyTwo.mpr (by omega)
    have whole : Fits 32 (isoYear date) := fits_thirtyTwo.mpr (by omega)
    rw [signed_of_fits inside] at isYear
    refine ⟨?_, ?_, ?_, ?_, ?_⟩
    · simp [weekNumber, isYear]
    · simp [weekNumber, iso8601Week_eq down year inside]
    · simp only [weekNumber, isYear, bind_eq_bind, bind_some, sub_add_cancel,
        signed_of_fits whole, tmod_eq_of_pos (show (0 : ℤ) < 100 by norm_num), Option.pure_def]
      congr 2
      split_ifs <;> omega
    · rw [weekDays_eq date le_rfl (by decide), sub_zero,
        ← Int.tdiv_eq_ediv_of_nonneg (by omega), weekNumber, down.yday, down.wday]
      rfl
    · rw [weekDays_eq date (by decide) (by decide), ← Int.tdiv_eq_ediv_of_nonneg (by omega),
        weekNumber, down.yday, down.wday, Date.weekDay,
        Int.tmod_eq_emod_of_nonneg (by omega)]
      congr 4
      omega

end

end

/-- **The weeks of all timestamps.** The numbers are wrong for the years that a value of type `int`
can not hold, also when it holds their difference from 1900. -/
theorem strftime_weeks_iff (timer : Int64) :
    ∃ (date : Date) (tm : Tm) (error : Option Errno),
      localtimeUtc timer.toInt = some (tm, error) ∧ date.dayNumber = timer.toInt / 86400 ∧
      (firstMonday (isoYear date) ≤ date.dayNumber ∧
        date.dayNumber < firstMonday (isoYear date + 1)) ∧
      (error = none →
        (PrintsWeeks tm date ↔ intMin ≤ isoYear date - 1900 ∧ isoYear date ≤ intMax)) := by
  obtain ⟨date, tm, broken, down⟩ := localtimeUtc_breaksDown (fits_toInt timer)
  refine ⟨date, tm, _, broken, down.dayNumber, isoYear_weeks date, fun noError => ?_⟩
  have fits : Fits 32 (date.year - 1900) := by
    by_contra misfit
    simp [misfit] at noError
  have bounds := fits_thirtyTwo.mp fits
  exact printsWeeks_iff down (by rw [down.year, intMin, intMax]; omega) fits

/-- In the year 2147483649 there is no result for `%g`. -/
theorem strftime_weeks_overflow :
    ((localtimeUtc 67767976280707200).map fun result =>
      (result.1.tmYear, result.2, weekNumber result.1 .g, weekNumber result.1 .V)) =
      some (2147481749, none, none, some (26, 2)) := by
  rfl

end Cloudlibc.Time
