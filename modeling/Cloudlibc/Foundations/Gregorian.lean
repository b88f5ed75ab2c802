import Mathlib

/-!
# The proleptic Gregorian calendar

The calendar is given by the lengths of its years and months. A year starts at
the sum of the lengths of the years between the epoch and it (`startOfYear`), and
a month starts at the sum of the lengths of the months before it
(`startOfMonth`). A date is a year, a month and a day of that month, and its day
number counts the days from the first of January 1970.

The sum of year lengths has a closed form (`startOfYear_eq`), and it repeats
every 400 years (`startOfYear_add_era`).
-/

set_option autoImplicit false

namespace Cloudlibc.Gregorian

/-- A year is leap when four divides it, unless it is a century that four hundred
does not divide. -/
def IsLeapYear (year : ℤ) : Prop := year % 4 = 0 ∧ (year % 100 ≠ 0 ∨ year % 400 = 0)

instance (year : ℤ) : Decidable (IsLeapYear year) := inferInstanceAs (Decidable (_ ∧ _))

def yearLength (year : ℤ) : ℤ := if IsLeapYear year then 366 else 365

/-- The length of a month, numbered from zero, of a leap or a common year. -/
def monthLength (leap : Bool) (month : Fin 12) : ℤ :=
  match month with
  | 1 => if leap then 29 else 28
  | 3 | 5 | 8 | 10 => 30
  | _ => 31

/-- The day on which a year starts, counted from the start of 1970. -/
noncomputable def startOfYear (year : ℤ) : ℤ :=
  ∑ y ∈ Finset.Ico 1970 year, yearLength y - ∑ y ∈ Finset.Ico year 1970, yearLength y

/-- The day of the year on which a month starts. -/
def startOfMonth (leap : Bool) (month : Fin 12) : ℤ :=
  ∑ m ∈ Finset.Iio month, monthLength leap m

/-! ## Years -/

theorem startOfYear_epoch : startOfYear 1970 = 0 := by
  simp [startOfYear]

/-- A year starts where the year before it ends. -/
theorem startOfYear_succ (year : ℤ) :
    startOfYear (year + 1) = startOfYear year + yearLength year := by
  unfold startOfYear
  rcases le_or_gt 1970 year with after | before
  · have split : Finset.Ico (1970 : ℤ) (year + 1) = insert year (Finset.Ico 1970 year) := by
      ext y
      simp only [Finset.mem_Ico, Finset.mem_insert]
      omega
    rw [split, Finset.sum_insert (by simp), Finset.Ico_eq_empty_of_le after,
      Finset.Ico_eq_empty_of_le (by omega : (1970 : ℤ) ≤ year + 1)]
    ring
  · have split : Finset.Ico year (1970 : ℤ) = insert year (Finset.Ico (year + 1) 1970) := by
      ext y
      simp only [Finset.mem_Ico, Finset.mem_insert]
      omega
    rw [split, Finset.sum_insert (by simp), Finset.Ico_eq_empty_of_le (by omega : year ≤ 1970),
      Finset.Ico_eq_empty_of_le (by omega : year + 1 ≤ (1970 : ℤ))]
    ring

/-- The closed form: 365 days a year, a day more every fourth year, a day less every
century, a day more every fourth century. -/
def startOfYearClosed (year : ℤ) : ℤ :=
  365 * (year - 1970) + (year - 1969) / 4 - (year - 1901) / 100 + (year - 1601) / 400

theorem startOfYearClosed_succ (year : ℤ) :
    startOfYearClosed (year + 1) = startOfYearClosed year + yearLength year := by
  unfold startOfYearClosed yearLength IsLeapYear
  split_ifs <;> omega

theorem startOfYear_eq (year : ℤ) : startOfYear year = startOfYearClosed year := by
  induction year using Int.inductionOn' (b := 1970) with
  | zero => rw [startOfYear_epoch]; decide
  | succ year _ ih => rw [startOfYear_succ, startOfYearClosed_succ, ih]
  | pred year _ ih =>
    have up := startOfYear_succ (year - 1)
    have upClosed := startOfYearClosed_succ (year - 1)
    rw [sub_add_cancel] at up upClosed
    linarith

theorem startOfYear_add_era (year era : ℤ) :
    startOfYear (year + 400 * era) = startOfYear year + 146097 * era := by
  rw [startOfYear_eq, startOfYear_eq]
  unfold startOfYearClosed
  omega

theorem isLeapYear_add_era (year era : ℤ) :
    IsLeapYear (year + 400 * era) ↔ IsLeapYear year := by
  unfold IsLeapYear
  omega

theorem yearLength_le (year : ℤ) : yearLength year ≤ 366 := by
  unfold yearLength
  split_ifs <;> norm_num

/-! ## Months -/

theorem startOfMonth_zero : ∀ leap : Bool, startOfMonth leap 0 = 0 := by
  decide

theorem startOfMonth_le : ∀ (leap : Bool) (month : Fin 12), startOfMonth leap month ≤ 335 := by
  decide

theorem startOfMonth_nonneg : ∀ (leap : Bool) (month : Fin 12), 0 ≤ startOfMonth leap month := by
  decide

/-- Every month lies in its year. -/
theorem startOfMonth_add_monthLength_le_yearLength : ∀ (leap : Bool) (month : Fin 12),
    startOfMonth leap month + monthLength leap month ≤ if leap then 366 else 365 := by
  decide

/-! ## Dates -/

/-- A date of the calendar: the day lies in its month. -/
structure Date where
  year : ℤ
  month : Fin 12
  day : ℤ
  one_le_day : 1 ≤ day
  day_le : day ≤ monthLength (decide (IsLeapYear year)) month

namespace Date

/-- The day of the year, from zero. -/
def yearDay (date : Date) : ℤ :=
  startOfMonth (decide (IsLeapYear date.year)) date.month + date.day - 1

/-- The number of days from the first of January 1970 to the date. -/
noncomputable def dayNumber (date : Date) : ℤ := startOfYear date.year + date.yearDay

/-- The day of the week, from Sunday; the epoch is a Thursday. -/
noncomputable def weekDay (date : Date) : ℤ := (date.dayNumber + 4) % 7

end Date

end Cloudlibc.Gregorian
