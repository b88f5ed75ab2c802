import Cloudlibc.Foundations.Gregorian
import Cloudlibc.Foundations.MachineInteger

/-!
# Broken-down time and the month tables

The structure `tm`, and the leap test and the cumulative month table of
`common/time.h`. Years count from 1900 here, as they do in `tm_year`.

The leap test is the Gregorian one (`isLeap_eq`), and the entry of a month in the
cumulative table is the start of that month (`getMonthsCumulative_getElem?`).
-/

set_option autoImplicit false

namespace Cloudlibc.Time

open Gregorian

/-- `struct tm`. -/
structure Tm where
  tmSec : ℤ := 0
  tmMin : ℤ := 0
  tmHour : ℤ := 0
  tmMday : ℤ := 0
  tmMon : ℤ := 0
  tmYear : ℤ := 0
  tmWday : ℤ := 0
  tmYday : ℤ := 0
  tmIsdst : ℤ := 0
  tmGmtoff : ℤ := 0
  tmZone : Option String := none
  tmNsec : ℤ := 0
  deriving DecidableEq, Repr

/-- `struct timespec`. -/
structure Timespec where
  tvSec : ℤ
  tvNsec : ℤ
  deriving DecidableEq, Repr

def isLeap (year : ℤ) : Bool :=
  let year := year.tmod 400
  let year := if year < 0 then year + 400 else year
  (year.tmod 4 == 0 && year.tmod 100 != 0) || year == 100

/-- The cumulative length of the months in a year. -/
def getMonthsCumulative (year : ℤ) : List ℤ :=
  if isLeap year then
    [0, 31, 60, 91, 121, 152, 182, 213, 244, 274, 305, 335, 366]
  else
    [0, 31, 59, 90, 120, 151, 181, 212, 243, 273, 304, 334, 365]

/-- **The leap test is the Gregorian rule**, on years counted from 1900. -/
theorem isLeap_eq (year : ℤ) : isLeap year = decide (IsLeapYear (1900 + year)) := by
  have normalized : (if year.tmod 400 < 0 then year.tmod 400 + 400 else year.tmod 400) =
      year % 400 := by
    rw [MachineInteger.tmod_eq_of_pos (by norm_num)]
    split_ifs <;> omega
  have nonneg : 0 ≤ year % 400 := Int.emod_nonneg _ (by norm_num)
  have byRule : ((year % 400 % 4 = 0 ∧ year % 400 % 100 ≠ 0) ∨ year % 400 = 100) ↔
      IsLeapYear (1900 + year) := by
    unfold IsLeapYear
    omega
  unfold isLeap
  simp only [normalized, Int.tmod_eq_emod_of_nonneg nonneg]
  rw [Bool.eq_iff_iff, decide_eq_true_iff, ← byRule]
  simp

theorem length_getMonthsCumulative (year : ℤ) : (getMonthsCumulative year).length = 13 := by
  unfold getMonthsCumulative
  split <;> rfl

theorem getMonthsCumulative_table : ∀ (leap : Bool) (month : Fin 12),
    (if leap then
        ([0, 31, 60, 91, 121, 152, 182, 213, 244, 274, 305, 335, 366] : List ℤ)
      else [0, 31, 59, 90, 120, 151, 181, 212, 243, 273, 304, 334, 365])[month.val]? =
      some (startOfMonth leap month) := by
  decide

theorem getMonthsCumulative_table_succ : ∀ (leap : Bool) (month : Fin 12),
    (if leap then
        ([0, 31, 60, 91, 121, 152, 182, 213, 244, 274, 305, 335, 366] : List ℤ)
      else [0, 31, 59, 90, 120, 151, 181, 212, 243, 273, 304, 334, 365])[month.val + 1]? =
      some (startOfMonth leap month + monthLength leap month) := by
  decide

/-- The table holds the start of every month. -/
theorem getMonthsCumulative_getElem? (year : ℤ) (month : Fin 12) :
    (getMonthsCumulative year)[month.val]? =
      some (startOfMonth (decide (IsLeapYear (1900 + year))) month) := by
  rw [← getMonthsCumulative_table, getMonthsCumulative, isLeap_eq]

/-- The entry after a month is where that month ends. -/
theorem getMonthsCumulative_getElem?_succ (year : ℤ) (month : Fin 12) :
    (getMonthsCumulative year)[month.val + 1]? =
      some (startOfMonth (decide (IsLeapYear (1900 + year))) month +
        monthLength (decide (IsLeapYear (1900 + year))) month) := by
  rw [← getMonthsCumulative_table_succ, getMonthsCumulative, isLeap_eq]

/-- The last entry is the length of the year. -/
theorem getMonthsCumulative_last (year : ℤ) :
    (getMonthsCumulative year)[12]? = some (yearLength (1900 + year)) := by
  rw [getMonthsCumulative, isLeap_eq, yearLength]
  by_cases leap : IsLeapYear (1900 + year) <;> simp [leap]

end Cloudlibc.Time
