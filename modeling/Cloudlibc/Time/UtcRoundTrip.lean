import Cloudlibc.Time.LocaltimeUtc
import Cloudlibc.Time.MktimeUtc

/-!
# Breaking a timestamp down and joining it again

`__localtime_utc` followed by `__mktime_utc` gives the timestamp back whenever the
first reports no error.
-/

set_option autoImplicit false

namespace Cloudlibc.Time

open Gregorian MachineInteger

/-- The fields of a broken-down timestamp are values of their types. -/
theorem BreaksDown.inRange {timer : ℤ} {date : Date} {tm : Tm} (down : BreaksDown timer date tm) :
    tm.InRange where
  sec := fits_thirtyTwo.mpr (by have := down.second; omega)
  min := fits_thirtyTwo.mpr (by have := down.minute; omega)
  hour := fits_thirtyTwo.mpr (by have := down.hour; omega)
  mday := fits_thirtyTwo.mpr (by
    have := date.one_le_day
    have := date.day_le
    have := startOfMonth_nonneg (decide (IsLeapYear date.year)) date.month
    have := startOfMonth_add_monthLength_le_yearLength (decide (IsLeapYear date.year)) date.month
    rw [down.mday]
    split_ifs at this <;> omega)
  mon := fits_thirtyTwo.mpr (by rw [down.mon]; omega)
  year := fits_thirtyTwo.mpr (by rw [down.year, intMin, intMax]; omega)
  nsec := fits_sixtyFour.mpr (by rw [down.nsec]; omega)

/-- The instant of a broken-down timestamp whose year fits is the timestamp. -/
theorem BreaksDown.instant {timer : ℤ} {date : Date} {tm : Tm} (down : BreaksDown timer date tm)
    (fits : Fits 32 (date.year - 1900)) : tm.instant = timer := by
  have yearBounds := fits_thirtyTwo.mp fits
  have stored : tm.tmYear = date.year - 1900 := by
    rw [down.year, intMin, intMax]
    omega
  have month : tm.month = date.month := by
    apply Fin.ext
    simp only [Tm.month, down.mon]
    omega
  have year : tm.year = date.year := by
    rw [Tm.year, stored, down.mon]
    omega
  have day : tm.dayNumber = timer / 86400 := by
    rw [Tm.dayNumber, year, month, down.mday, ← down.dayNumber, Date.dayNumber, Date.yearDay]
    ring
  have := down.timeOfDay
  rw [Tm.instant, day, down.nsec, Int.zero_ediv]
  omega

/-- **Every timestamp breaks down into its Gregorian date and time of day**, the error is
reported exactly when the year does not fit, and joining the fields gives the timestamp
back when no error is reported. -/
theorem localtimeUtc_mktimeUtc (timer : Int64) :
    ∃ (date : Date) (tm : Tm) (error : Option Errno),
      localtimeUtc timer.toInt = some (tm, error) ∧
      BreaksDown timer.toInt date tm ∧
      (error = some .EOVERFLOW ↔ ¬ Fits 32 (date.year - 1900)) ∧
      (error = none ∨ error = some .EOVERFLOW) ∧
      (error = none → tm.tmYear = date.year - 1900 ∧ mktimeUtc tm = some ⟨timer.toInt, 0⟩) := by
  obtain ⟨date, tm, broken, down⟩ := localtimeUtc_breaksDown (fits_toInt timer)
  refine ⟨date, tm, _, broken, down, ?_, ?_, ?_⟩
  · split <;> simp_all
  · split <;> simp
  · intro noError
    have fits : Fits 32 (date.year - 1900) := by
      by_contra misfit
      simp [misfit] at noError
    have yearBounds := fits_thirtyTwo.mp fits
    refine ⟨by rw [down.year, intMin, intMax]; omega, ?_⟩
    rw [mktimeUtc_eq down.inRange, down.instant fits, down.nsec]
    rfl

end Cloudlibc.Time
