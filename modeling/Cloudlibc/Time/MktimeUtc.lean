import Cloudlibc.Time.Calendar

/-!
# Joining a broken-down time

`__mktime_utc` normalises the nanoseconds and the months of a broken-down time,
and counts the days to its year by the closed form of the leap days, on a year
moved into a range where truncated division rounds down.

For every broken-down time of the machine's ranges no step overflows, and the
result is the exact instant that the fields denote (`mktimeUtc_eq`).
-/

set_option autoImplicit false

namespace Cloudlibc.Time

open Gregorian MachineInteger Option

/-- `NSEC_PER_SEC`. -/
def nsecPerSec : ℤ := 1000000000

/-- `modulo_quotient`: the quotient, and the remainder stored back. -/
def moduloQuotient (numer denom : ℤ) : Option (ℤ × ℤ) := do
  let quot := numer.tdiv denom
  let numer := numer.tmod denom
  if numer < 0 then
    return (← signed 64 (quot - 1), ← signed 64 (numer + denom))
  else
    return (quot, numer)

/-- A sum of terms of type `time_t`, added from the left. -/
def sumSigned (first : ℤ) (rest : List ℤ) : Option ℤ :=
  rest.foldlM (fun sum term => signed 64 (sum + term)) first

/-- The days since the epoch of a day of a year. The year is moved up by two eras, so
that it is at least 70 and the divisions round down. -/
def countDays (year yday : ℤ) : Option ℤ := do
  let era ← signed 64 (year.tdiv 400 - 2)
  let localYear := unsigned 16 (year.tmod 400 + 800)
  sumSigned yday
    [← signed 32 ((localYear - 70) * 365), (localYear - 69).tdiv 4, -(localYear - 1).tdiv 100,
      (localYear + 299).tdiv 400, ← signed 64 (era * 146097)]

/-- `__mktime_utc`. -/
def mktimeUtc (tm : Tm) : Option Timespec := do
  let (carry, nsec) ← moduloQuotient tm.tmNsec nsecPerSec
  let sec ← sumSigned tm.tmSec
    [← signed 64 (tm.tmMin * 60), ← signed 64 (tm.tmHour * 3600), carry]
  let (years, mon) ← moduloQuotient tm.tmMon 12
  let year ← signed 64 (tm.tmYear + years)
  let yday ← sumSigned tm.tmMday [← (getMonthsCumulative year)[mon.toNat]?, -1]
  let day ← countDays year yday
  return ⟨← signed 64 (sec + (← signed 64 (day * 86400))), nsec⟩

/-- Every field holds a value of its type. -/
structure Tm.InRange (tm : Tm) : Prop where
  sec : Fits 32 tm.tmSec
  min : Fits 32 tm.tmMin
  hour : Fits 32 tm.tmHour
  mday : Fits 32 tm.tmMday
  mon : Fits 32 tm.tmMon
  year : Fits 32 tm.tmYear
  nsec : Fits 64 tm.tmNsec

/-- The month, reduced to a month of a year. -/
def Tm.month (tm : Tm) : Fin 12 := ⟨(tm.tmMon % 12).toNat, by omega⟩

/-- The year, once whole years are taken out of the months. -/
def Tm.year (tm : Tm) : ℤ := 1900 + (tm.tmYear + tm.tmMon / 12)

/-- The day that the year, month and day of the month denote. -/
noncomputable def Tm.dayNumber (tm : Tm) : ℤ :=
  startOfYear tm.year + startOfMonth (decide (IsLeapYear tm.year)) tm.month + tm.tmMday - 1

/-- The instant that the fields denote, in seconds. -/
noncomputable def Tm.instant (tm : Tm) : ℤ :=
  tm.tmSec + 60 * tm.tmMin + 3600 * tm.tmHour + tm.tmNsec / nsecPerSec + 86400 * tm.dayNumber

/-! ## The steps -/

theorem moduloQuotient_eq {numer : ℤ} (fits : Fits 64 numer) (denom : ℤ) (positive : 1 < denom)
    (denomFits : Fits 64 denom) :
    moduloQuotient numer denom = some (numer / denom, numer % denom) := by
  have bounds := fits_sixtyFour.mp fits
  have denomBounds := fits_sixtyFour.mp denomFits
  have normalized := tdiv_tmod_normalize (a := numer) (b := denom) (by omega)
  have remainderNonneg := Int.emod_nonneg numer (by omega : denom ≠ 0)
  have quotientBounds : -9223372036854775808 ≤ numer / denom ∧
      numer / denom < 9223372036854775808 :=
    ⟨Int.le_ediv_of_mul_le (by omega) (by nlinarith),
      Int.ediv_lt_of_lt_mul (by omega) (by nlinarith)⟩
  unfold moduloQuotient
  by_cases negative : numer.tmod denom < 0
  · rw [if_pos negative, Prod.mk.injEq] at normalized
    simp [negative, normalized, signed_sixtyFour quotientBounds,
      signed_sixtyFour (x := numer % denom) (by omega)]
  · rw [if_neg negative, Prod.mk.injEq] at normalized
    simp only [if_neg negative]
    rw [normalized.1, normalized.2]
    rfl

@[simp]
theorem sumSigned_nil (first : ℤ) : sumSigned first [] = some first := rfl

theorem sumSigned_cons {first term : ℤ} {rest : List ℤ}
    (bounds : -9223372036854775808 ≤ first + term ∧ first + term < 9223372036854775808) :
    sumSigned first (term :: rest) = sumSigned (first + term) rest := by
  rw [sumSigned, List.foldlM_cons, signed_sixtyFour bounds]
  rfl

/-- The day count on the year moved into range is the start of the year. -/
theorem startOfYear_localYear (year : ℤ) {era localYear : ℤ} (isEra : era = year.tdiv 400 - 2)
    (isLocalYear : localYear = year.tmod 400 + 800) :
    (localYear - 70) * 365 + (localYear - 69).tdiv 4 - (localYear - 1).tdiv 100 +
      (localYear + 299).tdiv 400 + era * 146097 = startOfYear (1900 + year) := by
  have moved : year = localYear + 400 * era := by
    have := Int.mul_tdiv_add_tmod year 400
    omega
  have nonneg : 401 ≤ localYear := by
    rw [isLocalYear, tmod_eq_of_pos (by norm_num)]
    split_ifs <;> omega
  rw [moved, show 1900 + (localYear + 400 * era) = 1900 + localYear + 400 * era by ring,
    startOfYear_add_era, startOfYear_eq, startOfYearClosed,
    Int.tdiv_eq_ediv_of_nonneg (by omega), Int.tdiv_eq_ediv_of_nonneg (by omega),
    Int.tdiv_eq_ediv_of_nonneg (by omega)]
  omega

/-- The start of a year differs from 365 days a year by the leap days. -/
theorem startOfYear_bounds (year : ℤ) (lower : -4294967296 ≤ year) (upper : year ≤ 4294967296) :
    -1600000000000 ≤ startOfYear (1900 + year) ∧ startOfYear (1900 + year) ≤ 1600000000000 := by
  rw [startOfYear_eq, startOfYearClosed]
  omega

/-- The count of days has no overflow and ends at the day of the year. -/
theorem countDays_eq {year yday : ℤ} (lower : -4294967296 ≤ year) (upper : year ≤ 4294967296)
    (ydayLower : -4294967296 ≤ yday) (ydayUpper : yday ≤ 4294967296) :
    countDays year yday = some (startOfYear (1900 + year) + yday) := by
  have counted := startOfYear_localYear year rfl rfl
  have quotient : -10737419 ≤ year.tdiv 400 ∧ year.tdiv 400 ≤ 10737419 := by
    rw [tdiv_eq_of_pos (by norm_num)]
    split_ifs <;> omega
  have remainder : -400 < year.tmod 400 ∧ year.tmod 400 < 400 := by
    rw [tmod_eq_of_pos (by norm_num)]
    split_ifs <;> omega
  simp only [countDays, bind_eq_bind]
  generalize year.tdiv 400 = era at *
  generalize year.tmod 400 = localYear at *
  simp only [Int.tdiv_eq_ediv_of_nonneg (show 0 ≤ localYear + 800 - 69 by omega),
    Int.tdiv_eq_ediv_of_nonneg (show 0 ≤ localYear + 800 - 1 by omega),
    Int.tdiv_eq_ediv_of_nonneg (show 0 ≤ localYear + 800 + 299 by omega)] at counted
  simp only [signed_sixtyFour (x := era - 2) (by omega),
    unsigned_sixteen (x := localYear + 800) (by omega) (by omega), bind_some,
    signed_thirtyTwo (x := (localYear + 800 - 70) * 365) (by omega),
    signed_sixtyFour (x := (era - 2) * 146097) (by omega),
    Int.tdiv_eq_ediv_of_nonneg (show 0 ≤ localYear + 800 - 69 by omega),
    Int.tdiv_eq_ediv_of_nonneg (show 0 ≤ localYear + 800 - 1 by omega),
    Int.tdiv_eq_ediv_of_nonneg (show 0 ≤ localYear + 800 + 299 by omega)]
  rw [sumSigned_cons (by omega), sumSigned_cons (by omega), sumSigned_cons (by omega),
    sumSigned_cons (by omega), sumSigned_cons (by omega), sumSigned_nil, ← counted]
  ring

theorem getMonthsCumulative_month (tm : Tm) :
    (getMonthsCumulative (tm.tmYear + tm.tmMon / 12))[(tm.tmMon % 12).toNat]? =
      some (startOfMonth (decide (IsLeapYear tm.year)) tm.month) :=
  getMonthsCumulative_getElem? _ tm.month

/-- **No step overflows, and the result is the exact instant.** -/
theorem mktimeUtc_eq {tm : Tm} (inRange : tm.InRange) :
    mktimeUtc tm = some ⟨tm.instant, tm.tmNsec % nsecPerSec⟩ := by
  have sec := fits_thirtyTwo.mp inRange.sec
  have min := fits_thirtyTwo.mp inRange.min
  have hour := fits_thirtyTwo.mp inRange.hour
  have mday := fits_thirtyTwo.mp inRange.mday
  have mon := fits_thirtyTwo.mp inRange.mon
  have year := fits_thirtyTwo.mp inRange.year
  have nsec := fits_sixtyFour.mp inRange.nsec
  have carryBounds : -9223372037 ≤ tm.tmNsec / nsecPerSec ∧
      tm.tmNsec / nsecPerSec ≤ 9223372037 := by
    unfold nsecPerSec
    omega
  have startNonneg := startOfMonth_nonneg (decide (IsLeapYear tm.year)) tm.month
  have startLe := startOfMonth_le (decide (IsLeapYear tm.year)) tm.month
  have yearStart := startOfYear_bounds (tm.tmYear + tm.tmMon / 12) (by omega) (by omega)
  have seconds : sumSigned tm.tmSec [tm.tmMin * 60, tm.tmHour * 3600, tm.tmNsec / nsecPerSec] =
      some (tm.tmSec + tm.tmMin * 60 + tm.tmHour * 3600 + tm.tmNsec / nsecPerSec) := by
    rw [sumSigned_cons (by omega), sumSigned_cons (by omega), sumSigned_cons (by omega),
      sumSigned_nil]
  have yday : sumSigned tm.tmMday
      [startOfMonth (decide (IsLeapYear tm.year)) tm.month, -1] =
      some (tm.tmMday + startOfMonth (decide (IsLeapYear tm.year)) tm.month + -1) := by
    rw [sumSigned_cons (by omega), sumSigned_cons (by omega), sumSigned_nil]
  simp only [mktimeUtc, bind_eq_bind, bind_some,
    moduloQuotient_eq inRange.nsec nsecPerSec (by decide) (by decide),
    moduloQuotient_eq (fits_sixtyFour.mpr ⟨by omega, by omega⟩ : Fits 64 tm.tmMon)
      12 (by decide) (by decide),
    signed_sixtyFour (x := tm.tmMin * 60) (by omega),
    signed_sixtyFour (x := tm.tmHour * 3600) (by omega), seconds,
    signed_sixtyFour (x := tm.tmYear + tm.tmMon / 12) (by omega), getMonthsCumulative_month, yday]
  rw [countDays_eq (by omega) (by omega) (by omega) (by omega), bind_some,
    signed_sixtyFour (by omega), bind_some, signed_sixtyFour (by omega)]
  simp only [bind_some, pure, Tm.instant, Tm.dayNumber, Tm.year]
  ring

/-- **The instant is the sum of the fields**, where the days are counted to the first of the
normalised month, and the nanoseconds lie below a second. -/
theorem mktimeUtc_exact {tm : Tm} (inRange : tm.InRange) :
    ∃ result, mktimeUtc tm = some result ∧
      (∀ year, year = 1900 + tm.tmYear + tm.tmMon / 12 →
        result.tvSec = tm.tmSec + 60 * tm.tmMin + 3600 * tm.tmHour +
          86400 * (startOfYear year + startOfMonth (decide (IsLeapYear year)) tm.month +
            (tm.tmMday - 1)) + tm.tmNsec / 10 ^ 9) ∧
      result.tvNsec = tm.tmNsec % 10 ^ 9 ∧ 0 ≤ result.tvNsec ∧ result.tvNsec ≤ 999999999 := by
  refine ⟨_, mktimeUtc_eq inRange, ?_, rfl, ?_, ?_⟩
  · rintro year rfl
    rw [Tm.instant, Tm.dayNumber, Tm.year, nsecPerSec, ← add_assoc]
    ring_nf
  · exact Int.emod_nonneg _ (by decide)
  · exact Int.le_of_lt_add_one (Int.emod_lt_of_pos tm.tmNsec (show 0 < nsecPerSec by decide))

theorem mktimeUtc_exact_minute_before_epoch :
    mktimeUtc { tmMin := -1, tmMday := 1, tmMon := -12, tmYear := 71, tmNsec := -1 } =
      some ⟨-61, 999999999⟩ := by
  obtain ⟨⟨sec, nsec⟩, joined, exact, rest, -⟩ := @mktimeUtc_exact
    { tmMin := -1, tmMday := 1, tmMon := -12, tmYear := 71, tmNsec := -1 }
    ⟨by decide, by decide, by decide, by decide, by decide, by decide, by decide⟩
  have seconds := exact 1970 (by norm_num)
  rw [startOfYear_epoch] at seconds
  rw [joined]
  obtain rfl : sec = -61 := seconds.trans (by decide)
  obtain rfl : nsec = 999999999 := rest
  rfl

end Cloudlibc.Time
