import Cloudlibc.Errno
import Cloudlibc.Time.Calendar

/-!
# Breaking a timestamp down

`__localtime_utc` splits a timestamp into 400-year eras of 146097 days. Within an
era it inserts virtual leap days until every year is 366 days long, so that one
division gives the year and the day of the year.

Inserting the leap days is correct for every day of an era (`applyLeapDays_eq`),
and the walk over the month table finds the month of every day of a year
(`advanceMonth_eq`).
The fields are those of the Gregorian date of the timestamp (`localtimeUtc_breaksDown`).
-/

set_option autoImplicit false

namespace Cloudlibc.Time

open Gregorian MachineInteger

/-- `ERALENGTH`, the seconds of 400 years. -/
def eraLength : ℤ := 146097 * 86400

/-- The timer within its era, and the era. -/
def normalizeEra (timer : ℤ) : Option (ℤ × ℤ) := do
  let era := timer.tdiv eraLength
  let timer := timer.tmod eraLength
  if timer < 0 then
    return (← signed 64 (era - 1), ← signed 64 (timer + eraLength))
  else
    return (era, timer)

/-- Applies leap days, so that every year becomes exactly 366 days long: first the
three at the boundaries of the centuries, then up to three per 1461 days. -/
def applyLeapDays (days : ℤ) : Option ℤ := do
  let daysSigned ← signed 32 ((← signed 32 days) - 11323)
  let days := unsigned 32 (days + daysSigned.tdiv 36524)
  return unsigned 32 (days + unsigned 32 (unsigned 32 (days / 1461 +
    unsigned 32 (days + 731) / 1461) + unsigned 32 (days + 1096) / 1461))

/-- The loop over the cumulative month table. The list is the table from the entry
after the current month on; a day past the last entry reads outside of it. -/
def advanceMonth (yday : ℤ) : List ℤ → ℤ → Option ℤ
  | [], _ => none
  | next :: rest, mon => if yday ≥ next then advanceMonth yday rest (mon + 1) else some mon

def intMin : ℤ := -2147483648

def intMax : ℤ := 2147483647

/-- The result, with the year set to a bound of its type and an error when it does not
fit. -/
def storeYear (tm : Tm) (year : ℤ) : Tm × Option Errno :=
  if year < intMin then ({ tm with tmYear := intMin }, some .EOVERFLOW)
  else if year > intMax then ({ tm with tmYear := intMax }, some .EOVERFLOW)
  else ({ tm with tmYear := year }, none)

/-- `__localtime_utc`. -/
def localtimeUtc (timer : ℤ) : Option (Tm × Option Errno) := do
  let (era, timer) ← normalizeEra timer
  let seconds := unsigned 32 (unsigned 64 timer % 86400)
  let minutes := unsigned 16 (seconds / 60)
  let days := unsigned 32 (unsigned 64 timer / 86400)
  let wday := unsigned 32 (days + 4) % 7
  let days ← applyLeapDays days
  let yday := days % 366
  let localYear := unsigned 16 (days / 366 + 70)
  let year ← signed 64 ((← signed 64 (era * 400)) + localYear)
  let months := getMonthsCumulative localYear
  let mon ← advanceMonth yday months.tail 0
  let mday ← signed 32 (yday - (← months[mon.toNat]?) + 1)
  let tm : Tm :=
    { tmSec := seconds % 60, tmMin := minutes % 60, tmHour := minutes / 60,
      tmMday := mday, tmMon := mon, tmWday := wday, tmYday := yday }
  return storeYear tm year

/-! ## The steps -/

theorem normalizeEra_eq {timer : ℤ} (fits : Fits 64 timer) :
    normalizeEra timer = some (timer / eraLength, timer % eraLength) := by
  have bounds := fits_sixtyFour.mp fits
  have normalized := tdiv_tmod_normalize (a := timer) (b := eraLength) (by decide)
  unfold normalizeEra
  by_cases negative : timer.tmod eraLength < 0
  · rw [if_pos negative, Prod.mk.injEq] at normalized
    have quotientBounds : -9223372036854775808 ≤ timer / eraLength ∧
        timer / eraLength < 9223372036854775808 := by
      simp only [eraLength]
      omega
    have remainderBounds : -9223372036854775808 ≤ timer % eraLength ∧
        timer % eraLength < 9223372036854775808 := by
      simp only [eraLength]
      omega
    simp [negative, normalized, signed_sixtyFour quotientBounds, signed_sixtyFour remainderBounds]
  · rw [if_neg negative, Prod.mk.injEq] at normalized
    simp only [if_neg negative]
    rw [normalized.1, normalized.2]
    rfl

/-- In four-year cycles of two common years, a leap year and a common year, adding a day
to each common year makes every year 366 days long. -/
theorem fourYearCycles (days : ℤ) (nonneg : 0 ≤ days) :
    ∃ year yday, days + (days / 1461 + (days + 731) / 1461 + (days + 1096) / 1461) =
        366 * year + yday ∧
      365 * year + (year + 1) / 4 + yday = days ∧ 0 ≤ year ∧ 0 ≤ yday ∧
        yday < if year % 4 = 2 then 366 else 365 := by
  obtain ⟨cycles, day, split, dayNonneg, dayBelow⟩ :
      ∃ cycles day, days = 1461 * cycles + day ∧ 0 ≤ day ∧ day < 1461 :=
    ⟨days / 1461, days % 1461, by omega, by omega, by omega⟩
  rcases (by omega : day < 365 ∨ 365 ≤ day ∧ day < 730 ∨ 730 ≤ day ∧ day < 1096 ∨ 1096 ≤ day)
    with first | second | third | fourth
  · refine ⟨4 * cycles, day, by omega, by omega, by omega, by omega, ?_⟩
    split_ifs <;> omega
  · refine ⟨4 * cycles + 1, day - 365, by omega, by omega, by omega, by omega, ?_⟩
    split_ifs <;> omega
  · refine ⟨4 * cycles + 2, day - 730, by omega, by omega, by omega, by omega, ?_⟩
    split_ifs <;> omega
  · refine ⟨4 * cycles + 3, day - 1096, by omega, by omega, by omega, by omega, ?_⟩
    split_ifs <;> omega

/-- The leap days at the boundaries of the centuries: none until 2101, then one more
at the start of each of 2101, 2201 and 2301. -/
theorem centuryDays {days : ℤ} (nonneg : 0 ≤ days) (below : days < 146097) :
    (days - 11323).tdiv 36524 =
      if days < 47847 then 0 else if days < 84371 then 1 else if days < 120895 then 2 else 3 := by
  rw [tdiv_eq_of_pos (by norm_num)]
  split_ifs <;> omega

/-- The centuries that skip their leap day, before a year of an era from 1970 on. -/
theorem skippedCenturies {days centuries year yday : ℤ} (below : days < 146097)
    (byRange : centuries =
      if days < 47847 then 0 else if days < 84371 then 1 else if days < 120895 then 2 else 3)
    (total : 365 * year + (year + 1) / 4 + yday = days + centuries) (yearNonneg : 0 ≤ year)
    (ydayNonneg : 0 ≤ yday) (ydayBelow : yday < if year % 4 = 2 then 366 else 365) :
    (year + 69) / 100 - (year + 369) / 400 = centuries ∧ year < 400 ∧
      yday < yearLength (1970 + year) := by
  have yearRange : if days < 47847 then year ≤ 130 else if days < 84371 then
      131 ≤ year ∧ year ≤ 230 else if days < 120895 then 231 ≤ year ∧ year ≤ 330 else
        331 ≤ year ∧ year < 400 := by
    split_ifs at byRange ydayBelow ⊢ <;> omega
  refine ⟨?_, ?_, ?_⟩
  · split_ifs at byRange yearRange <;> omega
  · split_ifs at yearRange <;> omega
  · unfold yearLength IsLeapYear
    split_ifs at byRange ydayBelow yearRange ⊢ <;> omega

/-- **Padding every year to 366 days is correct for every day of an era.** -/
theorem applyLeapDays_eq (days : ℤ) (nonneg : 0 ≤ days) (below : days < 146097) :
    ∃ year yday, applyLeapDays days = some (366 * year + yday) ∧ 0 ≤ year ∧ year < 400 ∧
      0 ≤ yday ∧ yday < yearLength (1970 + year) ∧ startOfYear (1970 + year) + yday = days := by
  obtain ⟨centuries, isCenturies⟩ : ∃ c, c = (days - 11323).tdiv 36524 := ⟨_, rfl⟩
  have byRange := isCenturies.trans (centuryDays nonneg below)
  obtain ⟨year, yday, padded, total, yearNonneg, ydayNonneg, ydayBelow⟩ :=
    fourYearCycles (days + centuries) (by omega)
  obtain ⟨skipped, yearBelow, inYear⟩ :=
    skippedCenturies below byRange total yearNonneg ydayNonneg ydayBelow
  refine ⟨year, yday, ?_, yearNonneg, yearBelow, ydayNonneg, inYear, ?_⟩
  · simp only [applyLeapDays, signed_thirtyTwo (x := days) (by omega),
      signed_thirtyTwo (x := days - 11323) (by omega), Option.bind_eq_bind, Option.bind_some,
      ← isCenturies, pure, ← padded]
    simp (disch := omega) only [unsigned_thirtyTwo]
  · rw [startOfYear_eq, startOfYearClosed, show 1970 + year - 1969 = year + 1 by ring,
      show 1970 + year - 1901 = year + 69 by ring, show 1970 + year - 1601 = year + 369 by ring]
    linarith

theorem advanceMonth_spec (yday : ℤ) :
    ∀ (entries : List ℤ) (mon : ℤ), (∃ entry ∈ entries, yday < entry) →
      ∃ (steps : ℕ) (entry : ℤ), advanceMonth yday entries mon = some (mon + steps) ∧
        entries[steps]? = some entry ∧ yday < entry ∧
          ∀ earlier < steps, ∀ e, entries[earlier]? = some e → e ≤ yday
  | [], _, past => by simp at past
  | next :: rest, mon, past => by
      by_cases stops : yday < next
      · exact ⟨0, next, by simp [advanceMonth, stops], rfl, stops, by simp⟩
      · have later : ∃ entry ∈ rest, yday < entry := by
          obtain ⟨entry, member, isPast⟩ := past
          rcases List.mem_cons.mp member with rfl | inRest
          · exact absurd isPast stops
          · exact ⟨entry, inRest, isPast⟩
        obtain ⟨steps, entry, found, atSteps, isPast, before⟩ :=
          advanceMonth_spec yday rest (mon + 1) later
        refine ⟨steps + 1, entry, ?_, by simpa using atSteps, isPast, ?_⟩
        · rw [advanceMonth, if_pos (not_lt.mp stops), found]
          push_cast
          ring_nf
        · intro earlier earlierLt e atEarlier
          cases earlier with
          | zero =>
            obtain rfl : next = e := by simpa using atEarlier
            exact not_lt.mp stops
          | succ earlier =>
            exact before earlier (by omega) e (by simpa using atEarlier)

/-- The walk over the month table stops at the month of the day. -/
theorem advanceMonth_eq (year : ℤ) {yday : ℤ} (nonneg : 0 ≤ yday)
    (below : yday < yearLength (1900 + year)) :
    ∃ month : Fin 12, advanceMonth yday (getMonthsCumulative year).tail 0 = some month.val ∧
      startOfMonth (decide (IsLeapYear (1900 + year))) month ≤ yday ∧
        yday < startOfMonth (decide (IsLeapYear (1900 + year))) month +
          monthLength (decide (IsLeapYear (1900 + year))) month := by
  have tailGet (k : ℕ) : (getMonthsCumulative year).tail[k]? =
      (getMonthsCumulative year)[k + 1]? := by
    rw [List.getElem?_tail]
  have last : yearLength (1900 + year) ∈ (getMonthsCumulative year).tail :=
    List.mem_of_getElem? ((tailGet 11).trans (getMonthsCumulative_last year))
  obtain ⟨steps, entry, found, atSteps, isPast, before⟩ :=
    advanceMonth_spec yday (getMonthsCumulative year).tail 0 ⟨_, last, below⟩
  have stepsLt : steps < 12 := by
    have := (List.getElem?_eq_some_iff.mp atSteps).1
    rw [List.length_tail, length_getMonthsCumulative] at this
    exact this
  refine ⟨⟨steps, stepsLt⟩, by simpa using found, ?_, ?_⟩
  · cases steps with
    | zero => exact (startOfMonth_zero _).le.trans nonneg
    | succ steps =>
      refine before steps (Nat.lt_succ_self _) _ ?_
      rw [tailGet]
      exact getMonthsCumulative_getElem? year ⟨steps + 1, stepsLt⟩
  · have ends := getMonthsCumulative_getElem?_succ year ⟨steps, stepsLt⟩
    rw [← tailGet, atSteps, Option.some.injEq] at ends
    rw [← ends]
    exact isPast

/-! ## The whole function -/

/-- The fields of a broken-down time are those of a date and a time of day. The year is
held at the bounds of its type. -/
structure BreaksDown (timer : ℤ) (date : Date) (tm : Tm) : Prop where
  dayNumber : date.dayNumber = timer / 86400
  timeOfDay : 3600 * tm.tmHour + 60 * tm.tmMin + tm.tmSec = timer % 86400
  hour : 0 ≤ tm.tmHour ∧ tm.tmHour < 24
  minute : 0 ≤ tm.tmMin ∧ tm.tmMin < 60
  second : 0 ≤ tm.tmSec ∧ tm.tmSec < 60
  mon : tm.tmMon = date.month.val
  mday : tm.tmMday = date.day
  yday : tm.tmYday = date.yearDay
  wday : tm.tmWday = date.weekDay
  year : tm.tmYear = max intMin (min intMax (date.year - 1900))
  nsec : tm.tmNsec = 0
  isdst : tm.tmIsdst = 0
  gmtoff : tm.tmGmtoff = 0

theorem storeYear_eq (tm : Tm) (year : ℤ) :
    storeYear tm year = ({ tm with tmYear := max intMin (min intMax year) },
      if Fits 32 year then none else some .EOVERFLOW) := by
  have fits : Fits 32 year ↔ ¬ year < intMin ∧ ¬ year > intMax := by
    rw [fits_thirtyTwo, intMin, intMax]
    omega
  unfold storeYear
  by_cases low : year < intMin
  · have high : year ≤ intMax := low.le.trans (by decide)
    rw [if_pos low, if_neg (by rw [fits]; exact fun h => h.1 low), min_eq_right high,
      max_eq_left low.le]
  · by_cases high : year > intMax
    · rw [if_neg low, if_pos high, if_neg (by rw [fits]; exact fun h => h.2 high),
        min_eq_left high.le, max_eq_right (by decide)]
    · rw [if_neg low, if_neg high, if_pos (fits.mpr ⟨low, high⟩), min_eq_right (not_lt.mp high),
        max_eq_right (not_lt.mp low)]

/-- **A timestamp breaks down into its Gregorian date.** The error is reported exactly
when the year does not fit. -/
theorem localtimeUtc_breaksDown {timer : ℤ} (fits : Fits 64 timer) :
    ∃ (date : Date) (tm : Tm),
      localtimeUtc timer = some (tm,
        if Fits 32 (date.year - 1900) then none else some .EOVERFLOW) ∧
      BreaksDown timer date tm := by
  have bounds := fits_sixtyFour.mp fits
  obtain ⟨era, isEra⟩ : ∃ era, era = timer / eraLength := ⟨_, rfl⟩
  obtain ⟨rest, isRest⟩ : ∃ rest, rest = timer % eraLength := ⟨_, rfl⟩
  have restBounds : 0 ≤ rest ∧ rest < 146097 * 86400 := by
    rw [isRest, eraLength]
    omega
  have joined : timer = 146097 * 86400 * era + rest := by
    rw [isEra, isRest, eraLength]
    omega
  have eraBounds : -730692562 ≤ era ∧ era ≤ 730692562 := by omega
  obtain ⟨year, yday, padded, yearNonneg, yearBelow, ydayNonneg, ydayBelow, start⟩ :=
    applyLeapDays_eq (rest / 86400) (by omega) (by omega)
  have sameYear : 1900 + (year + 70) = 1970 + year := by ring
  obtain ⟨month, found, monthStart, monthEnd⟩ :=
    advanceMonth_eq (year + 70) ydayNonneg (by rw [sameYear]; exact ydayBelow)
  have entry := getMonthsCumulative_getElem? (year + 70) month
  rw [sameYear] at monthStart monthEnd entry
  have leap : decide (IsLeapYear (1970 + year + 400 * era)) = decide (IsLeapYear (1970 + year)) :=
    decide_eq_decide.mpr (isLeapYear_add_era _ _)
  let date : Date :=
    { year := 1970 + year + 400 * era
      month := month
      day := yday - startOfMonth (decide (IsLeapYear (1970 + year))) month + 1
      one_le_day := by omega
      day_le := by rw [leap]; omega }
  have yearDay : date.yearDay = yday := by
    simp only [Date.yearDay, date, leap]
    ring
  have dayNumber : date.dayNumber = timer / 86400 := by
    rw [Date.dayNumber, yearDay, startOfYear_add_era]
    omega
  have yearStored : date.year - 1900 = era * 400 + (year + 70) := by
    simp only [date]
    ring
  let tm : Tm :=
    { tmSec := rest % 86400 % 60, tmMin := rest % 86400 / 60 % 60,
      tmHour := rest % 86400 / 60 / 60, tmMday := date.day, tmMon := month.val,
      tmWday := (rest / 86400 + 4) % 7, tmYday := yday }
  refine ⟨date, (storeYear tm (date.year - 1900)).1, ?_, ?_⟩
  · have quotient : (366 * year + yday) / 366 = year := by
      have := yearLength_le (1970 + year)
      omega
    have remainder : (366 * year + yday) % 366 = yday := by
      have := yearLength_le (1970 + year)
      omega
    simp only [localtimeUtc, normalizeEra_eq fits, ← isEra, ← isRest, Option.bind_eq_bind,
      Option.bind_some, unsigned_sixtyFour (x := rest) (by omega) (by omega),
      unsigned_thirtyTwo (x := rest % 86400) (by omega) (by omega),
      unsigned_sixteen (x := rest % 86400 / 60) (by omega) (by omega),
      unsigned_thirtyTwo (x := rest / 86400) (by omega) (by omega),
      unsigned_thirtyTwo (x := rest / 86400 + 4) (by omega) (by omega), padded, quotient,
      remainder, unsigned_sixteen (x := year + 70) (by omega) (by omega),
      signed_sixtyFour (x := era * 400) (by omega),
      signed_sixtyFour (x := era * 400 + (year + 70)) (by omega), found, Int.toNat_natCast, entry,
      signed_thirtyTwo (x := yday - startOfMonth (decide (IsLeapYear (1970 + year))) month + 1)
        (by have := yearLength_le (1970 + year); have := startOfMonth_nonneg
              (decide (IsLeapYear (1970 + year))) month; omega), pure]
    rw [storeYear_eq, storeYear_eq, yearStored]
  · rw [storeYear_eq]
    exact
      { dayNumber := dayNumber
        timeOfDay := by simp only [tm]; omega
        hour := by simp only [tm]; omega
        minute := by simp only [tm]; omega
        second := by simp only [tm]; omega
        mon := rfl
        mday := rfl
        yday := yearDay.symm
        wday := by rw [Date.weekDay, dayNumber]; simp only [tm]; omega
        year := rfl
        nsec := rfl
        isdst := rfl
        gmtoff := rfl }

end Cloudlibc.Time
