import Cloudlibc.Foundations.Occurrence
import Cloudlibc.String.MaximalSuffix

/-!
# The Two-Way search

`TWOWAY_PART` of `common/twoway.h` compares the needle with the haystack at one position
after the other: first the suffix that starts at the critical position, then the prefix,
from right to left. The two uses of the macro differ in what follows a mismatch in the
prefix, and `HAYSTACK_SPACELEFT` says whether the needle still fits; both are parameters
here, so one model covers `memmem()`, `strstr()` and their wide variants.

A pass keeps that the needle occurs at none of the positions passed and that the first
`skip` characters match (`SearchInvariant`, `twowayPass_spec`). A run returns the first
occurrence (`twoway_spec`) and reads only inside the two strings.
-/

set_option autoImplicit false

namespace Cloudlibc.String

open Cloudlibc.Loop Cloudlibc.Words List Option

variable {α : Type} {ε : Type}

/-- The local variables of the search: the position in the haystack, the number of characters
known to match there, and what `HAYSTACK_SPACELEFT` keeps. -/
structure TwowayState (ε : Type) where
  haystack : ℕ
  skip : ℕ
  haystackend : ε
  deriving DecidableEq, Repr

section Model

variable [DecidableEq α] (needle haystack : List α)

/-- One pass of the comparison of the suffix, from left to right. -/
def suffixPass (pos i : ℕ) : Option (Pass ℕ ℕ) :=
  if i < needle.length then do
    let a ← needle[i]?
    let b ← haystack[pos + i]?
    if a = b then return .again (i + 1) else return .leave i
  else
    return .leave i

/-- One pass of the comparison of the prefix, from right to left. -/
def prefixPass (skip pos j : ℕ) : Option (Pass ℕ ℕ) :=
  if j > skip then do
    let a ← needle[j - 1]?
    let b ← haystack[pos + (j - 1)]?
    if a = b then return .again (j - 1) else return .leave j
  else
    return .leave j

variable (spaceleft : ℕ → ε → Option (Bool × ε)) (suffixpos period : ℕ)

/-- One pass of the loop of `TWOWAY_PART`. -/
def twowayPass (mismatch : TwowayState ε → TwowayState ε) (state : TwowayState ε) :
    Option (Pass (TwowayState ε) (Option ℕ)) := do
  let (left, haystackend) ← spaceleft state.haystack state.haystackend
  let state := { state with haystackend := haystackend }
  if left then
    let i ← run (suffixPass needle haystack state.haystack) (needle.length + 1)
      (if suffixpos ≥ state.skip then suffixpos else state.skip)
    if i < needle.length then
      if state.skip ≤ period ∨ i - suffixpos ≥ state.skip - period then
        return .again { state with haystack := state.haystack + (i - suffixpos + 1), skip := 0 }
      else
        return .again
          { state with haystack := state.haystack + (state.skip - period + 1), skip := 0 }
    else
      let j ← run (prefixPass needle haystack state.skip state.haystack) (suffixpos + 1) suffixpos
      if j ≤ state.skip then
        return .leave (some state.haystack)
      else
        return .again (mismatch state)
  else
    return .leave none

/-- What follows a mismatch in the prefix of a needle that is completely periodic. -/
def periodicMismatch (state : TwowayState ε) : TwowayState ε :=
  { state with haystack := state.haystack + period, skip := needle.length - period }

/-- What follows a mismatch in the prefix of a needle that is not completely periodic. -/
def aperiodicMismatch (state : TwowayState ε) : TwowayState ε :=
  if suffixpos > needle.length - suffixpos then
    { state with haystack := state.haystack + (suffixpos + 1) }
  else
    { state with haystack := state.haystack + (needle.length - suffixpos + 1) }

end Model

/-- `twoway_memmem` and `twoway_strstr`. The argument `memcmp` compares the characters of the
needle at two offsets. -/
def twoway [LinearOrder α] (needle haystack : List α)
    (spaceleft : ℕ → ε → Option (Bool × ε)) (memcmp : ℕ → ℕ → ℕ → Option ℤ)
    (haystackend : ε) : Option (Option ℕ) := do
  let (suffixpos, period) ← maximalSuffix needle
  let start : TwowayState ε := { haystack := 0, skip := 0, haystackend := haystackend }
  let order ← memcmp 0 period suffixpos
  if order = 0 then
    run (twowayPass needle haystack spaceleft suffixpos period (periodicMismatch needle period))
      (haystack.length + 2) start
  else
    run (twowayPass needle haystack spaceleft suffixpos period
      (aperiodicMismatch needle suffixpos)) (haystack.length + 2) start

/-! ## The two comparisons -/

section Comparisons

variable [DecidableEq α] {needle haystack : List α} {pos : ℕ}

theorem run_suffixPass (fits : pos + needle.length ≤ haystack.length) (start : ℕ)
    (inside : start ≤ needle.length) :
    ∃ i, run (suffixPass needle haystack pos) (needle.length + 1) start = some i ∧
      start ≤ i ∧ (∀ m, start ≤ m → m < i → haystack[pos + m]? = needle[m]?) ∧
        i ≤ needle.length ∧ (i < needle.length → haystack[pos + i]? ≠ needle[i]?) := by
  refine run_spec
    (fun i => start ≤ i ∧ (∀ m, start ≤ m → m < i → haystack[pos + m]? = needle[m]?) ∧
      i ≤ needle.length)
    (fun i => needle.length - i) _ ?_ ⟨le_rfl, fun m reaches below => by omega, inside⟩ (by omega)
  rintro i ⟨reached, matched, iInside⟩
  unfold suffixPass
  by_cases within : i < needle.length
  · have atNeedle := getElem?_eq_getElem within
    have atHaystack := getElem?_eq_getElem (show pos + i < haystack.length by omega)
    simp only [atNeedle, atHaystack, bind_eq_bind, bind_some]
    split_ifs with same
    · refine ⟨_, rfl, ⟨by omega, fun m reaches below => ?_, by omega⟩, by omega⟩
      rcases Nat.lt_succ_iff_lt_or_eq.mp below with earlier | rfl
      · exact matched m reaches earlier
      · rw [atNeedle, atHaystack, same]
    · refine ⟨_, rfl, reached, matched, iInside, fun _ equal => ?_⟩
      rw [atNeedle, atHaystack, some.injEq] at equal
      exact same equal.symm
  · simp only [within, if_false]
    exact ⟨_, rfl, reached, matched, iInside, fun below => absurd below within⟩

/-- The comparison of the prefix stops at the last mismatch, or at the part that is skipped. -/
theorem run_prefixPass (fits : pos + needle.length ≤ haystack.length) (start skip : ℕ)
    (inside : start ≤ needle.length) :
    ∃ j, run (prefixPass needle haystack skip pos) (start + 1) start = some j ∧
      (∀ m, j ≤ m → m < start → haystack[pos + m]? = needle[m]?) ∧ j ≤ start ∧
        (skip < j → haystack[pos + (j - 1)]? ≠ needle[j - 1]?) := by
  refine run_spec
    (fun j => (∀ m, j ≤ m → m < start → haystack[pos + m]? = needle[m]?) ∧ j ≤ start)
    (fun j => j) _ ?_ ⟨fun m reaches below => by omega, le_rfl⟩ (by omega)
  rintro j ⟨matched, jLe⟩
  unfold prefixPass
  by_cases reads : j > skip
  · have atNeedle := getElem?_eq_getElem (show j - 1 < needle.length by omega)
    have atHaystack := getElem?_eq_getElem (show pos + (j - 1) < haystack.length by omega)
    simp only [atNeedle, atHaystack, bind_eq_bind, bind_some]
    split_ifs with same
    · refine ⟨_, rfl, ⟨fun m reaches below => ?_, by omega⟩, by omega⟩
      rcases (show j - 1 ≤ m from reaches).lt_or_eq with later | rfl
      · exact matched m (by omega) below
      · rw [atNeedle, atHaystack, same]
    · refine ⟨_, rfl, matched, jLe, fun _ equal => ?_⟩
      rw [atNeedle, atHaystack, some.injEq] at equal
      exact same equal.symm
  · simp only [reads, if_false]
    exact ⟨_, rfl, matched, jLe, fun below => absurd below reads⟩

end Comparisons

/-! ## Passes of the search -/

/-- What `HAYSTACK_SPACELEFT` answers: whether the needle fits at the position. -/
def IsSpaceleft (needle haystack : List α) (spaceleft : ℕ → ε → Option (Bool × ε))
    (Keeps : ε → Prop) : Prop :=
  ∀ pos haystackend, Keeps haystackend → ∃ left next, spaceleft pos haystackend = some (left, next) ∧
    Keeps next ∧ (left = true ↔ pos + needle.length ≤ haystack.length)

/-- The invariant of the search. Characters are known to match only when `period` is the
smallest period of the whole needle. -/
structure SearchInvariant (needle haystack : List α) (Keeps : ε → Prop) (period smallest : ℕ)
    (state : TwowayState ε) : Prop where
  passed : ∀ q < state.haystack, ¬ OccursAt needle haystack q
  known : ∀ m < state.skip, haystack[state.haystack + m]? = needle[m]?
  skip_le : state.skip ≤ needle.length
  skip_cases : state.skip = 0 ∨ period = smallest
  keeps : Keeps state.haystackend

namespace SearchInvariant

variable {needle haystack : List α} {Keeps : ε → Prop} {period smallest : ℕ}
  {state : TwowayState ε}

/-- A shift past positions without an occurrence. -/
theorem shift (invariant : SearchInvariant needle haystack Keeps period smallest state)
    {shift skip : ℕ} (excluded : ∀ t < shift, ¬ OccursAt needle haystack (state.haystack + t))
    (known : ∀ m < skip, haystack[state.haystack + shift + m]? = needle[m]?)
    (skipLe : skip ≤ needle.length) (skipCases : skip = 0 ∨ period = smallest) :
    SearchInvariant needle haystack Keeps period smallest
      { state with haystack := state.haystack + shift, skip := skip } where
  passed q before := by
    by_cases earlier : q < state.haystack
    · exact invariant.passed q earlier
    · obtain ⟨t, rfl⟩ := Nat.exists_eq_add_of_le (Nat.le_of_not_lt earlier)
      exact excluded t (by simpa using before)
  known := known
  skip_le := skipLe
  skip_cases := skipCases
  keeps := invariant.keeps

/-- A shift that remembers nothing. -/
theorem shift_zero (invariant : SearchInvariant needle haystack Keeps period smallest state)
    {shift : ℕ} (excluded : ∀ t < shift, ¬ OccursAt needle haystack (state.haystack + t)) :
    SearchInvariant needle haystack Keeps period smallest
      { state with haystack := state.haystack + shift, skip := 0 } :=
  invariant.shift excluded (fun m below => absurd below (Nat.not_lt_zero m)) (Nat.zero_le _)
    (.inl rfl)

end SearchInvariant

section Search

variable {needle haystack : List α} {spaceleft : ℕ → ε → Option (Bool × ε)} {Keeps : ε → Prop}
  {suffixpos period smallest : ℕ}

/-- What a mismatch in the prefix may do: shift past positions without an occurrence. -/
def IsMismatch (needle haystack : List α) (Keeps : ε → Prop) (suffixpos period smallest : ℕ)
    (mismatch : TwowayState ε → TwowayState ε) : Prop :=
  ∀ state, SearchInvariant needle haystack Keeps period smallest state →
    (∀ m, suffixpos ≤ m → m < needle.length → haystack[state.haystack + m]? = needle[m]?) →
      ¬ OccursAt needle haystack state.haystack →
        SearchInvariant needle haystack Keeps period smallest (mismatch state) ∧
          state.haystack < (mismatch state).haystack

/-- A mismatch in the prefix of a periodic needle excludes all shifts below the period, and
what has matched then covers all of the shifted needle but its last period. -/
theorem isMismatch_periodicMismatch (critical : CriticalPosition needle suffixpos period) :
    IsMismatch needle haystack Keeps suffixpos period period (periodicMismatch needle period) := by
  intro state invariant matched absent
  refine ⟨invariant.shift (fun t below => ?_) (fun m below => ?_) (Nat.sub_le _ _) (.inr rfl), ?_⟩
  · rcases Nat.eq_zero_or_pos t with rfl | positive
    · exact absent
    · exact not_occursAt_of_suffix_match critical matched positive below
  · have reaches := critical.lt_period
    rw [add_assoc, matched (period + m) (by omega) (by omega), Nat.add_comm]
    exact (hasPeriod_iff_getElem?.mp critical.hasPeriod m (by omega)).symm
  · simpa [periodicMismatch] using critical.pos

section

variable (critical : CriticalPosition needle suffixpos smallest)

include critical

/-- A mismatch in the prefix of a needle whose period fits in neither part excludes all shifts
up to the length of the longer part. -/
theorem isMismatch_aperiodicMismatch
    (long : needle.length < suffixpos + smallest) (ne : period ≠ smallest) :
    IsMismatch needle haystack Keeps suffixpos period smallest
      (aperiodicMismatch needle suffixpos) := by
  intro state invariant matched absent
  have reaches := critical.lt_period
  have excluded : ∀ t, t < smallest → ¬ OccursAt needle haystack (state.haystack + t) := by
    intro t below
    rcases Nat.eq_zero_or_pos t with rfl | positive
    · exact absent
    · exact not_occursAt_of_suffix_match critical matched positive below
  have nothing : state.skip = 0 := invariant.skip_cases.resolve_right ne
  have asState : ∀ shift, { state with haystack := state.haystack + shift } =
      { state with haystack := state.haystack + shift, skip := 0 } := by
    intro shift
    rw [← nothing]
  unfold aperiodicMismatch
  split_ifs with longer
  · rw [asState]
    exact ⟨invariant.shift_zero fun t below => excluded t (by omega), by simp⟩
  · rw [asState]
    exact ⟨invariant.shift_zero fun t below => excluded t (by omega), by simp⟩

variable [DecidableEq α]

/-- Every pass keeps the invariant and moves on in the haystack, or returns the first
occurrence. -/
theorem twowayPass_spec (inside : suffixpos ≤ needle.length) (nonempty : 0 < needle.length)
    (space : IsSpaceleft needle haystack spaceleft Keeps) {mismatch : TwowayState ε → TwowayState ε}
    (isMismatch : IsMismatch needle haystack Keeps suffixpos period smallest mismatch)
    {state : TwowayState ε}
    (invariant : SearchInvariant needle haystack Keeps period smallest state) :
    ∃ pass, twowayPass needle haystack spaceleft suffixpos period mismatch state = some pass ∧
      pass.Meets
        (fun next => SearchInvariant needle haystack Keeps period smallest next ∧
          haystack.length + 1 - next.haystack < haystack.length + 1 - state.haystack)
        (IsFirstOccurrence needle haystack) := by
  obtain ⟨pos, skip, haystackend⟩ := state
  obtain ⟨left, next, answered, keeps, leftIff⟩ := space pos haystackend invariant.keeps
  have kept : SearchInvariant needle haystack Keeps period smallest
      { haystack := pos, skip := skip, haystackend := next } := { invariant with keeps := keeps }
  clear invariant
  have known : ∀ m < skip, haystack[pos + m]? = needle[m]? := kept.known
  have skipLe : skip ≤ needle.length := kept.skip_le
  simp only [twowayPass, answered, bind_eq_bind, bind_some]
  by_cases fits : pos + needle.length ≤ haystack.length
  · simp only [leftIff.mpr fits, if_true]
    obtain ⟨i, ranSuffix, reached, suffixMatched, iLe, suffixMismatch⟩ :=
      run_suffixPass fits (if suffixpos ≥ skip then suffixpos else skip)
        (by split_ifs <;> assumption)
    have reachedBoth : suffixpos ≤ i ∧ skip ≤ i := by
      constructor <;> split_ifs at reached <;> omega
    have matched : ∀ m, suffixpos ≤ m → m < i → haystack[pos + m]? = needle[m]? := by
      intro m reaches below
      by_cases isKnown : m < skip
      · exact known m isKnown
      · exact suffixMatched m (by split_ifs <;> omega) below
    rw [ranSuffix, bind_some]
    by_cases within : i < needle.length
    · simp only [within, if_true]
      split_ifs with far
      · refine ⟨_, rfl, kept.shift_zero fun t below => ?_, by simp only; omega⟩
        exact not_occursAt_of_suffix_mismatch critical within matched (suffixMismatch within)
          (by omega)
      · have periodic : period = smallest := kept.skip_cases.resolve_left (by simp only; omega)
        refine ⟨_, rfl, kept.shift_zero fun t below => ?_, by simp only; omega⟩
        exact not_occursAt_of_known critical within known reachedBoth.2 (suffixMismatch within)
          (by omega)
    · simp only [within, if_false]
      obtain rfl : i = needle.length := by omega
      obtain ⟨j, ranPrefix, prefixMatched, jLe, prefixMismatch⟩ :=
        run_prefixPass fits suffixpos skip inside
      rw [ranPrefix, bind_some]
      split_ifs with complete
      · refine ⟨_, rfl, fun m mInside => ?_, kept.passed⟩
        rcases Nat.lt_or_ge m suffixpos with inPrefix | inSuffix
        · rcases Nat.lt_or_ge m j with isKnown | compared
          · exact known m (by omega)
          · exact prefixMatched m compared inPrefix
        · exact matched m inSuffix mInside
      · have absent : ¬ OccursAt needle haystack pos := fun occurs =>
          prefixMismatch (by omega) (occurs (j - 1) (by omega))
        obtain ⟨shifted, moved⟩ := isMismatch _ kept matched absent
        exact ⟨_, rfl, shifted, by simp only at moved; omega⟩
  · simp only [mt leftIff.mp fits]
    refine ⟨_, rfl, fun q occurs => ?_⟩
    by_cases before : q < pos
    · exact kept.passed q before occurs
    · have := occurs.fits nonempty
      omega

theorem run_twowayPass (inside : suffixpos ≤ needle.length) (nonempty : 0 < needle.length)
    (space : IsSpaceleft needle haystack spaceleft Keeps) {mismatch : TwowayState ε → TwowayState ε}
    (isMismatch : IsMismatch needle haystack Keeps suffixpos period smallest mismatch)
    {haystackend : ε} (keeps : Keeps haystackend) :
    ∃ found, run (twowayPass needle haystack spaceleft suffixpos period mismatch)
        (haystack.length + 2) { haystack := 0, skip := 0, haystackend := haystackend } =
          some found ∧ IsFirstOccurrence needle haystack found := by
  refine run_spec (SearchInvariant needle haystack Keeps period smallest)
    (fun state => haystack.length + 1 - state.haystack) _
    (fun state => twowayPass_spec critical inside nonempty space isMismatch) ?_
    (by simp only; omega)
  exact ⟨fun q before => absurd before (Nat.not_lt_zero q),
    fun m below => absurd below (Nat.not_lt_zero m), Nat.zero_le _, .inl rfl, keeps⟩

end

end Search

/-- What the comparison of two parts of the needle answers. -/
def IsMemcmp (needle : List α) (memcmp : ℕ → ℕ → ℕ → Option ℤ) : Prop :=
  ∀ offset n, offset + n ≤ needle.length → ∃ order, memcmp 0 offset n = some order ∧
    (order = 0 ↔ ∀ i < n, needle[i]? = needle[i + offset]?)

/-- **The Two-Way search returns the first occurrence of the needle.** -/
theorem twoway_spec [LinearOrder α] {needle haystack : List α}
    {spaceleft : ℕ → ε → Option (Bool × ε)} {Keeps : ε → Prop}
    {memcmp : ℕ → ℕ → ℕ → Option ℤ} {haystackend : ε} (nonempty : 0 < needle.length)
    (space : IsSpaceleft needle haystack spaceleft Keeps) (isMemcmp : IsMemcmp needle memcmp)
    (keeps : Keeps haystackend) :
    ∃ found, twoway needle haystack spaceleft memcmp haystackend = some found ∧
      IsFirstOccurrence needle haystack found := by
  obtain ⟨suffixpos, period, found, ⟨smallest, critical⟩, periodPos, fits, suffixPeriod, least⟩ :=
    maximalSuffix_spec nonempty
  obtain ⟨order, compared, orderIff⟩ := isMemcmp period suffixpos (by omega)
  simp only [twoway, found, compared, bind_eq_bind, bind_some]
  split_ifs with periodic
  · -- The period of the suffix carries over to the prefix, so it is one of the needle.
    have whole : needle.HasPeriod period := by
      rw [hasPeriod_iff_getElem?]
      intro i inside
      rcases Nat.lt_or_ge i suffixpos with inPrefix | inSuffix
      · exact orderIff.mp periodic i inPrefix
      · have step := hasPeriod_iff_getElem?.mp suffixPeriod (i - suffixpos)
          (by rw [length_drop]; omega)
        rwa [getElem?_drop, getElem?_drop,
          show suffixpos + (i - suffixpos) = i by omega,
          show suffixpos + (i - suffixpos + period) = i + period by omega] at step
    obtain rfl : smallest = period := critical.eq_of_suffix periodPos whole least
    exact run_twowayPass critical (by omega) nonempty space (isMismatch_periodicMismatch critical)
      keeps
  · have long : needle.length < suffixpos + smallest :=
      critical.length_lt_of_not_agree periodPos suffixPeriod least fits (mt orderIff.mpr periodic)
    exact run_twowayPass critical (by omega) nonempty space
      (isMismatch_aperiodicMismatch critical long (by omega)) keeps

end Cloudlibc.String
