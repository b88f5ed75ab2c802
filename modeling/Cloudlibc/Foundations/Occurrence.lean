import Cloudlibc.Foundations.Words

/-!
# Occurrences of a word, and shifts that jump over none

A word occurs in a text at a position when the text continues there with the letters of
the word. A search compares the word with the text at one position and then shifts by
more than one when the letters compared so far exclude the positions in between.

With a critical position of the word three shifts are justified: the one after a
mismatch behind the critical position (`not_occursAt_of_suffix_mismatch`), the one after
a mismatch behind a long part that is known to match (`not_occursAt_of_known`), and the
one after the whole suffix has matched (`not_occursAt_of_suffix_match`).
-/

set_option autoImplicit false

namespace Cloudlibc.Words

open List

variable {α : Type*} {x y : List α}

/-- The text `y` continues at the position with the word `x`. -/
def OccursAt (x y : List α) (position : ℕ) : Prop :=
  ∀ i < x.length, y[position + i]? = x[i]?

instance [DecidableEq α] (x y : List α) (position : ℕ) : Decidable (OccursAt x y position) :=
  inferInstanceAs (Decidable (∀ i < x.length, y[position + i]? = x[i]?))

/-- A word occurs only where it fits in the text. -/
theorem OccursAt.fits {position : ℕ} (occurs : OccursAt x y position) (nonempty : 0 < x.length) :
    position + x.length ≤ y.length := by
  have last := occurs (x.length - 1) (by omega)
  rw [getElem?_eq_getElem (l := x) (by omega)] at last
  obtain ⟨inside, -⟩ := List.getElem?_eq_some_iff.mp last
  omega

/-- The first position at which the word occurs in the text, if there is one. -/
def IsFirstOccurrence (x y : List α) : Option ℕ → Prop
  | some position => OccursAt x y position ∧ ∀ q < position, ¬ OccursAt x y q
  | none => ∀ q, ¬ OccursAt x y q

/-- The first occurrence is unique. -/
theorem IsFirstOccurrence.unique {first second : Option ℕ} (isFirst : IsFirstOccurrence x y first)
    (isSecond : IsFirstOccurrence x y second) : first = second := by
  cases first with
  | none =>
    cases second with
    | none => rfl
    | some q => exact absurd isSecond.1 (isFirst q)
  | some p =>
    cases second with
    | none => exact absurd isFirst.1 (isSecond p)
    | some q =>
      rcases lt_trichotomy p q with before | rfl | behind
      · exact absurd isFirst.1 (isSecond.2 p before)
      · rfl
      · exact absurd isSecond.1 (isFirst.2 q behind)

/-- The quadratic search: try the positions of the text one after the other. -/
def naiveSearch [DecidableEq α] (x y : List α) : Option ℕ :=
  (List.range (y.length + 1)).find? fun position => OccursAt x y position

/-- The quadratic search finds the first occurrence. -/
theorem naiveSearch_isFirstOccurrence [DecidableEq α] (x y : List α) :
    IsFirstOccurrence x y (naiveSearch x y) := by
  unfold naiveSearch
  cases found : (range (y.length + 1)).find? fun position => OccursAt x y position with
  | none =>
    intro q occurs
    rw [find?_eq_none] at found
    rcases Nat.eq_zero_or_pos x.length with empty | nonempty
    · exact found 0 (by simp) (by simp [OccursAt, empty])
    · have fits := occurs.fits nonempty
      exact found q (by rw [mem_range]; omega) (by simpa using occurs)
  | some position =>
    rw [find?_range_eq_some] at found
    exact ⟨by simpa using found.1, fun q before => by simpa using found.2.2 q before⟩

/-! ## Shifts -/

section Shifts

variable {position period pos i t : ℕ}

/-- An occurrence over a part that matches at `pos` repeats the word locally. -/
theorem OccursAt.localRepetition (occurs : OccursAt x y (pos + t)) (positive : 0 < t)
    (matched : ∀ m, position ≤ m → m < position + t → m < x.length → y[pos + m]? = x[m]?) :
    LocalRepetition x position t where
  pos := positive
  agree m inFront reaches inside := by
    rw [← occurs m (by omega), ← matched (m + t) reaches (by omega) inside]
    congr 1
    omega

/-- A mismatch at `i` excludes an occurrence at a shift by a multiple of a period. -/
theorem not_occursAt_of_dvd (hasPeriod : x.HasPeriod period) (inside : i < x.length)
    (mismatch : y[pos + i]? ≠ x[i]?) (within : t ≤ i) (multiple : period ∣ t) :
    ¬ OccursAt x y (pos + t) := by
  intro occurs
  have atShift := occurs (i - t) (by omega)
  rw [show pos + t + (i - t) = pos + i by omega] at atShift
  refine mismatch (atShift.trans (getElem?_eq_of_mod_eq hasPeriod (by omega) inside ?_))
  obtain ⟨count, rfl⟩ := multiple
  rw [← Nat.add_mul_mod_self_left (i - period * count) period count, Nat.sub_add_cancel within]

section

variable (critical : CriticalPosition x position period)

include critical

/-- **The shift after a mismatch in the suffix.** -/
theorem not_occursAt_of_suffix_mismatch
    (inside : i < x.length) (matched : ∀ m, position ≤ m → m < i → y[pos + m]? = x[m]?)
    (mismatch : y[pos + i]? ≠ x[i]?) (within : position + t ≤ i) :
    ¬ OccursAt x y (pos + t) := by
  intro occurs
  refine not_occursAt_of_dvd critical.hasPeriod inside mismatch (by omega) ?_ occurs
  rcases Nat.eq_zero_or_pos t with rfl | positive
  · exact dvd_zero period
  · exact critical.dvd_of_localRepetition
      (occurs.localRepetition positive fun m reaches below _ => matched m reaches (by omega))
      (by omega)

/-- **The shift after a mismatch behind a known part**, as long as the rest of that part is
not shorter than the period. -/
theorem not_occursAt_of_known {known : ℕ}
    (inside : i < x.length) (matched : ∀ m < known, y[pos + m]? = x[m]?) (behind : known ≤ i)
    (mismatch : y[pos + i]? ≠ x[i]?) (within : t + period ≤ known) :
    ¬ OccursAt x y (pos + t) := by
  intro occurs
  have periodPos := critical.pos
  refine not_occursAt_of_dvd critical.hasPeriod inside mismatch (by omega) ?_ occurs
  have shifted : (x.take known).HasPeriod t := by
    rw [hasPeriod_iff_getElem?]
    intro m below
    rw [length_take] at below
    rw [getElem?_take_of_lt (by omega), getElem?_take_of_lt (by omega),
      ← occurs m (by omega), ← matched (m + t) (by omega)]
    congr 1
    omega
  have knownPeriod : (x.take known).HasPeriod period :=
    List.HasPeriod.infix critical.hasPeriod ( take_prefix _ _).isInfix
  have common : (x.take known).HasPeriod (Nat.gcd period t) :=
    knownPeriod.gcd shifted (by rw [length_take]; omega)
  have gcdPos : 0 < Nat.gcd period t := Nat.gcd_pos_of_pos_left _ periodPos
  -- The known part holds a whole period, so its common period is one of the word.
  have whole : x.HasPeriod (Nat.gcd period t) := by
    rw [hasPeriod_iff_forall_getElem?_mod]
    intro m below
    have remainder : m % period < period := Nat.mod_lt _ periodPos
    have fromPeriod := critical.hasPeriod.getElem?_mod period m x below
    have fromCommon := common.getElem?_mod _ (m % period) _ (by rw [length_take]; omega)
    have smaller : m % period % Nat.gcd period t ≤ m % period := Nat.mod_le _ _
    rw [getElem?_take_of_lt (by omega), getElem?_take_of_lt (by omega),
      Nat.mod_mod_of_dvd _ (Nat.gcd_dvd_left period t)] at fromCommon
    rw [fromCommon, fromPeriod]
  have least := critical.le_of_hasPeriod gcdPos whole
  have equal : Nat.gcd period t = period :=
    le_antisymm (Nat.le_of_dvd periodPos (Nat.gcd_dvd_left period t)) least
  exact equal ▸ Nat.gcd_dvd_right period t

/-- **The shift after the suffix has matched.** -/
theorem not_occursAt_of_suffix_match
    (matched : ∀ m, position ≤ m → m < x.length → y[pos + m]? = x[m]?) (positive : 0 < t)
    (shorter : t < period) : ¬ OccursAt x y (pos + t) := by
  intro occurs
  have rep := occurs.localRepetition positive fun m reaches _ inside => matched m reaches inside
  exact absurd (critical.minimal t rep) (by omega)

end

end Shifts

end Cloudlibc.Words
