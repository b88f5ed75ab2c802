import Mathlib

/-!
# Repetitions at a position of a word, and critical positions

A position of a word has a local repetition of length `t` when the letters before
it agree with the letters `t` further on, as far as both exist. Every period of the
word is a local repetition at every position. The converse holds at a critical
position.

The start of the maximal suffix of a word, for an order of the letters or for the
reversed one, whichever suffix is shorter, is a critical position
(`localRepetition_of_maximalSuffixes`): every local repetition there is a period of
the word, and is longer than the part of the word before the position.

A critical position carries the smallest period of the word (`CriticalPosition`). The
lengths of the local repetitions there that fit in the suffix are multiples of that
period (`CriticalPosition.dvd_of_localRepetition`). When the smallest period of the
suffix is not a period of the word, the smallest period of the word is longer than the
suffix (`CriticalPosition.length_lt_of_not_agree`).
-/

set_option autoImplicit false

namespace Cloudlibc.Words

open List Function

variable {α : Type*}

/-- A separator stands in front of every word but the first. -/
theorem intercalate_singleton_cons (separator : α) (word : List α) (words : List (List α)) :
    [separator].intercalate (word :: words) = word ++ words.flatMap (separator :: ·) := by
  induction words generalizing word with
  | nil => simp
  | cons next words ih => rw [intercalate_cons_cons, ih next, flatMap_cons]; simp

/-- What holds for the separator holds for all elements if it does for those of the words. -/
theorem forall_mem_splitOn [DecidableEq α] {separator : α} {p : α → Prop} (holds : p separator)
    (s : List α) : (∀ c ∈ s, p c) ↔ ∀ word ∈ s.splitOn separator, ∀ c ∈ word, p c := by
  obtain ⟨word, words, split⟩ := exists_cons_of_ne_nil (splitOn_ne_nil separator s)
  have joined := @intercalate_splitOn _ s _ _ separator
  rw [split, intercalate_singleton_cons] at joined
  conv_lhs => rw [← joined]
  grind

/-! ## Suffixes in lexicographic order -/

section Suffixes

variable {r : α → α → Prop} {x : List α}

variable {j i : ℕ}

/-- Equal letters in front of two suffixes do not matter to their order. -/
theorem lex_drop_iff_of_agree [Std.Irrefl r] {q : ℕ} (agree : ∀ m < q, x[i + m]? = x[j + m]?)
    (iFits : i + q ≤ x.length) (jFits : j + q ≤ x.length) :
    List.Lex r (x.drop i) (x.drop j) ↔ List.Lex r (x.drop (i + q)) (x.drop (j + q)) := by
  induction q with
  | zero => rfl
  | succ q ih =>
    have letter := agree q (Nat.lt_succ_self q)
    rw [getElem?_eq_getElem (by omega), getElem?_eq_getElem (by omega),
      Option.some.injEq] at letter
    rw [ih (fun m below => agree m (by omega)) (by omega) (by omega),
      drop_eq_getElem_cons (by omega : i + q < x.length),
      drop_eq_getElem_cons (by omega : j + q < x.length), letter, lex_cons_iff]
    rfl

/-- A smaller letter after equal ones makes a suffix smaller. -/
theorem lex_drop_of_mismatch [Std.Irrefl r] {q : ℕ} {a b : α}
    (agree : ∀ m < q, x[i + m]? = x[j + m]?) (atFirst : x[i + q]? = some a)
    (atSecond : x[j + q]? = some b) (less : r a b) : List.Lex r (x.drop i) (x.drop j) := by
  obtain ⟨iFits, rfl⟩ := List.getElem?_eq_some_iff.mp atFirst
  obtain ⟨jFits, rfl⟩ := List.getElem?_eq_some_iff.mp atSecond
  rw [lex_drop_iff_of_agree agree iFits.le jFits.le, drop_eq_getElem_cons iFits,
    drop_eq_getElem_cons jFits]
  exact List.Lex.rel less

/-- A suffix that ends while it agrees with a longer one is smaller. -/
theorem lex_drop_of_prefix [Std.Irrefl r] (before : j < i) (fits : i ≤ x.length)
    (agree : ∀ m, i + m < x.length → x[i + m]? = x[j + m]?) : List.Lex r (x.drop i) (x.drop j) := by
  have joined : i + (x.length - i) = x.length := by omega
  have inside : j + (x.length - i) < x.length := by omega
  rw [lex_drop_iff_of_agree (fun m below => agree m (by omega)) (by omega) inside.le, joined,
    drop_length, drop_eq_getElem_cons inside]
  exact List.Lex.nil

/-- A word below another for an order and for the reversed order is a prefix of it. -/
theorem getElem?_eq_of_lex_swap [Std.Asymm r] :
    ∀ {u v : List α}, List.Lex r u v → List.Lex (swap r) u v →
      ∀ m, m < u.length → u[m]? = v[m]?
  | [], _, _, _, m, inside => by simp at inside
  | a :: u, [], less, _, _, _ => by cases less
  | a :: u, b :: v, .rel less, .rel greater, _, _ => absurd less (Std.Asymm.asymm _ _ greater)
  | a :: u, _ :: v, .rel less, .cons _, _, _ => absurd less (Std.Irrefl.irrefl a)
  | a :: u, _ :: v, .cons _, .rel greater, _, _ => absurd greater (Std.Irrefl.irrefl a)
  | a :: u, _ :: v, .cons less, .cons greater, m, inside => by
      cases m with
      | zero => rfl
      | succ m =>
        simp only [getElem?_cons_succ]
        exact getElem?_eq_of_lex_swap less greater m (by simpa using inside)

end Suffixes

/-! ## Local repetitions -/

/-- The letters before the position agree with those `length` further on. -/
structure LocalRepetition (x : List α) (position length : ℕ) : Prop where
  pos : 0 < length
  agree : ∀ i, i < position → position ≤ i + length → i + length < x.length →
    x[i]? = x[i + length]?

/-- The suffix at `start` is above every other suffix. -/
structure IsMaximalSuffix (r : α → α → Prop) (x : List α) (start : ℕ) : Prop where
  lt_length : start < x.length
  maximal : ∀ t, t < x.length → t ≠ start → List.Lex r (x.drop t) (x.drop start)

variable {x : List α}

theorem LocalRepetition.of_hasPeriod {p : ℕ} (positive : 0 < p) (period : x.HasPeriod p)
    (position : ℕ) : LocalRepetition x position p where
  pos := positive
  agree i _ _ inside := hasPeriod_iff_getElem?.mp period i (by omega)

section Critical

variable {r : α → α → Prop} [Std.Asymm r] {x : List α} {start other : ℕ}

/-- At the start of a maximal suffix, a local repetition does not fit in front. -/
theorem IsMaximalSuffix.lt_of_localRepetition (isMax : IsMaximalSuffix r x start) {t : ℕ}
    (rep : LocalRepetition x start t) : start < t := by
  by_contra fitsInFront
  have inside := isMax.lt_length
  have positive := rep.pos
  have below := isMax.maximal (start - t) (by omega) (by omega)
  by_cases ends : x.length ≤ start + t
  · have above : List.Lex r (x.drop start) (x.drop (start - t)) := by
      refine lex_drop_of_prefix (by omega) inside.le fun m within => ?_
      have shifted : start - t + m + t = start + m := by omega
      rw [rep.agree (start - t + m) (by omega) (by omega) (by omega), shifted]
    exact Std.Asymm.asymm _ _ below above
  · have agree : ∀ m < t, x[start - t + m]? = x[start + m]? := by
      intro m within
      have shifted : start - t + m + t = start + m := by omega
      rw [rep.agree (start - t + m) (by omega) (by omega) (by omega), shifted]
    rw [lex_drop_iff_of_agree agree (by omega) (by omega),
      show start - t + t = start by omega] at below
    exact Std.Asymm.asymm _ _ below (isMax.maximal (start + t) (by omega) (by omega))

/-- **The critical factorization theorem.** Of the maximal suffixes for an order and for
the reversed order, the start of the shorter one is a critical position. -/
theorem localRepetition_of_maximalSuffixes (isMax : IsMaximalSuffix r x start)
    (isMaxSwap : IsMaximalSuffix (swap r) x other) (before : other ≤ start) {t : ℕ}
    (rep : LocalRepetition x start t) : start < t ∧ x.HasPeriod t := by
  have longer := isMax.lt_of_localRepetition rep
  refine ⟨longer, hasPeriod_iff_getElem?.mpr fun i inside => ?_⟩
  by_cases inFront : i < start
  · exact rep.agree i inFront (by omega) (by omega)
  -- The suffix after the repetition is below the maximal suffix in both orders.
  have below := isMax.maximal (start + t) (by omega) (by omega)
  have belowSwap := isMaxSwap.maximal (other + t) (by omega) (by omega)
  have agree : ∀ m < start - other, x[other + t + m]? = x[other + m]? := by
    intro m within
    rw [rep.agree (other + m) (by omega) (by omega) (by omega),
      show other + m + t = other + t + m by omega]
  rw [lex_drop_iff_of_agree agree (by omega) (by omega),
    show other + t + (start - other) = start + t by omega,
    show other + (start - other) = start by omega] at belowSwap
  have same := getElem?_eq_of_lex_swap below belowSwap (i - start)
    (by rw [length_drop]; omega)
  rw [getElem?_drop, getElem?_drop, show start + t + (i - start) = i + t by omega,
    show start + (i - start) = i by omega] at same
  exact same.symm

end Critical

/-! ## Critical positions -/

/-- Letters whose positions agree modulo a period are equal. -/
theorem getElem?_eq_of_mod_eq {p i j : ℕ} (period : x.HasPeriod p) (iInside : i < x.length)
    (jInside : j < x.length) (same : i % p = j % p) : x[i]? = x[j]? := by
  rw [← period.getElem?_mod p i x iInside, ← period.getElem?_mod p j x jInside, same]

/-- A position where every local repetition is at least as long as a period of the whole
word, which is longer than the part before the position. -/
structure CriticalPosition (x : List α) (position period : ℕ) : Prop where
  pos : 0 < period
  hasPeriod : x.HasPeriod period
  lt_period : position < period
  minimal : ∀ t, LocalRepetition x position t → period ≤ t

/-- The start of the shorter of the two maximal suffixes is critical. -/
theorem exists_criticalPosition {r : α → α → Prop} [Std.Asymm r] {start other : ℕ}
    (isMax : IsMaximalSuffix r x start) (isMaxSwap : IsMaximalSuffix (swap r) x other)
    (before : other ≤ start) : ∃ period, CriticalPosition x start period := by
  classical
  have trivialPeriod : LocalRepetition x start x.length :=
    LocalRepetition.of_hasPeriod (by have := isMax.lt_length; omega)
      (hasPeriod_of_length_le x _ le_rfl) start
  have some : ∃ t, LocalRepetition x start t := ⟨_, trivialPeriod⟩
  have critical := localRepetition_of_maximalSuffixes isMax isMaxSwap before (Nat.find_spec some)
  exact ⟨Nat.find some, (Nat.find_spec some).pos, critical.2, critical.1,
    fun t rep => Nat.find_min' some rep⟩

namespace CriticalPosition

variable {x : List α} {position period : ℕ}

section

variable (critical : CriticalPosition x position period)

include critical

/-- A local repetition that fits in the suffix is a multiple of the smallest period. -/
theorem dvd_of_localRepetition {t : ℕ}
    (rep : LocalRepetition x position t) (fits : position + t ≤ x.length) : period ∣ t := by
  by_contra indivisible
  have positive : 0 < t % period :=
    Nat.pos_of_ne_zero fun zero => indivisible (Nat.dvd_of_mod_eq_zero zero)
  have smaller : t % period < period := Nat.mod_lt _ critical.pos
  have shorter : t % period ≤ t := Nat.mod_le _ _
  have remainder : LocalRepetition x position (t % period) := by
    refine ⟨positive, fun i inFront reaches inside => ?_⟩
    rw [rep.agree i inFront (by omega) (by omega)]
    exact getElem?_eq_of_mod_eq critical.hasPeriod (by omega) inside (by simp)
  exact absurd (critical.minimal _ remainder) (by omega)

/-- Every period of the word is at least the critical one. -/
theorem le_of_hasPeriod {t : ℕ} (positive : 0 < t) (hasPeriod : x.HasPeriod t) : period ≤ t :=
  critical.minimal t (LocalRepetition.of_hasPeriod positive hasPeriod position)

/-- The suffix has the period of the word. -/
theorem suffix_hasPeriod :
    (x.drop position).HasPeriod period :=
  List.HasPeriod.infix critical.hasPeriod (drop_suffix _ _).isInfix

/-- The period is the smallest one of the suffix, once that is a period of the word. -/
theorem eq_of_suffix {q : ℕ} (positive : 0 < q) (hasPeriod : x.HasPeriod q)
    (smallest : ∀ t, 0 < t → (x.drop position).HasPeriod t → q ≤ t) : period = q :=
  le_antisymm (critical.le_of_hasPeriod positive hasPeriod)
    (smallest period critical.pos critical.suffix_hasPeriod)

/-- When the smallest period of the suffix does not carry over to the letters before it,
the smallest period of the word does not fit in the suffix. -/
theorem length_lt_of_not_agree {q : ℕ}
    (positive : 0 < q) (suffixPeriod : (x.drop position).HasPeriod q)
    (smallest : ∀ t, 0 < t → (x.drop position).HasPeriod t → q ≤ t)
    (fits : position + q ≤ x.length) (differ : ¬ ∀ i < position, x[i]? = x[i + q]?) :
    x.length < position + period := by
  by_contra fitsInSuffix
  have wordPeriod := hasPeriod_iff_getElem?.mp critical.hasPeriod
  have le : q ≤ period :=
    smallest period critical.pos critical.suffix_hasPeriod
  have ne : q ≠ period := by
    rintro rfl
    exact differ fun i inFront => wordPeriod i (by omega)
  -- The remainder of the period modulo `q`, or `q` itself, is a shorter local repetition.
  obtain ⟨s, sPos, sLe, sameMod⟩ : ∃ s, 0 < s ∧ s ≤ q ∧ period % q = s % q := by
    by_cases divides : period % q = 0
    · exact ⟨q, positive, le_rfl, by simp [divides]⟩
    · exact ⟨period % q, Nat.pos_of_ne_zero divides, (Nat.mod_lt _ positive).le, by simp⟩
  have shorter : LocalRepetition x position s := by
    refine ⟨sPos, fun i inFront reaches inside => ?_⟩
    have inSuffix := getElem?_eq_of_mod_eq (i := i + period - position) (j := i + s - position)
      suffixPeriod (by rw [length_drop]; omega) (by rw [length_drop]; omega)
      (by
        rw [← Nat.ModEq] at sameMod ⊢
        have split : i + period - position = (i + s - position) + (period - s) := by omega
        have multiple : period - s ≡ 0 [MOD q] :=
          (Nat.modEq_iff_dvd' (by omega)).mp sameMod.symm |> (Nat.modEq_zero_iff_dvd.mpr ·)
        rw [split]
        exact (Nat.ModEq.add_left _ multiple))
    rw [getElem?_drop, getElem?_drop,
      show position + (i + period - position) = i + period by omega,
      show position + (i + s - position) = i + s by omega] at inSuffix
    rw [wordPeriod i (by omega), inSuffix]
  exact absurd (critical.minimal s shorter) (by omega)

end

end CriticalPosition

end Cloudlibc.Words
