import Cloudlibc.Foundations.Loop
import Cloudlibc.Foundations.Words

/-!
# Maximal suffixes of a needle

`maximal_suffix_1` and `maximal_suffix_2` of `common/twoway.h` find the start of the
maximal suffix of a needle and the smallest period of that suffix, for the order of the
characters and for the reversed order. They are one function over the comparison that
the macro `GENERATE_MAXIMAL_SUFFIX` is given.

The loop keeps a candidate `suffixpos` such that every suffix that starts before it is
smaller, and a block of `period` characters at the candidate that repeats up to the
characters compared so far and is above all of its own proper suffixes
(`SuffixInvariant`). Each pass keeps this (`maximalSuffixPass_spec`), so the function
ends with the maximal suffix and its smallest period (`maximalSuffixBy_spec`).
`maximal_suffix` takes the shorter one of the two suffixes, which starts at a critical
position of the needle (`maximalSuffix_spec`).
-/

set_option autoImplicit false

namespace Cloudlibc.String

open Cloudlibc.Loop Cloudlibc.Words List Option

variable {α : Type}

/-- The local variables of `maximal_suffix_1` and `maximal_suffix_2`. -/
structure SuffixState where
  suffixpos : ℕ
  period : ℕ
  j : ℕ
  k : ℕ
  deriving DecidableEq, Repr

section Model

variable [DecidableEq α] (op : α → α → Prop) [DecidableRel op] (needle : List α)

/-- One pass of the loop of `maximal_suffix_N`, with the comparison `OP`. -/
def maximalSuffixPass (state : SuffixState) : Option (Pass SuffixState (ℕ × ℕ)) :=
  if state.j + state.k < needle.length then do
    let ap ← needle[state.suffixpos + state.k]?
    let a ← needle[state.j + state.k]?
    if op a ap then
      let j := state.j + (state.k + 1)
      return .again { state with j := j, k := 0, period := j - state.suffixpos }
    else if a = ap then
      if state.k = state.period then
        return .again { state with j := state.j + state.period, k := 0 }
      else
        return .again { state with k := state.k + 1 }
    else
      return .again { suffixpos := state.j, j := state.j + 1, k := 0, period := 1 }
  else
    return .leave (state.suffixpos, state.period)

/-- `maximal_suffix_N`: the position of the maximal suffix and its period. -/
def maximalSuffixBy : Option (ℕ × ℕ) :=
  run (maximalSuffixPass op needle) (4 * needle.length + 1)
    { suffixpos := 0, period := 1, j := 1, k := 0 }

end Model

/-- `maximal_suffix`: the shorter one of the two maximal suffixes. -/
def maximalSuffix [LinearOrder α] (needle : List α) : Option (ℕ × ℕ) := do
  let (suffixpos1, period1) ← maximalSuffixBy (· < ·) needle
  let (suffixpos2, period2) ← maximalSuffixBy (· > ·) needle
  if suffixpos1 ≥ suffixpos2 then
    return (suffixpos1, period1)
  else
    return (suffixpos2, period2)

/-! ## The block at the candidate -/

/-- The loop invariant of `maximal_suffix_N`. -/
structure SuffixInvariant (r : α → α → Prop) (x : List α) (s p j k : ℕ) : Prop where
  period_pos : 0 < p
  block_le : s + p ≤ j
  dvd : p ∣ j - s
  k_le : k ≤ p
  inside : j + k ≤ x.length
  repeats : ∀ i i', s + i < j + k → s + i' < j + k → i % p = i' % p → x[s + i]? = x[s + i']?
  block_max : ∀ d, 0 < d → d < p → ∃ q a b, d + q < p ∧
    (∀ m < q, x[s + d + m]? = x[s + m]?) ∧ x[s + d + q]? = some a ∧ x[s + q]? = some b ∧ r a b
  above : ∀ t < s, List.Lex r (x.drop t) (x.drop s)

namespace SuffixInvariant

variable {r : α → α → Prop} {x : List α} {s p j k : ℕ}

section

variable (invariant : SuffixInvariant r x s p j k)

include invariant

theorem exists_letter {i : ℕ} (before : i < j + k) : ∃ a, x[i]? = some a :=
  ⟨_, getElem?_eq_getElem (before.trans_le invariant.inside)⟩

/-- How the letters from a position behind the candidate compare to those at the candidate:
they fall below before the letters compared so far end, or they agree up to that end. -/
theorem compare {d : ℕ} (positive : 0 < d) (fits : s + d ≤ j + k) :
    (∃ q a b, s + d + q < j + k ∧ (∀ m < q, x[s + d + m]? = x[s + m]?) ∧
      x[s + d + q]? = some a ∧ x[s + q]? = some b ∧ r a b) ∨
    ((∀ m, s + d + m < j + k → x[s + d + m]? = x[s + m]?) ∧ (p ∣ d ∨ j < s + d) ∧
      ∃ c b, x[s + k]? = some c ∧ x[j + k - d]? = some b ∧ (c = b ∨ r c b)) := by
  have periodPos := invariant.period_pos
  have blockLe := invariant.block_le
  have kLe := invariant.k_le
  have phase : (j - s + k) % p = k % p := by
    obtain ⟨count, eq⟩ := invariant.dvd
    rw [eq, Nat.mul_add_mod]
  obtain ⟨c, atK⟩ := invariant.exists_letter (i := s + k) (by omega)
  by_cases multiple : p ∣ d
  · right
    have agree : ∀ m, s + d + m < j + k → x[s + d + m]? = x[s + m]? := by
      intro m before
      rw [add_assoc]
      refine invariant.repeats _ _ (by omega) (by omega) ?_
      obtain ⟨count, rfl⟩ := multiple
      exact Nat.mul_add_mod _ _ _
    refine ⟨agree, .inl multiple, c, c, atK, ?_, .inl rfl⟩
    have same := invariant.repeats (j + k - d - s) k (by omega) (by omega) (by
      rw [← phase, show j - s + k = d + (j + k - d - s) by omega]
      obtain ⟨count, rfl⟩ := multiple
      exact (Nat.mul_add_mod _ _ _).symm)
    rwa [show s + (j + k - d - s) = j + k - d by omega, atK] at same
  · have ePos : 0 < d % p :=
      Nat.pos_of_ne_zero fun zero => multiple (Nat.dvd_of_mod_eq_zero zero)
    have eLe : d % p ≤ d := Nat.mod_le _ _
    obtain ⟨q, a, b, qFits, agree, atA, atB, less⟩ :=
      invariant.block_max (d % p) ePos (Nat.mod_lt _ periodPos)
    have phases : ∀ m, s + d + m < j + k → x[s + d + m]? = x[s + d % p + m]? := by
      intro m before
      rw [add_assoc, add_assoc]
      exact invariant.repeats _ _ (by omega) (by omega) (by simp)
    by_cases within : s + d + q < j + k
    · left
      refine ⟨q, a, b, within, fun m below => ?_, by rw [phases q within, atA], atB, less⟩
      rw [phases m (by omega), agree m below]
    · right
      obtain ⟨q', rest⟩ : ∃ q', s + d + q' = j + k := ⟨j + k - (s + d), by omega⟩
      -- The block and the letters compared so far end at the same phase.
      have ends : k = d % p + q' := by
        have samePhase : k % p = d % p + q' := by
          rw [← phase, show j - s + k = d + q' by omega, ← Nat.mod_add_mod,
            Nat.mod_eq_of_lt (by omega)]
        rcases kLe.lt_or_eq with below | full
        · rwa [Nat.mod_eq_of_lt below] at samePhase
        · rw [full, Nat.mod_self] at samePhase
          omega
      refine ⟨fun m before => by rw [phases m before, agree m (by omega)],
        .inr (by omega), ?_⟩
      rw [show j + k - d = s + q' by omega, ends, ← add_assoc]
      rcases (show q' ≤ q by omega).lt_or_eq with early | rfl
      · obtain ⟨b', atB'⟩ := invariant.exists_letter (i := s + q') (by omega)
        exact ⟨b', b', by rw [agree q' early, atB'], atB', .inl rfl⟩
      · exact ⟨a, b, atA, atB, .inr less⟩

/-- An equal letter inside the block extends the repetition. -/
theorem equal (same : x[s + k]? = x[j + k]?) (within : j + k < x.length) (notFull : k ≠ p) :
    SuffixInvariant r x s p j (k + 1) := by
  have blockLe := invariant.block_le
  have kLe := invariant.k_le
  have newest : ∀ i, s + i < j + k → i % p = (j + k - s) % p → x[s + i]? = x[j + k]? := by
    intro i before samePhase
    rw [← same]
    refine invariant.repeats i k before (by have := invariant.period_pos; omega) ?_
    obtain ⟨count, eq⟩ := invariant.dvd
    rw [samePhase, show j + k - s = j - s + k by omega, eq, Nat.mul_add_mod]
  refine ⟨invariant.period_pos, blockLe, invariant.dvd, by omega, by omega,
    fun i i' before before' samePhase => ?_, invariant.block_max, invariant.above⟩
  have atEnd : ∀ {i}, ¬ s + i < j + k → s + i < j + (k + 1) → s + i = j + k := by omega
  by_cases inside : s + i < j + k <;> by_cases inside' : s + i' < j + k
  · exact invariant.repeats i i' inside inside' samePhase
  · rw [atEnd inside' before']
    exact newest i inside (by rw [samePhase, ← atEnd inside' before', Nat.add_sub_cancel_left])
  · rw [atEnd inside before]
    refine (newest i' inside' ?_).symm
    rw [← samePhase, ← atEnd inside before, Nat.add_sub_cancel_left]
  · rw [atEnd inside before, atEnd inside' before']

end

/-- A full block of equal letters is passed over. -/
theorem full (invariant : SuffixInvariant r x s p j p) : SuffixInvariant r x s p (j + p) 0 := by
  have blockLe := invariant.block_le
  refine ⟨invariant.period_pos, by omega, ?_, Nat.zero_le _, invariant.inside, invariant.repeats,
    invariant.block_max, invariant.above⟩
  rw [show j + p - s = j - s + p by omega]
  exact Nat.dvd_add invariant.dvd dvd_rfl

section

variable (invariant : SuffixInvariant r x s p j k)

include invariant

/-- The candidate suffix has the period of the block, once the letters compared so far end
the word. -/
theorem hasPeriod (ended : ¬ j + k < x.length) :
    (x.drop s).HasPeriod p := by
  rw [hasPeriod_iff_getElem?]
  intro i inside
  rw [length_drop] at inside
  rw [getElem?_drop, getElem?_drop]
  exact invariant.repeats _ _ (by omega) (by omega) (by simp)

variable [IsStrictTotalOrder α r]

/-- The letters compared so far, once they end the word, make the candidate maximal. -/
theorem isMaximalSuffix (ended : ¬ j + k < x.length) : IsMaximalSuffix r x s := by
  have periodPos := invariant.period_pos
  have blockLe := invariant.block_le
  have inside := invariant.inside
  refine ⟨by omega, fun t tInside ne => ?_⟩
  rcases Nat.lt_or_gt_of_ne ne with before | behind
  · exact invariant.above t before
  · obtain ⟨d, rfl⟩ := Nat.exists_eq_add_of_lt behind
    rw [add_assoc] at tInside ⊢
    rcases invariant.compare (d := d + 1) (by omega) (by omega) with
      ⟨q, a, b, -, agree, atA, atB, less⟩ | ⟨agree, -, -⟩
    · exact lex_drop_of_mismatch agree atA atB less
    · exact lex_drop_of_prefix (by omega) tInside.le fun m before => agree m (by omega)

/-- The block has the smallest period of the candidate suffix. -/
theorem period_le {t : ℕ} (positive : 0 < t) (hasPeriod : (x.drop s).HasPeriod t) : p ≤ t := by
  by_contra shorter
  have blockLe := invariant.block_le
  have inside := invariant.inside
  obtain ⟨q, a, b, qFits, -, atA, atB, less⟩ := invariant.block_max t positive (by omega)
  have same := hasPeriod_iff_getElem?.mp hasPeriod q (by rw [length_drop]; omega)
  rw [getElem?_drop, getElem?_drop, atB, show s + (q + t) = s + t + q by omega, atA,
    some.injEq] at same
  exact irrefl (r := r) a (same ▸ less)

/-- A smaller letter makes one block of all letters compared so far. -/
theorem less {a ap : α} (atAp : x[s + k]? = some ap) (atA : x[j + k]? = some a) (smaller : r a ap) :
    SuffixInvariant r x s (j + (k + 1) - s) (j + (k + 1)) 0 := by
  have blockLe := invariant.block_le
  obtain ⟨within, -⟩ := List.getElem?_eq_some_iff.mp atA
  refine ⟨by omega, by omega, dvd_rfl, Nat.zero_le _, by omega, fun i i' before before' same => ?_,
    fun d positive below => ?_, invariant.above⟩
  · rw [Nat.mod_eq_of_lt (by omega), Nat.mod_eq_of_lt (by omega)] at same
    rw [same]
  · rcases invariant.compare positive (by omega) with
      ⟨q, c, b, before, agree, atC, atB, lower⟩ | ⟨agree, -, c, b, atC, atB, lower⟩
    · exact ⟨q, c, b, by omega, agree, atC, atB, lower⟩
    · obtain rfl : c = ap := some.inj (atC.symm.trans atAp)
      have joined : s + d + (j + k - d - s) = j + k := by omega
      refine ⟨j + k - d - s, a, b, by omega, fun m before => agree m (by omega),
        by rw [joined, atA], ?_, ?_⟩
      · rw [← atB]
        congr 1
        omega
      · exact lower.elim (fun same => same ▸ smaller) (IsTrans.trans _ _ _ smaller)

/-- Below a larger letter, every suffix before the next block is smaller than the one there. -/
theorem lex_of_greater {a ap : α}
    (atAp : x[s + k]? = some ap) (atA : x[j + k]? = some a) (greater : r ap a) {t : ℕ}
    (before : t < j) : List.Lex r (x.drop t) (x.drop j) := by
  have blockLe := invariant.block_le
  have blocks : ∀ {d}, p ∣ d → s + d < j → List.Lex r (x.drop (s + d)) (x.drop j) := by
    intro d multiple below
    have phase : ∀ m ≤ k, x[s + d + m]? = x[s + m]? := by
      intro m within
      rw [add_assoc]
      refine invariant.repeats _ _ (by omega) (by omega) ?_
      obtain ⟨count, rfl⟩ := multiple
      exact Nat.mul_add_mod _ _ _
    refine lex_drop_of_mismatch (fun m within => ?_) ((phase k le_rfl).trans atAp) atA greater
    rw [phase m within.le, show j + m = s + (j - s + m) by omega]
    refine invariant.repeats _ _ (by omega) (by omega) ?_
    obtain ⟨count, eq⟩ := invariant.dvd
    rw [eq, Nat.mul_add_mod]
  have candidate : List.Lex r (x.drop s) (x.drop j) :=
    blocks (dvd_zero p) (by have := invariant.period_pos; omega)
  rcases lt_trichotomy t s with lower | rfl | behind
  · exact lex_trans (IsTrans.trans _ _ _) (invariant.above t lower) candidate
  · exact candidate
  · obtain ⟨d, rfl⟩ := Nat.exists_eq_add_of_lt behind
    rw [add_assoc] at before ⊢
    rcases invariant.compare (d := d + 1) (by omega) (by omega) with
      ⟨q, c, b, -, agree, atC, atB, less⟩ | ⟨-, multiple | outside, -⟩
    · exact lex_trans (IsTrans.trans _ _ _) (lex_drop_of_mismatch agree atC atB less) candidate
    · exact blocks multiple before
    · omega

/-- A larger letter starts a new candidate. -/
theorem greater {a ap : α}
    (atAp : x[s + k]? = some ap) (atA : x[j + k]? = some a) (larger : r ap a) :
    SuffixInvariant r x j 1 (j + 1) 0 := by
  obtain ⟨within, -⟩ := List.getElem?_eq_some_iff.mp atA
  refine ⟨one_pos, le_rfl, one_dvd _, Nat.zero_le _, by omega, fun i i' before before' _ => ?_,
    fun d positive below => by omega, fun t => invariant.lex_of_greater atAp atA larger⟩
  rw [show i = i' by omega]

end

end SuffixInvariant

/-! ## Runs of the loop -/

section Runs

variable [DecidableEq α] {r : α → α → Prop} [DecidableRel r] [IsStrictTotalOrder α r]
  {needle : List α}

/-- The maximal suffix starts at `start` and has `period` as its smallest period. -/
structure IsMaximalSuffixWithPeriod (r : α → α → Prop) (x : List α) (start period : ℕ) : Prop
    extends IsMaximalSuffix r x start where
  period_pos : 0 < period
  fits : start + period ≤ x.length
  suffix_hasPeriod : (x.drop start).HasPeriod period
  smallest : ∀ t, 0 < t → (x.drop start).HasPeriod t → period ≤ t

/-- Every pass makes progress along the needle, and reads inside it. -/
theorem maximalSuffixPass_spec {state : SuffixState}
    (invariant : SuffixInvariant r needle state.suffixpos state.period state.j state.k) :
    ∃ pass, maximalSuffixPass r needle state = some pass ∧
      pass.Meets
        (fun next => SuffixInvariant r needle next.suffixpos next.period next.j next.k ∧
          4 * needle.length - (2 * next.suffixpos + 2 * next.j + next.k) <
            4 * needle.length - (2 * state.suffixpos + 2 * state.j + state.k))
        (fun found => IsMaximalSuffixWithPeriod r needle found.1 found.2) := by
  obtain ⟨s, p, j, k⟩ := state
  have periodPos : 0 < p := invariant.period_pos
  have blockLe : s + p ≤ j := invariant.block_le
  have kLe : k ≤ p := invariant.k_le
  have inside : j + k ≤ needle.length := invariant.inside
  unfold maximalSuffixPass
  by_cases within : j + k < needle.length
  · have atAp := getElem?_eq_getElem (l := needle) (i := s + k) (by omega)
    have atA := getElem?_eq_getElem (l := needle) (i := j + k) within
    simp only [atAp, atA, bind_eq_bind, bind_some]
    split_ifs with smaller same isFull
    · exact ⟨_, rfl, invariant.less atAp atA smaller, by simp only; omega⟩
    · subst isFull
      exact ⟨_, rfl, invariant.full, by simp only; omega⟩
    · refine ⟨_, rfl, invariant.equal ?_ within isFull, by simp only; omega⟩
      rw [atAp, atA, same]
    · have larger : r needle[s + k] needle[j + k] :=
        ((trichotomous_of r _ _).resolve_left smaller).resolve_left same
      exact ⟨_, rfl, invariant.greater atAp atA larger, by simp only; omega⟩
  · simp only [within, if_false]
    exact ⟨_, rfl, invariant.isMaximalSuffix within, periodPos, by simp only; omega,
      invariant.hasPeriod within, fun t => invariant.period_le⟩

/-- **`maximal_suffix_N` finds the maximal suffix and its smallest period.** -/
theorem maximalSuffixBy_spec (nonempty : 0 < needle.length) :
    ∃ found, maximalSuffixBy r needle = some found ∧
      IsMaximalSuffixWithPeriod r needle found.1 found.2 := by
  refine run_spec
    (fun state => SuffixInvariant r needle state.suffixpos state.period state.j state.k)
    (fun state => 4 * needle.length - (2 * state.suffixpos + 2 * state.j + state.k)) _
    (fun state => maximalSuffixPass_spec) ?_ (by simp only; omega)
  refine ⟨one_pos, le_rfl, one_dvd _, Nat.zero_le _, nonempty, fun i i' before before' _ => ?_,
    fun d positive below => ?_, fun t below => ?_⟩
  · simp only at before before'
    rw [show i = i' by omega]
  · simp only at below
    omega
  · simp at below

end Runs

/-- **`maximal_suffix` finds a critical position of the needle**, and the smallest period of
the suffix there. -/
theorem maximalSuffix_spec [LinearOrder α] {needle : List α} (nonempty : 0 < needle.length) :
    ∃ suffixpos period, maximalSuffix needle = some (suffixpos, period) ∧
      (∃ smallest, CriticalPosition needle suffixpos smallest) ∧ 0 < period ∧
        suffixpos + period ≤ needle.length ∧ (needle.drop suffixpos).HasPeriod period ∧
          ∀ t, 0 < t → (needle.drop suffixpos).HasPeriod t → period ≤ t := by
  obtain ⟨⟨start1, period1⟩, found1, max1⟩ := maximalSuffixBy_spec (r := (· < ·)) nonempty
  obtain ⟨⟨start2, period2⟩, found2, max2⟩ := maximalSuffixBy_spec (r := (· > ·)) nonempty
  simp only [maximalSuffix, found1, found2, bind_eq_bind, bind_some]
  split_ifs with later
  · exact ⟨start1, period1, rfl,
      exists_criticalPosition max1.toIsMaximalSuffix max2.toIsMaximalSuffix later,
      max1.period_pos, max1.fits, max1.suffix_hasPeriod, max1.smallest⟩
  · exact ⟨start2, period2, rfl,
      exists_criticalPosition max2.toIsMaximalSuffix max1.toIsMaximalSuffix (by omega),
      max2.period_pos, max2.fits, max2.suffix_hasPeriod, max2.smallest⟩

/-- **The larger one of the positions of the two maximal suffixes is critical**: the local period
there is the smallest period of the needle. -/
theorem maximalSuffix_criticalFactorization [LinearOrder α] (needle : List α)
    (nonempty : 1 ≤ needle.length) :
    ∃ start1 period1 start2 period2 period smallest,
      maximalSuffixBy (· < ·) needle = some (start1, period1) ∧
      IsMaximalSuffixWithPeriod (· < ·) needle start1 period1 ∧
      maximalSuffixBy (· > ·) needle = some (start2, period2) ∧
      IsMaximalSuffixWithPeriod (· > ·) needle start2 period2 ∧
      maximalSuffix needle = some (max start1 start2, period) ∧
      IsLeast {t | LocalRepetition needle (max start1 start2) t} smallest ∧
      IsLeast {t | 0 < t ∧ needle.HasPeriod t} smallest ∧
      max start1 start2 < smallest := by
  obtain ⟨⟨start1, _⟩, found1, max1⟩ := maximalSuffixBy_spec (r := (· < ·)) nonempty
  obtain ⟨⟨start2, _⟩, found2, max2⟩ := maximalSuffixBy_spec (r := (· > ·)) nonempty
  obtain ⟨suffixpos, period, found, ⟨smallest, critical⟩, -⟩ := maximalSuffix_spec nonempty
  have larger : suffixpos = max start1 start2 := by
    simp only [maximalSuffix, found1, found2, bind_eq_bind, bind_some] at found
    split_ifs at found <;> cases found <;> omega
  subst larger
  exact ⟨start1, _, start2, _, period, smallest, found1, max1, found2, max2, found,
    ⟨LocalRepetition.of_hasPeriod critical.pos critical.hasPeriod _, critical.minimal⟩,
    ⟨⟨critical.pos, critical.hasPeriod⟩, fun t isPeriod =>
      critical.le_of_hasPeriod isPeriod.1 isPeriod.2⟩, critical.lt_period⟩

theorem maximalSuffix_criticalFactorization_abaab :
    ∃ suffixpos period smallest, maximalSuffix [0, 1, 0, 0, 1] = some (suffixpos, period) ∧
      IsLeast {t | LocalRepetition [0, 1, 0, 0, 1] suffixpos t} smallest := by
  obtain ⟨_, _, _, _, _, _, -, -, -, -, found, least, -⟩ :=
    maximalSuffix_criticalFactorization [0, 1, 0, 0, 1] (by decide)
  exact ⟨_, _, _, found, least⟩

end Cloudlibc.String
