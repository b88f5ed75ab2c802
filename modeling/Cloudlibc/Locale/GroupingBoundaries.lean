import Cloudlibc.Locale.NumericGrouping

/-!
# The digits that begin a group

The functions `numeric_grouping_init()` and `numeric_grouping_step()` as they are called, once for
each digit of a number from the left to the right. A grouping string defines the groups from the
right to the left: group `k` has the size of entry `k`, and the last size repeats unless a negative
entry ends the grouping (`sizeOfGroup`). The answers of the calls are the digits that have a whole
number of groups from themselves to the right end (`numericGrouping_answers`).
-/

set_option autoImplicit false

namespace Cloudlibc.Locale

open List Option

/-- Calls of `numeric_grouping_step()`. -/
def numericGroupingSteps (grouping : Option (List ℤ)) : ℕ → NumericGrouping → Option (List Bool)
  | 0, _ => some []
  | n + 1, ng => do
      let (answer, ng) ← numericGroupingStep grouping ng
      return answer :: (← numericGroupingSteps grouping n ng)

/-! ## What the definition of a grouping string asks for -/

/-- The size of a group, counted from the right. -/
def sizeOfGroup (sizes : List ℕ) (ended : Bool) (k : ℕ) : Option ℕ :=
  match sizes[k]? with
  | some size => some size
  | none => if ended then none else sizes.getLast?

/-- A digit other than the first one, at an index from the left, has a whole number of groups from
itself to the right end. -/
def StartsGroup (sizes : List ℕ) (ended : Bool) (n i : ℕ) : Prop :=
  0 < i ∧ ∃ groups, (∀ k < groups, (sizeOfGroup sizes ended k).isSome) ∧
    n = i + ∑ k ∈ Finset.range groups, (sizeOfGroup sizes ended k).getD 0

/-- The grouping string of some sizes, where a negative entry ends the grouping. -/
def groupingString (sizes : List ℕ) (ended : Option ℤ) : List ℤ :=
  sizes.map (fun (size : ℕ) => (size : ℤ)) ++ ended.toList

/-! ## Answers for groups -/

/-- The answers for groups whose sizes are given from the right to the left. -/
def separatorFlags : List ℕ → List Bool
  | [] => []
  | [size] => List.replicate size false
  | size :: next :: sizes =>
    separatorFlags (next :: sizes) ++ true :: List.replicate (size - 1) false

theorem separatorFlags_reverse (first : ℕ) (sizes : List ℕ) :
    separatorFlags (first :: sizes).reverse =
      replicate first false ++
        sizes.flatMap fun size => true :: replicate (size - 1) false := by
  induction sizes using reverseRecOn with
  | nil => simp [separatorFlags]
  | append_singleton sizes size ih =>
    rw [← cons_append, reverse_append, reverse_singleton, singleton_append,
      flatMap_append, ← append_assoc, ← ih]
    cases reversed : (first :: sizes).reverse with
    | nil => simp at reversed
    | cons next others => simp [separatorFlags]

theorem count_separatorFlags (sizes : List ℕ) :
    (separatorFlags sizes).count true = sizes.length - 1 := by
  induction sizes using separatorFlags.induct with
  | case1 => rfl
  | case2 size => simp [separatorFlags, count_replicate]
  | case3 size next sizes ih =>
    rw [separatorFlags, count_append, ih, count_cons_self, count_replicate]
    simp

theorem length_separatorFlags {sizes : List ℕ} (positive : ∀ size ∈ sizes, 0 < size) :
    (separatorFlags sizes).length = sizes.sum := by
  induction sizes using separatorFlags.induct with
  | case1 => rfl
  | case2 size => simp [separatorFlags]
  | case3 size next sizes ih =>
    obtain ⟨large, others⟩ := forall_mem_cons.mp positive
    rw [separatorFlags, length_append, ih others, length_cons, length_replicate,
      show (size :: next :: sizes).sum = size + (next :: sizes).sum from sum_cons]
    omega

theorem numericGroupingSteps_plan {entries : List ℤ} (n : ℕ) :
    ∀ {ng : NumericGrouping}, Ready entries ng → (plan entries ng).sum = n →
      numericGroupingSteps (some entries) n ng =
        some (replicate ng.steps false ++
          (plan entries ng).tail.flatMap fun size => true :: replicate (size - 1) false) := by
  induction n with
  | zero =>
    intro ng ready total
    rw [(ready.finished total).1, (ready.finished total).2]
    rfl
  | succ n ih =>
    intro ng ready total
    obtain ⟨separated, ng', moved, ready', total', next⟩ := numericGroupingStep_plan ready total
    simp only [numericGroupingSteps, moved, ih ready' total', bind_eq_bind,
      Option.bind_some, Option.pure_def]
    obtain ⟨rfl, steps, tail⟩ | ⟨rfl, steps, tail⟩ := next <;> rw [steps, tail] <;>
      simp [replicate_succ]

theorem numericGroupingSteps_of_le (grouping : Option (List ℤ)) (n : ℕ) :
    ∀ {ng : NumericGrouping}, n ≤ ng.steps →
      numericGroupingSteps grouping n ng = some (replicate n false) := by
  induction n with
  | zero => exact fun _ => rfl
  | succ n ih =>
    intro ng enough
    have moved : numericGroupingStep grouping ng =
        some (false, { ng with steps := ng.steps - 1 }) := by
      rw [numericGroupingStep, if_pos (by omega)]
      rfl
    rw [numericGroupingSteps, moved, replicate_succ]
    simp only [bind_eq_bind, bind_some,
      @ih { ng with steps := ng.steps - 1 } (by dsimp only; omega)]
    rfl

/-- All calls together give the answers for the groups of the number. -/
theorem numericGroupingSteps_eq {entries : List ℤ} (nonzero : ∀ size ∈ entries, size ≠ 0) {n : ℕ}
    (digits : 1 ≤ n) (small : n < 2 ^ 64) :
    ∃ ng, numericGroupingInit (some entries) n =
        some (ng, (groupSizes entries n).length - 1) ∧
      numericGroupingSteps (some entries) n ng = some (separatorFlags (groupSizes entries n)) := by
  by_cases few : n ≤ 1 ∨ entries = []
  · have single : groupSizes entries n = [n] := by
      obtain few | rfl := few
      · exact groupSizes_of_le_one entries few
      · rw [groupSizes]
    rw [single]
    exact ⟨_, if_pos few, numericGroupingSteps_of_le _ n (Nat.le_sub_one_of_lt small)⟩
  · rw [not_or] at few
    obtain ⟨ng, looped, ready, planned⟩ := @numericGroupingLoop_plan entries nonzero entries 0 n 0
      (by omega) few.2 rfl (by simp)
    rw [Nat.zero_add] at looped
    rw [take_zero, map_nil, reverse_nil, append_nil] at planned
    have total : (plan entries ng).sum = n := by rw [planned, sum_reverse, sum_groupSizes]
    refine ⟨ng, by rw [numericGroupingInit, if_neg (by tauto), looped], ?_⟩
    rw [numericGroupingSteps_plan n ready total, ← separatorFlags_reverse,
      show ng.steps :: (plan entries ng).tail = plan entries ng from rfl, planned, reverse_reverse]

/-! ## Groups from the right -/

/-- The sizes behind the first group. -/
def nextSizes (size : ℕ) (sizes : List ℕ) (ended : Bool) : List ℕ :=
  if sizes = [] ∧ ended = false then [size] else sizes

theorem sizeOfGroup_zero (size : ℕ) (sizes : List ℕ) (ended : Bool) :
    sizeOfGroup (size :: sizes) ended 0 = some size := rfl

theorem sizeOfGroup_succ (size : ℕ) (sizes : List ℕ) (ended : Bool) (k : ℕ) :
    sizeOfGroup (size :: sizes) ended (k + 1) = sizeOfGroup (nextSizes size sizes ended) ended k := by
  cases sizes with
  | nil => cases ended <;> cases k <;> rfl
  | cons next sizes =>
    rfl

theorem not_startsGroup_nil {ended : Bool} {n i : ℕ} (inside : i < n) :
    ¬ StartsGroup [] ended n i := by
  rintro ⟨-, groups, sized, total⟩
  cases groups with
  | zero =>
    rw [Finset.sum_range_zero] at total
    omega
  | succ groups =>
    have first := sized 0 (by omega)
    cases ended <;> simp [sizeOfGroup] at first

theorem startsGroup_cons {size n i : ℕ} {sizes : List ℕ} {ended : Bool} (inside : i < n) :
    StartsGroup (size :: sizes) ended n i ↔
      size ≤ n ∧ StartsGroup (nextSizes size sizes ended) ended (n - size) i := by
  constructor
  · rintro ⟨positive, groups, sized, total⟩
    cases groups with
    | zero =>
      rw [Finset.sum_range_zero] at total
      omega
    | succ groups =>
      rw [Finset.sum_range_succ', sizeOfGroup_zero, getD_some] at total
      refine ⟨by omega, positive, groups, fun k below => ?_, ?_⟩
      · rw [← sizeOfGroup_succ]
        exact sized (k + 1) (by omega)
      · simp only [sizeOfGroup_succ] at total
        omega
  · rintro ⟨fits, positive, groups, sized, total⟩
    refine ⟨positive, groups + 1, fun k below => ?_, ?_⟩
    · cases k with
      | zero => rfl
      | succ k =>
        rw [sizeOfGroup_succ]
        exact sized k (by omega)
    · rw [Finset.sum_range_succ', sizeOfGroup_zero, getD_some]
      simp only [sizeOfGroup_succ]
      omega

theorem groupingString_next (size : ℕ) (sizes : List ℕ) (ended : Option ℤ) :
    (if groupingString sizes ended = [] then [(size : ℤ)] else groupingString sizes ended) =
      groupingString (nextSizes size sizes ended.isSome) ended := by
  rw [nextSizes]
  cases sizes <;> cases ended <;> simp [groupingString]

/-- **The answers for the groups of a number** are given for the digits that have a whole number of
groups behind them. -/
theorem separatorFlags_groupSizes {ended : Option ℤ} (negative : ∀ entry ∈ ended, entry < 0)
    (n : ℕ) : ∀ {sizes : List ℕ}, (∀ size ∈ sizes, 0 < size) → ∀ {i : ℕ}, i < n →
      ((separatorFlags (groupSizes (groupingString sizes ended) n))[i]? = some true ↔
        StartsGroup sizes ended.isSome n i) := by
  induction n using Nat.strong_induction_on with
  | _ n ih =>
    intro sizes positive i inside
    have single : ¬ (separatorFlags [n])[i]? = some true := by
      rw [separatorFlags, getElem?_replicate, if_pos inside]
      simp
    cases sizes with
    | nil =>
      have whole : groupSizes (groupingString [] ended) n = [n] := by
        cases ended with
        | none => exact groupSizes.eq_def .. ▸ rfl
        | some entry =>
          have below := negative entry rfl
          show groupSizes [entry] n = [n]
          rw [groupSizes, if_neg (by omega)]
      rw [whole]
      exact iff_of_false single (not_startsGroup_nil inside)
    | cons size sizes =>
      obtain ⟨large, others⟩ := forall_mem_cons.mp positive
      rw [startsGroup_cons inside]
      show (separatorFlags (groupSizes ((size : ℤ) :: groupingString sizes ended) n))[i]? = _ ↔ _
      rw [groupSizes]
      by_cases more : size < n
      · have next : ∀ size' ∈ nextSizes size sizes ended.isSome, 0 < size' := by
          rw [nextSizes]
          split_ifs
          · exact forall_mem_singleton.mpr large
          · exact others
        rw [if_pos (by omega), groupingString_next, Int.toNat_natCast]
        have grouped := @ih (n - size) (by omega) _ next i
        have length : (separatorFlags (groupSizes (groupingString
            (nextSizes size sizes ended.isSome) ended) (n - size))).length = n - size := by
          rw [length_separatorFlags (groupSizes_pos _ (by omega)), sum_groupSizes]
        obtain ⟨first, rest, split⟩ := exists_cons_of_length_pos
          (length_groupSizes_pos (groupingString (nextSizes size sizes ended.isSome) ended)
            (n - size))
        rw [split] at grouped length ⊢
        rw [separatorFlags]
        obtain before | here | behind := Nat.lt_trichotomy i (n - size)
        · rw [getElem?_append_left (by omega), grouped before]
          exact ⟨fun starts => ⟨by omega, starts⟩, fun starts => starts.2⟩
        · rw [getElem?_append_right (by omega), length, here, Nat.sub_self]
          refine iff_of_true rfl ⟨by omega, by omega, 0, by omega, ?_⟩
          rw [Finset.sum_range_zero, Nat.add_zero]
        · rw [getElem?_append_right (by omega), length]
          obtain ⟨k, index⟩ := Nat.exists_eq_add_of_lt behind
          rw [index, show n - size + k + 1 - (n - size) = k + 1 by omega,
            getElem?_cons_succ, getElem?_replicate, if_pos (by omega)]
          refine iff_of_false (by simp) ?_
          rintro ⟨-, -, groups, -, total⟩
          omega
      · rw [if_neg (by omega)]
        refine iff_of_false single ?_
        rintro ⟨-, starts, groups, -, total⟩
        omega

/-- **One call for each digit answers which digits begin a group.** The answers are counted
beforehand, and neither an assertion fails nor an entry outside the grouping string is read. -/
theorem numericGrouping_answers (sizes : List ℕ) (positive : ∀ size ∈ sizes, 0 < size)
    (ended : Option ℤ) (negative : ∀ entry ∈ ended, entry < 0) (n : ℕ) (digits : 1 ≤ n)
    (small : n < 2 ^ 64) :
    ∃ ng count answers,
      numericGroupingInit (some (groupingString sizes ended)) n = some (ng, count) ∧
      numericGroupingSteps (some (groupingString sizes ended)) n ng = some answers ∧
      answers.length = n ∧ answers.count true = count ∧
      ∀ i < n, (answers[i]? = some true ↔ StartsGroup sizes ended.isSome n i) := by
  have nonzero : ∀ size ∈ groupingString sizes ended, size ≠ 0 := by
    intro size member
    rw [groupingString, List.mem_append, List.mem_map] at member
    obtain ⟨value, found, rfl⟩ | last := member
    · have := positive value found
      omega
    · have := negative size (mem_toList.mp last)
      omega
  have groups := groupSizes_pos (groupingString sizes ended) digits
  obtain ⟨ng, started, answered⟩ := numericGroupingSteps_eq nonzero digits small
  exact ⟨ng, _, _, started, answered, by rw [length_separatorFlags groups, sum_groupSizes],
    count_separatorFlags _, fun i inside => separatorFlags_groupSizes negative n positive inside⟩

/-- The seven digits `1,23,4,567` for the sizes 3, 1 and 2. -/
theorem numericGrouping_answers_seven :
    ∃ ng count answers,
      numericGroupingInit (some (groupingString [3, 1, 2] none)) 7 = some (ng, count) ∧
      numericGroupingSteps (some (groupingString [3, 1, 2] none)) 7 ng = some answers ∧
      answers.length = 7 ∧ answers.count true = count ∧
      ∀ i < 7, (answers[i]? = some true ↔ StartsGroup [3, 1, 2] false 7 i) :=
  numericGrouping_answers [3, 1, 2] (forall_iff_forall_mem.mp (by decide)) none (by simp) 7
    (by decide) (by decide)

end Cloudlibc.Locale
