import Cloudlibc.Foundations.Loop

/-!
# `arc4random_uniform()`

The function draws 32-bit values until one is not below `2 ^ 32 % upper`, and returns the remainder
of that value. The values that are left are a multiple of `upper`, so each remainder belongs to the
same number of them (`card_remainder`). They are more than half of all values, so the draws that are
all rejected become rare as fast as a geometric sequence (`unfinished_eq`).
-/

set_option autoImplicit false

namespace Cloudlibc.Stdlib

open Cloudlibc.Loop Finset

/-- The values of `uint32_t`. -/
abbrev Uint32 := Fin (2 ^ 32)

/-- The variable `lower`. -/
def lower (upper : Uint32) : Uint32 := -upper % upper

/-- One pass of the loop. The state is the list of the values that `arc4random_buf()` has not stored
yet. -/
def uniformPass (upper : Uint32) : List Uint32 → Option (Pass (List Uint32) Uint32)
  | [] => none
  | value :: draws =>
    if value ≥ lower upper then some (.leave (value % upper)) else some (.again draws)

/-- `arc4random_uniform()`, where `arc4random_buf()` stores the values of a list one by one. There is
no result if the list ends before the loop. -/
def arc4randomUniform (upper : Uint32) (draws : List Uint32) : Option Uint32 :=
  if upper = 0 then draws.head? else run (uniformPass upper) draws.length draws

/-- The probability that `n` independent uniform draws are not enough. -/
noncomputable def unfinished (upper : Uint32) (n : ℕ) : ℝ :=
  #{draws : Fin n → Uint32 | arc4randomUniform upper (List.ofFn draws) = none} /
    Fintype.card (Fin n → Uint32)

variable {upper : Uint32}

section

variable (positive : 0 < upper.val)

include positive

theorem val_lower : (lower upper).val = 2 ^ 32 % upper.val := by
  have small := upper.isLt
  rw [lower, Fin.mod_val, Fin.val_neg', Nat.mod_eq_of_lt (a := 2 ^ 32 - upper.val) (by omega),
    ← Nat.mod_eq_sub_mod small.le]

theorem val_lower_lt : (lower upper).val < 2 ^ 31 := by
  have small := upper.isLt
  rw [val_lower positive]
  by_cases half : upper.val ≤ 2 ^ 31
  · exact (Nat.mod_lt _ positive).trans_le half
  · rw [Nat.mod_eq_sub_mod small.le, Nat.mod_eq_of_lt (by omega)]
    omega

/-- The result comes from the first value that is not rejected. -/
theorem arc4randomUniform_eq (draws : List Uint32) :
    arc4randomUniform upper draws =
      (draws.find? fun value => lower upper ≤ value).map (· % upper) := by
  rw [arc4randomUniform, if_neg fun zero => positive.ne' (congrArg Fin.val zero)]
  induction draws with
  | nil => rfl
  | cons value draws ih =>
    rw [List.length_cons, run, uniformPass, List.find?_cons]
    by_cases accepted : lower upper ≤ value
    · simp [accepted]
    · simp [accepted, ih]

theorem arc4randomUniform_eq_none (draws : List Uint32) :
    arc4randomUniform upper draws = none ↔ ∀ value ∈ draws, value < lower upper := by
  simp [arc4randomUniform_eq positive]

theorem arc4randomUniform_lt {draws : List Uint32} {result : Uint32}
    (returned : arc4randomUniform upper draws = some result) : result < upper := by
  rw [arc4randomUniform_eq positive, Option.map_eq_some_iff] at returned
  obtain ⟨value, -, rfl⟩ := returned
  exact Nat.mod_lt _ positive

theorem arc4randomUniform_singleton (value r : Uint32) :
    arc4randomUniform upper [value] = some r ↔ lower upper ≤ value ∧ value % upper = r := by
  rw [arc4randomUniform_eq positive, List.find?_singleton]
  by_cases accepted : lower upper ≤ value <;> simp [accepted]

/-- Of all values, and of the rejected ones, the same number is left for each remainder. -/
theorem card_remainder {r : Uint32} (bound : r < upper) :
    #{value : Uint32 | arc4randomUniform upper [value] = some r} = 2 ^ 32 / upper.val := by
  have remainder : (lower upper).val < upper.val := val_lower positive ▸ Nat.mod_lt _ positive
  have values : ({value : Uint32 | arc4randomUniform upper [value] = some r} : Finset _).map
        Fin.valEmbedding =
      {k ∈ range (2 ^ 32) | k ≡ r.val [MOD upper.val]} \
        {k ∈ range (lower upper).val | k ≡ r.val [MOD upper.val]} := by
    ext k
    simp only [mem_map, mem_filter, mem_univ, true_and, Fin.valEmbedding_apply, mem_sdiff, mem_range,
      arc4randomUniform_singleton positive, Nat.ModEq, Nat.mod_eq_of_lt (show r.val < _ from bound)]
    constructor
    · rintro ⟨value, ⟨accepted, rfl⟩, rfl⟩
      exact ⟨⟨value.isLt, rfl⟩, fun rejected => absurd rejected.1 (not_lt.mpr accepted)⟩
    · rintro ⟨⟨small, same⟩, notRejected⟩
      refine ⟨⟨k, small⟩, ⟨?_, Fin.ext same⟩, rfl⟩
      exact not_lt.mp fun below => notRejected ⟨below, same⟩
  have rejected : {k ∈ range (lower upper).val | k ≡ r.val [MOD upper.val]} ⊆
      {k ∈ range (2 ^ 32) | k ≡ r.val [MOD upper.val]} :=
    filter_subset_filter _ (range_subset_range.mpr (lower upper).isLt.le)
  rw [← card_map Fin.valEmbedding, values, card_sdiff_of_subset rejected,
    ← Nat.count_eq_card_filter_range, ← Nat.count_eq_card_filter_range,
    Nat.count_modEq_card _ positive, Nat.count_modEq_card _ positive, Nat.div_eq_of_lt remainder,
    Nat.mod_eq_of_lt remainder, val_lower positive, Nat.zero_add, Nat.add_sub_cancel]

theorem card_accepted :
    #{value : Uint32 | arc4randomUniform upper [value] ≠ none} = 2 ^ 32 - (lower upper).val := by
  have accepted : ({value : Uint32 | arc4randomUniform upper [value] ≠ none} : Finset _) =
      Ici (lower upper) := by
    ext value
    simp [arc4randomUniform_eq_none positive]
  rw [accepted, Fin.card_Ici]

/-- Draws that are all rejected are draws of values below `lower`. -/
theorem unfinished_eq (n : ℕ) :
    unfinished upper n = ((lower upper).val / 2 ^ 32 : ℝ) ^ n := by
  have rejected : ({draws : Fin n → Uint32 | arc4randomUniform upper (List.ofFn draws) = none} :
      Finset _) = Fintype.piFinset fun _ => Iio (lower upper) := by
    ext draws
    simp [arc4randomUniform_eq_none positive]
  rw [unfinished, rejected, Fintype.card_piFinset_const, Fin.card_Iio, Fintype.card_fun,
    Fintype.card_fin, Fintype.card_fin, div_pow]
  norm_num

end

end Cloudlibc.Stdlib
