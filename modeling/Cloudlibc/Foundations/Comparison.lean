import Mathlib

/-!
# Comparison functions

A comparison function returns a negative number, zero or a positive number. It is a total
preorder when swapping the arguments swaps the sign and "at most" is transitive
(`IsComparison`). Elements that compare equal need not be the same.
-/

set_option autoImplicit false

namespace Cloudlibc.Comparison

open List

variable {κ : Type*}

/-- The function compares by a total preorder. -/
structure IsComparison (compar : κ → κ → ℤ) : Prop where
  neg_iff : ∀ a b, compar a b < 0 ↔ 0 < compar b a
  trans : ∀ a b c, compar a b ≤ 0 → compar b c ≤ 0 → compar a c ≤ 0

/-- A function that compares keys in a linear order. -/
theorem isComparison_of_key {α : Type*} [LinearOrder α] {compar : κ → κ → ℤ} (key : κ → α)
    (swap : ∀ a b, compar b a = -compar a b) (neg_iff : ∀ a b, compar a b < 0 ↔ key a < key b) :
    IsComparison compar where
  neg_iff a b := by
    have := swap a b
    omega
  trans a b c first second := by
    have nonpos_iff (a b) : compar a b ≤ 0 ↔ key a ≤ key b := by
      rw [← not_lt, ← not_lt, ← neg_iff b a, swap a b, neg_lt_zero]
    rw [nonpos_iff] at *
    exact first.trans second

namespace IsComparison

variable {compar : κ → κ → ℤ} (total : IsComparison compar) {a b c : κ}
include total

theorem nonpos_iff : compar a b ≤ 0 ↔ 0 ≤ compar b a := by
  have := total.neg_iff b a
  omega

theorem eq_zero_iff : compar a b = 0 ↔ compar b a = 0 := by
  have first := total.neg_iff a b
  have second := total.neg_iff b a
  omega

theorem self_eq_zero (a : κ) : compar a a = 0 := by
  have := total.neg_iff a a
  omega

theorem lt_of_lt_of_le (less : compar a b < 0) (le : compar b c ≤ 0) : compar a c < 0 := by
  by_contra notLess
  have back : compar c a ≤ 0 := total.nonpos_iff.mpr (not_lt.mp notLess)
  have le' := total.trans b c a le back
  have := (total.neg_iff a b).mp less
  omega

theorem lt_of_le_of_lt (le : compar a b ≤ 0) (less : compar b c < 0) : compar a c < 0 := by
  by_contra notLess
  have back : compar c a ≤ 0 := total.nonpos_iff.mpr (not_lt.mp notLess)
  have le' := total.trans c a b back le
  have := (total.neg_iff b c).mp less
  omega

theorem lt_trans (first : compar a b < 0) (second : compar b c < 0) : compar a c < 0 :=
  total.lt_of_lt_of_le first second.le

/-- Elements that compare equal compare to a third one in the same way. -/
theorem neg_congr_left (equal : compar a b = 0) : compar a c < 0 ↔ compar b c < 0 :=
  ⟨total.lt_of_le_of_lt (total.eq_zero_iff.mp equal).le, total.lt_of_le_of_lt equal.le⟩

/-- Two elements of a strictly sorted list that equal the same key are one. -/
theorem eq_of_sorted {l : List κ} {key : κ} (sorted : l.Pairwise fun a b => compar a b < 0)
    (first : a ∈ l) (second : b ∈ l) (equal : compar key a = 0) (equal' : compar key b = 0) :
    a = b := by
  obtain ⟨i, hi, rfl⟩ := mem_iff_getElem.mp first
  obtain ⟨j, hj, rfl⟩ := mem_iff_getElem.mp second
  have increasing := pairwise_iff_getElem.mp sorted
  rcases lt_trichotomy i j with less | rfl | more
  · have := (total.neg_congr_left equal).mpr (increasing i j hi hj less)
    omega
  · rfl
  · have := (total.neg_congr_left equal').mpr (increasing j i hj hi more)
    omega

/-- Deleting by a key takes one element out of a strictly sorted list. -/
theorem filter_sorted {l r : List κ} {k key : κ} (equal : compar key k = 0)
    (sorted : (l ++ k :: r).Pairwise fun a b => compar a b < 0) :
    (l ++ k :: r).filter (fun a => compar key a ≠ 0) = l ++ r := by
  rw [pairwise_append, pairwise_cons] at sorted
  obtain ⟨-, ⟨behind, -⟩, across⟩ := sorted
  have left : l.filter (fun a => compar key a ≠ 0) = l := by
    refine filter_eq_self.mpr fun a member => decide_eq_true fun zero => ?_
    have less := across a member k mem_cons_self
    have := (total.neg_congr_left zero).mpr less
    omega
  have right : r.filter (fun a => compar key a ≠ 0) = r := by
    refine filter_eq_self.mpr fun a member => decide_eq_true fun zero => ?_
    have := (total.neg_congr_left equal).mpr (behind a member)
    omega
  rw [filter_append, filter_cons_of_neg (by simp [equal]), left, right]

end IsComparison

end Cloudlibc.Comparison
