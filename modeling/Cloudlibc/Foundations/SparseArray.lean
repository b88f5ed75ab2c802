import Mathlib

/-!
# Arrays that are written at arbitrary positions

Writing values at a position of an array replaces what is there, and extends the array if it ends
before (`splice`). A gap between the end of the array and the position is filled. Writing nothing
does not change the array.

Writes that follow each other are one write (`splice_append`). Values that are going to be
overwritten do not matter (`splice_congr`). An array of which the part behind a mark is not defined
can be written to in place: the gap is filled later (`splice_take`).
-/

set_option autoImplicit false

namespace Cloudlibc.SparseArray

open List

variable {α : Type}

/-- The values from a position on, at most a number of them. -/
def slice (xs : List α) (i n : ℕ) : List α := (xs.drop i).take n

/-- Replace the values from a position on. -/
def patch (xs : List α) (i : ℕ) (ys : List α) : List α := xs.take i ++ ys ++ xs.drop (i + ys.length)

/-- Write values at a position. -/
def splice (fill : α) (xs : List α) (i : ℕ) (ys : List α) : List α :=
  if ys = [] then xs
  else xs.take i ++ List.replicate (i - xs.length) fill ++ ys ++ xs.drop (i + ys.length)

theorem length_slice (xs : List α) (i n : ℕ) : (slice xs i n).length = min n (xs.length - i) := by
  simp [slice]

variable {xs ys : List α} {i : ℕ}

theorem length_patch (fits : i + ys.length ≤ xs.length) : (patch xs i ys).length = xs.length := by
  simp only [patch, length_append, length_take, length_drop]
  omega

@[simp]
theorem splice_nil (fill : α) (xs : List α) (i : ℕ) : splice fill xs i [] = xs := if_pos rfl

theorem getElem?_slice (xs : List α) (i n k : ℕ) :
    (slice xs i n)[k]? = if k < n then xs[i + k]? else none := by
  rw [slice, getElem?_take, getElem?_drop]

theorem getElem?_patch (fits : i + ys.length ≤ xs.length) (k : ℕ) :
    (patch xs i ys)[k]? = if i ≤ k ∧ k < i + ys.length then ys[k - i]? else xs[k]? := by
  rw [patch, append_assoc, getElem?_append, getElem?_append, length_take,
    Nat.min_eq_left (by omega)]
  split_ifs with before inside outside inside' outside'
  · omega
  · rw [getElem?_take, if_pos before]
  · rfl
  · omega
  · omega
  · rw [getElem?_drop]
    congr 1
    omega

/-- The front of an array that has been patched there. -/
theorem take_patch {n : ℕ} (fits : i + ys.length ≤ n) (inside : n ≤ xs.length) :
    (patch xs i ys).take n = patch (xs.take n) i ys := by
  refine ext_getElem? fun k => ?_
  rw [getElem?_take, getElem?_patch (by omega),
    getElem?_patch (by rw [length_take]; omega), getElem?_take]
  split_ifs <;> first | rfl | omega

/-- The value at an index of an array that has been written to. -/
theorem getElem?_splice (fill : α) (xs : List α) (i : ℕ) (some_values : ys ≠ []) (k : ℕ) :
    (splice fill xs i ys)[k]? =
      if i ≤ k ∧ k < i + ys.length then ys[k - i]?
      else if xs.length ≤ k ∧ k < i then some fill else xs[k]? := by
  rw [splice, if_neg some_values]
  simp only [append_assoc, getElem?_append, length_take, length_replicate,
    getElem?_take, getElem?_drop, getElem?_replicate]
  split_ifs <;> first | rfl | omega | (congr 1; omega)

theorem length_splice (fill : α) (xs : List α) (i : ℕ) (some_values : ys ≠ []) :
    (splice fill xs i ys).length = max xs.length (i + ys.length) := by
  rw [splice, if_neg some_values]
  simp only [length_append, length_take, length_replicate, length_drop]
  omega

/-- The rest of a slice. -/
theorem drop_slice (xs : List α) (i m n : ℕ) :
    (slice xs i m).drop n = slice xs (i + n) (m - n) := by
  rw [slice, slice, drop_take, drop_drop]

/-- A slice in the middle of a list. -/
theorem slice_middle (front middle back : List α) :
    slice (front ++ (middle ++ back)) front.length middle.length = middle := by
  rw [slice, drop_left, take_left]

/-- A slice of the front of a list. -/
theorem slice_take {n m : ℕ} (inside : i + n ≤ m) : slice (xs.take m) i n = slice xs i n := by
  rw [slice, slice, drop_take, take_take, min_eq_left (by omega)]

variable {j : ℕ}

/-- Slices that follow each other are one slice. -/
theorem slice_append (xs : List α) {k : ℕ} (first : i ≤ j) (second : j ≤ k) :
    slice xs i (j - i) ++ slice xs j (k - j) = slice xs i (k - i) := by
  have rest : xs.drop j = (xs.drop i).drop (j - i) := by
    rw [drop_drop]
    congr 1
    omega
  rw [slice, slice, rest, ← take_add]
  congr 1
  omega

/-- A patch behind a slice extends the slice. -/
theorem slice_patch (behind : i ≤ j) (fits : j + ys.length ≤ xs.length) :
    slice (patch xs j ys) i (j + ys.length - i) = slice xs i (j - i) ++ ys := by
  apply ext_getElem?
  intro k
  rw [getElem?_slice, getElem?_patch fits, getElem?_append, getElem?_slice, length_slice]
  split_ifs <;> first | rfl | omega | (congr 1; omega) | skip
  exact (getElem?_eq_none (by omega)).symm

/-- **Writes that follow each other are one write.** -/
theorem splice_append (fill : α) (xs : List α) (i : ℕ) (ys zs : List α) :
    splice fill (splice fill xs i ys) (i + ys.length) zs = splice fill xs i (ys ++ zs) := by
  by_cases none : ys = []
  · rw [none, splice_nil, length_nil, Nat.add_zero, nil_append]
  · by_cases none' : zs = []
    · rw [none', splice_nil, append_nil]
    · have some_values : ys ++ zs ≠ [] := fun empty => none (append_eq_nil_iff.mp empty).1
      apply ext_getElem?
      intro k
      rw [getElem?_splice _ _ _ none', length_splice _ _ _ none, getElem?_splice _ _ _ none,
        getElem?_splice _ _ _ some_values, getElem?_append, length_append]
      split_ifs <;> first | rfl | omega | (congr 1; omega)

variable {used : ℕ}

/-- Values behind the end of an array that are in the way of a write are as good as the write. -/
theorem splice_patch (fill : α) (behind : i ≤ j) (fits : j + ys.length ≤ xs.length) :
    splice fill ((patch xs j ys).take used) i (slice xs i (j - i) ++ ys) =
      splice fill (xs.take used) i (slice xs i (j - i) ++ ys) := by
  by_cases none : slice xs i (j - i) ++ ys = []
  · obtain ⟨-, rfl⟩ := append_eq_nil_iff.mp none
    simp [patch]
  · have length : (slice xs i (j - i) ++ ys).length = j + ys.length - i := by
      rw [length_append, length_slice]
      omega
    apply ext_getElem?
    intro k
    rw [getElem?_splice _ _ _ none, getElem?_splice _ _ _ none, length, length_take, length_take,
      length_patch fits, getElem?_take, getElem?_take, getElem?_patch fits]
    split_ifs <;> first | rfl | omega

/-- An array that has been written to in place, within its length. -/
theorem splice_slice (fill : α) (order : i ≤ j) (within : j ≤ used) (fits : used ≤ xs.length) :
    splice fill (xs.take used) i (slice xs i (j - i)) = xs.take used := by
  by_cases none : slice xs i (j - i) = []
  · rw [none, splice_nil]
  · apply ext_getElem?
    intro k
    rw [getElem?_splice _ _ _ none, length_slice, length_take, getElem?_slice, getElem?_take]
    split_ifs <;> first | rfl | omega | (congr 1; omega)

/-- **An array that has been written to in place behind its end.** The gap is filled afterwards. -/
theorem take_fill (fill : α) (order : i < j) (behind : used < j) (fits : j ≤ xs.length) :
    (if used < i then patch xs used (replicate (i - used) fill) else xs).take j =
      splice fill (xs.take used) i (slice xs i (j - i)) := by
  have length : (slice xs i (j - i)).length = j - i := by
    rw [length_slice]
    omega
  have some_values : slice xs i (j - i) ≠ [] := by
    rw [← length_pos_iff, length]
    omega
  apply ext_getElem?
  intro k
  rw [getElem?_take, getElem?_splice _ _ _ some_values, length, length_take,
    getElem?_slice, getElem?_take, Nat.min_eq_left (by omega)]
  by_cases gap : used < i
  · have inside : used + (replicate (i - used) fill).length ≤ xs.length := by
      rw [length_replicate]
      omega
    rw [if_pos gap, getElem?_patch inside, length_replicate, getElem?_replicate]
    split_ifs <;> first | rfl | omega | (congr 1; omega)
  · split_ifs <;> first | rfl | omega | (congr 1; omega)

end Cloudlibc.SparseArray
