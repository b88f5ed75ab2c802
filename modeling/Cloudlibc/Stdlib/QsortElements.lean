import Cloudlibc.Foundations.RangeSort
import Cloudlibc.Stdlib.Qsort

/-!
# Elements under `qsort_r()`

The functions that `qsort_r()` is made of work on bytes. Called with the addresses of elements of an
array, they compare elements (`runs_callCmp`), exchange them (`runs_qsortSwap`,
`runs_qsortSwap_blocks`), choose one of them (`runs_qsortPickpivot`) and insert them
(`runs_qsortInsertionsort`).
-/

set_option autoImplicit false

namespace Cloudlibc.Stdlib

open Cloudlibc.Loop Cloudlibc.Memory Cloudlibc.ElementArray Cloudlibc.RangeSort Function
open Cloudlibc.Comparison

/-! ## Exchanges -/

theorem swapByte_run {m : Mem Byte} {a b : ℤ} {x y : UInt8} (first : m a = some x)
    (second : m b = some y) {ρ : Type} (next : Program Byte ρ) :
    (do
      let t ← load a
      let c ← load b
      store a c
      store b t
      next) m = next fun z => m (Equiv.swap a b z) := by
  have loadA : load a m = some (x, m) := by simp [load, first]
  have loadB : load b m = some (y, m) := by simp [load, second]
  have storeA : store a y m = some ((), update m a (some y)) := by simp [store, first]
  have storeB : store b x (update m a (some y)) =
      some ((), update (update m a (some y)) b (some x)) := by
    by_cases same : b = a
    · subst same
      simp [store]
    · simp [store, update_of_ne same, second]
  rw [bind_eq loadA, bind_eq loadB, bind_eq storeA, bind_eq storeB]
  congr 1
  funext z
  by_cases atB : z = b
  · subst atB
    rw [update_self, Equiv.swap_apply_right, first]
  · by_cases atA : z = a
    · subst atA
      rw [update_of_ne atB, update_self, Equiv.swap_apply_left, second]
    · rw [update_of_ne atB, update_of_ne atA, Equiv.swap_apply_of_ne_of_ne atA atB]

/-- The exchange of two blocks of bytes that do not overlap, or of a block with itself. -/
theorem qsortSwap_run {n : ℕ} : ∀ {m : Mem Byte} {a b : ℤ},
    (∀ k < n, (m (a + k)).isSome) → (∀ k < n, (m (b + k)).isSome) →
    (a = b ∨ a + n ≤ b ∨ b + n ≤ a) →
    ∃ m', qsortSwap a b n m = some ((), m') ∧ (∀ k < n, m' (a + k) = m (b + k)) ∧
      (∀ k < n, m' (b + k) = m (a + k)) ∧
      ∀ z, (z < a ∨ a + n ≤ z) → (z < b ∨ b + n ≤ z) → m' z = m z := by
  induction n with
  | zero =>
    intro m a b _ _ _
    refine ⟨m, rfl, ?_, ?_, fun _ _ _ => rfl⟩ <;>
    · intro k less
      exact absurd less (Nat.not_lt_zero k)
  | succ n ih =>
    intro m a b first second apart
    obtain ⟨x, atA⟩ := Option.isSome_iff_exists.mp (first 0 (Nat.succ_pos n))
    obtain ⟨y, atB⟩ := Option.isSome_iff_exists.mp (second 0 (Nat.succ_pos n))
    rw [Nat.cast_zero, add_zero] at atA atB
    have nextA : ∀ k : ℕ, a + 1 + (k : ℤ) = a + (k + 1 : ℕ) := by
      intro k
      push_cast
      ring
    have nextB : ∀ k : ℕ, b + 1 + (k : ℤ) = b + (k + 1 : ℕ) := by
      intro k
      push_cast
      ring
    have keptA : ∀ k : ℕ, k < n → Equiv.swap a b (a + 1 + k) = a + (k + 1 : ℕ) := by
      intro k less
      rw [Equiv.swap_apply_of_ne_of_ne (by omega) (by omega), nextA]
    have keptB : ∀ k : ℕ, k < n → Equiv.swap a b (b + 1 + k) = b + (k + 1 : ℕ) := by
      intro k less
      rw [Equiv.swap_apply_of_ne_of_ne (by omega) (by omega), nextB]
    obtain ⟨m', ran, blockA, blockB, others⟩ := ih (m := fun z => m (Equiv.swap a b z))
      (a := a + 1) (b := b + 1)
      (fun k less => by rw [keptA k less]; exact first (k + 1) (by omega))
      (fun k less => by rw [keptB k less]; exact second (k + 1) (by omega)) (by omega)
    refine ⟨m', ?_, ?_, ?_, ?_⟩
    · rw [qsortSwap, swapByte_run atA atB, ran]
    · intro k less
      cases k with
      | zero =>
        rw [Nat.cast_zero, add_zero, add_zero, others a (by omega) (by omega),
          Equiv.swap_apply_left]
      | succ k => rw [← nextA, blockA k (by omega), keptB k (by omega)]
    · intro k less
      cases k with
      | zero =>
        rw [Nat.cast_zero, add_zero, add_zero, others b (by omega) (by omega),
          Equiv.swap_apply_right]
      | succ k => rw [← nextB, blockB k (by omega), keptA k (by omega)]
    · intro z outA outB
      rw [others z (by omega) (by omega), Equiv.swap_apply_of_ne_of_ne (by omega) (by omega)]

section Elements

variable {A : Region} {f : ℕ → List UInt8} {ρ : Type} {Q : ρ → (ℕ → List UInt8) → Prop}

variable {j i : ℕ}

/-- Two elements are exchanged. -/
theorem runs_qsortSwap (first : i < A.count) (second : j < A.count) :
    A.Runs f (qsortSwap (A.address i) (A.address j) A.width)
      fun _ f' => f' = f ∘ Equiv.swap i j := by
  intro m holds
  have held : ∀ x < A.count, ∀ k < A.width, (m (A.address x + k)).isSome := by
    intro x element k inside
    rw [holds.byte x element k inside, isSome_getElem?, holds.length x element]
    exact inside
  have apart : ∀ {x y : ℕ}, x ≠ y → A.address x + A.width ≤ A.address y ∨
      A.address y + A.width ≤ A.address x := by
    intro x y distinct
    exact (Nat.lt_or_gt_of_ne distinct).imp A.address_add_le A.address_add_le
  obtain ⟨m', ran, blockA, blockB, others⟩ := qsortSwap_run (held i first) (held j second) (by
    by_cases same : i = j
    · exact .inl (congrArg A.address same)
    · exact .inr (apart same))
  refine ⟨(), m', f ∘ Equiv.swap i j, ran, ⟨?_, ?_⟩, ?_, rfl⟩
  · intro x element
    rw [comp_apply, Equiv.swap_apply_def]
    split_ifs
    · exact holds.length j second
    · exact holds.length i first
    · exact holds.length x element
  · intro x element k less
    rw [comp_apply]
    by_cases atI : x = i
    · subst atI
      rw [blockA k less, Equiv.swap_apply_left, holds.byte j second k less]
    · by_cases atJ : x = j
      · subst atJ
        rw [blockB k less, Equiv.swap_apply_right, holds.byte i first k less]
      · have besideI := apart atI
        have besideJ := apart atJ
        rw [others _ (by omega) (by omega), Equiv.swap_apply_of_ne_of_ne atI atJ,
          holds.byte x element k less]
  · intro z outside
    exact others z (outside.beside first) (outside.beside second)

theorem qsortSwap_add (n k : ℕ) : ∀ a b : ℤ,
    qsortSwap a b (n + k) = (do qsortSwap a b n; qsortSwap (a + n) (b + n) k) := by
  induction n with
  | zero =>
    intro a b
    simp [qsortSwap]
  | succ n ih =>
    intro a b
    have next : ∀ p : ℤ, p + 1 + n = p + (n + 1 : ℕ) := by
      intro p
      push_cast
      ring
    rw [Nat.succ_add, qsortSwap, qsortSwap, ih, next, next]
    simp only [bind_assoc]

/-- Two blocks of elements are exchanged. -/
theorem runs_qsortSwap_blocks {n : ℕ} (first : i + n ≤ A.count) (second : j + n ≤ A.count) :
    A.Runs f (qsortSwap (A.address i) (A.address j) (n * A.width))
      fun _ f' => f' = exchange f i j n := by
  induction n with
  | zero =>
    rw [Nat.zero_mul, qsortSwap]
    exact .pure rfl
  | succ n ih =>
    rw [Nat.succ_mul, qsortSwap_add]
    refine (ih (by omega) (by omega)).bind ?_
    rintro _ _ rfl
    rw [A.address_add, A.address_add]
    exact runs_qsortSwap (by omega) (by omega)

/-! ## Comparisons -/

variable {θ : Type} {cmp : List UInt8 → List UInt8 → θ → ℤ} {thunk : θ}

/-- Two elements are compared, and the program goes on. -/
theorem runs_callCmp (first : i < A.count) (second : j < A.count) {next : ℤ → Program Byte ρ}
    (then_ : A.Runs f (next (cmp (f i) (f j) thunk)) Q) :
    A.Runs f (callCmp A.width cmp thunk (A.address i) (A.address j) >>= next) Q := by
  rw [callCmp, bind_assoc]
  refine .read first ?_
  rw [bind_assoc]
  refine .read second ?_
  rw [pure_bind]
  exact then_

theorem runs_qsortMed3 (lo : ℕ) {hi k : ℕ} (within : hi ≤ A.count) (first : lo ≤ i ∧ i < hi)
    (second : lo ≤ j ∧ j < hi) (third : lo ≤ k ∧ k < hi) :
    A.Runs f (qsortMed3 A.width cmp thunk (A.address i) (A.address j) (A.address k))
      fun p f' => f' = f ∧ ∃ x, p = A.address x ∧ lo ≤ x ∧ x < hi := by
  have less : ∀ {x}, lo ≤ x ∧ x < hi → x < A.count := fun bounds => bounds.2.trans_le within
  have choose : ∀ {x}, lo ≤ x ∧ x < hi → A.Runs f (pure (A.address x))
      fun p f' => f' = f ∧ ∃ x, p = A.address x ∧ lo ≤ x ∧ x < hi := fun bounds =>
    .pure ⟨rfl, _, rfl, bounds⟩
  rw [qsortMed3]
  refine runs_callCmp (less first) (less second) ?_
  split_ifs
  · refine runs_callCmp (less second) (less third) ?_
    split_ifs
    · exact choose second
    · refine runs_callCmp (less first) (less third) ?_
      split_ifs
      · exact choose third
      · exact choose first
  · refine runs_callCmp (less second) (less third) ?_
    split_ifs
    · exact choose second
    · refine runs_callCmp (less first) (less third) ?_
      split_ifs
      · exact choose third
      · exact choose first

/-! ## Sizes -/

theorem sizeT_of_lt {n : ℕ} (less : n < 2 ^ 64) : sizeT n = n := by
  rw [sizeT, Int.emod_eq_of_lt (Int.natCast_nonneg n) (by exact_mod_cast less), Int.toNat_natCast]

section Sizes

variable (fits : A.count * A.width < 2 ^ 64)

include fits

variable {n : ℕ}

theorem sizeT_count (within : n ≤ A.count) : sizeT n = n :=
  sizeT_of_lt ((within.trans (Nat.le_mul_of_pos_right _ A.width_pos)).trans_lt fits)

theorem sizeT_mul (within : n ≤ A.count) : sizeT (n * A.width) = n * A.width := by
  exact sizeT_of_lt ((Nat.mul_le_mul_right _ within).trans_lt fits)

theorem sizeT_pred (nonempty : 0 < n) (within : n ≤ A.count) : sizeT (n - 1) = n - 1 := by
  rw [← Nat.cast_pred nonempty]
  exact sizeT_count fits ((Nat.sub_le n 1).trans within)

/-- The pivot is one of the elements. -/
theorem runs_qsortPickpivot {lo nel : ℕ} (nonempty : 0 < nel) (within : lo + nel ≤ A.count) :
    A.Runs f (qsortPickpivot A.width cmp thunk (A.address lo) nel)
      fun p f' => f' = f ∧ ∃ x, p = A.address x ∧ lo ≤ x ∧ x < lo + nel := by
  have half : A.address lo + sizeT (sizeT (nel / 2 : ℕ) * A.width) = A.address (lo + nel / 2) := by
    rw [sizeT_count fits (by omega), sizeT_mul fits (by omega), A.address_add]
  have last : A.address lo + sizeT (sizeT (nel - 1) * A.width) = A.address (lo + (nel - 1)) := by
    rw [sizeT_pred fits nonempty (by omega), sizeT_mul fits (by omega), A.address_add]
  have eighth : sizeT (sizeT (nel / 8 : ℕ) * A.width) = nel / 8 * A.width := by
    rw [sizeT_count fits (by omega), sizeT_mul fits (by omega)]
  have quarter : sizeT (2 * (nel / 8 * A.width : ℕ)) = 2 * (nel / 8) * A.width := by
    have same : (2 * (nel / 8 * A.width : ℕ) : ℤ) = (2 * (nel / 8) : ℕ) * A.width := by
      push_cast
      ring
    rw [same, sizeT_mul fits (by omega)]
  rw [qsortPickpivot]
  simp only [half, last, eighth, quarter]
  split_ifs
  · simp (disch := omega) only [A.address_add, A.address_sub]
    refine .bind (runs_qsortMed3 lo within ⟨by omega, by omega⟩ ⟨by omega, by omega⟩
      ⟨by omega, by omega⟩) ?_
    rintro _ _ ⟨rfl, pl, rfl, plBounds⟩
    refine .bind (runs_qsortMed3 lo within ⟨by omega, by omega⟩ ⟨by omega, by omega⟩
      ⟨by omega, by omega⟩) ?_
    rintro _ _ ⟨rfl, pm, rfl, pmBounds⟩
    refine .bind (runs_qsortMed3 lo within ⟨by omega, by omega⟩ ⟨by omega, by omega⟩
      ⟨by omega, by omega⟩) ?_
    rintro _ _ ⟨rfl, pn, rfl, pnBounds⟩
    exact runs_qsortMed3 lo within plBounds pmBounds pnBounds
  · exact runs_qsortMed3 lo within ⟨by omega, by omega⟩ ⟨by omega, by omega⟩ ⟨by omega, by omega⟩

end Sizes

/-! ## Insertion sort -/

section Insertion

variable (total : IsComparison fun x y => cmp x y thunk)

include total

theorem runs_insertion {lo hi : ℕ} (within : hi < A.count) (above : lo ≤ hi)
    (sorted : SortedOn (fun x y => cmp x y thunk) f lo hi) {fuel : ℕ} (enough : hi - lo < fuel) :
    A.Runs f (loop (insertionPass A.width cmp thunk (A.address lo)) fuel (A.address hi))
      fun _ f' => Rearranged lo (hi + 1) f f' ∧
        SortedOn (fun x y => cmp x y thunk) f' lo (hi + 1) := by
  refine .loop (fun n pl f' => ∃ p, pl = A.address p ∧ n = p - lo ∧ Rearranged lo (hi + 1) f f' ∧
    Inserting (fun x y => cmp x y thunk) f' lo p (hi + 1)) ?_
    ⟨hi, rfl, rfl, .refl _ _ f, .start sorted above⟩ enough
  rintro _ _ g ⟨p, rfl, rfl, rearranged, inserting⟩
  have upper := inserting.below
  rw [insertionPass]
  split_ifs with inside
  · have less : lo < p := A.address_lt_iff.mp inside
    obtain ⟨q, rfl⟩ : ∃ q, p = q + 1 := ⟨p - 1, by omega⟩
    rw [A.address_succ_sub]
    refine runs_callCmp (by omega) (by omega) ?_
    split_ifs with greater
    · refine (runs_qsortSwap (by omega) (by omega)).bind ?_
      rintro _ _ rfl
      refine .pure ⟨q - lo, by omega, q, rfl, rfl, rearranged.trans ?_, ?_⟩
      · exact .swap g (by omega) (by omega) (by omega) (by omega)
      · exact inserting.step total (by omega) greater
    · refine .pure ⟨rearranged, inserting.sortedOn total ?_⟩
      intro q' _ same
      obtain rfl : q = q' := Nat.succ_injective same
      exact not_lt.mp greater
  · refine .pure ⟨rearranged, inserting.sortedOn total ?_⟩
    rintro q lower rfl
    exact absurd (A.address_lt_iff.mpr (Nat.lt_succ_of_le lower)) inside

/-- **Insertion sort.** -/
theorem runs_qsortInsertionsort (fits : A.count * A.width < 2 ^ 64) {lo nel : ℕ}
    (within : lo + nel ≤ A.count) :
    A.Runs f (qsortInsertionsort A.width cmp thunk (A.address lo) nel)
      fun _ f' => Rearranged lo (lo + nel) f f' ∧
        SortedOn (fun x y => cmp x y thunk) f' lo (lo + nel) := by
  have end_ : A.address lo + sizeT (nel * A.width) = A.address (lo + nel) := by
    rw [sizeT_mul fits (by omega), A.address_add]
  rw [qsortInsertionsort, ← A.address_succ]
  refine .loop (fun n pm f' => ∃ j, pm = A.address (lo + j) ∧ n = nel - j ∧ 1 ≤ j ∧
    Rearranged lo (lo + nel) f f' ∧ SortedOn (fun x y => cmp x y thunk) f' lo (lo + j)) ?_
    ⟨1, rfl, rfl, le_rfl, .refl _ _ f, fun i j lower less upper => by omega⟩ (by omega)
  rintro _ _ g ⟨j, rfl, rfl, positive, rearranged, sorted⟩
  rw [insertionsortPass, end_]
  split_ifs with inside
  · have less : lo + j < lo + nel := A.address_lt_iff.mp inside
    refine .bind (runs_insertion total (by omega) (Nat.le_add_right lo j) sorted (by omega)) ?_
    rintro _ h ⟨moved, sorted'⟩
    rw [← A.address_succ]
    refine .pure ⟨nel - (j + 1), by omega, j + 1, rfl, rfl, by omega, ?_, sorted'⟩
    exact rearranged.trans (moved.mono le_rfl (by omega))
  · have done : lo + nel ≤ lo + j := not_lt.mp (inside ∘ A.address_lt_iff.mpr)
    exact .pure ⟨rearranged, sorted.mono le_rfl done⟩

end Insertion


end Elements

end Cloudlibc.Stdlib
