import Cloudlibc.Stdlib.QsortElements

/-!
# `qsort_r()` sorts

The partition of `__qsort_quicksort()` keeps the pivot at the head of the array while it moves the
other elements (`Splitting`). Its two inner loops and one pass of the outer loop are treated in turn
(`runs_low`, `runs_high`, `runs_partitionPass`), and the recursive calls sort the two ends
(`runs_qsortQuicksort`).

The main result (`qsortR_sorts`) is about any memory that holds the array, whatever else it holds:
`qsort_r()` returns, leaves a sorted rearrangement of the elements, and leaves the rest of the memory
as it is.
-/

set_option autoImplicit false

namespace Cloudlibc.Stdlib

open Cloudlibc.Loop Cloudlibc.Memory Cloudlibc.ElementArray Cloudlibc.RangeSort
open Cloudlibc.Comparison

/-! ## The partition -/

/-- A partition under way in the range from `lo` to `hi`, around the element at `lo`. -/
structure Splitting (compar : List UInt8 → List UInt8 → ℤ) (f₀ f : ℕ → List UInt8)
    (lo a b c d hi : ℕ) : Prop where
  partitioned : Partitioned compar (f₀ lo) f lo a b c d hi
  rearranged : Rearranged lo hi f₀ f
  pivot : f lo = f₀ lo
  first : a = lo → b = lo
  nonempty : lo < c

namespace Splitting

variable {compar : List UInt8 → List UInt8 → ℤ} {f₀ f : ℕ → List UInt8} {lo a b c d hi : ℕ}

section

variable (splitting : Splitting compar f₀ f lo a b c d hi)

include splitting

theorem bounds :
    lo ≤ a ∧ a ≤ b ∧ b ≤ c ∧ c ≤ d ∧ d ≤ hi :=
  ⟨splitting.partitioned.lo_le, splitting.partitioned.a_le, splitting.partitioned.b_le,
    splitting.partitioned.c_le, splitting.partitioned.d_le⟩

theorem stepLess (room : b < c) (started : lo < a) (isLess : compar (f b) (f lo) < 0) :
    Splitting compar f₀ f lo a (b + 1) c d hi where
  partitioned := splitting.partitioned.stepLess room (splitting.pivot ▸ isLess)
  rearranged := splitting.rearranged
  pivot := splitting.pivot
  first := fun same => absurd same started.ne'
  nonempty := splitting.nonempty

theorem stepEqualLow (room : b < c) (isEqual : compar (f b) (f lo) = 0) :
    Splitting compar f₀ (f ∘ Equiv.swap a b) lo (a + 1) (b + 1) c d hi := by
  obtain ⟨lo_le, a_le, -, c_le, d_le⟩ := splitting.bounds
  refine ⟨splitting.partitioned.stepEqualLow room (splitting.pivot ▸ isEqual), ?_, ?_, ?_, ?_⟩
  · exact splitting.rearranged.trans (.swap f lo_le (by omega) (by omega) (by omega))
  · rw [← splitting.pivot]
    by_cases head : a = lo
    · rw [head, splitting.first head, Equiv.swap_self]
      rfl
    · exact swap_apply f (by omega) (by omega)
  · omega
  · exact splitting.nonempty

end

theorem stepGreater (splitting : Splitting compar f₀ f lo a b (c + 1) d hi) (room : b ≤ c)
    (started : lo < a) (isGreater : 0 < compar (f c) (f lo)) :
    Splitting compar f₀ f lo a b c d hi where
  partitioned := splitting.partitioned.stepGreater room (splitting.pivot ▸ isGreater)
  rearranged := splitting.rearranged
  pivot := splitting.pivot
  first := fun same => absurd same started.ne'
  nonempty := started.trans_le (splitting.partitioned.a_le.trans room)

theorem stepEqualHigh (splitting : Splitting compar f₀ f lo a b (c + 1) (d + 1) hi) (room : b ≤ c)
    (started : lo < a) (isEqual : compar (f c) (f lo) = 0) :
    Splitting compar f₀ (f ∘ Equiv.swap c d) lo a b c d hi := by
  obtain ⟨-, a_le, -, c_le, d_le⟩ := splitting.bounds
  refine ⟨splitting.partitioned.stepEqualHigh room (splitting.pivot ▸ isEqual), ?_, ?_, ?_, ?_⟩
  · exact splitting.rearranged.trans (.swap f (by omega) (by omega) (by omega) (by omega))
  · rw [← splitting.pivot]
    exact swap_apply f (by omega) (by omega)
  · omega
  · omega

theorem stepCross (splitting : Splitting compar f₀ f lo a b (c + 1) d hi) (room : b < c)
    (started : lo < a) (isGreater : 0 < compar (f b) (f lo)) (isLess : compar (f c) (f lo) < 0) :
    Splitting compar f₀ (f ∘ Equiv.swap b c) lo a (b + 1) c d hi := by
  obtain ⟨-, a_le, -, c_le, d_le⟩ := splitting.bounds
  refine ⟨splitting.partitioned.stepCross room (splitting.pivot ▸ isGreater)
    (splitting.pivot ▸ isLess), ?_, ?_, ?_, ?_⟩
  · exact splitting.rearranged.trans (.swap f (by omega) (by omega) (by omega) (by omega))
  · rw [← splitting.pivot]
    exact swap_apply f (by omega) (by omega)
  · omega
  · omega

end Splitting

section Quicksort

variable {A : Region} {θ : Type} {cmp : List UInt8 → List UInt8 → θ → ℤ} {thunk : θ}
  {f₀ f : ℕ → List UInt8} {lo a b c d hi : ℕ}
  (total : IsComparison fun x y => cmp x y thunk) (within : hi ≤ A.count)

include total within

variable {fuel : ℕ}

/-- The loop that moves `pb` up stops at an element that is greater. -/
theorem runs_low (splitting : Splitting (fun x y => cmp x y thunk) f₀ f lo a b c d hi)
    (enough : c - b < fuel) :
    A.Runs f (loop (lowPass A.width cmp thunk (A.address lo) (A.address c - A.width)) fuel
        (A.address a, A.address b))
      fun p f' => ∃ a' b', p = (A.address a', A.address b') ∧ b ≤ b' ∧ lo < a' ∧
        Splitting (fun x y => cmp x y thunk) f₀ f' lo a' b' c d hi ∧
        (b' < c → 0 < cmp (f' b') (f' lo) thunk) := by
  refine .loop (fun n p f' => ∃ a' b', p = (A.address a', A.address b') ∧ n = c - b' ∧ b ≤ b' ∧
    Splitting (fun x y => cmp x y thunk) f₀ f' lo a' b' c d hi) ?_
    ⟨a, b, rfl, rfl, le_rfl, splitting⟩ enough
  rintro _ _ g ⟨a', b', rfl, rfl, up, here⟩
  obtain ⟨lo_le, a_le, -, c_le, d_le⟩ := here.bounds
  -- The first element compares equal to itself, so the loop does not stop there.
  have started : (b' < c → 0 < cmp (g b') (g lo) thunk) → lo < a' := by
    intro stopped
    by_contra head
    have same : a' = lo := by omega
    have self := total.self_eq_zero (g lo)
    have greater := stopped (by rw [here.first same]; exact here.nonempty)
    rw [here.first same] at greater
    exact greater.ne' self
  rw [lowPass]
  split_ifs with inside
  · have room : b' < c := A.address_le_sub_iff.mp inside
    refine runs_callCmp (by omega) (by omega) ?_
    split_ifs with notGreater equal
    · refine .bind (runs_qsortSwap (by omega) (by omega)) ?_
      rintro _ _ rfl
      rw [← A.address_succ, ← A.address_succ]
      exact .pure ⟨c - (b' + 1), by omega, a' + 1, b' + 1, rfl, rfl, by omega,
        here.stepEqualLow room equal⟩
    · have isLess : cmp (g b') (g lo) thunk < 0 := lt_of_le_of_ne notGreater equal
      have notFirst : lo < a' := by
        by_contra head
        have same : a' = lo := by omega
        rw [here.first same] at equal
        exact equal (total.self_eq_zero (g lo))
      rw [← A.address_succ]
      exact .pure ⟨c - (b' + 1), by omega, a', b' + 1, rfl, rfl, by omega,
        here.stepLess room notFirst isLess⟩
    · have greater := not_le.mp notGreater
      exact .pure ⟨a', b', rfl, up, started fun _ => greater, here, fun _ => greater⟩
  · have done : ¬b' < c := inside ∘ A.address_le_sub_iff.mpr
    exact .pure ⟨a', b', rfl, up, started fun room => absurd room done, here,
      fun room => absurd room done⟩

omit total in
/-- The loop that moves `pc` down stops at an element that is less, and moves none in front of it. -/
theorem runs_high (started : lo < a)
    (splitting : Splitting (fun x y => cmp x y thunk) f₀ f lo a b c d hi) (enough : c - b < fuel) :
    A.Runs f (loop (highPass A.width cmp thunk (A.address lo) (A.address b)) fuel
        (A.address c - A.width, A.address d - A.width))
      fun p f' => ∃ c' d', p = (A.address c' - A.width, A.address d' - A.width) ∧ c' ≤ c ∧
        Splitting (fun x y => cmp x y thunk) f₀ f' lo a b c' d' hi ∧ (∀ k < c', f' k = f k) ∧
        ∀ q, c' = q + 1 → b ≤ q → cmp (f' q) (f' lo) thunk < 0 := by
  refine .loop (fun n p f' => ∃ c' d', p = (A.address c' - A.width, A.address d' - A.width) ∧
    n = c' - b ∧ c' ≤ c ∧ Splitting (fun x y => cmp x y thunk) f₀ f' lo a b c' d' hi ∧
    ∀ k < c', f' k = f k) ?_
    ⟨c, d, rfl, rfl, le_rfl, splitting, fun _ _ => rfl⟩ enough
  rintro _ _ g ⟨c', d', rfl, rfl, down, here, kept⟩
  obtain ⟨-, a_le, b_le, c_le, d_le⟩ := here.bounds
  rw [highPass]
  split_ifs with inside
  · have room : b < c' := A.address_le_sub_iff.mp inside
    obtain ⟨c', rfl⟩ : ∃ q, c' = q + 1 := ⟨c' - 1, by omega⟩
    obtain ⟨d', rfl⟩ : ∃ q, d' = q + 1 := ⟨d' - 1, by omega⟩
    rw [A.address_succ_sub, A.address_succ_sub]
    refine runs_callCmp (by omega) (by omega) ?_
    split_ifs with notLess equal
    · refine .bind (runs_qsortSwap (by omega) (by omega)) ?_
      rintro _ _ rfl
      refine .pure ⟨c' - b, by omega, c', d', rfl, rfl, by omega,
        here.stepEqualHigh (by omega) started equal, ?_⟩
      intro k less
      rw [swap_apply g (by omega) (by omega)]
      exact kept k (by omega)
    · have isGreater : 0 < cmp (g c') (g lo) thunk := lt_of_le_of_ne notLess (Ne.symm equal)
      refine .pure ⟨c' - b, by omega, c', d' + 1, by rw [A.address_succ_sub], rfl, by omega,
        here.stepGreater (by omega) started isGreater, ?_⟩
      intro k less
      exact kept k (by omega)
    · refine .pure ⟨c' + 1, d' + 1, by rw [A.address_succ_sub, A.address_succ_sub], down, here,
        kept, ?_⟩
      intro q same _
      obtain rfl : c' = q := Nat.succ_injective same
      exact not_le.mp notLess
  · refine .pure ⟨c', d', rfl, down, here, kept, ?_⟩
    rintro q rfl above
    exact absurd (A.address_le_sub_iff.mpr (Nat.lt_succ_of_le above)) inside

variable {nel : ℕ}

/-- One pass of the loop that partitions, after which the partition is complete or smaller. -/
theorem runs_partitionPass (room : hi - lo ≤ nel)
    (splitting : Splitting (fun x y => cmp x y thunk) f₀ f lo a b c d hi) :
    A.Runs f (partitionPass A.width cmp thunk (A.address lo) nel
        ⟨A.address a, A.address b, A.address c - A.width, A.address d - A.width⟩)
      fun pass f' => pass.Meets
        (fun next => ∃ a' b' c' d', next = ⟨A.address a', A.address b', A.address c' - A.width,
          A.address d' - A.width⟩ ∧ c' - b' < c - b ∧
          Splitting (fun x y => cmp x y thunk) f₀ f' lo a' b' c' d' hi)
        fun result => ∃ a' b' d', result = ⟨A.address a', A.address b', A.address b' - A.width,
          A.address d' - A.width⟩ ∧ lo < a' ∧
          Splitting (fun x y => cmp x y thunk) f₀ f' lo a' b' b' d' hi := by
  obtain ⟨lo_le, a_le, -, c_le, d_le⟩ := splitting.bounds
  rw [partitionPass]
  refine .bind (runs_low total within splitting (by omega)) ?_
  rintro _ g ⟨a₁, b₁, rfl, up, started, low, greater⟩
  refine .bind (runs_high within started low (by omega)) ?_
  rintro _ h ⟨c₁, d₁, rfl, down, high, kept, less⟩
  have b_le := high.partitioned.b_le
  have lo_lt := started.trans_le high.partitioned.a_le
  have c_le := high.partitioned.c_le
  have d_le := high.partitioned.d_le
  dsimp only
  split_ifs with crossed
  · have meet : b₁ = c₁ := by
      by_contra apart
      exact not_le.mpr crossed (A.address_le_sub_iff.mpr (lt_of_le_of_ne b_le apart))
    subst meet
    exact .pure ⟨a₁, b₁, d₁, rfl, started, high⟩
  · have apart : b₁ < c₁ := A.address_le_sub_iff.mp (not_lt.mp crossed)
    obtain ⟨q, rfl⟩ : ∃ q, c₁ = q + 1 := ⟨c₁ - 1, by omega⟩
    have isLess := less q rfl (by omega)
    have isGreater : 0 < cmp (h b₁) (h lo) thunk := by
      rw [kept b₁ apart, kept lo (by omega)]
      exact greater (by omega)
    have distinct : b₁ ≠ q := by
      rintro rfl
      exact lt_asymm isGreater isLess
    rw [A.address_succ_sub]
    refine .bind (runs_qsortSwap (by omega) (by omega)) ?_
    rintro _ _ rfl
    rw [← A.address_succ]
    exact .pure ⟨a₁, b₁ + 1, q, d₁, rfl, by omega,
      high.stepCross (by omega) started isGreater isLess⟩

theorem runs_partition (room : hi - lo ≤ nel) (enough : c - b < fuel)
    (splitting : Splitting (fun x y => cmp x y thunk) f₀ f lo a b c d hi) :
    A.Runs f (loop (partitionPass A.width cmp thunk (A.address lo) nel) fuel
        ⟨A.address a, A.address b, A.address c - A.width, A.address d - A.width⟩)
      fun result f' => ∃ a' b' d', result = ⟨A.address a', A.address b', A.address b' - A.width,
        A.address d' - A.width⟩ ∧ lo < a' ∧
        Splitting (fun x y => cmp x y thunk) f₀ f' lo a' b' b' d' hi := by
  refine .loop (fun n state f' => ∃ a' b' c' d', state = ⟨A.address a', A.address b',
    A.address c' - A.width, A.address d' - A.width⟩ ∧ n = c' - b' ∧
    Splitting (fun x y => cmp x y thunk) f₀ f' lo a' b' c' d' hi) ?_
    ⟨a, b, c, d, rfl, rfl, splitting⟩ enough
  rintro _ _ g ⟨a', b', c', d', rfl, rfl, here⟩
  refine (runs_partitionPass total within room here).mono ?_
  intro pass h meets
  cases pass with
  | again next =>
    obtain ⟨a'', b'', c'', d'', same, lower, here'⟩ := meets
    exact ⟨c'' - b'', lower, a'', b'', c'', d'', same, rfl, here'⟩
  | leave result => exact meets

/-! ## Quicksort -/

variable (fits : A.count * A.width < 2 ^ 64)

include fits

omit total within in
theorem sizeT_address_sub {i j : ℕ} (le : i ≤ j) (count : j ≤ A.count) :
    sizeT (A.address j - A.address i) = (j - i) * A.width := by
  rw [A.address_sub_address le, Nat.cast_mul]
  exact sizeT_mul fits ((Nat.sub_le j i).trans count)

omit total in
theorem runs_gather {ρ : Type} {Q : ρ → (ℕ → List UInt8) → Prop} {next : Program Byte ρ}
    (started : lo < a) (splitting : Splitting (fun x y => cmp x y thunk) f₀ f lo a b b d hi)
    (then_ : ∀ g, Rearranged lo hi f₀ g →
      Grouped (fun x y => cmp x y thunk) (f₀ lo) g lo (lo + (b - a)) (hi - (d - b)) hi →
      A.Runs g next Q) :
    A.Runs f (do
      let s := min (sizeT (A.address a - A.address lo)) (sizeT (A.address b - A.address a))
      qsortSwap (A.address lo) (A.address b - s) s
      let s := min (sizeT (A.address d - A.width - (A.address b - A.width)))
        (sizeT (sizeT (A.address hi - (A.address d - A.width)) - A.width))
      qsortSwap (A.address b) (A.address hi - s) s
      next) Q := by
  obtain ⟨lo_le, a_le, -, c_le, d_le⟩ := splitting.bounds
  have low : min (sizeT (A.address a - A.address lo)) (sizeT (A.address b - A.address a)) =
      min (a - lo) (b - a) * A.width := by
    rw [sizeT_address_sub fits lo_le (by omega), sizeT_address_sub fits a_le (by omega),
      Nat.mul_min_mul_right]
  have high : min (sizeT (A.address d - A.width - (A.address b - A.width)))
      (sizeT (sizeT (A.address hi - (A.address d - A.width)) - A.width)) =
        min (d - b) (hi - d) * A.width := by
    obtain ⟨e, rfl⟩ : ∃ e, d = e + 1 := ⟨d - 1, by omega⟩
    have rest : ((hi - e) * A.width : ℕ) - (A.width : ℤ) = (hi - (e + 1) : ℕ) * A.width := by
      obtain ⟨n, rfl⟩ : ∃ n, hi = e + 1 + n := ⟨hi - (e + 1), by omega⟩
      rw [show e + 1 + n - e = n + 1 by omega, Nat.add_sub_cancel_left]
      push_cast
      ring
    rw [sub_sub_sub_cancel_right, sizeT_address_sub fits c_le (by omega), A.address_succ_sub,
      sizeT_address_sub fits (by omega) within, rest, sizeT_mul fits (by omega),
      Nat.mul_min_mul_right]
  simp only [low, high]
  rw [A.address_sub (by omega), A.address_sub (by omega)]
  refine .bind (runs_qsortSwap_blocks (by omega) (by omega)) ?_
  rintro _ _ rfl
  refine .bind (runs_qsortSwap_blocks (by omega) (by omega)) ?_
  rintro _ _ rfl
  refine then_ _ ?_ (splitting.partitioned.gather rfl rfl)
  refine splitting.rearranged.trans (.trans (.exchange f le_rfl ?_ ?_) (.exchange _ ?_ ?_ ?_))
  all_goals omega

omit within in
/-- **Quicksort**, if the recursive calls sort. -/
theorem runs_qsortQuicksort {sort : ℤ → ℕ → Program Byte Unit} (eight : 8 ≤ nel)
    (inside : lo + nel ≤ A.count)
    (sorts : ∀ {g : ℕ → List UInt8} {lo n : ℕ}, n < nel → lo + n ≤ A.count →
      A.Runs g (sort (A.address lo) n)
      fun _ g' => Rearranged lo (lo + n) g g' ∧ SortedOn (fun x y => cmp x y thunk) g' lo (lo + n)) :
    A.Runs f (qsortQuicksort A.width cmp thunk sort (A.address lo) nel)
      fun _ f' => Rearranged lo (lo + nel) f f' ∧
        SortedOn (fun x y => cmp x y thunk) f' lo (lo + nel) := by
  have end_ : A.address lo + sizeT (nel * A.width) = A.address (lo + nel) := by
    rw [sizeT_mul fits (by omega), A.address_add]
  have last : A.address lo + sizeT (sizeT (nel - 1) * A.width) =
      A.address (lo + nel) - A.width := by
    obtain ⟨n, rfl⟩ : ∃ n, nel = n + 1 := ⟨nel - 1, by omega⟩
    rw [sizeT_pred fits (Nat.succ_pos n) (by omega), sizeT_mul fits (by omega), A.address_add,
      ← Nat.add_assoc, A.address_succ_sub]
    rfl
  rw [qsortQuicksort]
  refine .bind (runs_qsortPickpivot fits (by omega) inside) ?_
  rintro _ g ⟨same, x, rfl, above, below⟩
  rw [same]
  refine .bind (runs_qsortSwap (by omega) (by omega)) ?_
  rintro _ f₁ rfl
  have moved : Rearranged lo (lo + nel) f (f ∘ Equiv.swap lo x) :=
    .swap f le_rfl (by omega) above below
  have start : Splitting (fun x y => cmp x y thunk) (f ∘ Equiv.swap lo x) (f ∘ Equiv.swap lo x)
      lo lo lo (lo + nel) (lo + nel) (lo + nel) :=
    ⟨.start _ _ _ (by omega), .refl _ _ _, rfl, fun _ => rfl, by omega⟩
  simp only [last, end_]
  refine .bind (runs_partition total inside (by omega) (by omega) start) ?_
  rintro _ g ⟨a, b, d, rfl, started, splitting⟩
  obtain ⟨-, a_le, -, c_le, d_le⟩ := splitting.bounds
  refine runs_gather inside fits started splitting ?_
  intro g₁ rearranged grouped
  have less : sizeT (A.address b - A.address a) / A.width = b - a := by
    rw [sizeT_address_sub fits a_le (by omega), Nat.mul_div_cancel _ A.width_pos]
  have greater : sizeT (A.address d - A.width - (A.address b - A.width)) = (d - b) * A.width := by
    rw [sub_sub_sub_cancel_right, sizeT_address_sub fits c_le (by omega)]
  simp only [less, greater, Nat.mul_div_cancel _ A.width_pos]
  rw [A.address_sub (by omega)]
  refine .bind (sorts (by omega) (by omega)) ?_
  rintro _ g₂ ⟨movedLess, sortedLess⟩
  refine (sorts (by omega) (by omega)).mono ?_
  rintro _ g₃ ⟨movedGreater, sortedGreater⟩
  rw [show lo + nel - (d - b) + (d - b) = lo + nel by omega] at movedGreater sortedGreater
  constructor
  · exact moved.trans (rearranged.trans ((movedLess.mono le_rfl (by omega)).trans
      (movedGreater.mono (by omega) le_rfl)))
  · have ordered : lo + (b - a) ≤ lo + nel - (d - b) := by omega
    have grouped' := (grouped.rearrangeLess movedLess ordered).rearrangeGreater movedGreater ordered
    refine grouped'.sortedOn total (sortedLess.congr ?_) sortedGreater
    intro k _ below
    exact movedGreater.apply_outside (.inl (by omega))

omit within in
/-- The recursive calls sort, if they may be nested as deep as there are elements. -/
theorem runs_qsortRec {depth : ℕ} (enough : nel < depth) (inside : lo + nel ≤ A.count) :
    A.Runs f (qsortRec A.width cmp thunk depth (A.address lo) nel)
      fun _ f' => Rearranged lo (lo + nel) f f' ∧
        SortedOn (fun x y => cmp x y thunk) f' lo (lo + nel) := by
  induction depth generalizing f lo nel with
  | zero => exact absurd enough (Nat.not_lt_zero _)
  | succ depth ih =>
    rw [qsortRec]
    split_ifs with small
    · exact runs_qsortInsertionsort total fits inside
    · refine runs_qsortQuicksort total fits (not_lt.mp small) inside ?_
      intro g lo' n fewer inside'
      exact ih (by omega) inside'

end Quicksort

/-- **`qsort_r()` returns, touches nothing but the array, and leaves a sorted permutation of its
elements.** -/
theorem qsortR_sorts {θ : Type} (A : Region) (compar : List UInt8 → List UInt8 → θ → ℤ) (thunk : θ)
    (m : Mem Byte) (f : ℕ → List UInt8) (fits : A.count * A.width < 2 ^ 64)
    (total : IsComparison fun x y => compar x y thunk) (holds : A.Holds m f) :
    ∃ m' f', qsortR A.base A.count A.width compar thunk m = some ((), m') ∧ A.Holds m' f' ∧
      (∀ z, A.Outside z → m' z = m z) ∧
      ((List.range A.count).map f').Perm ((List.range A.count).map f) ∧
      ((List.range A.count).map f').Pairwise fun x y => compar x y thunk ≤ 0 := by
  have base : A.base = A.address 0 := by simp [Region.address]
  obtain ⟨_, m', f', ran, holds', outside, rearranged, sorted⟩ := runs_qsortRec total fits
    (Nat.lt_succ_self A.count) (Nat.zero_add A.count).le m holds
  rw [Nat.zero_add] at rearranged sorted
  refine ⟨m', f', ?_, holds', outside, rearranged.perm_map_range le_rfl, ?_⟩
  · rw [base]
    exact ran
  · rw [List.pairwise_map]
    refine List.pairwise_lt_range.imp_of_mem ?_
    intro i j _ last less
    exact sorted i j (Nat.zero_le i) less (List.mem_range.mp last)

/-- An array of two bytes in a memory that holds nothing else. -/
theorem qsortR_sorts_bytes :
    let A : Region := ⟨16, 1, 2, Nat.one_pos⟩
    let m : Mem Byte := fun z => if z = 16 then some 7 else if z = 17 then some 3 else none
    let f : ℕ → List UInt8 := fun i => if i = 0 then [7] else [3]
    ∃ m' f', qsortR 16 2 1 (fun x y (_ : Unit) => ((x.headD 0).toNat : ℤ) - (y.headD 0).toNat) () m =
        some ((), m') ∧ A.Holds m' f' ∧ (∀ z, A.Outside z → m' z = m z) ∧
      ((List.range 2).map f').Perm ((List.range 2).map f) ∧
      ((List.range 2).map f').Pairwise fun x y =>
        ((x.headD 0).toNat : ℤ) - (y.headD 0).toNat ≤ 0 := by
  intro A m f
  refine qsortR_sorts A (fun x y (_ : Unit) => ((x.headD 0).toNat : ℤ) - (y.headD 0).toNat) () m f
    (by decide) ⟨?_, ?_⟩ ⟨?_, ?_⟩
  · omega
  · omega
  · intro i _
    by_cases first : i = 0 <;> simp [f, A, first]
  · intro i less k inside
    obtain rfl : k = 0 := Nat.lt_one_iff.mp inside
    rcases (Nat.le_one_iff_eq_zero_or_eq_one.mp (Nat.le_of_lt_succ less)) with rfl | rfl <;> rfl

end Cloudlibc.Stdlib
