import Cloudlibc.Foundations.Comparison

/-!
# Sorting a range of a sequence

A sequence is a function on the natural numbers. A sort rearranges the elements of a range by a
permutation that fixes every index outside (`Rearranged`), and leaves them sorted (`SortedOn`).

The first part is about rearrangements. The second part is the step of an insertion sort: an element
moves down while the one before it is greater (`Inserting`). The third part is the three-way
partition of Bentley and McIlroy, which gathers the elements equal to the pivot at both ends
(`Partitioned`) and then exchanges them with the elements next to the middle (`Partitioned.gather`).
-/

set_option autoImplicit false

namespace Cloudlibc.RangeSort

open Cloudlibc.Comparison List

variable {E : Type*}

/-! ## Rearrangements -/

/-- The second sequence is the first one, rearranged between `lo` and `hi`. -/
def Rearranged (lo hi : ℕ) (f g : ℕ → E) : Prop :=
  ∃ σ : Equiv.Perm ℕ, (∀ k, k < lo ∨ hi ≤ k → σ k = k) ∧ g = f ∘ σ

namespace Rearranged

variable {lo hi lo' hi' : ℕ} {f g h : ℕ → E}

theorem refl (lo hi : ℕ) (f : ℕ → E) : Rearranged lo hi f f :=
  ⟨1, fun _ _ => rfl, rfl⟩

theorem trans (first : Rearranged lo hi f g) (second : Rearranged lo hi g h) :
    Rearranged lo hi f h := by
  obtain ⟨σ, fixed, rfl⟩ := first
  obtain ⟨τ, fixed', rfl⟩ := second
  refine ⟨τ.trans σ, ?_, rfl⟩
  intro k outside
  rw [Equiv.trans_apply, fixed' k outside, fixed k outside]

theorem mono (rearranged : Rearranged lo hi f g) (below : lo' ≤ lo) (above : hi ≤ hi') :
    Rearranged lo' hi' f g := by
  obtain ⟨σ, fixed, rfl⟩ := rearranged
  refine ⟨σ, ?_, rfl⟩
  intro k outside
  exact fixed k (outside.imp (fun less => less.trans_le below) above.trans)

theorem swap {i j : ℕ} (f : ℕ → E) (hi₁ : lo ≤ i) (hi₂ : i < hi) (hj₁ : lo ≤ j) (hj₂ : j < hi) :
    Rearranged lo hi f (f ∘ Equiv.swap i j) := by
  refine ⟨Equiv.swap i j, ?_, rfl⟩
  intro k outside
  refine Equiv.swap_apply_of_ne_of_ne ?_ ?_
  · omega
  · omega

theorem apply_outside (rearranged : Rearranged lo hi f g) {k : ℕ} (outside : k < lo ∨ hi ≤ k) :
    g k = f k := by
  obtain ⟨σ, fixed, rfl⟩ := rearranged
  exact congrArg f (fixed k outside)

theorem forall_range (rearranged : Rearranged lo hi f g) {P : E → Prop}
    (all : ∀ k, lo ≤ k → k < hi → P (f k)) : ∀ k, lo ≤ k → k < hi → P (g k) := by
  obtain ⟨σ, fixed, rfl⟩ := rearranged
  intro k above below
  have inside : ¬(σ k < lo ∨ hi ≤ σ k) := by
    intro outside
    have same : σ k = k := σ.injective (fixed _ outside)
    omega
  rw [not_or, not_lt, not_le] at inside
  exact all (σ k) inside.1 inside.2

/-- The elements are the same ones. -/
theorem perm_map_range (rearranged : Rearranged lo hi f g) {n : ℕ} (within : hi ≤ n) :
    ((range n).map g).Perm ((range n).map f) := by
  obtain ⟨σ, fixed, rfl⟩ := rearranged
  have inside : ∀ k, k < n → σ k < n := by
    intro k less
    by_contra outside
    have same : σ k = k := σ.injective (fixed _ (.inr (by omega)))
    omega
  have indices : ((range n).map σ).Perm (range n) := by
    refine List.Subperm.perm_of_length_le ?_ (by simp)
    refine subperm_of_subset (nodup_range.map σ.injective) ?_
    intro k member
    obtain ⟨i, less, rfl⟩ := mem_map.mp member
    exact mem_range.mpr (inside i (mem_range.mp less))
  rw [← map_map]
  exact indices.map f

end Rearranged

variable {j i : ℕ}

/-- The elements that an exchange of two does not concern. -/
theorem swap_apply {k : ℕ} (f : ℕ → E) (notFirst : k ≠ i) (notSecond : k ≠ j) :
    (f ∘ Equiv.swap i j) k = f k :=
  congrArg f (Equiv.swap_apply_of_ne_of_ne notFirst notSecond)

/-- Exchange the elements from `i` on with those from `j` on, `n` of them. -/
def exchange (f : ℕ → E) (i j : ℕ) : ℕ → ℕ → E
  | 0 => f
  | n + 1 => exchange f i j n ∘ Equiv.swap (i + n) (j + n)

variable {n : ℕ}

theorem exchange_apply (f : ℕ → E) (apart : i + n ≤ j) (k : ℕ) :
    exchange f i j n k =
      if i ≤ k ∧ k < i + n then f (j + (k - i))
      else if j ≤ k ∧ k < j + n then f (i + (k - j)) else f k := by
  induction n generalizing k with
  | zero => rw [exchange, if_neg (by omega), if_neg (by omega)]
  | succ n ih =>
    rw [exchange, Function.comp_apply, Equiv.swap_apply_def]
    split_ifs <;> grind

theorem Rearranged.exchange {lo hi : ℕ} (f : ℕ → E) (below : lo ≤ i) (apart : i + n ≤ j)
    (above : j + n ≤ hi) : Rearranged lo hi f (exchange f i j n) := by
  induction n with
  | zero => exact refl lo hi f
  | succ n ih =>
    refine (ih (by omega) (by omega)).trans ?_
    exact swap _ (by omega) (by omega) (by omega) (by omega)

/-- The two parts of a range change sides if as many elements as the shorter one has are exchanged
at the ends. -/
theorem exchange_ends {f : ℕ → E} {P Q : E → Prop} {lo mid hi : ℕ} (below : lo ≤ mid)
    (above : mid ≤ hi) (shorter : n = min (mid - lo) (hi - mid))
    (first : ∀ k, lo ≤ k → k < mid → P (f k)) (second : ∀ k, mid ≤ k → k < hi → Q (f k)) :
    (∀ k, lo ≤ k → k < lo + (hi - mid) → Q (exchange f lo (hi - n) n k)) ∧
      (∀ k, lo + (hi - mid) ≤ k → k < hi → P (exchange f lo (hi - n) n k)) ∧
      ∀ k, k < lo ∨ hi ≤ k → exchange f lo (hi - n) n k = f k := by
  have apart : lo + n ≤ hi - n := by omega
  refine ⟨?_, ?_, ?_⟩
  · intro k lower upper
    rw [exchange_apply f apart]
    split_ifs with atStart atEnd
    · exact second _ (by omega) (by omega)
    · exact second _ (by omega) (by omega)
    · exact second k (by omega) (by omega)
  · intro k lower upper
    rw [exchange_apply f apart]
    split_ifs with atStart atEnd
    · exact first _ (by omega) (by omega)
    · exact first _ (by omega) (by omega)
    · exact first k (by omega) (by omega)
  · intro k outside
    rw [exchange_apply f apart, if_neg (by omega), if_neg (by omega)]

/-! ## Sorted ranges -/

section Sorted

variable {compar : E → E → ℤ} {f g h : ℕ → E}

/-- The elements between `lo` and `hi` are sorted. -/
def SortedOn (compar : E → E → ℤ) (f : ℕ → E) (lo hi : ℕ) : Prop :=
  ∀ i j, lo ≤ i → i < j → j < hi → compar (f i) (f j) ≤ 0

variable {lo hi : ℕ}

theorem SortedOn.mono {lo' hi' : ℕ} (sorted : SortedOn compar f lo hi) (below : lo ≤ lo')
    (above : hi' ≤ hi) : SortedOn compar f lo' hi' := by
  intro i j lower less upper
  exact sorted i j (below.trans lower) less (upper.trans_le above)

theorem SortedOn.congr (sorted : SortedOn compar f lo hi)
    (same : ∀ k, lo ≤ k → k < hi → g k = f k) : SortedOn compar g lo hi := by
  intro i j lower less upper
  rw [same i lower (less.trans upper), same j (lower.trans less.le) upper]
  exact sorted i j lower less upper

/-- The elements between `lo` and `hi` are sorted, but for the one at `p`, which is not greater than
those behind it. -/
structure Inserting (compar : E → E → ℤ) (f : ℕ → E) (lo p hi : ℕ) : Prop where
  above : lo ≤ p
  below : p < hi
  others : ∀ i j, lo ≤ i → i < j → j < hi → i ≠ p → j ≠ p → compar (f i) (f j) ≤ 0
  behind : ∀ j, p < j → j < hi → compar (f p) (f j) ≤ 0

namespace Inserting

variable {lo p hi : ℕ}

theorem start (sorted : SortedOn compar f lo hi) (nonempty : lo ≤ hi) :
    Inserting compar f lo hi (hi + 1) where
  above := nonempty
  below := Nat.lt_succ_self hi
  others i j above less below _ notLast := sorted i j above less (by omega)
  behind j less below := by omega

/-- The element changes places with a greater one before it. -/
theorem step (total : IsComparison compar) (inserting : Inserting compar f lo (p + 1) hi)
    (above : lo ≤ p) (greater : 0 < compar (f p) (f (p + 1))) :
    Inserting compar (f ∘ Equiv.swap (p + 1) p) lo p hi := by
  have moved : (f ∘ Equiv.swap (p + 1) p) (p + 1) = f p :=
    congrArg f (Equiv.swap_apply_left _ _)
  have moved' : (f ∘ Equiv.swap (p + 1) p) p = f (p + 1) :=
    congrArg f (Equiv.swap_apply_right _ _)
  have kept : ∀ k, k ≠ p → k ≠ p + 1 → (f ∘ Equiv.swap (p + 1) p) k = f k := by
    intro k first second
    exact congrArg f (Equiv.swap_apply_of_ne_of_ne second first)
  have below := inserting.below
  refine ⟨above, by omega, ?_, ?_⟩
  · intro i j lower less upper notLeft notRight
    by_cases left : i = p + 1
    · subst left
      rw [moved, kept j notRight (by omega)]
      exact inserting.others p j above (by omega) upper (by omega) (by omega)
    · rw [kept i notLeft left]
      by_cases right : j = p + 1
      · subst right
        rw [moved]
        exact inserting.others i p lower (by omega) (by omega) left (by omega)
      · rw [kept j notRight right]
        exact inserting.others i j lower less upper left right
  · intro j less upper
    rw [moved']
    by_cases next : j = p + 1
    · subst next
      rw [moved]
      exact ((total.neg_iff _ _).mpr greater).le
    · rw [kept j (by omega) next]
      exact inserting.behind j (by omega) upper

/-- The element has found its place. -/
theorem sortedOn (total : IsComparison compar) (inserting : Inserting compar f lo p hi)
    (placed : ∀ q, lo ≤ q → p = q + 1 → compar (f q) (f p) ≤ 0) : SortedOn compar f lo hi := by
  intro i j lower less upper
  by_cases left : i = p
  · subst left
    exact inserting.behind j less upper
  · by_cases right : j = p
    · subst right
      obtain ⟨q, rfl⟩ : ∃ q, j = q + 1 := ⟨j - 1, by omega⟩
      have last := placed q (by omega) rfl
      by_cases same : i = q
      · subst same
        exact last
      · exact total.trans _ _ _
          (inserting.others i q lower (by omega) (by omega) left (by omega)) last
    · exact inserting.others i j lower less upper left right

end Inserting

/-! ## Three-way partitions -/

/-- The elements are less than the pivot, equal to it and greater than it, in this order. -/
structure Grouped (compar : E → E → ℤ) (v : E) (f : ℕ → E) (lo mid mid' hi : ℕ) : Prop where
  less : ∀ k, lo ≤ k → k < mid → compar (f k) v < 0
  equal : ∀ k, mid ≤ k → k < mid' → compar (f k) v = 0
  greater : ∀ k, mid' ≤ k → k < hi → 0 < compar (f k) v

variable {mid mid' : ℕ} {v : E}

/-- The elements that are less may be rearranged. -/
theorem Grouped.rearrangeLess (grouped : Grouped compar v f lo mid mid' hi)
    (rearranged : Rearranged lo mid f g) (le : mid ≤ mid') : Grouped compar v g lo mid mid' hi where
  less := rearranged.forall_range (P := (compar · v < 0)) grouped.less
  equal k above below := by
    rw [rearranged.apply_outside (.inr above)]
    exact grouped.equal k above below
  greater k above below := by
    rw [rearranged.apply_outside (.inr (le.trans above))]
    exact grouped.greater k above below

/-- The elements that are greater may be rearranged. -/
theorem Grouped.rearrangeGreater (grouped : Grouped compar v f lo mid mid' hi)
    (rearranged : Rearranged mid' hi f g) (le : mid ≤ mid') :
    Grouped compar v g lo mid mid' hi where
  less k above below := by
    rw [rearranged.apply_outside (.inl (below.trans_le le))]
    exact grouped.less k above below
  equal k above below := by
    rw [rearranged.apply_outside (.inl below)]
    exact grouped.equal k above below
  greater := rearranged.forall_range (P := (0 < compar · v)) grouped.greater

/-- A range is sorted once the elements that are less and those that are greater are. -/
theorem Grouped.sortedOn (total : IsComparison compar) (grouped : Grouped compar v f lo mid mid' hi)
    (sortedLess : SortedOn compar f lo mid) (sortedGreater : SortedOn compar f mid' hi) :
    SortedOn compar f lo hi := by
  have le_of : ∀ i j, compar (f i) v ≤ 0 → 0 ≤ compar (f j) v → compar (f i) (f j) ≤ 0 := by
    intro i j low high
    exact total.trans _ _ _ low (total.nonpos_iff.mpr high)
  intro i j lower less upper
  by_cases firstLess : i < mid
  · by_cases secondLess : j < mid
    · exact sortedLess i j lower less secondLess
    · refine le_of i j (grouped.less i lower firstLess).le ?_
      by_cases second : j < mid'
      · exact (grouped.equal j (by omega) second).ge
      · exact (grouped.greater j (by omega) upper).le
  · by_cases first : i < mid'
    · refine le_of i j (grouped.equal i (by omega) first).le ?_
      by_cases second : j < mid'
      · exact (grouped.equal j (by omega) second).ge
      · exact (grouped.greater j (by omega) upper).le
    · exact sortedGreater i j (by omega) less upper

/-- A partition under way: the elements before `a` and from `d` on equal the pivot, those from `a`
to `b` are less, those from `c` to `d` are greater, and nothing is known of those from `b` to `c`. -/
structure Partitioned (compar : E → E → ℤ) (v : E) (f : ℕ → E) (lo a b c d hi : ℕ) : Prop where
  lo_le : lo ≤ a
  a_le : a ≤ b
  b_le : b ≤ c
  c_le : c ≤ d
  d_le : d ≤ hi
  equalLow : ∀ k, lo ≤ k → k < a → compar (f k) v = 0
  less : ∀ k, a ≤ k → k < b → compar (f k) v < 0
  greater : ∀ k, c ≤ k → k < d → 0 < compar (f k) v
  equalHigh : ∀ k, d ≤ k → k < hi → compar (f k) v = 0

namespace Partitioned

variable {v : E} {lo a b c d hi : ℕ}

theorem start (compar : E → E → ℤ) (v : E) (f : ℕ → E) {lo hi : ℕ} (nonempty : lo ≤ hi) :
    Partitioned compar v f lo lo lo hi hi hi := by
  constructor <;> omega

theorem stepLess (partitioned : Partitioned compar v f lo a b c d hi) (room : b < c)
    (isLess : compar (f b) v < 0) : Partitioned compar v f lo a (b + 1) c d hi where
  lo_le := partitioned.lo_le
  a_le := partitioned.a_le.trans (Nat.le_succ b)
  b_le := room
  c_le := partitioned.c_le
  d_le := partitioned.d_le
  equalLow := partitioned.equalLow
  less k above below := by
    rcases Nat.lt_succ_iff_lt_or_eq.mp below with before | rfl
    · exact partitioned.less k above before
    · exact isLess
  greater := partitioned.greater
  equalHigh := partitioned.equalHigh

theorem stepGreater (partitioned : Partitioned compar v f lo a b (c + 1) d hi) (room : b ≤ c)
    (isGreater : 0 < compar (f c) v) : Partitioned compar v f lo a b c d hi where
  lo_le := partitioned.lo_le
  a_le := partitioned.a_le
  b_le := room
  c_le := (Nat.le_succ c).trans partitioned.c_le
  d_le := partitioned.d_le
  equalLow := partitioned.equalLow
  less := partitioned.less
  greater k above below := by
    rcases above.eq_or_lt with rfl | behind
    · exact isGreater
    · exact partitioned.greater k behind below
  equalHigh := partitioned.equalHigh

theorem stepEqualLow (partitioned : Partitioned compar v f lo a b c d hi) (room : b < c)
    (isEqual : compar (f b) v = 0) :
    Partitioned compar v (f ∘ Equiv.swap a b) lo (a + 1) (b + 1) c d hi := by
  obtain ⟨lo_le, a_le, b_le, c_le, d_le, equalLow, less, greater, equalHigh⟩ := partitioned
  have atA : (f ∘ Equiv.swap a b) a = f b := congrArg f (Equiv.swap_apply_left _ _)
  have atB : (f ∘ Equiv.swap a b) b = f a := congrArg f (Equiv.swap_apply_right _ _)
  refine ⟨by omega, by omega, room, c_le, d_le, ?_, ?_, ?_, ?_⟩
  · intro k above below
    rcases Nat.lt_succ_iff_lt_or_eq.mp below with before | rfl
    · rw [swap_apply f (by omega) (by omega)]
      exact equalLow k above before
    · rw [atA]
      exact isEqual
  · intro k above below
    rcases Nat.lt_succ_iff_lt_or_eq.mp below with before | rfl
    · rw [swap_apply f (by omega) (by omega)]
      exact less k (by omega) before
    · rw [atB]
      exact less a le_rfl (by omega)
  · intro k above below
    rw [swap_apply f (by omega) (by omega)]
    exact greater k above below
  · intro k above below
    rw [swap_apply f (by omega) (by omega)]
    exact equalHigh k above below

theorem stepEqualHigh (partitioned : Partitioned compar v f lo a b (c + 1) (d + 1) hi)
    (room : b ≤ c) (isEqual : compar (f c) v = 0) :
    Partitioned compar v (f ∘ Equiv.swap c d) lo a b c d hi := by
  obtain ⟨lo_le, a_le, b_le, c_le, d_le, equalLow, less, greater, equalHigh⟩ := partitioned
  have atC : (f ∘ Equiv.swap c d) c = f d := congrArg f (Equiv.swap_apply_left _ _)
  have atD : (f ∘ Equiv.swap c d) d = f c := congrArg f (Equiv.swap_apply_right _ _)
  refine ⟨lo_le, a_le, room, by omega, by omega, ?_, ?_, ?_, ?_⟩
  · intro k above below
    rw [swap_apply f (by omega) (by omega)]
    exact equalLow k above below
  · intro k above below
    rw [swap_apply f (by omega) (by omega)]
    exact less k above below
  · intro k above below
    rcases above.eq_or_lt with rfl | behind
    · rw [atC]
      exact greater d (by omega) (by omega)
    · rw [swap_apply f (by omega) (by omega)]
      exact greater k behind (by omega)
  · intro k above below
    rcases above.eq_or_lt with rfl | behind
    · rw [atD]
      exact isEqual
    · rw [swap_apply f (by omega) (by omega)]
      exact equalHigh k behind below

theorem stepCross (partitioned : Partitioned compar v f lo a b (c + 1) d hi) (room : b < c)
    (isGreater : 0 < compar (f b) v) (isLess : compar (f c) v < 0) :
    Partitioned compar v (f ∘ Equiv.swap b c) lo a (b + 1) c d hi := by
  obtain ⟨lo_le, a_le, b_le, c_le, d_le, equalLow, less, greater, equalHigh⟩ := partitioned
  have atB : (f ∘ Equiv.swap b c) b = f c := congrArg f (Equiv.swap_apply_left _ _)
  have atC : (f ∘ Equiv.swap b c) c = f b := congrArg f (Equiv.swap_apply_right _ _)
  refine ⟨lo_le, by omega, room, by omega, d_le, ?_, ?_, ?_, ?_⟩
  · intro k above below
    rw [swap_apply f (by omega) (by omega)]
    exact equalLow k above below
  · intro k above below
    rcases Nat.lt_succ_iff_lt_or_eq.mp below with before | rfl
    · rw [swap_apply f (by omega) (by omega)]
      exact less k above before
    · rw [atB]
      exact isLess
  · intro k above below
    rcases above.eq_or_lt with rfl | behind
    · rw [atC]
      exact isGreater
    · rw [swap_apply f (by omega) (by omega)]
      exact greater k behind below
  · intro k above below
    rw [swap_apply f (by omega) (by omega)]
    exact equalHigh k above below

/-- **The elements that equal the pivot are exchanged with those next to the middle.** -/
theorem gather {n n' : ℕ} (partitioned : Partitioned compar v f lo a b b d hi)
    (shorter : n = min (a - lo) (b - a)) (shorter' : n' = min (d - b) (hi - d)) :
    Grouped compar v (exchange (exchange f lo (b - n) n) b (hi - n') n')
      lo (lo + (b - a)) (hi - (d - b)) hi := by
  obtain ⟨less, equal, kept⟩ := exchange_ends (P := (compar · v = 0)) (Q := (compar · v < 0))
    partitioned.lo_le partitioned.a_le shorter partitioned.equalLow partitioned.less
  obtain ⟨equal', greater, kept'⟩ := exchange_ends (P := (0 < compar · v)) (Q := (compar · v = 0))
    (f := exchange f lo (b - n) n) partitioned.c_le partitioned.d_le shorter'
    (fun k above below => by rw [kept k (.inr above)]; exact partitioned.greater k above below)
    (fun k above below => by
      rw [kept k (.inr (partitioned.c_le.trans above))]
      exact partitioned.equalHigh k above below)
  have lo_le := partitioned.lo_le
  have d_le := partitioned.d_le
  refine ⟨?_, ?_, ?_⟩
  · intro k above below
    rw [kept' k (by omega)]
    exact less k above below
  · intro k above below
    by_cases before : k < b
    · rw [kept' k (.inl before)]
      exact equal k above before
    · exact equal' k (by omega) (by omega)
  · intro k above below
    exact greater k (by omega) below

end Partitioned

end Sorted

end Cloudlibc.RangeSort
