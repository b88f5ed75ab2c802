import Cloudlibc.Arpa.InetText

/-!
# The compressed groups of an IPv6 address

The formatter of an IPv6 address replaces one series of zero groups by `::`. The series that its
first loop finds is the first of the longest ones (`zeroesLoop_firstLongest`), and for an address
that holds an IPv4 address it starts at the first group (`firstLongest_v4mapped`,
`firstLongest_v4compat`).
-/

set_option autoImplicit false

namespace Cloudlibc.Arpa

open List

/-- The groups of a series are zero. -/
def IsRun (groups : List ℕ) (run : Zeroes) : Prop :=
  ∀ k, run.start ≤ k → k < run.start + run.len → groups[k]? = some 0

/-- A series is the first one of the longest series of zero groups. -/
structure FirstLongest (groups : List ℕ) (run : Zeroes) : Prop where
  isRun : IsRun groups run
  longest : ∀ other, IsRun groups other → other.len ≤ run.len
  first : ∀ other, IsRun groups other → other.len = run.len → run.start ≤ other.start

/-! ## The loop that looks for the series -/

section Loop

variable {done : List ℕ} {group : ℕ} {cur best run : Zeroes}

/-- A series is the one at the end of the groups. -/
structure AtEnd (done : List ℕ) (cur : Zeroes) : Prop where
  isRun : IsRun done cur
  ends : cur.start + cur.len = done.length
  maximal : ∀ run, IsRun done run → run.start + run.len = done.length → run.len ≤ cur.len

theorem IsRun.append (isRun : IsRun done run) (groups : List ℕ) : IsRun (done ++ groups) run := by
  intro k low high
  rw [getElem?_append_left]
  · exact isRun k low high
  · exact (List.getElem?_eq_some_iff.mp (isRun k low high)).1

/-- A series that is not empty ends before the end of the groups. -/
theorem IsRun.end_le (isRun : IsRun done run) (nonempty : 0 < run.len) :
    run.start + run.len ≤ done.length := by
  have last := isRun (run.start + run.len - 1) (by omega) (by omega)
  have inside := (List.getElem?_eq_some_iff.mp last).1
  omega

/-- A series that does not have the last group is one of the groups before it. -/
theorem IsRun.of_append (isRun : IsRun (done ++ [group]) run)
    (short : run.start + run.len ≤ done.length) : IsRun done run := by
  intro k low high
  rw [← isRun k low high, getElem?_append_left (by omega)]

/-- A series that has the last group goes on one with the groups before it. -/
theorem IsRun.init (isRun : IsRun (done ++ [group]) run) (nonempty : 0 < run.len)
    (ends : run.start + run.len = done.length + 1) :
    group = 0 ∧ IsRun done ⟨run.start, run.len - 1⟩ := by
  constructor
  · have last := isRun done.length (by omega) (by omega)
    rwa [getElem?_concat_length, Option.some.injEq] at last
  · have front : IsRun (done ++ [group]) ⟨run.start, run.len - 1⟩ := by
      intro k low high
      dsimp only at low high
      exact isRun k low (by omega)
    exact front.of_append (by dsimp only; omega)

/-- The series at the end after one more group that is zero. -/
theorem AtEnd.zero (atEnd : AtEnd done cur) : AtEnd (done ++ [0]) ⟨cur.start, cur.len + 1⟩ := by
  refine ⟨?_, ?_, ?_⟩
  · intro k low high
    dsimp only at low high
    by_cases last : k < cur.start + cur.len
    · exact atEnd.isRun.append [0] k low last
    · obtain rfl : k = done.length := by have := atEnd.ends; omega
      exact getElem?_concat_length
  · have := atEnd.ends
    rw [length_append, length_singleton]
    dsimp only
    omega
  · intro run isRun ends
    rw [length_append, length_singleton] at ends
    by_cases nonempty : 0 < run.len
    · have front := (isRun.init nonempty ends).2
      have bound := atEnd.maximal _ front (by dsimp only; omega)
      dsimp only at bound ⊢
      omega
    · omega

/-- The series at the end after one more group that is not zero. -/
theorem AtEnd.nonzero (nonzero : group ≠ 0) : AtEnd (done ++ [group]) ⟨done.length + 1, 0⟩ := by
  refine ⟨?_, ?_, ?_⟩
  · intro k low high
    dsimp only at low high
    omega
  · rw [length_append, length_singleton]
    rfl
  · intro run isRun ends
    rw [length_append, length_singleton] at ends
    by_contra long
    exact nonzero (isRun.init (Nat.not_le.mp long) ends).1

/-- A series of one more group is one of the groups before it, or it is no longer than the series
at the end. -/
theorem FirstLongest.append (found : FirstLongest done best)
    (atEnd : AtEnd (done ++ [group]) cur) (shorter : ¬ best.len < cur.len) :
    FirstLongest (done ++ [group]) best := by
  have bound : best.len = 0 → best.start = 0 := by
    intro empty
    have := found.first ⟨0, 0⟩ (fun k _ high => absurd high (Nat.not_lt_zero k)) empty.symm
    exact Nat.le_zero.mp this
  refine ⟨found.isRun.append _, ?_, ?_⟩
  · intro other isRun
    by_cases short : other.start + other.len ≤ done.length
    · exact found.longest other (isRun.of_append short)
    · by_contra long
      have inside := isRun.end_le (by omega)
      rw [length_append, length_singleton] at inside
      have := atEnd.maximal other isRun (by
        rw [length_append, length_singleton]
        omega)
      omega
  · intro other isRun same
    by_cases short : other.start + other.len ≤ done.length
    · exact found.first other (isRun.of_append short) same
    · by_cases empty : best.len = 0
      · rw [bound empty]
        exact Nat.zero_le _
      · have inside := found.isRun.end_le (by omega)
        omega

/-- The series at the end takes over if it is longer than the others. -/
theorem FirstLongest.replace (found : FirstLongest done best)
    (atEnd : AtEnd (done ++ [group]) cur) (longer : best.len < cur.len) :
    FirstLongest (done ++ [group]) cur := by
  have total : (done ++ [group]).length = done.length + 1 := by
    rw [length_append, length_singleton]
  -- A series that is as long as the one at the end cannot be one of the groups before.
  have ends : ∀ other, IsRun (done ++ [group]) other → cur.len ≤ other.len →
      other.start + other.len = done.length + 1 := by
    intro other isRun long
    have inside := isRun.end_le (by omega)
    by_contra before
    have := found.longest other (isRun.of_append (by omega))
    omega
  refine ⟨atEnd.isRun, ?_, ?_⟩
  · intro other isRun
    by_contra long
    have := atEnd.maximal other isRun (by rw [total]; exact ends other isRun (by omega))
    omega
  · intro other isRun same
    have := ends other isRun same.ge
    have := atEnd.ends
    omega

theorem zeroesStep_spec (atEnd : AtEnd done cur) (found : FirstLongest done best) (group : ℕ) :
    AtEnd (done ++ [group]) (zeroesStep done.length group cur best).1 ∧
      FirstLongest (done ++ [group]) (zeroesStep done.length group cur best).2 := by
  rw [zeroesStep]
  by_cases zero : group = 0
  · subst zero
    rw [if_pos rfl]
    refine ⟨atEnd.zero, ?_⟩
    dsimp only
    split_ifs with longer
    · exact found.replace atEnd.zero longer
    · exact found.append atEnd.zero longer
  · rw [if_neg zero]
    exact ⟨.nonzero zero, found.append (.nonzero zero) (Nat.not_lt_zero _)⟩

theorem zeroesLoop_spec (groups : List ℕ) : ∀ {done : List ℕ} {cur best : Zeroes},
    AtEnd done cur → FirstLongest done best →
    FirstLongest (done ++ groups) (zeroesLoop groups done.length cur best) := by
  induction groups with
  | nil =>
    intro done cur best _ found
    rwa [append_nil]
  | cons group groups ih =>
    intro done cur best atEnd found
    obtain ⟨atEnd', found'⟩ := zeroesStep_spec atEnd found group
    have rest := ih atEnd' found'
    rwa [append_assoc, singleton_append, length_append, length_singleton] at rest

end Loop

/-- **The loop finds the first one of the longest series.** -/
theorem zeroesLoop_firstLongest (groups : List ℕ) :
    FirstLongest groups (zeroesLoop groups 0 ⟨0, 0⟩ ⟨0, 0⟩) := by
  have empty : IsRun [] ⟨0, 0⟩ := fun k _ high => absurd high (Nat.not_lt_zero k)
  have bound : ∀ run, IsRun [] run → run.len ≤ 0 := by
    intro run isRun
    by_contra nonempty
    have inside := isRun.end_le (by omega)
    rw [length_nil] at inside
    omega
  exact zeroesLoop_spec groups ⟨empty, rfl, fun run isRun _ => bound run isRun⟩
    ⟨empty, bound, fun _ _ _ => Nat.zero_le _⟩

/-! ## Addresses with a dotted quad -/

section Quad

variable {src : In6Addr} {best : Zeroes}

/-- A group is zero if both of its bytes are. -/
theorem getElem?_groupsOf_eq_zero (src : In6Addr) (i : Fin 8) : (groupsOf src)[i.val]? = some 0 ↔
    src ⟨i * 2, high_lt i⟩ = 0 ∧ src ⟨i * 2 + 1, low_lt i⟩ = 0 := by
  rw [getElem?_groupsOf, Option.some.injEq, ← UInt8.toNat_inj, ← UInt8.toNat_inj]
  simp only [UInt8.toNat_zero]
  omega

section

variable (found : FirstLongest (groupsOf src) best)

include found

/-- The longest series of an address starts with zeroes that a group ends. -/
theorem FirstLongest.eq_of_stop (stop : Fin 8)
    (long : 4 < stop.val) (zero : ∀ k : Fin 16, k.val < 2 * stop → src k = 0)
    (nonzero : ¬ (src ⟨stop * 2, by omega⟩ = 0 ∧ src ⟨stop * 2 + 1, by omega⟩ = 0)) :
    best = ⟨0, stop⟩ := by
  have isRun : IsRun (groupsOf src) ⟨0, stop⟩ := by
    intro i _ high
    dsimp only at high
    rw [show i = (⟨i, by omega⟩ : Fin 8).val from rfl, getElem?_groupsOf_eq_zero]
    exact ⟨zero _ (by dsimp only; omega), zero _ (by dsimp only; omega)⟩
  have bound : stop ≤ best.len := found.longest _ isRun
  have inside := found.isRun.end_le (by omega)
  rw [length_groupsOf] at inside
  have before : ¬ stop < best.start + best.len := by
    intro reaches
    exact nonzero ((getElem?_groupsOf_eq_zero src stop).mp
      (found.isRun stop (by omega) reaches))
  obtain ⟨start, len⟩ := best
  dsimp only at bound before inside
  obtain ⟨rfl, rfl⟩ : start = 0 ∧ len = stop := by omega
  rfl

theorem firstLongest_v4mapped (mapped : in6IsAddrV4mapped src = true) : best = ⟨0, 5⟩ := by
  simp only [in6IsAddrV4mapped, Bool.and_eq_true, beq_iff_eq] at mapped
  refine found.eq_of_stop 5 (by decide) ?_ ?_
  · intro k below
    fin_cases k <;> first | exact absurd below (by decide) | simp [mapped]
  · rintro ⟨zero, -⟩
    have zero : src 10 = 0 := zero
    rw [mapped.1.2] at zero
    exact absurd zero (by decide)

/-- The series reaches into the dotted quad if its first two bytes are zero. -/
theorem firstLongest_v4compat (compat : in6IsAddrV4compat src = true) :
    best = ⟨0, if src 12 = 0 ∧ src 13 = 0 then 7 else 6⟩ := by
  simp only [in6IsAddrV4compat, Bool.and_eq_true, beq_iff_eq] at compat
  obtain ⟨front, quad⟩ := compat
  by_cases reaches : src 12 = 0 ∧ src 13 = 0
  · rw [if_pos reaches]
    refine found.eq_of_stop 7 (by decide) ?_ ?_
    · intro k below
      fin_cases k <;> first | exact absurd below (by decide) | simp [front, reaches]
    · rintro ⟨zero, zero'⟩
      have zero : src 14 = 0 := zero
      have zero' : src 15 = 0 := zero'
      rw [reaches.1, reaches.2, zero, zero'] at quad
      exact absurd quad (by decide)
  · rw [if_neg reaches]
    refine found.eq_of_stop 6 (by decide) ?_ reaches
    intro k below
    fin_cases k <;> first | exact absurd below (by decide) | simp [front]

end

end Quad

end Cloudlibc.Arpa
