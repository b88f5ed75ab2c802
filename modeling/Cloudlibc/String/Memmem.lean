import Cloudlibc.String.Twoway

/-!
# Searching for a byte string

`memmem()` of `libc/string/memmem.c`, with `memchr()` and `memcmp()`, which it calls.
`memcmp()` compares a machine word at a time when the two buffers are aligned equally, so
a buffer is an address and its bytes. The order of `char` values in the Two-Way search
depends on whether the ABI has a signed or an unsigned `char`; the model takes either.

`memmem()` returns the first occurrence of the needle and agrees with the quadratic search
(`memmem_isFirstOccurrence`). A read outside the needle or the haystack makes the model
fail, so the theorem also says that there is none.
-/

set_option autoImplicit false

namespace Cloudlibc.String

open Cloudlibc.Loop Cloudlibc.Words List Option

/-! ## Characters -/

/-- Whether `char` is a signed type. -/
inductive CharSign
  | signed
  | unsigned
  deriving DecidableEq, Repr

/-- The value of a byte that is read as a `char`. -/
def charValue : CharSign → UInt8 → ℤ
  | .signed, byte => byte.toInt8.toInt
  | .unsigned, byte => byte.toNat

theorem charValue_emod (sign : CharSign) (byte : UInt8) : charValue sign byte % 2 ^ 8 = byte.toNat := by
  have bound := byte.toNat_lt
  cases sign with
  | signed =>
    have wraps : byte.toInt8.toInt = Int.bmod byte.toNat (2 ^ 8) :=
      BitVec.toInt_eq_toNat_bmod byte.toBitVec
    have congruent : Int.bmod byte.toNat (2 ^ 8) % (2 ^ 8 : ℕ) = byte.toNat % (2 ^ 8 : ℕ) :=
      Int.bmod_emod
    rw [charValue, wraps]
    omega
  | unsigned =>
    rw [charValue]
    omega

/-- Conversion of a `char` back to a byte. -/
theorem ofInt_charValue (sign : CharSign) (byte : UInt8) :
    UInt8.ofInt (charValue sign byte) = byte := by
  rw [UInt8.ofInt, charValue_emod, Int.toNat_natCast, UInt8.ofNat_toNat]

theorem charValue_injective (sign : CharSign) : Function.Injective (charValue sign) :=
  Function.LeftInverse.injective (ofInt_charValue sign)

/-- The order of bytes that are read as `char`. -/
@[reducible]
def charOrder (sign : CharSign) : LinearOrder UInt8 :=
  LinearOrder.lift' (charValue sign) (charValue_injective sign)

/-! ## Buffers -/

/-- A pointer to a byte string: its address, which decides the alignment, and the bytes. -/
structure Buffer where
  address : ℕ
  bytes : List UInt8
  deriving DecidableEq, Repr

/-- The buffer behind the first `offset` bytes. -/
def Buffer.advance (buffer : Buffer) (offset : ℕ) : Buffer where
  address := buffer.address + offset
  bytes := buffer.bytes.drop offset

/-- `memchr()`: the position of the first byte equal to `(unsigned char)c`. -/
def memchr (s : List UInt8) (c : ℤ) (n : ℕ) : Option (Option ℕ) :=
  run (fun i =>
    if i < n then do
      let sb ← s[i]?
      if sb = UInt8.ofInt c then return .leave (some i) else return .again (i + 1)
    else
      return .leave none) (n + 1) 0

/-- The size of `unsigned long`. -/
def sizeofLong : ℕ := 8

/-- `LONG_STRING_SIZE`. -/
def longStringSize : ℕ := 4 * sizeofLong

/-- `is_long_aligned` at an address. -/
def isLongAligned (address : ℕ) : Bool := address % sizeofLong = 0

/-- `is_long_aligned_equally` at two addresses. -/
def isLongAlignedEqually (a b : ℕ) : Bool := a % sizeofLong = b % sizeofLong

/-- The bytes of the `unsigned long` at an offset. -/
def Buffer.readLong (buffer : Buffer) (offset : ℕ) : Option (List UInt8) :=
  if offset + sizeofLong ≤ buffer.bytes.length then
    some ((buffer.bytes.drop offset).take sizeofLong)
  else
    none

section Memcmp

variable (s1 s2 : Buffer)

/-- One pass of the bytewise comparison up to the alignment of `unsigned long`. The state is
the number of bytes passed and the number left. -/
def memcmpAlignPass (state : ℕ × ℕ) : Option (Pass (ℕ × ℕ) (ℤ ⊕ ℕ × ℕ)) :=
  if ! isLongAligned (s1.address + state.1) then do
    let c1 ← s1.bytes[state.1]?
    let c2 ← s2.bytes[state.1]?
    if c1 ≠ c2 then
      return .leave (.inl ((c1.toNat : ℤ) - c2.toNat))
    else
      return .again (state.1 + 1, state.2 - 1)
  else
    return .leave (.inr state)

/-- One pass of the comparison of longs. -/
def memcmpLongPass (state : ℕ × ℕ) : Option (Pass (ℕ × ℕ) (ℕ × ℕ)) :=
  if state.2 ≥ sizeofLong then do
    let sl1 ← s1.readLong state.1
    let sl2 ← s2.readLong state.1
    if sl1 = sl2 then
      return .again (state.1 + sizeofLong, state.2 - sizeofLong)
    else
      return .leave state
  else
    return .leave state

/-- One pass of the bytewise comparison of the remainder. -/
def memcmpBytePass (state : ℕ × ℕ) : Option (Pass (ℕ × ℕ) ℤ) :=
  if state.2 > 0 then do
    let c1 ← s1.bytes[state.1]?
    let c2 ← s2.bytes[state.1]?
    if c1 ≠ c2 then
      return .leave ((c1.toNat : ℤ) - c2.toNat)
    else
      return .again (state.1 + 1, state.2 - 1)
  else
    return .leave 0

/-- `memcmp()`. -/
def memcmp (n : ℕ) : Option ℤ := do
  let start ←
    if n ≥ longStringSize ∧ isLongAlignedEqually s1.address s2.address then do
      match ← run (memcmpAlignPass s1 s2) (n + 1) (0, n) with
      | .inl order => pure (Sum.inl order)
      | .inr state => pure (Sum.inr (← run (memcmpLongPass s1 s2) (n + 1) state))
    else
      pure (Sum.inr (0, n))
  match start with
  | .inl order => return order
  | .inr state => run (memcmpBytePass s1 s2) (n + 1) state

end Memcmp

/-- `memchr()` finds the first occurrence of a byte. -/
theorem memchr_spec (s : List UInt8) (sign : CharSign) (c : UInt8) :
    ∃ found, memchr s (charValue sign c) s.length = some found ∧
      IsFirstOccurrence [c] s found := by
  have single : ∀ q, OccursAt [c] s q ↔ s[q]? = some c := by
    simp [OccursAt]
  refine run_spec (fun i => ∀ q < i, ¬ OccursAt [c] s q) (fun i => s.length - i) _ ?_
    (fun q before => absurd before (Nat.not_lt_zero q)) (by omega)
  intro i passed
  by_cases inside : i < s.length
  · have atI := getElem?_eq_getElem inside
    simp only [atI, bind_eq_bind, bind_some, ofInt_charValue]
    split_ifs with same
    · exact ⟨_, rfl, (single i).mpr (by rw [atI, same]), passed⟩
    · refine ⟨_, rfl, fun q before => ?_, by omega⟩
      rcases Nat.lt_succ_iff_lt_or_eq.mp before with earlier | rfl
      · exact passed q earlier
      · rw [single, atI, some.injEq]
        exact same
  · simp only [inside, if_false]
    refine ⟨_, rfl, fun q => ?_⟩
    by_cases before : q < i
    · exact passed q before
    · rw [single, getElem?_eq_none (by omega)]
      simp

/-! ## Comparison of buffers -/

section MemcmpSpec

variable {s1 s2 : Buffer} {total : ℕ}

/-- The first bytes of two buffers are equal. -/
def EqualUpTo (s1 s2 : Buffer) (n : ℕ) : Prop :=
  ∀ i < n, s1.bytes[i]? = s2.bytes[i]?

/-- The bytes passed by a comparison are equal, and the others are left. -/
def Compared (s1 s2 : Buffer) (total : ℕ) (state : ℕ × ℕ) : Prop :=
  state.1 + state.2 = total ∧ EqualUpTo s1 s2 state.1

/-- One more equal byte. -/
theorem EqualUpTo.succ {n : ℕ} (equal : EqualUpTo s1 s2 n) (next : s1.bytes[n]? = s2.bytes[n]?) :
    EqualUpTo s1 s2 (n + 1) := by
  intro i below
  rcases Nat.lt_succ_iff_lt_or_eq.mp below with earlier | rfl
  · exact equal i earlier
  · exact next

theorem difference_ne_zero {c1 c2 : UInt8} (differ : c1 ≠ c2) : (c1.toNat : ℤ) - c2.toNat ≠ 0 := by
  intro zero
  exact differ (UInt8.toNat_inj.mp (by omega))

theorem not_equalUpTo {i : ℕ} {c1 c2 : UInt8} (below : i < total) (atFirst : s1.bytes[i]? = some c1)
    (atSecond : s2.bytes[i]? = some c2) (differ : c1 ≠ c2) : ¬ EqualUpTo s1 s2 total := by
  intro equal
  have same := equal i below
  rw [atFirst, atSecond, some.injEq] at same
  exact differ same

variable (fits1 : total ≤ s1.bytes.length) (fits2 : total ≤ s2.bytes.length)
include fits1 fits2

/-- The comparison up to the alignment ends before the bytes do. -/
theorem run_memcmpAlignPass (long : sizeofLong ≤ total) :
    ∃ result, run (memcmpAlignPass s1 s2) (total + 1) (0, total) = some result ∧
      Sum.elim (fun order => order ≠ 0 ∧ ¬ EqualUpTo s1 s2 total) (Compared s1 s2 total) result := by
  -- Fewer bytes are passed than it takes to reach an aligned address.
  refine run_spec
    (fun state => Compared s1 s2 total state ∧ ∀ k < state.1, (s1.address + k) % 8 ≠ 0)
    (fun state => total - state.1) _ ?_
    ⟨⟨Nat.zero_add _, fun i below => absurd below (Nat.not_lt_zero i)⟩,
      fun k below => absurd below (Nat.not_lt_zero k)⟩ (by simp only; omega)
  rintro ⟨k, n⟩ ⟨⟨sum, equal⟩, unaligned⟩
  unfold memcmpAlignPass
  simp only [isLongAligned, sizeofLong] at long ⊢
  by_cases aligned : (s1.address + k) % 8 = 0
  · simp only [aligned, decide_true, Bool.not_true, Bool.false_eq_true, if_false]
    exact ⟨_, rfl, sum, equal⟩
  · have early : k < 8 := by
      by_contra late
      have first := unaligned ((8 - s1.address % 8) % 8) (by omega)
      omega
    have atFirst := getElem?_eq_getElem (l := s1.bytes) (i := k) (by omega)
    have atSecond := getElem?_eq_getElem (l := s2.bytes) (i := k) (by omega)
    simp only [aligned, decide_false, Bool.not_false, if_true, atFirst, atSecond,
      bind_eq_bind, bind_some]
    split_ifs with differ
    · exact ⟨_, rfl, difference_ne_zero differ,
        not_equalUpTo (by omega) atFirst atSecond differ⟩
    · have next : s1.bytes[k]? = s2.bytes[k]? := by rw [atFirst, atSecond, not_not.mp differ]
      refine ⟨_, rfl, ⟨⟨by simp only; omega, equal.succ next⟩, fun m below => ?_⟩,
        by simp only; omega⟩
      rcases Nat.lt_succ_iff_lt_or_eq.mp below with earlier | rfl
      · exact unaligned m earlier
      · exact aligned

theorem run_memcmpLongPass {start : ℕ × ℕ} (compared : Compared s1 s2 total start) :
    ∃ state, run (memcmpLongPass s1 s2) (total + 1) start = some state ∧
      Compared s1 s2 total state := by
  have startLe : start.2 ≤ total := by have := compared.1; omega
  refine run_spec (Compared s1 s2 total) (fun state => state.2) _ ?_ compared (by omega)
  rintro ⟨k, n⟩ ⟨sum, equal⟩
  simp only at sum equal
  unfold memcmpLongPass
  simp only [Buffer.readLong, sizeofLong]
  by_cases long : n ≥ 8
  · simp only [if_true, show k + 8 ≤ s1.bytes.length by omega,
      show k + 8 ≤ s2.bytes.length by omega, bind_eq_bind, bind_some]
    split_ifs with same
    · refine ⟨_, rfl, ⟨by simp only; omega, fun i below => ?_⟩, by simp only; omega⟩
      rcases Nat.lt_or_ge i k with earlier | inLong
      · exact equal i earlier
      · have letter := congrArg (fun bytes : List UInt8 => bytes[i - k]?) same
        simp only at letter below
        rwa [getElem?_take_of_lt (by omega), getElem?_take_of_lt (by omega),
          getElem?_drop, getElem?_drop, Nat.add_sub_cancel' inLong] at letter
    · exact ⟨_, rfl, sum, equal⟩
  · simp only [long, if_false]
    exact ⟨_, rfl, sum, equal⟩

theorem run_memcmpBytePass {start : ℕ × ℕ} (compared : Compared s1 s2 total start) :
    ∃ order, run (memcmpBytePass s1 s2) (total + 1) start = some order ∧
      (order = 0 ↔ EqualUpTo s1 s2 total) := by
  have startLe : start.2 ≤ total := by have := compared.1; omega
  refine run_spec (Compared s1 s2 total) (fun state => state.2) _ ?_ compared (by omega)
  rintro ⟨k, n⟩ ⟨sum, equal⟩
  simp only at sum equal
  unfold memcmpBytePass
  by_cases remain : n > 0
  · have atFirst := getElem?_eq_getElem (l := s1.bytes) (i := k) (by omega)
    have atSecond := getElem?_eq_getElem (l := s2.bytes) (i := k) (by omega)
    simp only [atFirst, atSecond, bind_eq_bind, bind_some]
    split_ifs with differ
    · exact ⟨_, rfl, iff_of_false (difference_ne_zero differ)
        (not_equalUpTo (by omega) atFirst atSecond differ)⟩
    · have next : s1.bytes[k]? = s2.bytes[k]? := by rw [atFirst, atSecond, not_not.mp differ]
      exact ⟨_, rfl, ⟨by simp only; omega, equal.succ next⟩, by simp only; omega⟩
  · simp only [remain, if_false]
    obtain rfl : k = total := by omega
    exact ⟨_, rfl, iff_of_true rfl equal⟩

/-- `memcmp()` answers whether the buffers are equal, whichever of its loops it runs. -/
theorem memcmp_spec :
    ∃ order, memcmp s1 s2 total = some order ∧ (order = 0 ↔ EqualUpTo s1 s2 total) := by
  have start : Compared s1 s2 total (0, total) :=
    ⟨Nat.zero_add _, fun i below => absurd below (Nat.not_lt_zero i)⟩
  unfold memcmp
  split_ifs with optimized
  · obtain ⟨result, ran, meets⟩ := run_memcmpAlignPass fits1 fits2
      (le_trans (by decide) optimized.1)
    cases result with
    | inl order =>
      simp only [ran, bind_eq_bind, bind_some]
      exact ⟨order, rfl, iff_of_false meets.1 meets.2⟩
    | inr state =>
      obtain ⟨rest, ranLong, compared⟩ := run_memcmpLongPass fits1 fits2 meets
      simp only [ran, ranLong, bind_eq_bind, bind_some]
      exact run_memcmpBytePass fits1 fits2 compared
  · exact run_memcmpBytePass fits1 fits2 start

end MemcmpSpec

/-! ## The search -/

/-- `HAYSTACK_SPACELEFT` of `twoway_memmem`. -/
def memmemSpaceleft (haystack haystackend : ℕ) : Option (Bool × ℕ) :=
  some (decide (haystack ≤ haystackend), haystackend)

/-- `memmem()`: the offset of the needle `s2` in the haystack `s1`, or `NULL`. -/
def memmem (sign : CharSign) (s1 s2 : Buffer) : Option (Option ℕ) :=
  let s1len := s1.bytes.length
  let s2len := s2.bytes.length
  if s2len > s1len then
    return none
  else if s2len = 0 then
    return some 0
  else if s2len = 1 then do
    let c ← s2.bytes[0]?
    memchr s1.bytes (charValue sign c) s1len
  else
    @twoway UInt8 ℕ (charOrder sign) s2.bytes s1.bytes memmemSpaceleft
      (fun first second n => memcmp (s2.advance first) (s2.advance second) n) (s1len - s2len)

/-- `HAYSTACK_SPACELEFT` of `twoway_memmem` answers whether the needle fits. -/
theorem isSpaceleft_memmemSpaceleft (needle haystack : List UInt8) :
    IsSpaceleft needle haystack memmemSpaceleft
      (fun haystackend => haystackend + needle.length = haystack.length) := by
  intro pos haystackend keeps
  refine ⟨_, _, rfl, keeps, ?_⟩
  rw [decide_eq_true_eq]
  omega

/-- `memcmp()` compares parts of the needle. -/
theorem isMemcmp_memcmp (s : Buffer) :
    IsMemcmp s.bytes fun first second n => memcmp (s.advance first) (s.advance second) n := by
  intro offset n fits
  obtain ⟨order, compared, orderIff⟩ :=
    memcmp_spec
      (show n ≤ (s.advance 0).bytes.length by simp only [Buffer.advance, length_drop]; omega)
      (show n ≤ (s.advance offset).bytes.length by
        simp only [Buffer.advance, length_drop]; omega)
  refine ⟨order, compared, orderIff.trans ?_⟩
  simp only [EqualUpTo, Buffer.advance, drop_zero, getElem?_drop, Nat.add_comm]

/-- **`memmem()` returns the first occurrence of the needle**, for every needle and haystack
at every address, and equals the quadratic search. -/
theorem memmem_isFirstOccurrence (sign : CharSign) (s1 s2 : Buffer) :
    ∃ found, memmem sign s1 s2 = some found ∧ IsFirstOccurrence s2.bytes s1.bytes found ∧
      found = naiveSearch s2.bytes s1.bytes := by
  suffices first : ∃ found, memmem sign s1 s2 = some found ∧
      IsFirstOccurrence s2.bytes s1.bytes found by
    obtain ⟨found, returned, isFirst⟩ := first
    exact ⟨found, returned, isFirst, isFirst.unique (naiveSearch_isFirstOccurrence _ _)⟩
  unfold memmem
  simp only
  split_ifs with longer empty single
  · refine ⟨none, rfl, fun q occurs => ?_⟩
    have := occurs.fits (by omega)
    omega
  · exact ⟨some 0, rfl, fun i below => by omega, fun q before => absurd before (Nat.not_lt_zero q)⟩
  · obtain ⟨c, bytes⟩ := length_eq_one_iff.mp single
    rw [bytes]
    exact memchr_spec s1.bytes sign c
  · exact @twoway_spec UInt8 ℕ (charOrder sign) _ _ _ _ _ _ (by omega)
      (isSpaceleft_memmemSpaceleft s2.bytes s1.bytes) (isMemcmp_memcmp s2) (by omega)

end Cloudlibc.String
