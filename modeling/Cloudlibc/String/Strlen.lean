import Cloudlibc.Foundations.Digits
import Cloudlibc.String.Memmem

/-!
# Strings that end with a null character

The functions of `libc/string` and `libc/wchar` that walk over a string do not know its length:
they read until they find the null character. A string (`NulString`) holds the characters in
front of it, and a read behind it fails (`NulString.read`).

`strlen()` of `libc/string/strlen.c` looks at whole machine words once it is aligned, so it reads
bytes behind the null character that belong to the same word. The bytes in such a word may be
anything (`StringBuffer`). The test on a word, `contains_nullbyte` of `string_impl.h`, is exact
(`containsNullbyte_iff`), so the function returns the length and touches no word behind the one
that holds the null character (`strlen_spec`).
-/

set_option autoImplicit false

namespace Cloudlibc.String

open Cloudlibc.Loop Cloudlibc.Digits List Option

/-! ## Strings -/

/-- A string: the characters in front of the null character. -/
structure NulString (α : Type) [Zero α] where
  chars : List α
  nonzero : ∀ c ∈ chars, c ≠ 0

section NulString

variable {α : Type} [Zero α]

/-- Read a character of a string or the null character at its end. -/
def NulString.read (s : NulString α) (i : ℕ) : Option α := (s.chars ++ [0])[i]?

theorem NulString.read_inside (s : NulString α) {i : ℕ} (inside : i < s.chars.length) :
    ∃ c, s.read i = some c ∧ s.chars[i]? = some c ∧ c ≠ 0 := by
  refine ⟨s.chars[i], ?_, getElem?_eq_getElem inside, s.nonzero _ (getElem_mem inside)⟩
  rw [NulString.read, getElem?_append_left inside, getElem?_eq_getElem inside]

@[simp]
theorem NulString.read_length (s : NulString α) : s.read s.chars.length = some 0 := by
  simp [NulString.read]

variable [DecidableEq α]

/-- One pass of `while (*e != '\0') ++e;`, which `strlen()` and `wcslen()` have. -/
def endPass (s : NulString α) (e : ℕ) : Option (Pass ℕ ℕ) := do
  let c ← s.read e
  if c ≠ 0 then return .again (e + 1) else return .leave e

/-- The loop stops at the null character. -/
theorem run_endPass (s : NulString α) {start : ℕ} (inside : start ≤ s.chars.length) :
    run (endPass s) (s.chars.length + 1) start = some s.chars.length := by
  have stops : ∃ e, run (endPass s) (s.chars.length + 1) start = some e ∧ e = s.chars.length := by
    refine run_spec (fun e => e ≤ s.chars.length) (fun e => s.chars.length - e) _ ?_ inside
      (by omega)
    intro e bound
    rcases Nat.lt_or_eq_of_le bound with before | rfl
    · obtain ⟨c, read, -, nonzero⟩ := s.read_inside before
      refine ⟨.again (e + 1), ?_, by omega, by omega⟩
      simp [endPass, read, nonzero]
    · exact ⟨.leave s.chars.length, by simp [endPass], rfl⟩
  obtain ⟨e, ran, rfl⟩ := stops
  exact ran

end NulString

/-! ## Null bytes in a machine word -/

/-- `construct_chars`: a word of equal bytes. -/
def constructChars (c : BitVec 8) : BitVec 64 :=
  [8, 16, 32].foldl (fun cl s => cl ||| cl <<< s) (c.setWidth 64)

/-- `contains_nullbyte`. -/
def containsNullbyte (v : BitVec 64) : Bool :=
  ((v - constructChars 0x01) &&& ~~~v &&& constructChars 0x80) ≠ 0#64

/-- The number of `width` bytes that are all one. -/
def oneBytes : ℕ → ℕ
  | 0 => 0
  | width + 1 => 1 + 256 * oneBytes width

theorem oneBytes_lt (width : ℕ) : oneBytes width < 256 ^ width := by
  induction width with
  | zero => simp [oneBytes]
  | succ width ih =>
    rw [oneBytes, pow_succ]
    omega

/-- What is left of a number when one is taken away from each of its bytes. -/
def decrementBytes (width v : ℕ) : ℕ := (256 ^ width - oneBytes width + v) % 256 ^ width

/-- A byte other than null lends nothing to the bytes above it. -/
theorem decrementBytes_cons (width : ℕ) {b v : ℕ} (positive : 0 < b) (small : b < 256) :
    decrementBytes (width + 1) (b + 256 * v) = (b - 1) + 256 * decrementBytes width v := by
  have bound := oneBytes_lt width
  have regroup : 256 ^ (width + 1) - oneBytes (width + 1) + (b + 256 * v) =
      (b - 1) + 256 * (256 ^ width - oneBytes width + v) := by
    rw [oneBytes, pow_succ]
    omega
  rw [decrementBytes, regroup, pow_succ', Nat.mod_mul, decrementBytes]
  congr 1
  · omega
  · congr 2
    omega

theorem decrementBytes_null (width v : ℕ) :
    ∃ rest, decrementBytes (width + 1) (256 * v) = 255 + 256 * rest := by
  have bound := oneBytes_lt width
  have regroup : 256 ^ (width + 1) - oneBytes (width + 1) + 256 * v =
      255 + 256 * (256 ^ width - oneBytes width - 1 + v) := by
    rw [oneBytes, pow_succ]
    omega
  rw [decrementBytes, regroup, pow_succ', Nat.mod_mul]
  exact ⟨_, by congr 1; omega⟩

/-- The top bit of the first byte, and those of the bytes behind it. -/
theorem testBit_top (b v i : ℕ) (small : b < 256) :
    (b + 256 * v).testBit 7 = b.testBit 7 ∧
      (b + 256 * v).testBit (8 * (i + 1) + 7) = v.testBit (8 * i + 7) := by
  have split := Nat.testBit_two_pow_mul_add v (i := 8) (b := b) (by omega)
  rw [Nat.add_comm b]
  refine ⟨by rw [split]; simp, ?_⟩
  rw [split, if_neg (by omega)]
  congr 1

/-- **Only a null byte has a clear top bit that is set after decrementing**, whatever the bytes
below it lend. -/
theorem exists_top_iff (bytes : List UInt8) :
    (∃ i < bytes.length, (decrementBytes bytes.length (leValue bytes)).testBit (8 * i + 7) = true ∧
      (leValue bytes).testBit (8 * i + 7) = false) ↔ 0 ∈ bytes := by
  induction bytes with
  | nil => simp
  | cons b bytes ih =>
    have small := b.toNat_lt
    rw [leValue, length_cons]
    by_cases null : b = 0
    · -- The first byte decides.
      subst null
      obtain ⟨rest, lent⟩ := decrementBytes_null bytes.length (leValue bytes)
      refine iff_of_true ⟨0, by omega, ?_, ?_⟩ mem_cons_self
      · rw [UInt8.toNat_zero, Nat.zero_add, lent, (testBit_top 255 rest 0 (by omega)).1]
        decide
      · rw [UInt8.toNat_zero, (testBit_top 0 _ 0 (by omega)).1]
        decide
    · have positive : 0 < b.toNat := by
        rcases Nat.eq_zero_or_pos b.toNat with zero | positive
        · exact absurd (UInt8.toNat_inj.mp zero) null
        · exact positive
      have quiet : ¬ ((b.toNat - 1).testBit 7 = true ∧ b.toNat.testBit 7 = false) := by
        rw [Nat.testBit_eq_decide_div_mod_eq, Nat.testBit_eq_decide_div_mod_eq]
        simp only [decide_eq_true_eq, decide_eq_false_iff_not]
        omega
      rw [decrementBytes_cons _ positive small, mem_cons, ← ih, or_iff_right (Ne.symm null)]
      constructor
      · rintro ⟨i, below, set, clear⟩
        cases i with
        | zero =>
          rw [(testBit_top _ _ 0 (by omega)).1] at set clear
          exact absurd ⟨set, clear⟩ quiet
        | succ i =>
          rw [(testBit_top _ _ i (by omega)).2] at set clear
          exact ⟨i, by omega, set, clear⟩
      · rintro ⟨i, below, set, clear⟩
        refine ⟨i + 1, by omega, ?_, ?_⟩
        · rw [(testBit_top _ _ i (by omega)).2, set]
        · rw [(testBit_top _ _ i (by omega)).2, clear]

/-- **`contains_nullbyte` is exact.** -/
theorem containsNullbyte_iff {bytes : List UInt8} (whole : bytes.length = sizeofLong) :
    containsNullbyte (BitVec.ofNat 64 (leValue bytes)) = true ↔ 0 ∈ bytes := by
  have small : leValue bytes < 2 ^ 64 := by
    have bound := leValue_lt bytes
    rw [whole] at bound
    exact bound
  have top : ∀ k < 64, (constructChars 0x80).getLsbD k = decide (k % 8 = 7) := by decide
  have difference : (BitVec.ofNat 64 (leValue bytes) - constructChars 0x01).toNat =
      decrementBytes 8 (leValue bytes) := by
    rw [BitVec.toNat_sub, BitVec.toNat_ofNat, Nat.mod_eq_of_lt small]
    rfl
  have bit : ∀ k < 64, ((BitVec.ofNat 64 (leValue bytes) - constructChars 0x01) &&&
      ~~~BitVec.ofNat 64 (leValue bytes) &&& constructChars 0x80).getLsbD k =
        ((decrementBytes 8 (leValue bytes)).testBit k && !(leValue bytes).testBit k &&
          decide (k % 8 = 7)) := by
    intro k below
    rw [BitVec.getLsbD_and, BitVec.getLsbD_and, BitVec.getLsbD_not, top k below, ← difference,
      BitVec.getLsbD_ofNat]
    simp [below, BitVec.getLsbD]
  rw [← exists_top_iff, whole, sizeofLong, containsNullbyte, decide_eq_true_iff]
  constructor
  · intro nonzero
    by_contra none
    refine nonzero (BitVec.eq_of_getLsbD_eq fun k below => ?_)
    rw [bit k below, BitVec.getLsbD_zero]
    by_contra set
    simp only [Bool.not_eq_false, Bool.and_eq_true, Bool.not_eq_true', decide_eq_true_eq] at set
    obtain ⟨⟨high, clear⟩, last⟩ := set
    have position : k = 8 * (k / 8) + 7 := by omega
    rw [position] at high clear
    exact none ⟨k / 8, by omega, high, clear⟩
  · rintro ⟨i, below, set, clear⟩ zero
    have read := bit (8 * i + 7) (by omega)
    rw [zero, BitVec.getLsbD_zero, set, clear] at read
    have := of_decide_eq_false read.symm
    omega

/-! ## The length of a string -/

/-- A string of bytes in memory: its address, which decides the alignment, and the bytes behind
the null character, which nothing is known about. -/
structure StringBuffer extends NulString UInt8 where
  address : ℕ
  behind : ℕ → UInt8

namespace StringBuffer

/-- The byte at an offset. -/
def byte (s : StringBuffer) (i : ℕ) : UInt8 := (s.read i).getD (s.behind i)

/-- The bytes of the `unsigned long` at an offset. They must include one of the string. -/
def readLong (s : StringBuffer) (offset : ℕ) : Option (List UInt8) :=
  if offset ≤ s.chars.length then
    some ((List.range sizeofLong).map fun i => s.byte (offset + i))
  else
    none

theorem le_of_not_null (s : StringBuffer) {offset : ℕ} (inside : offset ≤ s.chars.length)
    (noNull : 0 ∉ (range sizeofLong).map fun i => s.byte (offset + i)) :
    offset + sizeofLong ≤ s.chars.length := by
  by_contra beyond
  refine noNull (mem_map.mpr ⟨s.chars.length - offset, mem_range.mpr (by omega), ?_⟩)
  rw [Nat.add_sub_cancel' inside, byte, NulString.read_length, getD_some]

/-- One pass of the loop up to the alignment of `unsigned long`. -/
def alignPass (s : StringBuffer) (eb : ℕ) : Option (Pass ℕ (ℕ ⊕ ℕ)) :=
  if isLongAligned (s.address + eb) then
    return .leave (.inr eb)
  else do
    let c ← s.read eb
    if c = 0 then return .leave (.inl eb) else return .again (eb + 1)

/-- One pass of the loop over words. -/
def longPass (s : StringBuffer) (el : ℕ) : Option (Pass ℕ ℕ) := do
  let bytes ← s.readLong el
  if containsNullbyte (BitVec.ofNat 64 (leValue bytes)) then
    return .leave el
  else
    return .again (el + sizeofLong)

end StringBuffer

/-- `strlen()`. -/
def strlen (s : StringBuffer) : Option ℕ := do
  match ← run s.alignPass (s.chars.length + 1) 0 with
  | .inl length => return length
  | .inr eb =>
    let el ← run s.longPass (s.chars.length + 1) eb
    run (endPass s.toNulString) (s.chars.length + 1) el

/-- The first loop of `strlen()` stops inside the string. -/
theorem run_alignPass (s : StringBuffer) :
    ∃ reached, run s.alignPass (s.chars.length + 1) 0 = some reached ∧
      (reached = .inl s.chars.length ∨ ∃ eb, reached = .inr eb ∧ eb ≤ s.chars.length) := by
  refine run_spec (fun eb => eb ≤ s.chars.length) (fun eb => s.chars.length - eb) _ ?_
    (Nat.zero_le _) (by omega)
  intro eb bound
  unfold StringBuffer.alignPass
  split_ifs with aligned
  · exact ⟨_, rfl, .inr ⟨eb, rfl, bound⟩⟩
  · rcases Nat.lt_or_eq_of_le bound with before | rfl
    · obtain ⟨c, read, -, nonzero⟩ := s.read_inside before
      simp only [read, nonzero, if_false, bind_eq_bind, bind_some]
      exact ⟨_, rfl, by omega, by omega⟩
    · simp only [NulString.read_length, if_true, bind_eq_bind, bind_some]
      exact ⟨_, rfl, .inl rfl⟩

/-- The second loop of `strlen()` stops inside the string. -/
theorem run_longPass (s : StringBuffer) {start : ℕ} (inside : start ≤ s.chars.length) :
    ∃ el, run s.longPass (s.chars.length + 1) start = some el ∧ el ≤ s.chars.length := by
  refine run_spec (fun el => el ≤ s.chars.length) (fun el => s.chars.length - el) _ ?_ inside
    (by omega)
  intro el bound
  simp only [StringBuffer.longPass, StringBuffer.readLong, if_pos bound, bind_eq_bind, bind_some]
  split_ifs with null
  · exact ⟨_, rfl, bound⟩
  · rw [containsNullbyte_iff (by simp)] at null
    have next := s.le_of_not_null bound null
    refine ⟨_, rfl, next, ?_⟩
    simp only [sizeofLong] at next ⊢
    omega

/-- **`strlen()` returns the length**, wherever the string is and whatever follows it. -/
theorem strlen_spec (s : StringBuffer) : strlen s = some s.chars.length := by
  obtain ⟨reached, ran, rfl | ⟨eb, rfl, inside⟩⟩ := run_alignPass s
  · simp only [strlen, ran, bind_eq_bind, bind_some]
    rfl
  · obtain ⟨el, ranLong, elInside⟩ := run_longPass s inside
    simp only [strlen, ran, ranLong, bind_eq_bind, bind_some]
    exact run_endPass s.toNulString elInside

/-- **Reading whole words changes nothing**: `strlen()` ends where a loop over the bytes does. -/
theorem strlen_eq_run_endPass (s : StringBuffer) :
    strlen s = run (endPass s.toNulString) (s.chars.length + 1) 0 := by
  rw [strlen_spec, run_endPass s.toNulString (Nat.zero_le _)]

end Cloudlibc.String
