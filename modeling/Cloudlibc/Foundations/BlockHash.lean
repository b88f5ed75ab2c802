import Mathlib

/-!
# Iterated hash functions

A hash function of this kind takes a message apart into blocks of one size and changes a state with
one block after the other. What the first blocks do to the state does not depend on what follows
them (`absorb_append`), so a message can be fed piece by piece. At the end the message is padded to
a whole number of blocks.
-/

set_option autoImplicit false

namespace Cloudlibc.BlockHash

open List

variable {α σ : Type*}

/-- Block `i` of a message. -/
def block (size : ℕ) (message : List α) (i : ℕ) : List α := (message.drop (i * size)).take size

/-- The state after the first blocks of a message. -/
def absorb (size : ℕ) (compress : σ → List α → σ) (start : σ) (message : List α) (count : ℕ) : σ :=
  (List.range count).foldl (fun state i => compress state (block size message i)) start

section Blocks

variable {size count i : ℕ} {compress : σ → List α → σ} {start : σ} {message rest : List α}

theorem absorb_succ : absorb size compress start message (count + 1) =
    compress (absorb size compress start message count) (block size message count) := by
  rw [absorb, range_succ, foldl_append]
  rfl

theorem block_append (inside : (i + 1) * size ≤ message.length) :
    block size (message ++ rest) i = block size message i := by
  rw [Nat.add_mul, Nat.one_mul] at inside
  rw [block, block, drop_append_of_le_length (by omega), take_append_of_le_length]
  rw [length_drop]
  omega

theorem absorb_append (inside : count * size ≤ message.length) :
    absorb size compress start (message ++ rest) count =
      absorb size compress start message count := by
  induction count with
  | zero => rfl
  | succ count ih =>
    have before : count * size ≤ message.length :=
      (Nat.mul_le_mul_right size (Nat.le_succ count)).trans inside
    rw [absorb_succ, absorb_succ, ih before, block_append inside]

/-- The block behind a message that has a whole number of blocks. -/
theorem block_of_append {next : List α} (whole : message.length = count * size)
    (full : next.length = size) : block size (message ++ (next ++ rest)) count = next := by
  rw [block, ← whole, drop_left, take_left' full]

/-- One more block behind a message that has a whole number of blocks. -/
theorem absorb_block {next : List α} (whole : message.length = count * size)
    (full : next.length = size) :
    absorb size compress start (message ++ (next ++ rest)) (count + 1) =
      compress (absorb size compress start message count) next := by
  rw [absorb_succ, absorb_append whole.ge, block_of_append whole full]

end Blocks

/-! ## Padding -/

/-- The number of zero bytes in the padding of a message of `n` bytes, where the length has
`lengthSize` bytes. -/
def zeros (size lengthSize n : ℕ) : ℕ := (2 * size - lengthSize - 1 - n % size) % size

/-- The numeral of `n` in base 256 with `count` digits. -/
def bigEndian (count n : ℕ) : List UInt8 :=
  (List.range count).map fun j => UInt8.ofNat (n / 256 ^ (count - 1 - j))

/-- A message with its padding: a byte with only the first bit set, zero bytes, and the number of
bits of the message. -/
def padded (size lengthSize : ℕ) (message : List UInt8) : List UInt8 :=
  message ++ 0x80 :: List.replicate (zeros size lengthSize message.length) 0 ++
    bigEndian lengthSize (8 * message.length)

theorem length_bigEndian (count n : ℕ) : (bigEndian count n).length = count := by
  rw [bigEndian, length_map, length_range]

/-- The numeral of a number in front of the numeral of its last digits. -/
theorem bigEndian_add (front back n : ℕ) :
    bigEndian (front + back) n = bigEndian front (n / 256 ^ back) ++ bigEndian back n := by
  rw [bigEndian, range_add, map_append, map_map]
  congr 1
  · refine map_congr_left fun j inside => ?_
    have below := mem_range.mp inside
    rw [Nat.div_div_eq_div_mul, ← Nat.pow_add]
    congr 3
    omega
  · refine map_congr_left fun j inside => ?_
    dsimp only [Function.comp_apply]
    congr 3
    omega

end Cloudlibc.BlockHash
