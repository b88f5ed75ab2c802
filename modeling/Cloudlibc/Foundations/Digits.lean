import Mathlib

/-!
# Numerals

The numeral of a number in a base is the list of its digits, the most significant one first. There
is at least one digit, and the first one is not zero unless the number is (`numeral_head`). Reading
the digits from left to right gives the number back (`value_numeral`). In memory a number is the list
of its bytes (`leBytes`), which gives it back as well (`leValue_leBytes`).
-/

set_option autoImplicit false

namespace Cloudlibc.Digits

open List

/-- The numeral of a number. -/
def numeral (base n : ℕ) : List ℕ :=
  if n = 0 then [0] else (Nat.digits base n).reverse

/-- The number that digits stand for, when some have been read. -/
def value (base : ℕ) (start : ℕ) (digits : List ℕ) : ℕ :=
  digits.foldl (fun number digit => number * base + digit) start

variable {base n : ℕ}

theorem value_numeral (base n : ℕ) : value base 0 (numeral base n) = n := by
  rw [value, numeral]
  split_ifs with zero
  · simp [zero]
  · have read := Nat.ofDigits_digits base n
    rw [Nat.ofDigits_eq_foldr] at read
    rw [foldl_reverse]
    convert read using 4 with digit number
    rw [Nat.cast_id, Nat.mul_comm, Nat.add_comm]

theorem value_append (base start : ℕ) (digits digits' : List ℕ) :
    value base start (digits ++ digits') = value base (value base start digits) digits' := by
  rw [value, value, value, foldl_append]

/-- What has been read counts for more with each digit. -/
theorem value_eq_add (base start : ℕ) (digits : List ℕ) :
    value base start digits = start * base ^ digits.length + value base 0 digits := by
  induction digits generalizing start with
  | nil => simp [value]
  | cons digit digits ih =>
    have step : ∀ start, value base start (digit :: digits) =
        value base (start * base + digit) digits := fun _ => rfl
    rw [step, step, ih, ih (0 * base + digit), length_cons, pow_succ]
    ring

theorem value_lt {digits : List ℕ} (small : ∀ digit ∈ digits, digit < base) :
    value base 0 digits < base ^ digits.length := by
  induction digits using reverseRecOn with
  | nil => simp [value]
  | append_singleton digits digit ih =>
    have last := small digit (by simp)
    have front := ih fun digit member => small digit (mem_append_left _ member)
    rw [value_append, length_append, length_singleton, pow_succ]
    calc value base 0 digits * base + digit < value base 0 digits * base + base := by omega
      _ = (value base 0 digits + 1) * base := by ring
      _ ≤ base ^ digits.length * base := Nat.mul_le_mul_right base front

theorem numeral_lt (two : 1 < base) {digit : ℕ} (member : digit ∈ numeral base n) :
    digit < base := by
  rw [numeral] at member
  split_ifs at member with zero
  · rw [mem_singleton] at member
    omega
  · exact Nat.digits_lt_base two (mem_reverse.mp member)

theorem numeral_ne_nil (base n : ℕ) : numeral base n ≠ [] := by
  rw [numeral]
  split_ifs with zero
  · exact cons_ne_nil _ _
  · rw [Ne, reverse_eq_nil_iff]
    exact Nat.digits_ne_nil_iff_ne_zero.mpr zero

/-- The last digit of a numeral. -/
theorem numeral_eq_append (two : 1 < base) (n : ℕ) :
    numeral base n = (if n / base > 0 then numeral base (n / base) else []) ++ [n % base] := by
  by_cases zero : n = 0
  · subst zero
    simp [numeral]
  · rw [numeral, if_neg zero, Nat.digits_def' two (Nat.pos_of_ne_zero zero), reverse_cons]
    split_ifs with more
    · rw [numeral, if_neg more.ne']
    · rw [Nat.eq_zero_of_not_pos more, Nat.digits_zero, reverse_nil]

/-- A numeral does not start with zero. -/
theorem numeral_head {digit : ℕ} {digits : List ℕ} (positive : n ≠ 0)
    (split : numeral base n = digit :: digits) : digit ≠ 0 := by
  rw [numeral, if_neg positive] at split
  have last := Nat.getLast_digit_ne_zero base positive
  have same : (Nat.digits base n) = digits.reverse ++ [digit] := by
    rw [← reverse_reverse (Nat.digits base n), split, reverse_cons]
  simp only [same, getLast_append_singleton] at last
  exact last

/-- The length of a numeral. -/
theorem numeral_length_le (two : 1 < base) {k : ℕ} (positive : 0 < k) (small : n < base ^ k) :
    (numeral base n).length ≤ k := by
  rw [numeral]
  split_ifs with zero
  · exact positive
  · rw [length_reverse]
    exact (Nat.digits_length_le_iff two n).mpr small

/-! ## Little endian numbers -/

/-- The bytes of a number, the least significant one first. -/
def leBytes : (width : ℕ) → (n : ℕ) → List UInt8
  | 0, _ => []
  | width + 1, n => .ofNat n :: leBytes width (n / 256)

/-- The number of bytes, the least significant one first. -/
def leValue : List UInt8 → ℕ
  | [] => 0
  | b :: bytes => b.toNat + 256 * leValue bytes

theorem leValue_lt (bytes : List UInt8) : leValue bytes < 256 ^ bytes.length := by
  induction bytes with
  | nil => simp [leValue]
  | cons b bytes ih =>
    have small := b.toNat_lt
    rw [leValue, length_cons, pow_succ]
    omega

theorem length_leBytes (width : ℕ) : ∀ n, (leBytes width n).length = width := by
  induction width with
  | zero => exact fun _ => rfl
  | succ width ih => exact fun n => congrArg Nat.succ (ih (n / 256))

/-- A number that fits is read back. -/
theorem leValue_leBytes (width : ℕ) : ∀ {n : ℕ}, n < 256 ^ width → leValue (leBytes width n) = n := by
  induction width with
  | zero =>
    intro n small
    rw [leBytes, leValue]
    omega
  | succ width ih =>
    intro n small
    have rest : n / 256 < 256 ^ width := by
      rw [Nat.div_lt_iff_lt_mul (by decide), ← Nat.pow_succ]
      exact small
    rw [leBytes, leValue, ih rest, UInt8.toNat_ofNat']
    omega

end Cloudlibc.Digits
