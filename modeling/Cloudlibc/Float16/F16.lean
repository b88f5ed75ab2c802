import Cloudlibc.Float10.F10dec

/-!
# Hexadecimal floating-point numbers

The functions of `common/float16.h`. The significand `parts`, which consists of two words, is one
number of 128 bits; the bits are numbered from the most significant one on. A number of type
`double` is converted to `long double`, which has a significand of 64 bits, before its digits are
taken.

The digits of a number give its significand back when they are pushed into an encoder
(`pushXdigits_f16dec`).
-/

set_option autoImplicit false

namespace Cloudlibc.Float16

open Cloudlibc.Digits Cloudlibc.Float10 List

/-! ## Significands -/

/-- `f16_has_trailing_bits()`. -/
def f16HasTrailingBits (parts amount : ℕ) : Bool := parts % 2 ^ amount ≠ 0

/-- `f16_shift_left()`. -/
def f16ShiftLeft (parts amount : ℕ) : ℕ := parts * 2 ^ amount % 2 ^ 128

/-- `f16_shift_right()`. -/
def f16ShiftRight (parts amount : ℕ) : ℕ :=
  parts / 2 ^ amount ||| if f16HasTrailingBits parts amount then 1 else 0

/-- `f16_apply_rounding()`: the significand and the exponent. A carry out of the significand leaves
the second word as it is. -/
def f16ApplyRounding (parts : ℕ) (exponent : ℤ) (round : RoundingMode) (mantDig : ℕ) : ℕ × ℤ :=
  if round = .toNearest ∧ parts.testBit (127 - mantDig) ∨
      round = .upward ∧ f16HasTrailingBits parts (128 - mantDig) then
    let sum := parts + 2 ^ (128 - mantDig)
    if sum < 2 ^ 128 then (sum, exponent) else (2 ^ 127 + sum % 2 ^ 64, exponent + 1)
  else
    (parts, exponent)

/-! ## Encoding -/

/-- `struct f16enc`. -/
structure F16enc where
  parts : ℕ
  bits : ℕ
  deriving DecidableEq

/-- `f16enc_init()`. -/
def f16encInit : F16enc := ⟨0, 0⟩

/-- `f16enc_push_xdigit()`. The first digit is shifted until its highest bit is the first one. -/
def f16encPushXdigit (f16 : F16enc) (xdigit : ℕ) : F16enc :=
  if f16.bits = 0 then
    if xdigit = 0 then
      f16
    else
      let shift := 3 - xdigit.log2
      ⟨f16.parts ||| xdigit <<< (124 + shift), 4 - shift⟩
  else if f16.bits ≥ 128 - 4 then
    ⟨f16.parts ||| xdigit, f16.bits + 4⟩
  else
    ⟨f16.parts ||| xdigit <<< (124 - f16.bits), f16.bits + 4⟩

/-- The encoder after some digits. -/
def f16encPushXdigits (xdigits : List ℕ) : F16enc := xdigits.foldl f16encPushXdigit f16encInit

/-- `f16enc_get_bin32()` and `f16enc_get_bin64()`, for a format with `expDig` bits for the exponent
and `mantDig` bits of precision: the bits of the number, and whether there is a range error. -/
def f16encGetBin (expDig mantDig : ℕ) (f16 : F16enc) (exponent : ℤ) (round : RoundingMode) :
    ℕ × Bool :=
  let maxExp : ℤ := 2 ^ expDig - 2
  let infinity := (2 ^ expDig - 1) <<< (mantDig - 1)
  if f16.parts / 2 ^ 64 = 0 then
    (0, false)
  else
    let exponent := exponent + f16.bits + 2 ^ (expDig - 1) - 2
    if exponent > maxExp then
      (infinity, true)
    else if exponent ≤ 0 ∧ exponent ≤ 1 - mantDig then
      (0, true)
    else
      let parts := if exponent ≤ 0 then f16ShiftRight f16.parts (1 - exponent).toNat else f16.parts
      let (parts, exponent) :=
        f16ApplyRounding parts (if exponent ≤ 0 then 1 else exponent) round mantDig
      if exponent > maxExp then
        (infinity, true)
      else
        let exponent := if exponent = 1 ∧ ¬parts.testBit 127 then 0 else exponent
        (exponent.toNat <<< (mantDig - 1) |||
          ((parts / 2 ^ 64) <<< 1 % 2 ^ 64) >>> (1 + 64 - mantDig), false)

/-! ## Decoding -/

/-- The absolute value of a finite number of type `long double`: the significand and the biased
exponent. -/
structure LongDouble where
  significand : ℕ
  exponent : ℕ

/-- The loop of `f16dec()` that stores the digits. -/
def f16decDigits : (ndigits : ℕ) → (parts : ℕ) → List ℕ
  | 0, _ => []
  | ndigits + 1, parts =>
    if parts = 0 then [] else parts / 2 ^ 124 :: f16decDigits ndigits (f16ShiftLeft parts 4)

/-- `f16dec()` for a number that is not zero: the digits and the exponent. -/
def f16dec (negative : Bool) (f : LongDouble) (ndigits : ℕ) (round : RoundingMode) :
    List ℕ × ℤ :=
  let parts := f.significand * 2 ^ 64
  let (parts, exponent) : ℕ × ℤ :=
    if f.exponent = 0 then
      -- The loop that shifts a subnormal number until its highest bit is the first one.
      let shift := 127 - parts.log2
      (f16ShiftLeft parts shift, -16382 - shift)
    else
      (parts ||| 2 ^ 127, f.exponent - 16383)
  let nbits := ndigits * 4 + 1
  let (parts, exponent) :=
    if nbits < 128 then f16ApplyRounding parts exponent (round.magnitude negative) nbits
    else (parts, exponent)
  (f16decDigits ndigits (f16ShiftLeft parts 1), exponent)

/-! ## Exact conversions -/

/-- Nothing is rounded if there is nothing behind the last bit. -/
theorem f16ApplyRounding_exact {parts mantDig : ℕ} (few : mantDig < 128)
    (exact' : 2 ^ (128 - mantDig) ∣ parts) (exponent : ℤ) (round : RoundingMode) :
    f16ApplyRounding parts exponent round mantDig = (parts, exponent) := by
  have trailing : f16HasTrailingBits parts (128 - mantDig) = false := by
    simp [f16HasTrailingBits, Nat.mod_eq_zero_of_dvd exact']
  have top : parts.testBit (127 - mantDig) = false := by
    obtain ⟨n, rfl⟩ := exact'
    rw [Nat.testBit_two_pow_mul, decide_eq_false (by omega), Bool.false_and]
  rw [f16ApplyRounding, if_neg (by simp [trailing, top])]

theorem f16ShiftRight_exact {parts amount : ℕ} (exact' : 2 ^ amount ∣ parts) :
    f16ShiftRight parts amount = parts / 2 ^ amount := by
  simp [f16ShiftRight, f16HasTrailingBits, Nat.mod_eq_zero_of_dvd exact']

/-- The digits stand for the significand, and there are no more of them than it has. -/
theorem f16decDigits_spec (ndigits : ℕ) : ∀ {parts count : ℕ}, parts < 2 ^ 128 → count ≤ 32 →
    count ≤ ndigits → 2 ^ (128 - 4 * count) ∣ parts →
    let digits := f16decDigits ndigits parts
    digits.length ≤ count ∧ (∀ digit ∈ digits, digit < 16) ∧
      value 16 0 digits * 2 ^ (128 - 4 * digits.length) = parts := by
  induction ndigits with
  | zero =>
    intro parts count small _ room exact'
    obtain rfl : count = 0 := by omega
    obtain rfl := Nat.eq_zero_of_dvd_of_lt exact' small
    exact ⟨le_rfl, forall_mem_nil _, rfl⟩
  | succ ndigits ih =>
    intro parts count small many room exact'
    rw [f16decDigits]
    split_ifs with zero
    · subst zero
      exact ⟨Nat.zero_le _, forall_mem_nil _, rfl⟩
    · obtain ⟨count, rfl⟩ : ∃ count', count = count' + 1 := by
        refine Nat.exists_eq_add_one.mpr (Nat.pos_of_ne_zero ?_)
        rintro rfl
        exact zero (Nat.eq_zero_of_dvd_of_lt exact' small)
      have rest : f16ShiftLeft parts 4 = parts % 2 ^ 124 * 16 := by
        rw [f16ShiftLeft]
        omega
      have exactRest : 2 ^ (128 - 4 * count) ∣ f16ShiftLeft parts 4 := by
        have split : 128 - 4 * count = 128 - 4 * (count + 1) + 4 := by omega
        have inside : 2 ^ (128 - 4 * (count + 1)) ∣ 2 ^ 124 := pow_dvd_pow 2 (by omega)
        rw [rest, split, pow_add]
        exact Nat.mul_dvd_mul ((Nat.dvd_mod_iff inside).mpr exact') (dvd_refl _)
      have smallRest : f16ShiftLeft parts 4 < 2 ^ 128 := Nat.mod_lt _ (by positivity)
      obtain ⟨length, digits_lt, sum⟩ := ih smallRest (by omega) (by omega) exactRest
      generalize f16decDigits ndigits (f16ShiftLeft parts 4) = digits at length digits_lt sum ⊢
      refine ⟨Nat.succ_le_succ length, forall_mem_cons.mpr ⟨by omega, digits_lt⟩, ?_⟩
      have first : value 16 0 (parts / 2 ^ 124 :: digits) =
          parts / 2 ^ 124 * 16 ^ digits.length + value 16 0 digits := by
        have step : value 16 0 (parts / 2 ^ 124 :: digits) =
            value 16 (0 * 16 + parts / 2 ^ 124) digits := rfl
        rw [step, value_eq_add, Nat.zero_mul, Nat.zero_add]
      have width : 16 ^ digits.length * 2 ^ (128 - 4 * (digits.length + 1)) = 2 ^ 124 := by
        rw [show (16 : ℕ) = 2 ^ 4 from rfl, ← pow_mul, ← pow_add]
        congr 1
        omega
      have shorter : 2 ^ (128 - 4 * digits.length) = 2 ^ (128 - 4 * (digits.length + 1)) * 16 := by
        rw [show (16 : ℕ) = 2 ^ 4 from rfl, ← pow_add]
        congr 1
        omega
      rw [rest, shorter, ← mul_assoc] at sum
      have sum' := Nat.eq_of_mul_eq_mul_right (by decide) sum
      rw [length_cons, first, add_mul, mul_assoc, width, sum']
      exact Nat.div_add_mod' parts (2 ^ 124)

theorem f16encPushXdigit_step {n k digit : ℕ} (room : k ≤ 30) (small : digit < 16) :
    f16encPushXdigit ⟨n * 2 ^ (127 - 4 * k), 1 + 4 * k⟩ digit =
      ⟨(n * 16 + digit) * 2 ^ (127 - 4 * (k + 1)), 1 + 4 * (k + 1)⟩ := by
  have shift : 127 - 4 * k = 127 - 4 * (k + 1) + 4 := by omega
  have place : 124 - (1 + 4 * k) = 127 - 4 * (k + 1) := by omega
  have below : digit <<< (127 - 4 * (k + 1)) < 2 ^ (127 - 4 * k) := by
    rw [Nat.shiftLeft_eq, shift, pow_add, Nat.mul_comm]
    exact Nat.mul_lt_mul_of_pos_left small (by positivity)
  rw [f16encPushXdigit, if_neg (by dsimp only; omega), if_neg (by dsimp only; omega)]
  rw [place, ← Nat.shiftLeft_eq, ← Nat.shiftLeft_add_eq_or_of_lt below, Nat.shiftLeft_eq,
    Nat.shiftLeft_eq, shift, pow_add]
  ring

theorem foldl_f16encPushXdigit {digits : List ℕ} (small : ∀ digit ∈ digits, digit < 16) :
    ∀ {n k : ℕ}, k + digits.length ≤ 31 →
      digits.foldl f16encPushXdigit ⟨n * 2 ^ (127 - 4 * k), 1 + 4 * k⟩ =
        ⟨value 16 n digits * 2 ^ (127 - 4 * (k + digits.length)), 1 + 4 * (k + digits.length)⟩ := by
  induction digits with
  | nil => exact fun _ => rfl
  | cons digit digits ih =>
    intro n k room
    obtain ⟨first, others⟩ := forall_mem_cons.mp small
    rw [length_cons] at room
    rw [foldl_cons, f16encPushXdigit_step (by omega) first, ih others (by omega)]
    have length : k + 1 + digits.length = k + (digit :: digits).length := by
      rw [length_cons]
      omega
    rw [length]
    rfl

/-- **The digits of a number give its significand back.** -/
theorem pushXdigits_f16dec {f : LongDouble} (normal : f.exponent ≠ 0)
    (first : 2 ^ 63 ≤ f.significand) (small : f.significand < 2 ^ 64) (negative : Bool)
    (round : RoundingMode) :
    ∃ digits, f16dec negative f decimalDig round = (digits, (f.exponent : ℤ) - 16383) ∧
      digits.length ≤ 16 ∧ (∀ digit ∈ digits, digit < 16) ∧
      f16encPushXdigits (1 :: digits) = ⟨f.significand * 2 ^ 64, 1 + 4 * digits.length⟩ := by
  obtain ⟨fraction, split⟩ := Nat.exists_eq_add_of_le first
  have fraction_lt : fraction < 2 ^ 63 := by omega
  have inside : fraction * 2 ^ 65 < 2 ^ 63 * 2 ^ 65 :=
    Nat.mul_lt_mul_of_pos_right fraction_lt (by positivity)
  rw [← pow_add] at inside
  have parts : f.significand * 2 ^ 64 = 2 ^ 127 * 1 + fraction * 2 ^ 64 := by
    rw [split]
    ring
  have below : fraction * 2 ^ 64 < 2 ^ 63 * 2 ^ 64 :=
    Nat.mul_lt_mul_of_pos_right fraction_lt (by positivity)
  rw [← pow_add] at below
  have already : f.significand * 2 ^ 64 ||| 2 ^ 127 = f.significand * 2 ^ 64 := by
    rw [parts, Nat.two_pow_add_eq_or_of_lt below, mul_one, Nat.or_assoc,
      Nat.or_comm (fraction * 2 ^ 64), ← Nat.or_assoc, Nat.or_self]
  have multiple : 2 ^ (128 - (decimalDig * 4 + 1)) ∣ f.significand * 2 ^ 64 :=
    (pow_dvd_pow 2 (by simp [decimalDig])).mul_left _
  have shifted : f16ShiftLeft (f.significand * 2 ^ 64) 1 = fraction * 2 ^ 65 := by
    rw [f16ShiftLeft]
    omega
  obtain ⟨length, digits_lt, sum⟩ := f16decDigits_spec decimalDig inside
    (show 16 ≤ 32 by decide) (by decide) ((pow_dvd_pow 2 (by decide)).mul_left _)
  refine ⟨f16decDigits decimalDig (fraction * 2 ^ 65), ?_, length, digits_lt, ?_⟩
  · rw [f16dec, if_neg normal]
    dsimp only
    rw [if_pos (by decide), already, f16ApplyRounding_exact (by decide) multiple, shifted]
  · generalize f16decDigits decimalDig (fraction * 2 ^ 65) = digits at length digits_lt sum ⊢
    have start : f16encPushXdigit f16encInit 1 = ⟨1 * 2 ^ (127 - 4 * 0), 1 + 4 * 0⟩ := by decide
    rw [f16encPushXdigits, foldl_cons, start, foldl_f16encPushXdigit digits_lt (by omega),
      Nat.zero_add, value_eq_add, add_mul, parts]
    have width : 1 * 16 ^ digits.length * 2 ^ (127 - 4 * digits.length) = 2 ^ 127 * 1 := by
      rw [show (16 : ℕ) = 2 ^ 4 from rfl, ← pow_mul, one_mul, ← pow_add, mul_one]
      congr 1
      omega
    have half : 2 ^ (128 - 4 * digits.length) = 2 ^ (127 - 4 * digits.length) * 2 := by
      rw [← pow_succ]
      congr 1
      omega
    rw [half, ← mul_assoc] at sum
    rw [width]
    congr 2
    omega

/-! ## Numbers of type `double` -/

/-- A finite number of type `double`. -/
structure Double where
  negative : Bool
  exponent : ℕ
  fraction : ℕ
  exponent_lt : exponent < 2047
  fraction_lt : fraction < 2 ^ 52

namespace Double

variable (x : Double)

/-- The bits without the sign. -/
def magnitudeBits : ℕ := x.exponent * 2 ^ 52 + x.fraction

/-- The bits. -/
def bits : ℕ := (if x.negative then 2 ^ 63 else 0) + x.magnitudeBits

/-- The absolute value as a number of type `long double`. A subnormal number becomes a normal one. -/
def toLongDouble : LongDouble :=
  if x.exponent ≠ 0 then ⟨2 ^ 63 + x.fraction * 2 ^ 11, x.exponent + (16383 - 1023)⟩
  else if x.fraction = 0 then ⟨0, 0⟩
  else ⟨x.fraction * 2 ^ (63 - x.fraction.log2), x.fraction.log2 + (16383 - 1074)⟩

theorem toLongDouble_exponent_lt : x.toLongDouble.exponent < 2 ^ 15 := by
  have exponent_lt := x.exponent_lt
  rw [toLongDouble]
  split_ifs with normal zero
  · dsimp only
    omega
  · decide
  · have less : x.fraction.log2 < 52 := (Nat.log2_lt zero).mpr x.fraction_lt
    dsimp only
    omega

variable {x}

theorem toLongDouble_normal (nonzero : x.magnitudeBits ≠ 0) :
    x.toLongDouble.exponent ≠ 0 ∧ 2 ^ 63 ≤ x.toLongDouble.significand ∧
      x.toLongDouble.significand < 2 ^ 64 := by
  have fraction_lt := x.fraction_lt
  rw [toLongDouble]
  split_ifs with normal zero
  · refine ⟨?_, ?_, ?_⟩ <;> dsimp only <;> omega
  · exact absurd (by simp [magnitudeBits, zero, not_not.mp normal]) nonzero
  · have low := Nat.log2_self_le zero
    have high := Nat.lt_log2_self (n := x.fraction)
    have less : x.fraction.log2 < 52 := (Nat.log2_lt zero).mpr fraction_lt
    have width : 2 ^ x.fraction.log2 * 2 ^ (63 - x.fraction.log2) = 2 ^ 63 := by
      rw [← pow_add]
      congr 1
      omega
    refine ⟨by dsimp only; omega, ?_, ?_⟩
    · rw [← width]
      exact Nat.mul_le_mul_right _ low
    · calc x.fraction * 2 ^ (63 - x.fraction.log2)
          < 2 ^ (x.fraction.log2 + 1) * 2 ^ (63 - x.fraction.log2) :=
            Nat.mul_lt_mul_of_pos_right high (by positivity)
        _ = 2 ^ 64 := by rw [pow_succ, mul_right_comm, width, ← pow_succ]

/-- The bits behind the first one of a significand of 53 bits. -/
theorem significand_bits (n : ℕ) :
    ((n * 2 ^ 75 / 2 ^ 64) <<< 1 % 2 ^ 64) >>> (1 + 64 - 53) = n % 2 ^ 52 := by
  omega

theorem testBit_significand {n : ℕ} (small : n < 2 ^ 53) :
    (n * 2 ^ 75).testBit 127 = decide (2 ^ 52 ≤ n) := by
  rw [Nat.testBit_eq_decide_div_mod_eq]
  congr 1
  rw [eq_iff_iff]
  omega

/-- **The significand of a number is encoded as its bits**, for any number of digits. -/
theorem f16encGetBin_toLongDouble (nonzero : x.magnitudeBits ≠ 0) (count : ℕ)
    (round : RoundingMode) :
    f16encGetBin 11 53 ⟨x.toLongDouble.significand * 2 ^ 64, 1 + 4 * count⟩
      (-4 * count + ((x.toLongDouble.exponent : ℤ) - 16383)) round = (x.magnitudeBits, false) := by
  obtain ⟨-, first, last⟩ := toLongDouble_normal nonzero
  have exponent_lt := x.exponent_lt
  have fraction_lt := x.fraction_lt
  have some' : x.toLongDouble.significand * 2 ^ 64 / 2 ^ 64 ≠ 0 := by omega
  have unrounded : ∀ (n : ℕ) (exponent : ℤ),
      f16ApplyRounding (n * 2 ^ 75) exponent round 53 = (n * 2 ^ 75, exponent) := fun n exponent =>
    @f16ApplyRounding_exact _ 53 (by decide) (Nat.dvd_mul_left _ _) exponent round
  rw [f16encGetBin, if_neg some']
  dsimp only
  by_cases normal : x.exponent ≠ 0
  · have parts : x.toLongDouble.significand * 2 ^ 64 = (2 ^ 52 + x.fraction) * 2 ^ 75 := by
      rw [toLongDouble, if_pos normal]
      ring
    have exponent : -4 * (count : ℤ) + ((x.toLongDouble.exponent : ℤ) - 16383) +
        ((1 + 4 * count : ℕ) : ℤ) + 2 ^ (11 - 1) - 2 = x.exponent := by
      rw [toLongDouble, if_pos normal]
      push_cast
      omega
    have positive : ¬(x.exponent : ℤ) ≤ 0 := by omega
    rw [exponent, if_neg (by omega), if_neg (by omega)]
    simp only [if_neg positive]
    rw [parts, unrounded]
    dsimp only
    rw [if_neg (by omega), testBit_significand (by omega), if_neg (by simp), Int.toNat_natCast,
      significand_bits, Nat.add_mod_left, Nat.mod_eq_of_lt fraction_lt,
      ← Nat.shiftLeft_add_eq_or_of_lt fraction_lt, Nat.shiftLeft_eq]
    rfl
  · rw [not_not] at normal
    have zero : x.fraction ≠ 0 := fun zero => nonzero (by simp [magnitudeBits, zero, normal])
    have less : x.fraction.log2 < 52 := (Nat.log2_lt zero).mpr fraction_lt
    have exponent : -4 * (count : ℤ) + ((x.toLongDouble.exponent : ℤ) - 16383) +
        ((1 + 4 * count : ℕ) : ℤ) + 2 ^ (11 - 1) - 2 = x.fraction.log2 - 51 := by
      rw [toLongDouble, if_neg (not_not.mpr normal), if_neg zero]
      push_cast
      omega
    have parts : x.toLongDouble.significand * 2 ^ 64 =
        x.fraction * 2 ^ 75 * 2 ^ (1 - ((x.fraction.log2 : ℤ) - 51)).toNat := by
      rw [toLongDouble, if_neg (not_not.mpr normal), if_neg zero]
      dsimp only
      rw [mul_assoc, mul_assoc, ← pow_add, ← pow_add]
      congr 2
      omega
    have subnormal : (x.fraction.log2 : ℤ) - 51 ≤ 0 := by omega
    rw [exponent, if_neg (by omega), if_neg (by omega)]
    simp only [if_pos subnormal]
    rw [parts, f16ShiftRight_exact (Nat.dvd_mul_left _ _), Nat.mul_div_cancel _ (by positivity),
      unrounded]
    dsimp only
    rw [if_neg (by decide), testBit_significand (by omega), if_pos (by simp; omega),
      significand_bits, Nat.mod_eq_of_lt fraction_lt, magnitudeBits, normal]
    simp

end Double

end Cloudlibc.Float16
