import Cloudlibc.Foundations.Digits

/-!
# Rounding of decimal digits

The function `__f10dec()` of `libc/float10`. The converter delivers the shortest digits of a number
and the position of its radix character, and these digits are taken as the exact value. The function
drops the digits that are not asked for and rounds the others. A computation that does not fit its
type makes the model fail.

What is returned is never more than what the precision asks for (`f10dec_spec`).
-/

set_option autoImplicit false

namespace Cloudlibc.Float10

open Cloudlibc.Digits List

/-- The rounding modes of `<fenv.h>`. -/
inductive RoundingMode
  | toNearest
  | upward
  | downward
  | towardZero
  deriving DecidableEq, Repr

/-- The rounding mode for the absolute value of a number. -/
def RoundingMode.magnitude (round : RoundingMode) (negative : Bool) : RoundingMode :=
  if negative then
    match round with
    | .upward => .downward
    | .downward => .upward
    | round => round
  else
    round

/-- What `DoubleToAscii()` delivers for the absolute value of a finite number of type `double`: the
shortest digits, and how many of them are in front of the radix character. -/
structure Shortest where
  digits : List ℕ
  exponent : ℤ
  digits_lt : ∀ digit ∈ digits, digit < 10
  length_le : digits.length ≤ 17
  exponent_ge : -323 ≤ exponent
  exponent_le : exponent ≤ 309
  deriving DecidableEq

/-- The digits without zeroes at the end. -/
def trim (digits : List ℕ) : List ℕ := digits.rdropWhile (· = 0)

theorem take_lt {digits : List ℕ} (small : ∀ digit ∈ digits, digit < 10) (n : ℕ) :
    ∀ digit ∈ digits.take n, digit < 10 := fun digit member => small digit (mem_of_mem_take member)

/-- What is trimmed are zeroes. -/
theorem exists_trim_append (digits : List ℕ) :
    ∃ zeros, (∀ digit ∈ zeros, digit = 0) ∧ trim digits ++ zeros = digits :=
  ⟨_, fun digit member => by simpa using mem_rtakeWhile_imp member, rdropWhile_append_rtakeWhile⟩

theorem trim_length_le (value : Shortest) : (trim value.digits).length ≤ 17 :=
  (List.IsPrefix.length_le ( rdropWhile_prefix _ _)).trans value.length_le

theorem trim_lt (value : Shortest) : ∀ digit ∈ trim value.digits, digit < 10 :=
  fun digit member => value.digits_lt digit (( rdropWhile_prefix _ _).subset member)

/-- The loop that adds one to the last digit, on the digits from the right to the left. A nine is
dropped. -/
def carry : List ℕ → Option (List ℕ)
  | [] => none
  | digit :: rest => if digit + 1 ≤ 9 then some ((digit + 1) :: rest) else carry rest

/-- The digits and the exponent of a number that is rounded up. -/
def roundUp (digits : List ℕ) (exponent : ℤ) : List ℕ × ℤ :=
  match carry digits.reverse with
  | none => ([1], exponent + 1)
  | some reversed => (reversed.reverse, exponent)

/-- `INT_MAX`. -/
def intMax : ℕ := 2 ^ 31 - 1

/-- The digits are rounded up when some of them are dropped. -/
def roundsUp (round : RoundingMode) (buffer : List ℕ) (ndigits : ℕ) : Bool :=
  (round == .upward && ndigits < buffer.length) ||
    (round == .toNearest && 5 ≤ buffer.getD ndigits 0)

/-- The digits that are kept. -/
def keepDigits (round : RoundingMode) (buffer : List ℕ) (exponent : ℤ) (ndigits : ℕ) :
    List ℕ × ℤ :=
  if roundsUp round buffer ndigits then roundUp (buffer.take ndigits) exponent
  else (buffer.take ndigits, exponent)

/-- `__f10dec()`, where `ndigits` is the number of digits that there is room for. -/
def f10dec (negative : Bool) (value : Shortest) (precision ndigits : ℕ) (round : RoundingMode) :
    Option (List ℕ × ℤ) :=
  let buffer := trim value.digits
  let exponent := value.exponent
  if buffer = [] then
    some ([], 1)
  else
    let ndigits := min ndigits buffer.length
    let round := round.magnitude negative
    if ndigits = 0 then
      none
    else if precision ≤ intMax then
      if (intMax : ℤ) < precision + exponent then
        none
      else if precision + exponent ≤ 0 then
        if round = .upward ∨
            round = .toNearest ∧ precision + exponent = 0 ∧ 5 ≤ buffer.getD 0 0 then
          some ([1], 1 - precision)
        else
          some ([], 1)
      else
        some (keepDigits round buffer exponent
          (if (ndigits : ℤ) - exponent > precision then (precision + exponent).toNat else ndigits))
    else
      some (keepDigits round buffer exponent ndigits)

/-- `DECIMAL_DIG`. -/
def decimalDig : ℕ := 21

/-- The digit at an index of a number, which is zero outside the array. -/
def indexedDigit (digits : List ℕ) (idx : ℤ) : ℕ := if 0 ≤ idx then digits.getD idx.toNat 0 else 0

theorem indexedDigit_lt {digits : List ℕ} (small : ∀ digit ∈ digits, digit < 10) (idx : ℤ) :
    indexedDigit digits idx < 10 := by
  rw [indexedDigit]
  split_ifs
  · rw [getD_eq_getElem?_getD]
    cases found : digits[idx.toNat]? with
    | none => decide
    | some digit => exact small digit (mem_of_getElem? found)
  · decide

/-! ## The number of digits -/

theorem length_carry_le (digits : List ℕ) :
    ∀ reversed ∈ carry digits, reversed.length ≤ digits.length ∧
      ((∀ digit ∈ digits, digit < 10) → ∀ digit ∈ reversed, digit < 10) := by
  induction digits with
  | nil => simp [carry]
  | cons digit rest ih =>
    intro reversed carried
    rw [carry] at carried
    split_ifs at carried with fits
    · obtain rfl := Option.some.inj carried
      refine ⟨le_rfl, fun small => ?_⟩
      obtain ⟨-, others⟩ := forall_mem_cons.mp small
      exact forall_mem_cons.mpr ⟨by omega, others⟩
    · obtain ⟨shorter, kept⟩ := ih reversed carried
      refine ⟨by rw [length_cons]; omega, fun small => kept ?_⟩
      exact (forall_mem_cons.mp small).2

/-- What is kept of some digits. -/
theorem keepDigits_spec (round : RoundingMode) {buffer : List ℕ} (exponent : ℤ) (ndigits : ℕ)
    (small : ∀ digit ∈ buffer, digit < 10) :
    (∀ digit ∈ (keepDigits round buffer exponent ndigits).1, digit < 10) ∧
      ((keepDigits round buffer exponent ndigits).1.length : ℤ) -
        (keepDigits round buffer exponent ndigits).2 ≤ ndigits - exponent ∧
      exponent ≤ (keepDigits round buffer exponent ndigits).2 ∧
      (keepDigits round buffer exponent ndigits).2 ≤ exponent + 1 := by
  have front := take_lt small ndigits
  have length := length_take_le ndigits buffer
  rw [keepDigits]
  split_ifs
  · rw [roundUp]
    cases carried : carry (buffer.take ndigits).reverse with
    | none =>
      refine ⟨by simp, ?_, by dsimp only; omega, le_rfl⟩
      dsimp only [length_singleton]
      omega
    | some reversed =>
      obtain ⟨shorter, kept⟩ := length_carry_le _ reversed carried
      rw [length_reverse] at shorter
      refine ⟨?_, ?_, le_rfl, by dsimp only; omega⟩
      · simpa using kept (by simpa using front)
      · dsimp only
        rw [length_reverse]
        omega
  · exact ⟨front, by dsimp only; omega, le_rfl, by dsimp only; omega⟩

/-- **The digits that are returned do not go beyond the precision.** The function is defined unless
the precision and the exponent exceed the type `int`. -/
theorem f10dec_spec (negative : Bool) (value : Shortest) (precision : ℕ) {ndigits : ℕ}
    (room : 0 < ndigits) (round : RoundingMode)
    (defined : precision ≤ intMax → precision + value.exponent ≤ intMax) :
    ∃ digits exponent, f10dec negative value precision ndigits round = some (digits, exponent) ∧
      (∀ digit ∈ digits, digit < 10) ∧ (digits.length : ℤ) ≤ exponent + precision ∧
      exponent ≤ 310 := by
  have high := value.exponent_le
  have low := value.exponent_ge
  have few := trim_length_le value
  have small := trim_lt value
  rw [f10dec]
  generalize trim value.digits = buffer at few small
  by_cases zero : buffer = []
  · rw [if_pos zero]
    exact ⟨[], 1, rfl, by simp, by dsimp only [length_nil]; omega, by omega⟩
  · have written := length_pos_iff.mpr zero
    rw [if_neg zero, if_neg (by omega)]
    generalize isRound : round.magnitude negative = round'
    by_cases limited : precision ≤ intMax
    · rw [if_pos limited, if_neg (by omega)]
      by_cases tiny : precision + value.exponent ≤ 0
      · split_ifs
        · exact ⟨[1], 1 - precision, rfl, by simp, by dsimp only [length_singleton]; omega,
            by omega⟩
        · exact ⟨[], 1, rfl, by simp, by dsimp only [length_nil]; omega, by omega⟩
      · rw [if_neg tiny]
        generalize isCount : (if ((min ndigits buffer.length : ℕ) : ℤ) - value.exponent > precision
          then (precision + value.exponent).toNat else min ndigits buffer.length) = count
        have counted : (count : ℤ) - value.exponent ≤ precision := by
          rw [← isCount]
          split_ifs <;> omega
        have spec := keepDigits_spec round' value.exponent count small
        generalize keepDigits round' buffer value.exponent count = kept at spec ⊢
        obtain ⟨digits, exponent⟩ := kept
        obtain ⟨small', length, -, bound⟩ := spec
        exact ⟨digits, exponent, rfl, small', by dsimp only at length; omega,
          by dsimp only at bound; omega⟩
    · rw [if_neg limited]
      have limit : intMax = 2147483647 := rfl
      have spec := keepDigits_spec round' value.exponent (min ndigits buffer.length) small
      generalize keepDigits round' buffer value.exponent (min ndigits buffer.length) = kept at spec ⊢
      obtain ⟨digits, exponent⟩ := kept
      obtain ⟨small', length, low', bound⟩ := spec
      dsimp only at small' length low' bound
      exact ⟨digits, exponent, rfl, small', by omega, by omega⟩

end Cloudlibc.Float10
