import Cloudlibc.Foundations.Digits
import Cloudlibc.Stdio.ScanDirectives

/-!
# Conversion of strings to integers

The functions that `common/strtoint.h` defines: `strtol()`, `strtoul()` and their relatives.
-/

set_option autoImplicit false

namespace Cloudlibc.Stdlib

open Cloudlibc.Digits Cloudlibc.Locale Cloudlibc.Stdio List

/-- What a conversion returns, with the string behind `*endptr` and the error number. -/
structure StrtointResult where
  number : ℤ
  endptr : List UInt8
  errno : Option Errno
  deriving DecidableEq, Repr

/-- The function of `common/strtoint.h`, for a type with the range from `min` to `max`. -/
def strtoint (ctype : LcCtype) (isSigned : Bool) (min max : ℤ) (str : List UInt8) (base : ℕ) :
    Option StrtointResult := do
  let s := str.drop (← skipWhitespace ctype str)
  let result := parserStrtoint isSigned min max true base s
  return {
    number := result.number
    endptr := if result.haveNumber then s.drop result.skipped else str
    errno :=
      if result.haveNumber = false then some .EINVAL
      else if result.haveOverflow then some .ERANGE
      else none }

/-- `strtoul()`, which uses the POSIX locale. -/
def strtoul (str : List UInt8) (base : ℕ) : Option StrtointResult :=
  strtoint ctypeUsAscii false 0 (2 ^ 64 - 1) str base

/-! ## Numerals -/

/-- The character of a decimal digit. -/
def decimalByte (digit : ℕ) : UInt8 := .ofNat (digit + 0x30)

theorem toNat_decimalByte {digit : ℕ} (small : digit < 10) :
    (decimalByte digit).toNat = digit + 0x30 := by
  rw [decimalByte, UInt8.toNat_ofNat']
  omega

theorem digitValue_decimalByte {digit : ℕ} (small : digit < 10) :
    digitValue (decimalByte digit) = some digit := by
  rw [digitValue, toNat_decimalByte small, if_pos (by omega), Nat.add_sub_cancel]

/-- The text does not go on with a digit of the radix. -/
def NoDigit (radix : ℕ) (s : List UInt8) : Prop :=
  ∀ b ∈ s.head?, ∀ digit ∈ digitValue b, radix ≤ digit

/-- The loop stops in front of text without a digit. -/
theorem strtointLoop_noDigit {radix : ℕ} (ceil lastDigit : ℕ) {s : List UInt8}
    (stops : NoDigit radix s) (state : DigitLoop) :
    strtointLoop radix ceil lastDigit s state = state := by
  cases s with
  | nil => rfl
  | cons b s =>
    rw [strtointLoop]
    cases value : digitValue b with
    | none => rfl
    | some digit =>
      dsimp only
      rw [if_pos (stops b rfl digit value)]

/-- The value never gets smaller. -/
theorem le_value {base : ℕ} (positive : 0 < base) (digits : List ℕ) :
    ∀ start, start ≤ value base start digits := by
  induction digits with
  | nil => exact fun start => le_rfl
  | cons digit digits ih =>
    intro start
    calc start ≤ start * base + digit :=
          (Nat.le_mul_of_pos_right start positive).trans (Nat.le_add_right _ _)
      _ ≤ value base start (digit :: digits) := ih _

end Cloudlibc.Stdlib
