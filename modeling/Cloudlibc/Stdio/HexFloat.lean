import Cloudlibc.Float16.F16
import Cloudlibc.Stdio.PrintGeneral
import Cloudlibc.Stdio.ScanDirectives

/-!
# Hexadecimal floating-point numbers as text

The conversion `%a` of `printf()` and the function `strtod()`. The text of a finite number without
a precision has all digits of its significand, so nothing is rounded when it is read: the number
that is read has the bits of the number that has been printed, in any rounding modes
(`strtod_printFloat16`).
-/

set_option autoImplicit false

namespace Cloudlibc.Stdio

open Cloudlibc.Digits Cloudlibc.Float10 Cloudlibc.Float16 Cloudlibc.Locale List Option

/-! ## Printing and parsing -/

/-- Hexadecimal floating point. -/
def printFloat16 (decimalPoint : Char) (round : RoundingMode) (conversion : PrintConversion)
    (x : Double) : Option (List UInt8) :=
  let exponential := floatExponential decimalPoint conversion (numberCharset 'a') 'p' 1
    (floatPrefix conversion.flags x.negative ++ ['0', 'x']) conversion.precision
  if x.magnitudeBits = 0 then
    exponential [] 0
  else
    let ndigits :=
      if 0 ≤ conversion.precision ∧ conversion.precision < decimalDig then
        conversion.precision.toNat
      else
        decimalDig
    let (digits, exponent) := f16dec x.negative x.toLongDouble ndigits round
    -- The digits are stored behind the first one.
    if 1 + digits.length ≤ decimalDig then exponential (1 :: digits) exponent else none

/-- The absolute value that a literal stands for. `f10enc` converts decimal digits. -/
def literalBits (f10enc : List UInt8 → ℤ → ℕ) (round : RoundingMode) : FloatLiteral → ℕ
  | .infinity => 2047 * 2 ^ 52
  | .nan => 2047 * 2 ^ 52 + 2 ^ 51
  | .hexadecimal digits exponent =>
    (f16encGetBin 11 53 (f16encPushXdigits digits) exponent round).1
  | .decimal digits exponent => if digits = [] then 0 else f10enc digits exponent

/-- `strtod()` in the POSIX locale: the bits of the number, and the string at `*endptr`. -/
def strtod (f10enc : List UInt8 → ℤ → ℕ) (round : RoundingMode) (nptr : List UInt8) :
    Option (ℕ × List UInt8) := do
  let whitespace ← skipWhitespace ctypeUsAscii nptr
  let s := nptr.drop whitespace
  let result := parserStrtofloat decimalDig [0x2e] s
  if result.haveNumber then
    return ((if result.negative then 2 ^ 63 else 0) +
      literalBits f10enc (round.magnitude result.negative) result.literal, s.drop result.skipped)
  else
    return (0, nptr)

/-! ## The text of a number -/

/-- A hexadecimal digit. -/
def xdigitByte (digit : ℕ) : UInt8 := byteOf ((numberCharset 'a').getD digit '0')

variable {digit : ℕ}

theorem digitValue_xdigitByte (small : digit < 16) :
    digitValue (xdigitByte digit) = some digit := by
  revert digit
  decide

theorem isXdigit_xdigitByte (small : digit < 16) : isXdigit (xdigitByte digit) := by
  rw [isXdigit, digitValue_xdigitByte small]
  simpa using small

/-- The exponent of a number, behind the letter. -/
def signedNumeral (exponent : ℤ) : List UInt8 :=
  byteOf (if exponent < 0 then '-' else '+') :: (numeral 10 exponent.natAbs).map digitByte

/-- The text behind the sign and `0x`. -/
def xdigitsText (first : ℕ) (digits : List ℕ) (exponent : ℤ) : List UInt8 :=
  xdigitByte first :: (if digits = [] then [] else byteOf '.' :: digits.map xdigitByte) ++
    byteOf 'p' :: signedNumeral exponent

variable {digits : List ℕ}

theorem charsetDigits_xdigits (small : ∀ digit ∈ digits, digit < 16) :
    charsetDigits (numberCharset 'a') digits = some (digits.map xdigitByte) := by
  have found : ∀ digit < 16, (numberCharset 'a')[digit]?.map byteOf = some (xdigitByte digit) := by
    decide
  rw [charsetDigits]
  induction digits with
  | nil => rfl
  | cons digit digits ih =>
    obtain ⟨below, others⟩ := forall_mem_cons.mp small
    rw [mapM_cons, found digit below, ih others]
    rfl

theorem exponentLoop_one {exponent : ℕ} (small : exponent < 10 ^ 11) :
    exponentLoop (numberCharset 'a') 12 1 exponent [] =
      some ((numeral 10 exponent).map digitByte) := by
  rw [exponentLoop_step 'a' (.inl (by decide)), exponentLoop_eq 'a' 11 _ (by omega),
    numeral_eq_append (by decide) exponent]
  by_cases last : exponent / 10 = 0
  · rw [if_pos last, if_neg (by omega)]
    rfl
  · rw [if_neg last, if_pos (by omega)]
    simp

/-- The conversion specification `%a`. -/
def percentA : PrintConversion := ⟨0, ⟨false, none, false, false, false⟩, 0, -1, .default⟩

example : (parseConversion (.list []) [byteOf 'a']).map (·.1) =
    some percentA := rfl

variable {exponent : ℤ} {first : ℕ}

theorem floatExponential_xdigits (numberPrefix : List Char)
    (small : ∀ digit ∈ first :: digits, digit < 16) (near : exponent.natAbs < 10 ^ 11) :
    floatExponential '.' percentA (numberCharset 'a') 'p' 1 numberPrefix (-1) (first :: digits)
      exponent = some (numberPrefix.map byteOf ++ xdigitsText first digits exponent) := by
  have radix : (if (percentA.flags.alternativeForm ||
      decide (1 < max ((-1 : ℤ) + 1).toNat (first :: digits).length)) = true then [byteOf '.']
      else []) = if digits = [] then [] else [byteOf '.'] := by
    cases digits <;> simp [percentA]
  have zeros : ((-1 : ℤ) + 1 - (first :: digits).length).toNat = 0 := by omega
  simp only [floatExponential, exponentLoop_one near, charsetDigits_xdigits small, radix, zeros,
    bind_eq_bind, bind_some, reduceCtorEq, if_false]
  rw [xdigitsText]
  cases digits <;> simp [percentA, numberFront, padToFieldWidth, signedNumeral]

/-! ## Reading the text -/

theorem xdigits_append {digits : List ℕ} (small : ∀ digit ∈ digits, digit < 16)
    {rest : List UInt8} (stops : isXdigit (peek rest 0) = false) :
    xdigits (digits.map xdigitByte ++ rest) = digits := by
  induction digits with
  | nil =>
    cases rest with
    | nil => rfl
    | cons b rest =>
      have notXdigit : isXdigit b = false := stops
      simp [xdigits, notXdigit]
  | cons digit digits ih =>
    obtain ⟨below, others⟩ := forall_mem_cons.mp small
    have tail := ih others
    simp only [xdigits] at tail
    simp [xdigits, isXdigit_xdigitByte below, digitValue_xdigitByte below, tail]

theorem isDigit_digitByte (small : digit < 10) : isDigit (digitByte digit) = true := by
  revert digit
  decide

theorem exponentDigits_digits (small : ∀ digit ∈ digits, digit < 10) :
    ∀ (skipped start : ℕ), value 10 start digits < 1000000 →
      exponentDigits (digits.map digitByte) skipped start =
        (skipped + digits.length, value 10 start digits) := by
  induction digits with
  | nil => exact fun _ _ _ => rfl
  | cons digit digits ih =>
    intro skipped start limited
    obtain ⟨below, others⟩ := forall_mem_cons.mp small
    have byte : (digitByte digit).toNat = digit + 0x30 := by
      rw [digitByte, UInt8.toNat_ofNat']
      omega
    have step : value 10 start (digit :: digits) = value 10 (start * 10 + digit) digits := rfl
    have larger : start * 10 + digit ≤ value 10 (start * 10 + digit) digits := by
      rw [value_eq_add]
      exact (Nat.le_mul_of_pos_right _ (by positivity)).trans (Nat.le_add_right _ _)
    rw [map_cons, exponentDigits, if_pos (isDigit_digitByte below), if_pos (by omega), byte,
      length_cons]
    have next : start * 10 + (digit + 0x30) - 0x30 = start * 10 + digit := by omega
    rw [next, ih others _ _ limited]
    congr 1
    omega

theorem parserExponent_signedNumeral (near : exponent.natAbs < 1000000) :
    parserExponent (byteOf 'p' :: signedNumeral exponent) =
      (1 + (signedNumeral exponent).length, exponent) := by
  obtain ⟨digit, digits, split⟩ := exists_cons_of_ne_nil (numeral_ne_nil 10 exponent.natAbs)
  have small : ∀ digit ∈ numeral 10 exponent.natAbs, digit < 10 := fun digit member =>
    numeral_lt (by decide) member
  have read := exponentDigits_digits small 0 0 (by rw [value_numeral]; exact near)
  rw [value_numeral, Nat.zero_add] at read
  have second : isDigit (peek (byteOf 'p' :: signedNumeral exponent) 2) = true := by
    have below := small digit (by simp [split])
    rw [signedNumeral, split]
    exact isDigit_digitByte below
  have length : (signedNumeral exponent).length = 1 + (numeral 10 exponent.natAbs).length := by
    rw [signedNumeral, length_cons, length_map, Nat.add_comm]
  have behind : (byteOf 'p' :: signedNumeral exponent).drop (1 + 1) =
      (numeral 10 exponent.natAbs).map digitByte := rfl
  by_cases negative : exponent < 0
  · have first : peek (byteOf 'p' :: signedNumeral exponent) 1 = byteOf '-' := by
      rw [signedNumeral, if_pos negative]
      rfl
    rw [parserExponent, first, second, if_pos (by decide)]
    simp only [beq_self_eq_true, Bool.true_or, if_true, behind, read, length]
    congr 1
    · omega
    · omega
  · have first : peek (byteOf 'p' :: signedNumeral exponent) 1 = byteOf '+' := by
      rw [signedNumeral, if_neg negative]
      rfl
    have plus : (byteOf '+' == byteOf '-') = false := by decide
    rw [parserExponent, first, second, if_pos (by decide)]
    simp only [plus, beq_self_eq_true, Bool.or_true, if_true, Bool.false_eq_true, if_false, behind,
      read, length]
    congr 1
    · omega
    · omega

/-- **The digits and the exponent are read as they were written.** -/
theorem parserHexadecimal_xdigitsText (small : ∀ digit ∈ first :: digits, digit < 16)
    (near : exponent.natAbs < 1000000) :
    parserHexadecimal [0x2e] (xdigitsText first digits exponent) =
      ((xdigitsText first digits exponent).length,
        .hexadecimal (first :: digits) (-4 * digits.length + exponent)) := by
  obtain ⟨below, others⟩ := forall_mem_cons.mp small
  have notPoint : isXdigit (byteOf '.') = false := by decide
  have notLetter : isXdigit (byteOf 'p') = false := by decide
  have letter : isLetter (byteOf 'p') 'p' 'P' = true := by decide
  have other : byteOf 'p' ≠ byteOf '.' := by decide
  have exponentRead := parserExponent_signedNumeral near
  have letterFirst : peek (byteOf 'p' :: signedNumeral exponent) 0 = byteOf 'p' := rfl
  have single : ∀ digit ∈ [first], digit < 16 := forall_mem_singleton.mpr below
  by_cases none' : digits = []
  · subst none'
    have whole : xdigits (xdigitsText first [] exponent) = [first] :=
      @xdigits_append [first] single _ notLetter
    have behind : (xdigitsText first [] exponent).drop 1 = byteOf 'p' :: signedNumeral exponent :=
      rfl
    simp only [parserHexadecimal, whole, length_singleton, behind, parserRadixchar_dot,
      letterFirst, if_neg other, getD_none, isSome_none, Bool.false_eq_true, if_false,
      drop_zero, letter, if_true, exponentRead, length_nil]
    simp [xdigitsText]
    omega
  · have text : xdigitsText first digits exponent = xdigitByte first :: byteOf '.' ::
        (digits.map xdigitByte ++ byteOf 'p' :: signedNumeral exponent) := by
      rw [xdigitsText, if_neg none']
      rfl
    have whole : xdigits (xdigitsText first digits exponent) = [first] := by
      rw [text]
      exact @xdigits_append [first] single _ notPoint
    have fraction : xdigits (digits.map xdigitByte ++ byteOf 'p' :: signedNumeral exponent) =
        digits := xdigits_append others notLetter
    have point : peek ((xdigitsText first digits exponent).drop 1) 0 = byteOf '.' := by
      rw [text]
      rfl
    have behind : ((xdigitsText first digits exponent).drop 1).drop 1 =
        digits.map xdigitByte ++ byteOf 'p' :: signedNumeral exponent := by
      rw [text]
      rfl
    have last : (digits.map xdigitByte ++ byteOf 'p' :: signedNumeral exponent).drop digits.length =
        byteOf 'p' :: signedNumeral exponent := drop_left' (length_map ..)
    simp only [parserHexadecimal, whole, length_singleton, parserRadixchar_dot, point, if_true,
      getD_some, isSome_some, behind, fraction, last, letterFirst, letter, exponentRead]
    simp [text]
    omega

/-- The sign of a number that `%a` prints. -/
def signText (negative : Bool) : List UInt8 := if negative then [byteOf '-'] else []

/-- **A hexadecimal number is read as it was written.** -/
theorem parserStrtofloat_xdigitsText (negative : Bool)
    (small : ∀ digit ∈ first :: digits, digit < 16) (near : exponent.natAbs < 1000000) :
    let text := signText negative ++ byteOf '0' :: byteOf 'x' :: xdigitsText first digits exponent
    parserStrtofloat decimalDig [0x2e] text = ⟨text.length, true, negative,
      .hexadecimal (first :: digits) (-4 * digits.length + exponent)⟩ := by
  intro text
  have hexadecimal := parserHexadecimal_xdigitsText small near
  have xdigit : isXdigit (xdigitByte first) :=
    isXdigit_xdigitByte (forall_mem_cons.mp small).1
  have sign : (peek text 0 == byteOf '-') = negative ∧
      (if negative || peek text 0 == byteOf '+' then 1 else 0) =
        (signText negative).length := by
    cases negative <;> exact ⟨rfl, rfl⟩
  have behind : text.drop (signText negative).length =
      byteOf '0' :: byteOf 'x' :: xdigitsText first digits exponent := drop_left
  generalize number : byteOf '0' :: byteOf 'x' :: xdigitsText first digits exponent = s at behind
  have zero : peek s 0 = byteOf '0' := by rw [← number]; rfl
  have letter : peek s 1 = byteOf 'x' := by rw [← number]; rfl
  have third : peek s 2 = xdigitByte first := by rw [← number]; rfl
  have rest : s.drop 2 = xdigitsText first digits exponent := by rw [← number]; rfl
  have notInfinity : isLetter (byteOf '0') 'i' 'I' = false := by decide
  have notNan : isLetter (byteOf '0') 'n' 'N' = false := by decide
  have isLetterX : isLetter (byteOf 'x') 'x' 'X' = true := by decide
  have length : text.length = (signText negative).length + 2 +
      (xdigitsText first digits exponent).length := by
    simp only [text, length_append, length_cons]
    omega
  simp only [parserStrtofloat, sign.2, behind, zero, letter, third, notInfinity, notNan,
    Bool.false_and, Bool.false_eq_true, if_false, isLetterX, xdigit, true_or, and_self, if_true,
    rest, hexadecimal, sign.1, length]

theorem takeWhile_isSpace_text (negative : Bool) (rest : List UInt8) :
    (signText negative ++ byteOf '0' :: rest).takeWhile isSpace = [] := by
  cases negative <;> rfl

theorem printFloat16_percentA (round : RoundingMode) (x : Double) :
    ∃ first digits exponent, (∀ digit ∈ first :: digits, digit < 16) ∧
      exponent.natAbs < 1000000 ∧
      printFloat16 '.' round percentA x = some (signText x.negative ++ byteOf '0' :: byteOf 'x' ::
        xdigitsText first digits exponent) ∧
      ∀ round, (f16encGetBin 11 53 (f16encPushXdigits (first :: digits))
        (-4 * digits.length + exponent) round).1 = x.magnitudeBits := by
  have numberPrefix : (floatPrefix percentA.flags x.negative ++ ['0', 'x']).map byteOf =
      signText x.negative ++ [byteOf '0', byteOf 'x'] := by
    cases x.negative <;> rfl
  by_cases zero : x.magnitudeBits = 0
  · refine ⟨0, [], 0, by simp, by decide, ?_, fun round => ?_⟩
    · have small : ∀ digit ∈ [0], digit < 16 := by simp
      have printed := floatExponential_xdigits (floatPrefix percentA.flags x.negative ++ ['0', 'x'])
        small (show (0 : ℤ).natAbs < 10 ^ 11 by decide)
      rw [numberPrefix] at printed
      rw [printFloat16, if_pos zero]
      exact printed.trans (by simp)
    · rw [zero]
      rfl
  · obtain ⟨normal, first, small⟩ := Double.toLongDouble_normal zero
    obtain ⟨digits, converted, few, digits_lt, pushed⟩ :=
      pushXdigits_f16dec normal first small x.negative round
    have small : ∀ digit ∈ 1 :: digits, digit < 16 :=
      forall_mem_cons.mpr ⟨by decide, digits_lt⟩
    refine ⟨1, digits, x.toLongDouble.exponent - 16383, small, ?_, ?_, fun round => ?_⟩
    · have bound := Double.toLongDouble_exponent_lt x
      omega
    · have printed := floatExponential_xdigits (floatPrefix percentA.flags x.negative ++ ['0', 'x'])
        small (show ((x.toLongDouble.exponent : ℤ) - 16383).natAbs < 10 ^ 11 by
          have bound := Double.toLongDouble_exponent_lt x
          omega)
      have room : 1 + digits.length ≤ decimalDig := by
        rw [decimalDig]
        omega
      have ndigits : (if 0 ≤ percentA.precision ∧ percentA.precision < decimalDig then
          percentA.precision.toNat else decimalDig) = decimalDig := if_neg (by decide)
      rw [numberPrefix] at printed
      rw [printFloat16, if_neg zero]
      simp only [ndigits, converted, if_pos room]
      exact printed.trans (by simp)
    · rw [pushed, Double.f16encGetBin_toLongDouble zero]

/-- **A finite number is printed by `%a` as text that `strtod()` reads as the same bits, in any
rounding modes.** -/
theorem strtod_printFloat16 (x : Double) (round round' : RoundingMode)
    (f10enc : List UInt8 → ℤ → ℕ) :
    ∃ text, printFloat16 '.' round percentA x = some text ∧
      strtod f10enc round' text = some (x.bits, []) := by
  obtain ⟨first, digits, exponent, small, near, printed, encoded⟩ := printFloat16_percentA round x
  refine ⟨_, printed, ?_⟩
  have parsed := parserStrtofloat_xdigitsText x.negative small near
  rw [strtod, skipWhitespace_usAscii, takeWhile_isSpace_text]
  simp only [length_nil, bind_eq_bind, bind_some, drop_zero, parsed,
    if_true, literalBits, encoded, drop_length]
  rfl

end Cloudlibc.Stdio
