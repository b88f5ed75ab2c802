import Cloudlibc.Float10.F10dec
import Cloudlibc.Stdio.Vprintf

/-!
# Printing of floating-point numbers in decimal

The conversions `%f`, `%e` and `%g` of `common/vprintf_body.h`. A finite number is its sign and what
the converter delivers for its absolute value. The model fails where an assertion fails and where a
computation does not fit the type `int`.
-/

set_option autoImplicit false

namespace Cloudlibc.Stdio

open Cloudlibc.Float10 Cloudlibc.Locale

/-- A number of type `double`, as far as it is printed in decimal. -/
inductive FloatValue
  | finite (negative : Bool) (value : Shortest)
  | infinite (negative : Bool)
  | nan (negative : Bool)

/-- The sign of a number in front of it. -/
def floatPrefix (flags : PrintFlags) (negative : Bool) : List Char :=
  if negative then ['-'] else flags.positiveSign.toList

/-- What is in front of the digits of a number, and the field width that is left. -/
def numberFront (conversion : PrintConversion) (numberPrefix : List Char) (width : ℕ) :
    List UInt8 × ℕ :=
  if conversion.flags.zeroPadding then
    let (padding, fieldWidth) := padToFieldWidth '0' conversion.fieldWidth width
    (numberPrefix.map byteOf ++ padding, fieldWidth)
  else if conversion.flags.leftJustified then
    (numberPrefix.map byteOf, conversion.fieldWidth)
  else
    let (padding, fieldWidth) := padToFieldWidth ' ' conversion.fieldWidth width
    (padding ++ numberPrefix.map byteOf, fieldWidth)

/-- Digits from an index on. -/
def fixedDigits (digits : List ℕ) (idx : ℤ) (count : ℕ) : List UInt8 :=
  (List.range count).map fun (i : ℕ) => .ofNat (indexedDigit digits (idx + i) + 0x30)

/-- The precision of a number without zeroes at its end. -/
def stripPrecision (digits : List ℕ) (exponent precision : ℤ) : ℤ :=
  if exponent > digits.length then 0
  else if precision > digits.length - exponent then digits.length - exponent
  else precision

/-- Decimal floating point, without exponent. -/
def float10 (numeric : LcNumeric) (decimalPoint : Char) (round : RoundingMode)
    (conversion : PrintConversion) (precision : ℤ) (stripTrailing negative : Bool)
    (value : Shortest) : Option (List UInt8) := do
  let precision := if precision < 0 then 6 else precision
  let numberPrefix := floatPrefix conversion.flags negative
  let (digits, exponent) ← f10dec negative value precision.toNat decimalDig round
  let precision := if stripTrailing then stripPrecision digits exponent precision else precision
  let radix :=
    if conversion.flags.alternativeForm || 0 < precision then [byteOf decimalPoint] else []
  let leftDigits := if exponent ≥ 1 then exponent.toNat else 1
  let grouping := if conversion.flags.grouping then numeric.grouping else none
  let (ng, separators) ← numericGroupingInit grouping leftDigits
  let width :=
    numberPrefix.length + (leftDigits + separators) + radix.length + precision.toNat
  let (front, fieldWidth) := numberFront conversion numberPrefix width
  let idx := if exponent ≥ 1 then 0 else exponent - 1
  let left ← groupDigits (byteOf (numeric.thousandsSep.headD '\x00')) grouping ng
    (fixedDigits digits idx leftDigits)
  let right := fixedDigits digits (idx + leftDigits) precision.toNat
  -- All digits have been printed.
  if (digits.length : ℤ) ≤ idx + leftDigits + precision then
    let (padding, _) := padToFieldWidth ' ' fieldWidth width
    return front ++ left ++ radix ++ right ++ padding
  else
    none

/-- The loop that stores the digits of the exponent in front of each other. -/
def exponentLoop (charset : List Char) :
    (room : ℕ) → (mindigits exponent : ℕ) → (digits : List UInt8) → Option (List UInt8)
  | 0, mindigits, exponent, digits => if 0 < mindigits ∨ exponent ≠ 0 then none else some digits
  | room + 1, mindigits, exponent, digits =>
    if 0 < mindigits ∨ exponent ≠ 0 then do
      let digit ← charset[exponent % 10]?
      exponentLoop charset room (mindigits - 1) (exponent / 10) (byteOf digit :: digits)
    else
      some digits

/-- The bytes of some digits. -/
def charsetDigits (charset : List Char) (digits : List ℕ) : Option (List UInt8) :=
  digits.mapM fun digit => charset[digit]?.map byteOf

/-- Exponentially formatted floating point numbers. -/
def floatExponential (decimalPoint : Char) (conversion : PrintConversion) (charset : List Char)
    (exponentChar : Char) (mindigits : ℕ) (numberPrefix : List Char) (precision : ℤ)
    (digits : List ℕ) (exponent : ℤ) : Option (List UInt8) := do
  let exponentDigits ← exponentLoop charset 12 mindigits exponent.natAbs []
  let digits := if digits = [] then [0] else digits
  -- The precision is incremented once, and decremented once more after the last zero.
  if (intMax : ℤ) < precision + 1 ∨ precision = -2 ^ 31 then
    none
  else
    let ndigits := max (precision + 1).toNat digits.length
    let radix :=
      if conversion.flags.alternativeForm || 1 < ndigits then [byteOf decimalPoint] else []
    let width := ndigits + numberPrefix.length + exponentDigits.length + (radix.length + 2)
    let (front, fieldWidth) := numberFront conversion numberPrefix width
    let bytes ← charsetDigits charset digits
    let zeros := List.replicate (precision + 1 - digits.length).toNat (byteOf '0')
    let sign := byteOf (if exponent < 0 then '-' else '+')
    let (padding, _) := padToFieldWidth ' ' fieldWidth width
    return front ++ bytes.take 1 ++ radix ++ bytes.drop 1 ++ zeros ++
      byteOf exponentChar :: sign :: exponentDigits ++ padding

/-- The number of digits that there is room for. -/
def floatNdigits (precision : ℤ) : ℕ :=
  if precision < decimalDig then (precision + 1).toNat else decimalDig

/-- Decimal floating point, using exponential notation. -/
def float10Exponential (decimalPoint : Char) (round : RoundingMode) (conversion : PrintConversion)
    (specifier : Char) (negative : Bool) (value : Shortest) : Option (List UInt8) := do
  let precision := if conversion.precision < 0 then 6 else conversion.precision
  let (digits, exponent) ← f10dec negative value (2 ^ 32 - 1) (floatNdigits precision) round
  floatExponential decimalPoint conversion (numberCharset specifier)
    (if specifier = 'e' then 'e' else 'E') 2 (floatPrefix conversion.flags negative) precision digits
    (exponent - 1)

/-- Decimal floating point, with or without exponent. -/
def float10Auto (numeric : LcNumeric) (decimalPoint : Char) (round : RoundingMode)
    (conversion : PrintConversion) (specifier : Char) (negative : Bool) (value : Shortest) :
    Option (List UInt8) := do
  let precision :=
    if conversion.precision < 0 then 6
    else if conversion.precision = 0 then 1
    else conversion.precision
  let precision := precision - 1
  let (digits, exponent) ← f10dec negative value (2 ^ 32 - 1) (floatNdigits precision) round
  let exponent := exponent - 1
  if precision ≥ exponent ∧ exponent ≥ -4 then
    let precision := precision - exponent
    if (intMax : ℤ) < precision then
      none
    else
      float10 numeric decimalPoint round conversion precision (!conversion.flags.alternativeForm)
        negative value
  else
    floatExponential decimalPoint conversion (numberCharset specifier)
      (if specifier = 'g' then 'e' else 'E') 2 (floatPrefix conversion.flags negative) precision
      digits exponent

/-- A string of the program. -/
def fixedString (text : List Char) (i : ℕ) : Option UInt8 := (text.map byteOf ++ [0])[i]?

/-- The conversions of floating-point numbers in decimal. -/
def printFloat10 (numeric : LcNumeric) (decimalPoint : Char) (round : RoundingMode)
    (conversion : PrintConversion) (specifier : Char) (value : FloatValue) :
    Option (List UInt8) :=
  let lower := specifier ≥ 'a'
  match value with
  | .infinite negative =>
    printString conversion (fixedString ((if negative then ['-'] else []) ++
      if lower then ['i', 'n', 'f'] else ['I', 'N', 'F']))
  | .nan negative =>
    printString conversion (fixedString ((if negative then ['-'] else []) ++
      if lower then ['n', 'a', 'n'] else ['N', 'A', 'N']))
  | .finite negative value =>
    if specifier ∈ ['f', 'F'] then
      float10 numeric decimalPoint round conversion conversion.precision false negative value
    else if specifier ∈ ['e', 'E'] then
      float10Exponential decimalPoint round conversion specifier negative value
    else
      float10Auto numeric decimalPoint round conversion specifier negative value

end Cloudlibc.Stdio
