import Cloudlibc.Locale.Ctype
import Cloudlibc.Stdio.PrintScan

/-!
# Parsers of white space and numbers

The parsers that `strtol()`, `strtod()` and `scanf()` include: `parser_whitespace.h`,
`parser_strtoint.h` and `parser_strtofloat.h` of `common`. A parser works on the list of the bytes
that it may look at. Behind the end of the list `PEEK()` sees null bytes. It returns the number of
bytes that `SKIP()` has been called for.

The conversion of the digits of a floating point number to a binary number is not part of the
parser; the result has the digits and the exponent that are handed to it.
-/

set_option autoImplicit false

namespace Cloudlibc.Stdio

open Cloudlibc.Locale

/-! ## White space -/

/-- `iswspace()`. -/
def iswspace (wc : ℕ) : Bool :=
  (0x9 ≤ wc && wc ≤ 0xd) || wc == 0x20 || wc == 0x1680 || (0x2000 ≤ wc && wc ≤ 0x2006) ||
    (0x2008 ≤ wc && wc ≤ 0x200a) || (0x2028 ≤ wc && wc ≤ 0x2029) || wc == 0x205f || wc == 0x3000

/-- Feed bytes to the decoder until a character is complete. The result has the number of bytes. -/
def nextCharacter (ctype : LcCtype) (s : List UInt8) :
    (fuel : ℕ) → (peeklen : ℕ) → (mbs : Mbstate) → Option (ℕ × Mbtoc32Result)
  | 0, _, _ => none
  | fuel + 1, peeklen, mbs => do
      match ← ctype.mbtoc32 [peek s peeklen] 1 mbs with
      | .incomplete mbs => nextCharacter ctype s fuel (peeklen + 1) mbs
      | .error errno => return (peeklen + 1, .error errno)
      | .character c32 length mbs => return (peeklen + 1, .character c32 length mbs)

/-- The loop of `parser_whitespace.h`. -/
def skipWhitespaceLoop (ctype : LcCtype) (s : List UInt8) :
    (fuel : ℕ) → (skipped : ℕ) → (mbs : Mbstate) → Option ℕ
  | 0, _, _ => none
  | fuel + 1, skipped, mbs => do
      match ← nextCharacter ctype (s.drop skipped) (s.length + 1) 0 mbs with
      | (peeklen, .character c32 _ mbs) =>
        if iswspace c32 then
          skipWhitespaceLoop ctype s fuel (skipped + peeklen) mbs
        else
          return skipped
      | (_, _) => return skipped

/-- `parser_whitespace.h`. Every pass but the last one skips at least one byte. -/
def skipWhitespace (ctype : LcCtype) (s : List UInt8) : Option ℕ :=
  skipWhitespaceLoop ctype s (s.length + 1) 0 .setInit

/-! ## Integers -/

/-- The value of a digit or a letter as a digit. -/
def digitValue (b : UInt8) : Option ℕ :=
  let n := b.toNat
  if 0x30 ≤ n ∧ n ≤ 0x39 then some (n - 0x30)
  else if 0x41 ≤ n ∧ n ≤ 0x5a then some (n - 0x41 + 10)
  else if 0x61 ≤ n ∧ n ≤ 0x7a then some (n - 0x61 + 10)
  else none

/-- The byte is a hexadecimal digit. -/
def isXdigit (b : UInt8) : Bool := (digitValue b).any (· < 16)

/-- The variables of the loop over the digits in `parser_strtoint.h`. -/
structure DigitLoop where
  skipped : ℕ
  haveNumber : Bool
  haveOverflow : Bool
  value : ℕ
  deriving DecidableEq, Repr

/-- The loop over the digits in `parser_strtoint.h`. -/
def strtointLoop (radix ceil lastDigit : ℕ) : List UInt8 → DigitLoop → DigitLoop
  | [], state => state
  | b :: s, state =>
    match digitValue b with
    | none => state
    | some digit =>
      if digit ≥ radix then
        state
      else if state.value > ceil ∨ state.value = ceil ∧ digit > lastDigit then
        strtointLoop radix ceil lastDigit s
          ⟨state.skipped + 1, true, true, state.value⟩
      else
        strtointLoop radix ceil lastDigit s
          ⟨state.skipped + 1, true, state.haveOverflow, state.value * radix + digit⟩

/-- What `parser_strtoint.h` computes. -/
structure IntegerResult where
  skipped : ℕ
  haveNumber : Bool
  haveOverflow : Bool
  number : ℤ
  deriving DecidableEq, Repr

/-- `parser_strtoint.h`, for a type with the range from `min` to `max`. -/
def parserStrtoint (isSigned : Bool) (min max : ℤ) (allowNegative : Bool) (base : ℕ)
    (s : List UInt8) : IntegerResult :=
  let negative := allowNegative && peek s 0 == byteOf '-'
  let sign := if negative || peek s 0 == byteOf '+' then 1 else 0
  let s := s.drop sign
  let isHex := (base = 0 ∨ base = 16) ∧ peek s 0 = byteOf '0' ∧
    (peek s 1 = byteOf 'x' ∨ peek s 1 = byteOf 'X') ∧ isXdigit (peek s 2)
  let leading := if isHex then 2 else 0
  let base :=
    if isHex then 16 else if base = 0 then if peek s 0 = byteOf '0' then 8 else 10 else base
  if 2 ≤ base ∧ base ≤ 36 then
    let ceil := if negative then (-(min.tdiv base)).toNat else (max / base).toNat
    let lastDigit := if negative then (-(min.tmod base)).toNat else (max % base).toNat
    let digits := strtointLoop base ceil lastDigit (s.drop leading) ⟨0, false, false, 0⟩
    let number : ℤ :=
      if digits.haveOverflow then
        if isSigned = false ∨ negative = false then max else min
      else
        if negative then -digits.value else digits.value
    ⟨sign + leading + digits.skipped, digits.haveNumber, digits.haveOverflow, number⟩
  else
    ⟨sign + leading, false, false, 0⟩

/-! ## Floating point numbers -/

/-- The digits of a floating point literal. -/
inductive FloatLiteral
  | infinity
  | nan
  | hexadecimal (digits : List ℕ) (exponent : ℤ)
  | decimal (digits : List UInt8) (exponent : ℤ)
  deriving DecidableEq, Repr

/-- What `parser_strtofloat.h` finds. -/
structure FloatResult where
  skipped : ℕ
  haveNumber : Bool
  negative : Bool
  literal : FloatLiteral
  deriving DecidableEq, Repr

/-- The byte is the letter, in either case. -/
def isLetter (b : UInt8) (lower upper : Char) : Bool := b == byteOf lower || b == byteOf upper

/-- The loop over the decimal digits of an exponent. -/
def exponentDigits : List UInt8 → (skipped : ℕ) → (exponent : ℕ) → ℕ × ℕ
  | [], skipped, exponent => (skipped, exponent)
  | b :: s, skipped, exponent =>
    if isDigit b then
      exponentDigits s (skipped + 1)
        (if exponent < 1000000 then exponent * 10 + b.toNat - 0x30 else exponent)
    else
      (skipped, exponent)

/-- `parser_strtofloat_exponent.h`: the number of bytes skipped and the exponent. -/
def parserExponent (s : List UInt8) : ℕ × ℤ :=
  if isDigit (peek s 1) || (peek s 1 == byteOf '-' || peek s 1 == byteOf '+') && isDigit (peek s 2) then
    let negative := peek s 1 == byteOf '-'
    let sign := if negative || peek s 1 == byteOf '+' then 1 else 0
    let (skipped, exponent) := exponentDigits (s.drop (1 + sign)) 0 0
    (1 + sign + skipped, if negative then -exponent else exponent)
  else
    (0, 0)

/-- The loop of `parser_strtofloat_radixchar.h`. -/
def radixcharLoop (s : List UInt8) : (decimalPoint : List ℕ) → (peeklen : ℕ) → Option ℕ
  | [], peeklen => some peeklen
  | c :: decimalPoint, peeklen =>
    if c = (peek s peeklen).toNat then radixcharLoop s decimalPoint (peeklen + 1) else none

/-- `parser_strtofloat_radixchar.h`: the number of bytes of the radix character, if it is there. -/
def parserRadixchar (decimalPoint : List ℕ) (s : List UInt8) : Option ℕ :=
  radixcharLoop s (if decimalPoint = [] then [0x2e] else decimalPoint) 0

theorem parserRadixchar_dot (s : List UInt8) :
    parserRadixchar [0x2e] s = if peek s 0 = byteOf '.' then some 1 else none := by
  have dot : byteOf '.' = 0x2e := by decide
  have same : (46 = (peek s 0).toNat) ↔ peek s 0 = byteOf '.' := by
    rw [← UInt8.toNat_inj]
    exact eq_comm
  rw [parserRadixchar, if_neg (by decide), radixcharLoop, radixcharLoop]
  simp only [same]

/-- The number of bytes up to and including the closing parenthesis behind `NAN(`, or none. -/
def closingParenthesis : List UInt8 → (close : ℕ) → ℕ
  | [], _ => 0
  | b :: s, close =>
    if b = 0 then 0 else if b = byteOf ')' then close + 1 else closingParenthesis s (close + 1)

/-- The values of the hexadecimal digits at the start of a string. -/
def xdigits (s : List UInt8) : List ℕ := (s.takeWhile isXdigit).filterMap digitValue

/-- The branch for hexadecimal numbers, behind the letter `x`. -/
def parserHexadecimal (decimalPoint : List ℕ) (s : List UInt8) : ℕ × FloatLiteral :=
  let whole := xdigits s
  let s := s.drop whole.length
  let radix := parserRadixchar decimalPoint s
  let s := s.drop (radix.getD 0)
  let fraction := if radix.isSome then xdigits s else []
  let s := s.drop fraction.length
  let exponent := if isLetter (peek s 0) 'p' 'P' then parserExponent s else (0, 0)
  (whole.length + radix.getD 0 + fraction.length + exponent.1,
    .hexadecimal (whole ++ fraction) (-4 * fraction.length + exponent.2))

/-- The branch for decimal numbers, with a buffer for `decimalDig` digits. -/
def parserDecimal (decimalDig : ℕ) (decimalPoint : List ℕ) (s : List UInt8) :
    ℕ × Bool × FloatLiteral :=
  let zeroes := (s.takeWhile (· == byteOf '0')).length
  let s := s.drop zeroes
  let whole := s.takeWhile isDigit
  let s := s.drop whole.length
  let radix := parserRadixchar decimalPoint s
  let s := s.drop (radix.getD 0)
  let moreZeroes :=
    if radix.isSome ∧ whole = [] then (s.takeWhile (· == byteOf '0')).length else 0
  let s := s.drop moreZeroes
  let fraction := if radix.isSome then s.takeWhile isDigit else []
  let s := s.drop fraction.length
  let haveNumber := 0 < zeroes + whole.length + moreZeroes + fraction.length
  let exponent := if haveNumber ∧ isLetter (peek s 0) 'e' 'E' then parserExponent s else (0, 0)
  let stored := whole.take decimalDig
  let storedFraction := fraction.take (decimalDig - stored.length)
  (zeroes + whole.length + radix.getD 0 + moreZeroes + fraction.length + exponent.1, haveNumber,
    .decimal (stored ++ storedFraction)
      (whole.length - stored.length - moreZeroes - storedFraction.length + exponent.2))

/-- `parser_strtofloat.h`. -/
def parserStrtofloat (decimalDig : ℕ) (decimalPoint : List ℕ) (s : List UInt8) : FloatResult :=
  let negative := peek s 0 == byteOf '-'
  let sign := if negative || peek s 0 == byteOf '+' then 1 else 0
  let s := s.drop sign
  if isLetter (peek s 0) 'i' 'I' && isLetter (peek s 1) 'n' 'N' && isLetter (peek s 2) 'f' 'F' then
    let rest := s.drop 3
    let inity := isLetter (peek rest 0) 'i' 'I' && isLetter (peek rest 1) 'n' 'N' &&
      isLetter (peek rest 2) 'i' 'I' && isLetter (peek rest 3) 't' 'T' && isLetter (peek rest 4) 'y' 'Y'
    ⟨sign + 3 + (if inity then 5 else 0), true, negative, .infinity⟩
  else if isLetter (peek s 0) 'n' 'N' && isLetter (peek s 1) 'a' 'A' && isLetter (peek s 2) 'n' 'N' then
    let rest := s.drop 3
    let parenthesis :=
      if peek rest 0 = byteOf '(' then closingParenthesis (rest.drop 1) 1 else 0
    ⟨sign + 3 + parenthesis, true, negative, .nan⟩
  else if peek s 0 = byteOf '0' ∧ isLetter (peek s 1) 'x' 'X' ∧
      (isXdigit (peek s 2) ∨ peek s 2 = byteOf '.' ∧ isXdigit (peek s 3)) then
    let (skipped, literal) := parserHexadecimal decimalPoint (s.drop 2)
    ⟨sign + 2 + skipped, true, negative, literal⟩
  else
    let (skipped, haveNumber, literal) := parserDecimal decimalDig decimalPoint s
    ⟨sign + skipped, haveNumber, negative, literal⟩

end Cloudlibc.Stdio
