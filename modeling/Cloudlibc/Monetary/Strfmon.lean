import Cloudlibc.Float10.F10dec
import Cloudlibc.Locale.CodesetRoundTrip
import Cloudlibc.Locale.NumericGrouping
import Cloudlibc.Stdio.PrintScan

/-!
# Printing of monetary values

The narrow variant of `common/vstrfmon.h`, and the locales of `libc/locale/monetary`. A format is the
list of its bytes without the null byte at its end. An argument is the sign of a finite number and
what the converter delivers for its absolute value. The model fails where the code reads behind the
end of the format, follows a null pointer or computes a number that does not fit.
-/

set_option autoImplicit false

namespace Cloudlibc.Monetary

open Cloudlibc.Float10 Cloudlibc.Locale Cloudlibc.Stdio

/-! ## Locales -/

/-- `CHAR_MAX`, which stands for values that a locale does not specify. -/
def charMax : ℤ := 127

/-- The members of `struct lc_monetary` that exist for one sign. -/
structure SignAttributes where
  csPrecedes : ℤ
  sepBySpace : ℤ
  signPosn : ℤ
  deriving DecidableEq

/-- The members of `struct lc_monetary` that exist once for local and once for international
formatting. -/
structure Attributes where
  fracDigits : ℤ
  positive : SignAttributes
  negative : SignAttributes
  deriving DecidableEq

/-- `struct lc_monetary`. -/
structure LcMonetary where
  monDecimalPoint : Option (List Char)
  monThousandsSep : Option (List Char)
  monGrouping : Option (List ℤ)
  monGrouping_ne_zero : ∀ sizes ∈ monGrouping, ∀ size ∈ sizes, size ≠ 0
  positiveSign : Option (List Char)
  negativeSign : Option (List Char)
  currencySymbol : Option (List Char)
  attributes : Attributes
  intCurrSymbol : Fin 5 → Char
  intAttributes : Attributes

/-- The values that are not specified. -/
def unspecified : Attributes :=
  ⟨charMax, ⟨charMax, charMax, charMax⟩, ⟨charMax, charMax, charMax⟩⟩

/-- `__monetary_posix`. -/
def monetaryPosix : LcMonetary where
  monDecimalPoint := none
  monThousandsSep := none
  monGrouping := none
  monGrouping_ne_zero := by simp
  positiveSign := none
  negativeSign := none
  currencySymbol := none
  attributes := unspecified
  intCurrSymbol := fun _ => '\x00'
  intAttributes := unspecified

/-- `monetary_en_us`. -/
def monetaryEnUs : LcMonetary where
  monDecimalPoint := some ['.']
  monThousandsSep := some [',']
  monGrouping := some [3]
  monGrouping_ne_zero := by simp
  positiveSign := none
  negativeSign := some ['-']
  currencySymbol := some ['$']
  attributes := ⟨2, ⟨1, 0, 1⟩, ⟨1, 0, 1⟩⟩
  intCurrSymbol := ![ 'U', 'S', 'D', ' ', '\x00']
  intAttributes := ⟨2, ⟨1, 1, 1⟩, ⟨1, 1, 1⟩⟩

/-- `monetary_nl_nl`. -/
def monetaryNlNl : LcMonetary where
  monDecimalPoint := some [',']
  monThousandsSep := some [' ']
  monGrouping := some [3]
  monGrouping_ne_zero := by simp
  positiveSign := none
  negativeSign := some ['-']
  currencySymbol := some ['€']
  attributes := ⟨2, ⟨1, 1, 1⟩, ⟨1, 1, 2⟩⟩
  intCurrSymbol := ![ 'E', 'U', 'R', ' ', '\x00']
  intAttributes := ⟨2, ⟨1, 1, 1⟩, ⟨1, 1, 2⟩⟩

/-- `monetary_ru_ru`. -/
def monetaryRuRu : LcMonetary where
  monDecimalPoint := some [',']
  monThousandsSep := some [' ']
  monGrouping := some [3]
  monGrouping_ne_zero := by simp
  positiveSign := none
  negativeSign := some ['-']
  currencySymbol := some ['р', 'у', 'б', '.']
  attributes := ⟨2, ⟨0, 1, 1⟩, ⟨0, 1, 1⟩⟩
  intCurrSymbol := ![ 'R', 'U', 'B', ' ', '\x00']
  intAttributes := ⟨2, ⟨0, 1, 1⟩, ⟨0, 1, 1⟩⟩

/-- The values of `LC_MONETARY` that the library has. -/
inductive Locale
  | posix
  | enUs
  | nlNl
  | ruRu
  deriving DecidableEq, Repr

/-- The structure of a value of `LC_MONETARY`. -/
def Locale.monetary : Locale → LcMonetary
  | .posix => monetaryPosix
  | .enUs => monetaryEnUs
  | .nlNl => monetaryNlNl
  | .ruRu => monetaryRuRu

/-! ## Text around the value -/

/-- `MB_LEN_MAX`. -/
def mbLenMax : ℕ := 4

/-- The bytes of a character, or a question mark. -/
def encodeCharacter (ctype : LcCtype) (c : Char) : Option (List UInt8) := do
  match ← ctype.c32tomb c.toNat with
  | .ok bytes => return bytes
  | .error _ => return [byteOf '?']

/-- The text that has been generated into a buffer of 32 bytes. Nothing is added once it has turned
out to be too long. -/
structure Affix where
  text : List UInt8
  full : Bool

/-- `PUTCHAR()` in `generate_prefix()` and `generate_suffix()`. -/
def Affix.putchar (affix : Affix) (c : Char) : Affix :=
  if affix.full then affix
  else if 32 - affix.text.length = 0 then { affix with full := true }
  else { affix with text := affix.text ++ [byteOf c] }

/-- `PUTSTRING()`. -/
def Affix.putstring (ctype : LcCtype) : Affix → List Char → Option Affix
  | affix, [] => some affix
  | affix, c :: str =>
    if affix.full then
      some affix
    else if 32 - affix.text.length < mbLenMax then
      some { affix with full := true }
    else do
      let bytes ← encodeCharacter ctype c
      Affix.putstring ctype { affix with text := affix.text ++ bytes } str

/-- `PUTCHAR()` under a condition. -/
def Affix.putcharIf (affix : Affix) (condition : Bool) (c : Char) : Affix :=
  if condition then affix.putchar c else affix

/-- `PUTSTRING()` under a condition. -/
def Affix.putstringIf (ctype : LcCtype) (affix : Affix) (condition : Bool) (str : List Char) :
    Option Affix :=
  if condition then affix.putstring ctype str else some affix

/-- `generate_prefix()`. -/
def generatePrefix (ctype : LcCtype) (currencySymbol : Option (List Char)) (sign : List Char)
    (attributes : SignAttributes) (negative : Bool) (separator : Char) : Option (List UInt8) := do
  let signPosn := attributes.signPosn
  let sepBySpace := attributes.sepBySpace
  let affix := Affix.putcharIf ⟨[], false⟩ (signPosn = 0 && negative) '('
  if attributes.csPrecedes = 1 then
    let affix ← affix.putstringIf ctype (signPosn = 1 || signPosn = 3) sign
    let affix := affix.putcharIf ((signPosn = 1 || signPosn = 3) && sepBySpace = 2) ' '
    let symbol ← currencySymbol
    if symbol = [] then
      return affix.text
    else
      let affix ← affix.putstring ctype symbol
      if signPosn = 4 then
        let affix := affix.putcharIf (sepBySpace = 2) separator
        let affix ← affix.putstring ctype sign
        return (affix.putcharIf (sepBySpace = 1) ' ').text
      else
        return (affix.putcharIf (sepBySpace = 1) separator).text
  else
    let affix ← affix.putstringIf ctype (signPosn = 1) sign
    return (affix.putcharIf (signPosn = 1 && sepBySpace = 2) ' ').text

/-- The currency symbol in `generate_suffix()`. -/
def suffixSymbol (ctype : LcCtype) (symbol sign : List Char) (attributes : SignAttributes)
    (separator : Char) (affix : Affix) : Option Affix :=
  let signPosn := attributes.signPosn
  let sepBySpace := attributes.sepBySpace
  if symbol = [] then
    some affix
  else do
    let affix := affix.putcharIf ((signPosn = 3 && sepBySpace = 2) ||
      (sepBySpace = 1 && (signPosn = 0 || signPosn = 1 || signPosn = 2 || signPosn = 4))) separator
    let affix ← affix.putstring ctype symbol
    let affix := affix.putcharIf ((signPosn = 2 || signPosn = 4) && sepBySpace = 2) ' '
    affix.putstringIf ctype (signPosn = 2 || signPosn = 4) sign

/-- `generate_suffix()`. -/
def generateSuffix (ctype : LcCtype) (currencySymbol : Option (List Char)) (sign : List Char)
    (attributes : SignAttributes) (negative : Bool) (separator : Char) : Option (List UInt8) :=
  let signPosn := attributes.signPosn
  let sepBySpace := attributes.sepBySpace
  if attributes.csPrecedes = 0 then do
    let affix := Affix.putcharIf ⟨[], false⟩ (signPosn = 3 && sepBySpace = 1) ' '
    let affix ← affix.putstringIf ctype (signPosn = 3) sign
    let affix ← suffixSymbol ctype (← currencySymbol) sign attributes separator affix
    return (affix.putcharIf (signPosn = 0 && negative) ')').text
  else do
    let affix := Affix.putcharIf ⟨[], false⟩ (signPosn = 2 && sepBySpace = 2) ' '
    let affix ← affix.putstringIf ctype (signPosn = 2) sign
    return (affix.putcharIf (signPosn = 0 && negative) ')').text

/-! ## Conversions -/

/-- A conversion specification. -/
structure MonetarySpec where
  fillCharacter : UInt8
  grouping : Bool
  useParentheses : Bool
  useCurrencySymbol : Bool
  leftJustified : Bool
  fieldWidth : ℕ
  leftPrecision : ℕ
  rightPrecision : Option ℕ
  deriving DecidableEq

/-- `CONVERT_LOCALE_STRING()`, into a buffer of 16 bytes. -/
def convertLocaleString (ctype : LcCtype) : (str : List Char) → (field : List UInt8) →
    Option (List UInt8)
  | [], field => some field
  | c :: str, field =>
    if 16 - field.length < mbLenMax then
      some field
    else do
      convertLocaleString ctype str (field ++ (← encodeCharacter ctype c))

/-- A string of the locale, or its default value if it is missing or empty. -/
def orDefault (str : Option (List Char)) (default : List Char) : List Char :=
  match str with
  | none => default
  | some [] => default
  | some str => str

/-- The digit at an index, which is zero outside the array. -/
def digitAt (digits : List ℕ) (idx : ℤ) : List UInt8 :=
  [.ofNat ((if 0 ≤ idx then digits.getD idx.toNat 0 else 0) + 0x30)]

/-- The digits from an index on. -/
def digitsFrom (digits : List ℕ) (idx : ℤ) (count : ℕ) : List (List UInt8) :=
  (List.range count).map fun (i : ℕ) => digitAt digits (idx + i)

/-- The currency symbol and its separator. -/
def symbolOf (monetary : LcMonetary) (spec : MonetarySpec) (international : Bool) :
    Option (List Char) × Char :=
  if spec.useCurrencySymbol = false then
    (some [], ' ')
  else if international then
    (some ([monetary.intCurrSymbol 0, monetary.intCurrSymbol 1, monetary.intCurrSymbol 2].takeWhile
      (· ≠ '\x00')),
      if monetary.intCurrSymbol 3 = '\x00' then ' ' else monetary.intCurrSymbol 3)
  else
    (monetary.currencySymbol, ' ')

/-- The attributes for a sign. -/
def signAttributes (monetary : LcMonetary) (spec : MonetarySpec) (international negative : Bool) :
    SignAttributes :=
  let attributes := if international then monetary.intAttributes else monetary.attributes
  let attributes := if negative then attributes.negative else attributes.positive
  if spec.useParentheses then { attributes with signPosn := 0 } else attributes

/-- The sign string. -/
def signString (monetary : LcMonetary) (negative : Bool) : List Char :=
  if negative then orDefault monetary.negativeSign ['-'] else monetary.positiveSign.getD []

/-- The prefix and the suffix of a value. -/
def affixes (ctype : LcCtype) (monetary : LcMonetary) (spec : MonetarySpec)
    (international negative : Bool) : Option (List UInt8 × List UInt8) := do
  let (symbol, separator) := symbolOf monetary spec international
  let attributes := signAttributes monetary spec international negative
  let sign := signString monetary negative
  let front ← generatePrefix ctype symbol sign attributes negative separator
  let back ← generateSuffix ctype symbol sign attributes negative separator
  return (front, back)

/-- The number of fractional digits. -/
def fractionalDigits (monetary : LcMonetary) (spec : MonetarySpec) (international : Bool) : ℕ :=
  match spec.rightPrecision with
  | some rightPrecision => rightPrecision
  | none =>
    let fracDigits :=
      if international then monetary.intAttributes.fracDigits else monetary.attributes.fracDigits
    if 0 ≤ fracDigits ∧ fracDigits ≠ charMax then fracDigits.toNat else 2

/-- The value itself. The assertion is that all digits have been printed. -/
structure Amount where
  /-- The digits in front of the radix character, with separators. -/
  left : List UInt8
  /-- The fill characters that the left precision asks for. -/
  fill : List UInt8
  /-- The radix character and the digits behind it. -/
  right : List UInt8
  /-- The space for what is in front of the radix character. -/
  leftWidth : ℕ
  deriving DecidableEq

/-- The value is converted to decimal digits. -/
def amount (ctype : LcCtype) (monetary : LcMonetary) (round : RoundingMode) (spec : MonetarySpec)
    (international negative : Bool) (value : Shortest) : Option Amount := do
  let thousandsSep ← convertLocaleString ctype (orDefault monetary.monThousandsSep []) []
  let decimalPoint ← convertLocaleString ctype (orDefault monetary.monDecimalPoint ['.']) []
  let rightPrecision := fractionalDigits monetary spec international
  let (digits, exponent) ← f10dec negative value rightPrecision decimalDig round
  let grouping := if spec.grouping then monetary.monGrouping else none
  let leftDigits := if exponent ≥ 1 then exponent.toNat else 1
  let (numericGrouping, separators) ← numericGroupingInit grouping leftDigits
  let (_, precisionSeparators) ← numericGroupingInit grouping spec.leftPrecision
  let leftDigitsWithGrouping := leftDigits + separators * thousandsSep.length
  let leftPrecisionWithGrouping :=
    spec.leftPrecision + precisionSeparators * thousandsSep.length
  let idx := if exponent ≥ 1 then 0 else exponent - 1
  let left ← groupDigits thousandsSep grouping numericGrouping (digitsFrom digits idx leftDigits)
  let right := digitsFrom digits (idx + leftDigits) rightPrecision
  if (digits.length : ℤ) ≤ idx + leftDigits + rightPrecision then
    return {
      left := left.flatten
      fill := List.replicate (leftPrecisionWithGrouping - leftDigitsWithGrouping) spec.fillCharacter
      right := if 0 < rightPrecision then decimalPoint ++ right.flatten else []
      leftWidth := max leftDigitsWithGrouping leftPrecisionWithGrouping }
  else
    none

/-- The text of a value with its prefix and suffix, and the space for those of the opposite sign. -/
def layOut (spec : MonetarySpec) (amount : Amount) (front back : List UInt8)
    (oppositeFront oppositeBack : ℕ) : List UInt8 :=
  let width := max front.length oppositeFront + amount.leftWidth + amount.right.length +
    max back.length oppositeBack
  let padding := List.replicate (spec.fieldWidth - width) (byteOf ' ')
  (if spec.leftJustified then [] else padding) ++
    List.replicate (oppositeFront - front.length) (byteOf ' ') ++ front ++ amount.fill ++
    amount.left ++ amount.right ++ back ++
    List.replicate (oppositeBack - back.length) (byteOf ' ') ++
    if spec.leftJustified then padding else []

/-- The conversions `%i` and `%n`. -/
def convert (ctype : LcCtype) (monetary : LcMonetary) (round : RoundingMode) (spec : MonetarySpec)
    (international negative : Bool) (value : Shortest) : Option (List UInt8) := do
  let (front, back) ← affixes ctype monetary spec international negative
  let amount ← amount ctype monetary round spec international negative value
  if spec.leftPrecision > 0 then
    let (oppositeFront, oppositeBack) ← affixes ctype monetary spec international (!negative)
    return layOut spec amount front back oppositeFront.length oppositeBack.length
  else
    return layOut spec amount front back 0 0

/-! ## Formats -/

/-- The loop over the flags. -/
def parseMonetaryFlags : (fuel : ℕ) → MonetarySpec → List UInt8 →
    Option (MonetarySpec × List UInt8)
  | 0, _, _ => none
  | _ + 1, spec, [] => some (spec, [])
  | fuel + 1, spec, c :: format =>
    match charOf c with
    | '=' =>
      match format with
      | [] => none
      | fill :: format => parseMonetaryFlags fuel { spec with fillCharacter := fill } format
    | '^' => parseMonetaryFlags fuel { spec with grouping := false } format
    | '+' => parseMonetaryFlags fuel { spec with useParentheses := false } format
    | '(' => parseMonetaryFlags fuel { spec with useParentheses := true } format
    | '!' => parseMonetaryFlags fuel { spec with useCurrencySymbol := false } format
    | '-' => parseMonetaryFlags fuel { spec with leftJustified := true } format
    | _ => some (spec, c :: format)

/-- The loop over the digits of a number of type `unsigned int`. -/
def parseMonetaryNumber : (number : ℕ) → List UInt8 → ℕ × List UInt8
  | number, [] => (number, [])
  | number, c :: format =>
    if 0x30 ≤ c.toNat ∧ c.toNat ≤ 0x39 then
      parseMonetaryNumber ((number * 10 + (c.toNat - 0x30)) % 2 ^ 32) format
    else
      (number, c :: format)

/-- The specification behind a percent sign. -/
def parseMonetarySpec (format : List UInt8) : Option (MonetarySpec × List UInt8) := do
  let (spec, format) ← parseMonetaryFlags (format.length + 1)
    ⟨byteOf ' ', true, false, true, false, 0, 0, none⟩ format
  let (fieldWidth, format) := parseMonetaryNumber 0 format
  let (leftPrecision, format) :=
    if format.head? = some (byteOf '#') then parseMonetaryNumber 0 format.tail else (0, format)
  let (rightPrecision, format) :=
    if format.head? = some (byteOf '.') then
      let (rightPrecision, format) := parseMonetaryNumber 0 format.tail
      (some rightPrecision, format)
    else
      (none, format)
  return ({ spec with fieldWidth, leftPrecision, rightPrecision }, format)

/-- The loop over the format. -/
def vstrfmonLoop (ctype : LcCtype) (monetary : LcMonetary) (round : RoundingMode) :
    (fuel : ℕ) → (format : List UInt8) → (ap : List (Bool × Shortest)) → Option (List UInt8)
  | 0, _, _ => none
  | _ + 1, [], _ => some []
  | fuel + 1, c :: format, ap => do
      if c = byteOf '%' then
        let (spec, format) ← parseMonetarySpec format
        match format, ap with
        | [], _ => none
        | c :: format, ap =>
          if c = byteOf 'i' ∨ c = byteOf 'n' then
            match ap with
            | [] => none
            | (negative, value) :: ap =>
              let text ← convert ctype monetary round spec (c = byteOf 'i') negative value
              return text ++ (← vstrfmonLoop ctype monetary round fuel format ap)
          else if c = byteOf '%' then
            return byteOf '%' :: (← vstrfmonLoop ctype monetary round fuel format ap)
          else
            vstrfmonLoop ctype monetary round fuel format ap
      else
        return c :: (← vstrfmonLoop ctype monetary round fuel format ap)

/-- `vstrfmon_l()`. The result is the string in the buffer. -/
def vstrfmonL (ctype : LcCtype) (monetary : LcMonetary) (round : RoundingMode) (maxsize : ℕ)
    (format : List UInt8) (ap : List (Bool × Shortest)) :
    Option (Except Errno (List UInt8)) :=
  (vstrfmonLoop ctype monetary round (format.length + 1) format ap).map fun text =>
    if text.length + 1 ≤ maxsize then .ok text else .error .E2BIG

end Cloudlibc.Monetary
