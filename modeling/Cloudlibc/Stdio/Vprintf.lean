import Cloudlibc.Locale.Ctype
import Cloudlibc.Locale.NumericGrouping
import Cloudlibc.Stdio.PrintScan

/-!
# `vsnprintf_l()`

The narrow variant of `common/vprintf.h` and `common/vprintf_body.h`. A format is the list of its
bytes without the null byte at the end, and the output is the list of the bytes that are passed to
`PUTCHAR()`. An argument is the slot of 64 bits that `va_arg()` takes it from; a type of less bits
has the lower bits of the slot. The model fails where the code reads outside an object, reads an
object that has no value, or computes a number that does not fit.

The conversions of floating-point numbers and `%m` are not modelled.
-/

set_option autoImplicit false

namespace Cloudlibc.Stdio

open Cloudlibc.Locale Cloudlibc.Loop

/-! ## Arguments -/

/-- The locale, and the memory that pointers point into. -/
structure PrintEnvironment where
  ctype : LcCtype
  numeric : LcNumeric
  memory : ℕ → Option UInt8

/-- The arguments are an argument list, or the array `numarg_values` of numbered arguments. -/
inductive Arguments
  | list (ap : List (BitVec 64))
  | numbered (values : List (BitVec 64))
  deriving DecidableEq

/-- The next argument of a list, or the argument with an index. -/
def Arguments.get : Arguments → ℕ → Option (BitVec 64 × Arguments)
  | .list [], _ => none
  | .list (slot :: ap), _ => some (slot, .list ap)
  | .numbered values, index => values[index]?.map (·, .numbered values)

/-- `PARSE_ARGNUM()`. -/
def Arguments.parseArgnum (arguments : Arguments) (format : List UInt8) : ℕ × List UInt8 :=
  match arguments with
  | .list _ => (0, format)
  | .numbered _ =>
    let (numarg, format) := getNumarg format
    ((numarg + (2 ^ 64 - 1)) % 2 ^ 64, format)

/-- The number of bits of the integer type of a length modifier. -/
def LengthModifier.bits : LengthModifier → ℕ
  | .shortShort => 8
  | .short => 16
  | .default => 32
  | .long => 64
  | .longLong => 64
  | .longDouble => 32

/-- `GET_ARG_SINT_LM()`. -/
def argSint (length : LengthModifier) (slot : BitVec 64) : ℤ := (slot.setWidth length.bits).toInt

/-- `GET_ARG_UINT_LM()`. -/
def argUint (length : LengthModifier) (slot : BitVec 64) : ℕ := (slot.setWidth length.bits).toNat

/-! ## Conversion specifications -/

/-- The flags of a conversion specification. There is no sign for positive numbers if
`positiveSign` is `none`. -/
structure PrintFlags where
  grouping : Bool
  positiveSign : Option Char
  leftJustified : Bool
  alternativeForm : Bool
  zeroPadding : Bool
  deriving DecidableEq

/-- The effect of one flag. -/
def PrintFlags.parse (flags : PrintFlags) (c : Char) : Option PrintFlags :=
  match c with
  | '\x27' => some { flags with grouping := true }
  | '-' => some { flags with leftJustified := true }
  | '+' => some { flags with positiveSign := some '+' }
  | ' ' =>
    some (if flags.positiveSign ≠ some '+' then { flags with positiveSign := some ' ' } else flags)
  | '#' => some { flags with alternativeForm := true }
  | '0' => some { flags with zeroPadding := true }
  | _ => none

/-- The loop over the flags. -/
def parseFlags : PrintFlags → List UInt8 → PrintFlags × List UInt8
  | flags, [] => (flags, [])
  | flags, c :: format =>
    match flags.parse (charOf c) with
    | some flags => parseFlags flags format
    | none => (flags, c :: format)

/-- A conversion specification up to its specifier. -/
structure PrintConversion where
  argValue : ℕ
  flags : PrintFlags
  fieldWidth : ℕ
  precision : ℤ
  length : LengthModifier

/-- The field width. A negative argument becomes a large number. -/
def parseFieldWidth (arguments : Arguments) (format : List UInt8) :
    Option (ℕ × List UInt8 × Arguments) := do
  if peek format 0 = byteOf '*' then
    let (argFieldWidth, format) := arguments.parseArgnum (format.drop 1)
    let (slot, arguments) ← arguments.get argFieldWidth
    return ((argSint .default slot % 2 ^ 64).toNat, format, arguments)
  else
    let (fieldWidth, format) ← getNumber format
    return (fieldWidth, format, arguments)

/-- The precision. -/
def parsePrecision (arguments : Arguments) (format : List UInt8) :
    Option (ℤ × List UInt8 × Arguments) := do
  if peek format 0 = byteOf '.' then
    let format := format.drop 1
    if peek format 0 = byteOf '*' then
      let (argPrecision, format) := arguments.parseArgnum (format.drop 1)
      let (slot, arguments) ← arguments.get argPrecision
      return (argSint .default slot, format, arguments)
    else
      let (precision, format) ← getNumber format
      return ((precision : ℤ), format, arguments)
  else
    return (-1, format, arguments)

/-- The specification behind a percent sign, up to its specifier. -/
def parseConversion (arguments : Arguments) (format : List UInt8) :
    Option (PrintConversion × List UInt8 × Arguments) := do
  let (argValue, format) := arguments.parseArgnum format
  let (flags, format) := parseFlags ⟨false, none, false, false, false⟩ format
  let flags := if flags.leftJustified then { flags with zeroPadding := false } else flags
  let (fieldWidth, format, arguments) ← parseFieldWidth arguments format
  let (precision, format, arguments) ← parsePrecision arguments format
  let (length, format) := getLengthModifier format
  return (⟨argValue, flags, fieldWidth, precision, length⟩, format, arguments)

/-! ## Integers -/

/-- `PAD_TO_FIELD_WIDTH()`: the padding, and the field width that is left. -/
def padToFieldWidth (padding : Char) (fieldWidth width : ℕ) : List UInt8 × ℕ :=
  (List.replicate (fieldWidth - width) (byteOf padding), min fieldWidth width)

/-- The loop that stores the digits of a number in front of each other. -/
def digitsLoop (charset : List Char) (base : ℕ) :
    (room : ℕ) → (value : ℕ) → (digits : List UInt8) → Option (List UInt8)
  | 0, _, _ => none
  | room + 1, value, digits => do
      let digit ← charset[value % base]?
      if value / base = 0 then
        return byteOf digit :: digits
      else
        digitsLoop charset base room (value / base) (byteOf digit :: digits)

/-- `number_charset`. -/
def numberCharset (specifier : Char) : List Char :=
  if specifier ≥ 'a' then
    ['0', '1', '2', '3', '4', '5', '6', '7', '8', '9', 'a', 'b', 'c', 'd', 'e', 'f']
  else
    ['0', '1', '2', '3', '4', '5', '6', '7', '8', '9', 'A', 'B', 'C', 'D', 'E', 'F']

/-- Integer printing. -/
def printInteger (env : PrintEnvironment) (conversion : PrintConversion) (charset : List Char)
    (base value : ℕ) (numberPrefix : List Char) : Option (List UInt8) := do
  let digits ← digitsLoop charset base 24 value []
  let grouping := if conversion.flags.grouping then env.numeric.grouping else none
  let (ng, separators) ← numericGroupingInit grouping digits.length
  let width := digits.length + separators
  let width := if (width : ℤ) < conversion.precision then conversion.precision.toNat else width
  let width := width + numberPrefix.length
  let fieldWidth := conversion.fieldWidth
  let (front, fieldWidth) :=
    if conversion.flags.zeroPadding ∧ conversion.precision < 0 then
      let (padding, fieldWidth) := padToFieldWidth '0' fieldWidth width
      (numberPrefix.map byteOf ++ padding, fieldWidth)
    else if conversion.flags.leftJustified then
      (numberPrefix.map byteOf, fieldWidth)
    else
      let (padding, fieldWidth) := padToFieldWidth ' ' fieldWidth width
      (padding ++ numberPrefix.map byteOf, fieldWidth)
  -- The counter is decremented once more after the last zero.
  if conversion.precision = -2 ^ 31 then
    none
  else
    let zeros := List.replicate (conversion.precision - digits.length).toNat (byteOf '0')
    let grouped ← groupDigits (byteOf (env.numeric.thousandsSep.headD '\x00')) grouping ng digits
    let (padding, _) := padToFieldWidth ' ' fieldWidth width
    return front ++ zeros ++ grouped ++ padding

/-- The value and the prefix of a signed integer. -/
def signedInteger (conversion : PrintConversion) (value : ℤ) : Option (ℕ × List Char) :=
  if 0 ≤ value then
    some (value.toNat, conversion.flags.positiveSign.toList)
  else if value = -2 ^ 63 then
    none
  else
    some ((-value).toNat, ['-'])

/-- The prefix of an unsigned integer. -/
def unsignedPrefix (conversion : PrintConversion) (value : ℕ) (text : List Char) : List Char :=
  if conversion.flags.alternativeForm ∧ value ≠ 0 then text else []

/-! ## Strings -/

/-- `strnlen()` and the loop over a string: the bytes of the string, at most `limit`. -/
def stringBytes (string : ℕ → Option UInt8) : (limit : ℕ) → (i : ℕ) → Option (List UInt8)
  | 0, _ => some []
  | limit + 1, i => do
      let c ← string i
      if c = 0 then
        return []
      else
        return c :: (← stringBytes string limit (i + 1))

/-- String printing. -/
def printString (conversion : PrintConversion) (string : ℕ → Option UInt8) :
    Option (List UInt8) := do
  let bytes ← stringBytes string (conversion.precision % 2 ^ 64).toNat 0
  let (padding, _) := padToFieldWidth ' ' conversion.fieldWidth bytes.length
  return if conversion.flags.leftJustified then bytes ++ padding else padding ++ bytes

/-- One pass of the loop over a wide string that is left-justified. The state is the index of the
next character and the bytes so far. -/
def wideLeftPass (env : PrintEnvironment) (wstring : ℕ → Option ℕ) (precision : ℕ)
    (state : ℕ × List UInt8) :
    Option (Pass (ℕ × List UInt8) (Except (Errno × List UInt8) (List UInt8))) := do
  let (i, bytes) := state
  if bytes.length < precision then
    let wc ← wstring i
    if wc = 0 then
      return .leave (.ok bytes)
    else
      match ← env.ctype.c32tomb wc with
      | .error errno => return .leave (.error (errno, bytes))
      | .ok buf =>
        if bytes.length + buf.length > precision then
          return .leave (.ok bytes)
        else
          return .again (i + 1, bytes ++ buf)
  else
    return .leave (.ok bytes)

/-- One pass of the loop that computes the width of a wide string. The state is the index of the
next character and the width so far. -/
def wideWidthPass (env : PrintEnvironment) (wstring : ℕ → Option ℕ) (precision : ℕ)
    (state : ℕ × ℕ) : Option (Pass (ℕ × ℕ) (Except Errno (ℕ × ℕ))) := do
  let (i, width) := state
  if width < precision then
    let wc ← wstring i
    if wc = 0 then
      return .leave (.ok (i, width))
    else
      match ← env.ctype.c32tomb wc with
      | .error errno => return .leave (.error errno)
      | .ok buf =>
        -- The end has been moved behind the character, even if it does not fit.
        if width + buf.length > precision then
          return .leave (.ok (i + 1, width))
        else
          return .again (i + 1, width + buf.length)
  else
    return .leave (.ok (i, width))

/-- The bytes of the wide characters from an index to another. -/
def wideBytes (env : PrintEnvironment) (wstring : ℕ → Option ℕ) :
    (count : ℕ) → (i : ℕ) → Option (List UInt8)
  | 0, _ => some []
  | count + 1, i => do
      match ← env.ctype.c32tomb (← wstring i) with
      | .error _ => wideBytes env wstring count (i + 1)
      | .ok buf => return buf ++ (← wideBytes env wstring count (i + 1))

/-- Wide string printing. The result has the bytes that have been printed. A string has less than
`2 ^ 62` characters. -/
def printWideString (env : PrintEnvironment) (conversion : PrintConversion)
    (wstring : ℕ → Option ℕ) : Option (Except (Errno × List UInt8) (List UInt8)) := do
  let precision := (conversion.precision % 2 ^ 64).toNat
  if conversion.flags.leftJustified then
    match ← run (wideLeftPass env wstring precision) (2 ^ 62) (0, []) with
    | .error bad => return .error bad
    | .ok bytes =>
      let (padding, _) := padToFieldWidth ' ' conversion.fieldWidth bytes.length
      return .ok (bytes ++ padding)
  else
    match ← run (wideWidthPass env wstring precision) (2 ^ 62) (0, 0) with
    | .error errno => return .error (errno, [])
    | .ok (wstringEnd, width) =>
      let (padding, _) := padToFieldWidth ' ' conversion.fieldWidth width
      return .ok (padding ++ (← wideBytes env wstring wstringEnd 0))

/-- The byte string that a pointer points to. -/
def pointedString (env : PrintEnvironment) (slot : BitVec 64) (i : ℕ) : Option UInt8 :=
  if slot.toNat = 0 then
    (['(', 'n', 'u', 'l', 'l', ')', '\x00'].map byteOf)[i]?
  else
    env.memory (slot.toNat + i)

/-- The wide string that a pointer points to. A wide character has four bytes, the least significant
one first. -/
def pointedWideString (env : PrintEnvironment) (slot : BitVec 64) (i : ℕ) : Option ℕ :=
  if slot.toNat = 0 then
    (['(', 'n', 'u', 'l', 'l', ')', '\x00'].map Char.toNat)[i]?
  else do
    let b0 ← env.memory (slot.toNat + 4 * i)
    let b1 ← env.memory (slot.toNat + 4 * i + 1)
    let b2 ← env.memory (slot.toNat + 4 * i + 2)
    let b3 ← env.memory (slot.toNat + 4 * i + 3)
    return b0.toNat + 2 ^ 8 * b1.toNat + 2 ^ 16 * b2.toNat + 2 ^ 24 * b3.toNat

/-- The buffer `string_buf` of a `%c` conversion. -/
def characterString (slot : BitVec 64) (i : ℕ) : Option UInt8 :=
  [UInt8.ofBitVec (slot.setWidth 8), 0][i]?

/-- The buffer `wstring_buf` of a conversion of a wide character. Nothing is stored behind the
character: where the code for `%lc` stores a null character, it does so in `string_buf`. -/
def wideCharacterString (slot : BitVec 64) (i : ℕ) : Option ℕ :=
  [(slot.setWidth 32).toNat][i]?

/-! ## The loop over the format -/

/-- The variables of the loop over the format. -/
structure Printing where
  format : List UInt8
  arguments : Arguments
  output : List UInt8
  deriving DecidableEq

/-- The output, and the error if the function fails. -/
structure PrintResult where
  error : Option Errno
  output : List UInt8
  deriving DecidableEq

/-- The way out of a conversion. -/
def Printing.print (printing : Printing) (text : List UInt8) : Pass Printing PrintResult :=
  .again { printing with output := printing.output ++ text }

/-- The way out of a conversion of a wide string. -/
def Printing.printWide (printing : Printing) (text : Except (Errno × List UInt8) (List UInt8)) :
    Pass Printing PrintResult :=
  match text with
  | .ok text => printing.print text
  | .error (errno, text) => .leave ⟨some errno, printing.output ++ text⟩

/-- The `switch` over the specifier. `printing` is the state behind the specifier. -/
def specifierPass (env : PrintEnvironment) (conversion : PrintConversion) (specifier : Char)
    (printing : Printing) : Option (Pass Printing PrintResult) := do
  if specifier ∈ ['d', 'i'] then
    let (slot, arguments) ← printing.arguments.get conversion.argValue
    let (value, numberPrefix) ← signedInteger conversion (argSint conversion.length slot)
    let text ← printInteger env conversion (numberCharset specifier) 10 value numberPrefix
    return { printing with arguments }.print text
  else if specifier ∈ ['o', 'u', 'x', 'X'] then
    let (slot, arguments) ← printing.arguments.get conversion.argValue
    let value := argUint conversion.length slot
    let (base, numberPrefix) :=
      if specifier = 'o' then (8, unsignedPrefix conversion value ['0'])
      else if specifier = 'u' then (10, [])
      else if specifier = 'x' then (16, unsignedPrefix conversion value ['0', 'x'])
      else (16, unsignedPrefix conversion value ['0', 'X'])
    let text ← printInteger env conversion (numberCharset specifier) base value numberPrefix
    return { printing with arguments }.print text
  else if specifier = 'c' then
    let (slot, arguments) ← printing.arguments.get conversion.argValue
    if conversion.length = .long then
      let text ← printWideString env conversion (wideCharacterString slot)
      return { printing with arguments }.printWide text
    else
      let text ← printString conversion (characterString slot)
      return { printing with arguments }.print text
  else if specifier = 's' then
    let (slot, arguments) ← printing.arguments.get conversion.argValue
    if conversion.length = .long then
      let text ← printWideString env conversion (pointedWideString env slot)
      return { printing with arguments }.printWide text
    else
      let text ← printString conversion (pointedString env slot)
      return { printing with arguments }.print text
  else if specifier = 'p' then
    let (slot, arguments) ← printing.arguments.get conversion.argValue
    let text ← printInteger env conversion (numberCharset specifier) 16 slot.toNat ['0', 'x']
    return { printing with arguments }.print text
  else if specifier = 'C' then
    let (slot, arguments) ← printing.arguments.get conversion.argValue
    let text ← printWideString env conversion (wideCharacterString slot)
    return { printing with arguments }.printWide text
  else if specifier = 'S' then
    let (slot, arguments) ← printing.arguments.get conversion.argValue
    let text ← printWideString env conversion (pointedWideString env slot)
    return { printing with arguments }.printWide text
  else if specifier = '%' then
    return printing.print [byteOf '%']
  else if specifier ∈ ['f', 'F', 'e', 'E', 'g', 'G', 'a', 'A', 'm'] then
    none
  else
    return .again printing

/-- One pass of the loop over the format. -/
def formatPass (env : PrintEnvironment) (printing : Printing) :
    Option (Pass Printing PrintResult) := do
  match printing.format with
  | [] => return .leave ⟨none, printing.output⟩
  | c :: format =>
    if c = byteOf '%' then
      let (conversion, format, arguments) ← parseConversion printing.arguments format
      match format with
      | [] => none
      | specifier :: format =>
        specifierPass env conversion (charOf specifier) { printing with format, arguments }
    else
      return { printing with format }.print [c]

/-- The loop over the format. Every pass reads at least one byte. -/
def vprintfBody (env : PrintEnvironment) (arguments : Arguments) (format : List UInt8) :
    Option PrintResult :=
  run (formatPass env) (format.length + 1) ⟨format, arguments, []⟩

/-! ## Numbered arguments -/

/-- The specifiers that `get_numarg_max()` looks for. -/
def specifiers : List Char :=
  ['d', 'i', 'o', 'u', 'x', 'X', 'f', 'F', 'e', 'E', 'g', 'G', 'a', 'A', 'c', 's', 'p', 'C', 'S', '%',
    'm']

/-- One pass of the inner loop of `get_numarg_max()`, which looks for a specifier. The loop has no
result if an argument has no number. -/
def numargMaxSkipPass (state : ℕ × List UInt8) :
    Option (Pass (ℕ × List UInt8) (Option (ℕ × List UInt8))) :=
  let (maxNumarg, format) := state
  match format with
  | [] => some (.leave (some (maxNumarg, [])))
  | c :: format =>
    if charOf c ∈ specifiers then
      some (.leave (some (maxNumarg, c :: format)))
    else if c = byteOf '*' then
      let (numarg, format) := getNumarg format
      if numarg = 0 then some (.leave none) else some (.again (max maxNumarg numarg, format))
    else
      some (.again (maxNumarg, format))

/-- One pass of the loop of `get_numarg_max()`. -/
def numargMaxPass (state : ℕ × List UInt8) : Option (Pass (ℕ × List UInt8) ℕ) := do
  let (maxNumarg, format) := state
  match format with
  | [] => return .leave maxNumarg
  | c :: format =>
    if c = byteOf '%' then
      let (numarg, format) := getNumarg format
      match ← run numargMaxSkipPass (format.length + 1) (max maxNumarg numarg, format) with
      | none => return .leave 0
      | some (maxNumarg, format) =>
        let specifier := charOf (peek format 0)
        if specifier ≠ '%' ∧ specifier ≠ 'm' ∧ numarg = 0 then
          return .leave 0
        else
          return .again (maxNumarg, format)
    else
      return .again (maxNumarg, format)

/-- `get_numarg_max()`. -/
def getNumargMax (format : List UInt8) : Option ℕ :=
  run numargMaxPass (format.length + 1) (0, format)

/-- The kinds of an argument. -/
inductive NumargKind
  | sint
  | uint
  | pointer
  | float
  deriving DecidableEq

/-- `struct numarg_type`, whose fields may have no value. -/
structure NumargType where
  kind : Option NumargKind
  modifier : Option LengthModifier
  deriving DecidableEq

/-- Store through an array of types. -/
def setType (types : List NumargType) (index : ℕ) (update : NumargType → NumargType) :
    Option (List NumargType) :=
  if index < types.length then some (types.modify index update) else none

/-- The types of the arguments of a specifier, if there is no length modifier in front of it. -/
def specifierType (specifier : Char) (length : LengthModifier) (type : NumargType) : NumargType :=
  if specifier ∈ ['d', 'i'] then
    ⟨some .sint, some length⟩
  else if specifier ∈ ['o', 'u', 'x', 'X'] then
    ⟨some .uint, some length⟩
  else if specifier ∈ ['f', 'F', 'e', 'E', 'g', 'G', 'a', 'A'] then
    ⟨some .float, some length⟩
  else if specifier = 'c' then
    if length = .long then ⟨some .sint, some .default⟩ else ⟨some .uint, some .shortShort⟩
  else if specifier = 'C' then
    ⟨some .sint, some .default⟩
  else if specifier ∈ ['s', 'p', 'S'] then
    ⟨some .pointer, some length⟩
  else
    { type with modifier := some length }

/-- The type of the argument of an asterisk. -/
def starType (types : List NumargType) (format : List UInt8) :
    Option (List NumargType × List UInt8) := do
  let (numarg, format) := getNumarg format
  let types ← setType types ((numarg + (2 ^ 64 - 1)) % 2 ^ 64) fun _ => ⟨some .sint, some .default⟩
  return (types, format)

/-- The types of the arguments of a number or an asterisk. -/
def numberType (types : List NumargType) (format : List UInt8) :
    Option (List NumargType × List UInt8) := do
  if peek format 0 = byteOf '*' then
    starType types (format.drop 1)
  else
    let (_, format) ← getNumber format
    return (types, format)

/-- The bytes of the flags. -/
def isFlag (b : UInt8) : Bool := charOf b ∈ ['\x27', '-', '+', ' ', '#', '0']

/-- One pass of the loop of `get_numarg_types()`. -/
def numargTypesPass (state : List NumargType × List UInt8) :
    Option (Pass (List NumargType × List UInt8) (List NumargType)) := do
  let (types, format) := state
  match format with
  | [] => return .leave types
  | c :: format =>
    if c = byteOf '%' then
      let (argValue, format) := getNumarg format
      let format := format.dropWhile isFlag
      let (types, format) ← numberType types format
      let (types, format) ←
        if peek format 0 = byteOf '.' then numberType types (format.drop 1)
        else some (types, format)
      match format with
      | [] => none
      | specifier :: format =>
        if argValue = 0 then
          return .again (types, format)
        else
          -- The length modifier is looked for behind the specifier.
          let (length, format) := getLengthModifier format
          let types ← setType types (argValue - 1) (specifierType (charOf specifier) length)
          return .again (types, format)
    else
      return .again (types, format)

/-- `get_numarg_types()`. -/
def getNumargTypes (numargMax : ℕ) (format : List UInt8) : Option (List NumargType) :=
  run numargTypesPass (format.length + 1) (List.replicate numargMax ⟨none, none⟩, format)

/-- `get_numarg_values()`. -/
def getNumargValues : List NumargType → List (BitVec 64) → Option (List (BitVec 64))
  | [], _ => some []
  | _ :: _, [] => none
  | type :: types, slot :: ap => do
      let value ←
        match ← type.kind with
        | .sint => some (BitVec.ofInt 64 (argSint (← type.modifier) slot))
        | .uint => some (BitVec.ofNat 64 (argUint (← type.modifier) slot))
        | .pointer => some slot
        | .float => none
      return value :: (← getNumargValues types ap)

/-! ## The functions -/

/-- The output of the functions of the family. -/
def vprintf (env : PrintEnvironment) (format : List UInt8) (ap : List (BitVec 64)) :
    Option PrintResult := do
  let numargMax ← getNumargMax format
  if numargMax > 0 then
    let types ← getNumargTypes numargMax format
    let values ← getNumargValues types ap
    vprintfBody env (.numbered values) format
  else
    vprintfBody env (.list ap) format

/-- `vsnprintf_l()`: the return value and the bytes stored in `s`. -/
def vsnprintf (env : PrintEnvironment) (n : ℕ) (format : List UInt8) (ap : List (BitVec 64)) :
    Option (ℤ × List UInt8) := do
  let result ← vprintf env format ap
  let stored := result.output.take (n - 1)
  match result.error with
  | some _ => return (-1, stored)
  | none => return (Int.bmod result.output.length (2 ^ 32), if n > 0 then stored ++ [0] else stored)

end Cloudlibc.Stdio
