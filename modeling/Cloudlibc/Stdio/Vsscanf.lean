import Cloudlibc.Locale.SingleByte
import Cloudlibc.Stdio.NumberParsers

/-!
# `vsscanf_l()`

The narrow variant of `common/vscanf.h` that reads from a string. The input and the format are the
lists of their bytes without the null byte at the end. The pointers of the argument list are
numbered, and what is stored through them is recorded.

The function is a loop over a state. One pass is one pass of the loop over the format, or one pass
of the outer loop of the `%s` conversion, which is the only other loop that the input does not
bound. A pass that reads behind the end of the format, or computes a number that does not fit,
fails.
-/

set_option autoImplicit false

namespace Cloudlibc.Stdio

open Cloudlibc.Locale Cloudlibc.Loop

/-! ## States -/

/-- What is stored through a pointer of the argument list. -/
inductive Stored
  | integer (length : LengthModifier) (value : ℤ)
  | float (length : LengthModifier) (negative : Bool) (literal : FloatLiteral)
  | string (allocated : Bool) (bytes : List UInt8)
  deriving DecidableEq, Repr

/-- The locale, and the answers of `reallocarray()` to the calls made. -/
structure ScanEnvironment where
  ctype : LcCtype
  decimalPoint : List ℕ
  decimalDig : ℕ
  reallocarray : ℕ → Bool

/-- The variables of the loop over the format. `reallocs` counts the calls of `reallocarray()`. -/
structure Scan where
  format : List UInt8
  input : List UInt8
  inputRead : ℕ
  conversionsPerformed : ℕ
  ap : ℕ
  freelistused : ℕ
  freelistlen : ℕ
  reallocs : ℕ
  stored : List (ℕ × Stored)

/-- The return value, and what has been stored through which argument. -/
structure ScanResult where
  ret : ℤ
  stored : List (ℕ × Stored)
  deriving DecidableEq

/-- A conversion specification up to its specifier. -/
structure Conversion where
  suppress : Bool
  argument : ℕ
  fieldWidth : ℕ
  allocate : Bool
  length : LengthModifier

/-- The output of a string conversion: the bytes so far and the size of the buffer. -/
structure StringOutput where
  out : List UInt8
  outlen : ℕ

/-- A state is at the head of the loop over the format, or at the head of the outer loop of the
`%s` conversion, with its variables `idx` and `i`. -/
inductive ScanState
  | main (scan : Scan)
  | string (scan : Scan) (conversion : Conversion) (idx i : ℕ) (output : StringOutput)

/-- `done:`. -/
def Scan.done (scan : Scan) : ScanResult := ⟨scan.conversionsPerformed, scan.stored⟩

/-- `bad:`, which returns `EOF`. -/
def Scan.bad (scan : Scan) : ScanResult := ⟨-1, scan.stored⟩

/-- `INPUT_SKIP()`. -/
def Scan.skip (scan : Scan) (n : ℕ) : Scan :=
  { scan with input := scan.input.drop n, inputRead := scan.inputRead + n }

/-- `CONVERSION_PERFORMED()`. -/
def Scan.performed (scan : Scan) (conversion : Conversion) : Scan :=
  if conversion.suppress then scan
  else { scan with conversionsPerformed := scan.conversionsPerformed + 1 }

/-- Store a value through the argument of a conversion. -/
def Scan.store (scan : Scan) (conversion : Conversion) (value : Stored) : Scan :=
  if conversion.suppress then scan
  else { scan with stored := scan.stored ++ [(conversion.argument, value)] }

/-- The way out of a pass that goes on with the format. -/
def next (scan : Scan) : Pass ScanState ScanResult := .again (.main scan)

/-! ## Strings -/

/-- `ARGUMENT_STR_START()`. -/
def stringStart (conversion : Conversion) : StringOutput :=
  ⟨[], if conversion.allocate then 0 else 2 ^ 64 - 1⟩

/-- `ARGUMENT_STR_APPEND()`. The buffer is not enlarged if an allocation fails. -/
def stringAppend (env : ScanEnvironment) (conversion : Conversion) (scan : Scan)
    (output : StringOutput) (c : UInt8) : Scan × Option StringOutput :=
  if conversion.suppress then
    (scan, some output)
  else if output.out.length + 2 > output.outlen then
    let scan' := { scan with reallocs := scan.reallocs + 1 }
    if env.reallocarray scan.reallocs then
      (scan', some ⟨output.out ++ [c], if output.outlen < 16 then 16 else output.outlen * 2⟩)
    else
      (scan', none)
  else
    (scan, some ⟨output.out ++ [c], output.outlen⟩)

/-- `ARGUMENT_STR_APPEND()` for several characters. -/
def stringAppendAll (env : ScanEnvironment) (conversion : Conversion) :
    Scan → StringOutput → List UInt8 → Scan × Option StringOutput
  | scan, output, [] => (scan, some output)
  | scan, output, c :: cs =>
    match stringAppend env conversion scan output c with
    | (scan, none) => (scan, none)
    | (scan, some output) => stringAppendAll env conversion scan output cs

/-- `ARGUMENT_STR_FINISH_NULL()` and `ARGUMENT_STR_FINISH_NONULL()`, followed by `INPUT_SKIP()`. -/
def stringFinish (env : ScanEnvironment) (conversion : Conversion) (scan : Scan)
    (bytes : List UInt8) (skipped : ℕ) : Pass ScanState ScanResult :=
  if conversion.suppress = false ∧ conversion.allocate then
    if scan.freelistused + 1 > scan.freelistlen then
      let scan' := { scan with reallocs := scan.reallocs + 1 }
      if env.reallocarray scan.reallocs then
        let freelistlen := if scan.freelistlen < 4 then 4 else scan.freelistlen * 2
        let scan' := { scan' with freelistused := scan.freelistused + 1, freelistlen := freelistlen }
        next (((scan'.store conversion (.string true bytes)).performed conversion).skip skipped)
      else
        .leave scan'.bad
    else
      let scan' := { scan with freelistused := scan.freelistused + 1 }
      next (((scan'.store conversion (.string true bytes)).performed conversion).skip skipped)
  else
    next (((scan.store conversion (.string false bytes)).performed conversion).skip skipped)

/-- The inner loop of the `%s` conversion: the number of bytes of the next character, or none at the
end of the string. The field has `width` bytes left. -/
def peekCharacter (ctype : LcCtype) (s : List UInt8) (width : ℕ) :
    (fuel : ℕ) → (peeklen : ℕ) → (mbs : Mbstate) → Option (Option ℕ)
  | 0, _, _ => none
  | fuel + 1, peeklen, mbs =>
    if peeklen ≥ width then
      some (some peeklen)
    else
      match s[peeklen]? with
      | none => some none
      | some b => do
          match ← ctype.mbtoc32 [b] 1 mbs with
          | .incomplete mbs => peekCharacter ctype s width fuel (peeklen + 1) mbs
          | .error _ => return some (peeklen + 1)
          | .character c32 _ _ => return if iswspace c32 then none else some (peeklen + 1)

/-- One pass of the outer loop of the `%s` conversion. -/
def stringPass (env : ScanEnvironment) (scan : Scan) (conversion : Conversion) (idx i : ℕ)
    (output : StringOutput) : Option (Pass ScanState ScanResult) := do
  match ← peekCharacter env.ctype (scan.input.drop (idx + i)) (conversion.fieldWidth - i)
      (scan.input.length + 1) 0 .setInit with
  | none =>
    if i = 0 then
      return .leave scan.done
    else
      return stringFinish env conversion scan (output.out ++ [0]) (idx + i)
  | some peeklen =>
    match stringAppendAll env conversion scan output
        ((scan.input.drop (idx + i)).take peeklen) with
    | (scan, none) => return .leave scan.bad
    | (scan, some output) => return .again (.string scan conversion idx (i + peeklen) output)

/-! ## The other conversions -/

/-- The least value of the signed type of a length modifier. -/
def sintMin : LengthModifier → ℤ
  | .shortShort => -2 ^ 7
  | .short => -2 ^ 15
  | .long => -2 ^ 63
  | .longLong => -2 ^ 63
  | .default => -2 ^ 31
  | .longDouble => -2 ^ 31

/-- The greatest value of the signed type of a length modifier. -/
def sintMax (length : LengthModifier) : ℤ := -sintMin length - 1

/-- The greatest value of the unsigned type of a length modifier. -/
def uintMax (length : LengthModifier) : ℤ := -2 * sintMin length - 1

/-- The value that is stored in an integer of the type of a length modifier. -/
def storedInteger (length : LengthModifier) (value : ℤ) : ℤ :=
  Int.bmod value (-2 * sintMin length).toNat

/-- The part of the input that a number may take, behind `idx` bytes of white space. -/
def field (scan : Scan) (conversion : Conversion) (idx : ℕ) : List UInt8 :=
  if conversion.fieldWidth = 0 then scan.input.drop idx
  else (scan.input.drop idx).take conversion.fieldWidth

/-- The conversions of integers. -/
def convertInteger (env : ScanEnvironment) (scan : Scan) (conversion : Conversion)
    (isSigned : Bool) (base : ℕ) : Option (Pass ScanState ScanResult) := do
  let idx ← skipWhitespace env.ctype scan.input
  let min := if isSigned then sintMin conversion.length else 0
  let max := if isSigned then sintMax conversion.length else uintMax conversion.length
  let result := parserStrtoint isSigned min max true base (field scan conversion idx)
  if result.haveNumber then
    let value := storedInteger conversion.length result.number
    return next (((scan.skip (idx + result.skipped)).store conversion
      (.integer conversion.length value)).performed conversion)
  else
    return .leave scan.done

/-- The conversions of floating point numbers. -/
def convertFloat (env : ScanEnvironment) (scan : Scan) (conversion : Conversion) :
    Option (Pass ScanState ScanResult) := do
  let idx ← skipWhitespace env.ctype scan.input
  let result := parserStrtofloat env.decimalDig env.decimalPoint (field scan conversion idx)
  if result.haveNumber then
    return next (((scan.store conversion
      (.float conversion.length result.negative result.literal)).skip
        (idx + result.skipped)).performed conversion)
  else
    return .leave scan.done

/-- The start of the `%s` conversion. -/
def convertString (env : ScanEnvironment) (scan : Scan) (conversion : Conversion) :
    Option (Pass ScanState ScanResult) := do
  let idx ← skipWhitespace env.ctype scan.input
  let fieldWidth := if conversion.fieldWidth = 0 then 2 ^ 64 - 1 else conversion.fieldWidth
  return .again
    (.string scan { conversion with fieldWidth := fieldWidth } idx 0 (stringStart conversion))

/-- A set of bytes, `byteset_t` of `common/byteset.h`. -/
def Byteset := UInt8 → Bool

/-- `byteaddset()` with `true`, `bytedelset()` with `false`. -/
def Byteset.update (bs : Byteset) (c : UInt8) (member : Bool) : Byteset :=
  fun b => if b = c then member else bs b

/-- The loops over the characters of a scanset: the first one belongs to the set in any case. -/
def scansetLoop (member : Bool) : Byteset → List UInt8 → Option (Byteset × List UInt8)
  | _, [] => none
  | bs, c :: format =>
    let bs := bs.update c member
    if peek format 0 = byteOf ']' then some (bs, format.drop 1)
    else scansetLoop member bs format

/-- The scanset behind the bracket. -/
def scanset (format : List UInt8) : Option (Byteset × List UInt8) :=
  if peek format 0 = byteOf '^' then scansetLoop false (fun _ => true) (format.drop 1)
  else scansetLoop true (fun _ => false) format

/-- The conversion of characters of a set. -/
def convertScanset (env : ScanEnvironment) (scan : Scan) (conversion : Conversion) :
    Option (Pass ScanState ScanResult) := do
  let (bs, format) ← scanset scan.format
  let scan := { scan with format := format }
  let fieldWidth := if conversion.fieldWidth = 0 then 2 ^ 64 - 1 else conversion.fieldWidth
  let bytes := (scan.input.take fieldWidth).takeWhile bs
  match stringAppendAll env conversion scan (stringStart conversion) bytes with
  | (scan, none) => return .leave scan.bad
  | (scan, some output) =>
    if bytes.length = 0 then
      return .leave scan.done
    else
      return stringFinish env conversion scan (output.out ++ [0]) bytes.length

/-- The conversion of a fixed number of characters. -/
def convertCharacters (env : ScanEnvironment) (scan : Scan) (conversion : Conversion) :
    Pass ScanState ScanResult :=
  let fieldWidth := if conversion.fieldWidth = 0 then 1 else conversion.fieldWidth
  if fieldWidth ≤ scan.input.length then
    match stringAppendAll env conversion scan (stringStart conversion)
        (scan.input.take fieldWidth) with
    | (scan, none) => .leave scan.bad
    | (scan, some output) => stringFinish env conversion scan output.out fieldWidth
  else
    .leave scan.done

/-! ## The format -/

/-- The conversion that a specifier stands for. An unknown specifier is ignored. -/
def convert (env : ScanEnvironment) (scan : Scan) (conversion : Conversion) (specifier : Char) :
    Option (Pass ScanState ScanResult) :=
  match specifier with
  | 'd' => convertInteger env scan conversion true 10
  | 'i' => convertInteger env scan conversion true 0
  | 'o' => convertInteger env scan conversion false 8
  | 'u' => convertInteger env scan conversion false 10
  | 'x' => convertInteger env scan conversion false 16
  | 'p' => convertInteger env scan { conversion with length := .long } false 16
  | 'a' => convertFloat env scan conversion
  | 'e' => convertFloat env scan conversion
  | 'f' => convertFloat env scan conversion
  | 'g' => convertFloat env scan conversion
  | 'S' => convertString env scan { conversion with length := .long }
  | 's' => convertString env scan conversion
  | '[' => convertScanset env scan conversion
  | 'C' => some (convertCharacters env scan { conversion with length := .long })
  | 'c' => some (convertCharacters env scan conversion)
  | 'n' => some (next (scan.store conversion
      (.integer conversion.length (storedInteger conversion.length scan.inputRead))))
  | _ => some (next scan)

/-- A conversion specification, from the byte behind the percent sign on. -/
def conversionPass (env : ScanEnvironment) (scan : Scan) :
    Option (Pass ScanState ScanResult) := do
  let (numarg, format) := getNumarg scan.format
  let suppress := decide (peek format 0 = byteOf '*')
  let format := if suppress then format.drop 1 else format
  let argument := if numarg > 0 then numarg - 1 else scan.ap
  let ap := if suppress ∨ numarg > 0 then scan.ap else scan.ap + 1
  let (fieldWidth, format) ← getNumber format
  let allocate := decide (peek format 0 = byteOf 'm')
  let format := if allocate then format.drop 1 else format
  let (length, format) := getLengthModifier format
  match format with
  | [] => none
  | specifier :: format =>
    convert env { scan with format := format, ap := ap }
      ⟨suppress, argument, fieldWidth, allocate, length⟩ (charOf specifier)

/-- The directive of a percent sign that stands for itself. -/
def percentPass (env : ScanEnvironment) (scan : Scan) : Option (Pass ScanState ScanResult) := do
  let idx ← skipWhitespace env.ctype scan.input
  if scan.input[idx]? = some (byteOf '%') then
    return next (scan.skip (idx + 1))
  else
    return .leave scan.done

/-- A directive that is not a conversion. -/
def literalPass (env : ScanEnvironment) (scan : Scan) (c : UInt8) (format : List UInt8) :
    Option (Pass ScanState ScanResult) := do
  let whitespace ← skipWhitespace env.ctype scan.format
  if whitespace > 0 then
    let idx ← skipWhitespace env.ctype scan.input
    return next { scan.skip idx with format := scan.format.drop whitespace }
  else if scan.input[0]? = some c then
    return next { scan.skip 1 with format := format }
  else
    return .leave scan.done

/-- One pass of the loop over the format. -/
def mainPass (env : ScanEnvironment) (scan : Scan) : Option (Pass ScanState ScanResult) :=
  match scan.format with
  | [] => some (.leave scan.done)
  | c :: format =>
    if c = byteOf '%' then
      if peek format 0 = byteOf '%' then
        percentPass env { scan with format := format.drop 1 }
      else
        conversionPass env { scan with format := format }
    else
      literalPass env scan c format

/-- One pass. -/
def scanPass (env : ScanEnvironment) : ScanState → Option (Pass ScanState ScanResult)
  | .main scan => mainPass env scan
  | .string scan conversion idx i output => stringPass env scan conversion idx i output

/-- The state at the start. -/
def scanStart (s format : List UInt8) : ScanState := .main ⟨format, s, 0, 0, 0, 0, 0, 0, []⟩

/-- `vsscanf_l()`, for at most `fuel` passes. -/
def vsscanfL (env : ScanEnvironment) (s format : List UInt8) (fuel : ℕ) : Option ScanResult :=
  run (scanPass env) fuel (scanStart s format)

/-- The environment of `sscanf()`, which uses the POSIX locale. -/
def posixEnvironment (decimalDig : ℕ) (reallocarray : ℕ → Bool) : ScanEnvironment :=
  ⟨ctypeUsAscii, [0x2e], decimalDig, reallocarray⟩

end Cloudlibc.Stdio
