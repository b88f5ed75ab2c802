import Cloudlibc.Stdio.SscanfTermination

/-!
# Failures of the directives of `scanf()`

A directive fails to be matched if the input has something else in its place (`Directive.mismatch`),
and it fails for lack of input if nothing is left (`inputFails`). Whether a number is found depends
on the first bytes only: the parsers find one if and only if the string begins with one
(`parserStrtoint_haveNumber`, `parserStrtofloat_haveNumber`). A directive that fails to match leaves
the loop with the number of conversions performed (`mainPass_leaves`).

The specifiers `X`, `A`, `E`, `F` and `G` are ignored together with their argument, so that a failure
to match them does not end the scan.
-/

set_option autoImplicit false

namespace Cloudlibc.Stdio

open Cloudlibc.Locale Cloudlibc.Loop List Option

/-! ## Failures -/

/-- The white space at the start is skipped by all conversions but these. -/
def unskippedLetters : List Char := ['[', 'c', 'C', 'n']

/-- What a conversion finds in the input. -/
def ConversionSpec.finds (spec : ConversionSpec) (s : List UInt8) : List UInt8 :=
  if spec.specifier.char ∈ unskippedLetters then s else s.dropWhile isSpace

/-- The input ends before the first conversion is completed, and no directive up to there fails to be
matched. The conversion `%n` reads nothing. -/
def inputFails : List Directive → List UInt8 → Bool
  | [], _ => false
  | .literal c _ _ :: directives, s =>
    if isSpace c then inputFails directives (s.dropWhile isSpace)
    else
      match s with
      | [] => true
      | b :: s => b == c && inputFails directives s
  | .percent :: directives, s =>
    match s.dropWhile isSpace with
    | [] => true
    | b :: s => b == byteOf '%' && inputFails directives s
  | .conversion spec :: directives, s =>
    if spec.specifier.char = 'n' then inputFails directives s else (spec.finds s).isEmpty

/-- The string behind a sign. -/
def unsigned (s : List UInt8) : List UInt8 :=
  if peek s 0 = byteOf '-' ∨ peek s 0 = byteOf '+' then s.drop 1 else s

/-- The string begins with an integer in the base. The base `0` stands for any, and then every
number begins with a decimal digit. -/
def beginsInteger (base : ℕ) (s : List UInt8) : Bool :=
  (digitValue (peek (unsigned s) 0)).any (· < if base = 0 then 10 else base)

/-- The string begins with the three letters, in either case. -/
def beginsLetters (first second third : Char × Char) (s : List UInt8) : Bool :=
  isLetter (peek s 0) first.1 first.2 && isLetter (peek s 1) second.1 second.2 &&
    isLetter (peek s 2) third.1 third.2

/-- The string begins with a floating point number. -/
def beginsFloat (s : List UInt8) : Bool :=
  let s := unsigned s
  beginsLetters ('i', 'I') ('n', 'N') ('f', 'F') s ||
    beginsLetters ('n', 'N') ('a', 'A') ('n', 'N') s ||
    isDigit (peek s 0) || (peek s 0 == byteOf '.' && isDigit (peek s 1))

/-- The base of the conversions of integers. -/
def integerBase : Char → Option ℕ
  | 'd' => some 10
  | 'i' => some 0
  | 'o' => some 8
  | 'u' => some 10
  | 'x' => some 16
  | 'X' => some 16
  | 'p' => some 16
  | _ => none

/-- The bytes belong to the conversion, up to its width. -/
def ConversionSpec.field (spec : ConversionSpec) (s : List UInt8) : List UInt8 :=
  if decimalValue spec.width = 0 then s else s.take (decimalValue spec.width)

/-- There is input for the conversion, and it is not what the conversion asks for. A `%s` conversion
takes anything. -/
def ConversionSpec.mismatch (spec : ConversionSpec) (s : List UInt8) : Bool :=
  match spec.finds s with
  | [] => false
  | b :: found =>
    match spec.specifier with
    | .scanset negated first others _ _ => decide (b ∈ first :: others) == negated
    | .letter c _ =>
      match integerBase c with
      | some base => !beginsInteger base (spec.field (b :: found))
      | none =>
        if c ∈ ['a', 'A', 'e', 'E', 'f', 'F', 'g', 'G'] then
          !beginsFloat (spec.field (b :: found))
        else
          decide (c ∈ ['c', 'C'] ∧ (b :: found).length < decimalValue spec.width)

/-- There is input for the directive, and it is not what the directive asks for. -/
def Directive.mismatch : Directive → List UInt8 → Bool
  | .literal c _ _, s => !isSpace c && s.head?.any (· != c)
  | .percent, s => (s.dropWhile isSpace).head?.any (· != byteOf '%')
  | .conversion spec, s => spec.mismatch s

/-- The directive is a conversion that is ignored. -/
def Directive.isIgnored : Directive → Bool
  | .conversion spec => decide (spec.specifier.char ∈ ignoredLetters)
  | _ => false

/-! ## Numbers -/

theorem strtointLoop_haveNumber_of_haveNumber (radix ceil lastDigit : ℕ) (s : List UInt8) :
    ∀ state : DigitLoop, state.haveNumber = true →
      (strtointLoop radix ceil lastDigit s state).haveNumber = true := by
  induction s with
  | nil => exact fun state haveNumber => haveNumber
  | cons b s ih =>
    intro state haveNumber
    rw [strtointLoop]
    split
    · exact haveNumber
    · split_ifs
      · exact haveNumber
      · exact ih _ rfl
      · exact ih _ rfl

/-- There is a number if and only if the first byte is a digit. -/
theorem strtointLoop_haveNumber (radix ceil lastDigit : ℕ) (s : List UInt8) (skipped value : ℕ) :
    (strtointLoop radix ceil lastDigit s ⟨skipped, false, false, value⟩).haveNumber =
      (digitValue (peek s 0)).any (· < radix) := by
  cases s with
  | nil => rfl
  | cons b s =>
    have first : peek (b :: s) 0 = b := rfl
    rw [strtointLoop, first]
    cases digitValue b with
    | none => rfl
    | some digit =>
      dsimp only
      split_ifs with outside
      · simpa using outside
      · rw [strtointLoop_haveNumber_of_haveNumber _ _ _ _ _ rfl]
        simpa using outside
      · rw [strtointLoop_haveNumber_of_haveNumber _ _ _ _ _ rfl]
        simpa using outside

theorem drop_sign (s : List UInt8) :
    s.drop (if (peek s 0 == byteOf '-') || (peek s 0 == byteOf '+') then 1 else 0) = unsigned s := by
  rw [unsigned]
  split_ifs with sign sign' sign' <;> simp_all

/-- `parser_strtoint.h` finds a number if and only if the string begins with one. -/
theorem parserStrtoint_haveNumber (isSigned : Bool) (min max : ℤ) {base : ℕ}
    (known : base ∈ [0, 8, 10, 16]) (s : List UInt8) :
    (parserStrtoint isSigned min max true base s).haveNumber = beginsInteger base s := by
  have bounds : base = 0 ∨ 2 ≤ base ∧ base ≤ 36 := by
    fin_cases known <;> simp
  have zeroDigit : digitValue (byteOf '0') = some 0 := by decide
  simp only [parserStrtoint, Bool.true_and, drop_sign]
  rw [beginsInteger]
  generalize unsigned s = t
  by_cases isHex : (base = 0 ∨ base = 16) ∧ peek t 0 = byteOf '0' ∧
      (peek t 1 = byteOf 'x' ∨ peek t 1 = byteOf 'X') ∧ isXdigit (peek t 2)
  · have ⟨_, zero, _, xdigit⟩ := isHex
    have first : peek (t.drop 2) 0 = peek t 2 := by simp [peek]
    have found : (digitValue (peek t 2)).any (· < 16) = true := xdigit
    rw [if_pos isHex, if_pos isHex, if_pos (by decide), zero, zeroDigit]
    simp only [strtointLoop_haveNumber, first, found]
    fin_cases known <;> rfl
  · rw [if_neg isHex, if_neg isHex, drop_zero]
    rcases bounds with rfl | bounds
    · by_cases zero : peek t 0 = byteOf '0'
      · simp only [strtointLoop_haveNumber, zero, zeroDigit]
        rfl
      · rw [if_pos rfl, if_neg zero, if_pos (by decide)]
        simp only [strtointLoop_haveNumber]
        rfl
    · have positive : base ≠ 0 := by omega
      rw [if_neg positive, if_pos bounds, if_neg positive]
      simp only [strtointLoop_haveNumber]

theorem takeWhile_length_pos (digit : UInt8 → Bool) (null : digit 0 = false) (s : List UInt8) :
    0 < (s.takeWhile digit).length ↔ digit (peek s 0) = true := by
  cases s with
  | nil => simp [peek, null]
  | cons b s =>
    have first : peek (b :: s) 0 = b := rfl
    rw [first]
    by_cases isDigit' : digit b <;> simp [isDigit']

/-- The zeroes at the start and the digits behind them. -/
def zeroesAndDigits (s : List UInt8) : ℕ × List UInt8 :=
  let zeroes := (s.takeWhile (· == byteOf '0')).length
  (zeroes, (s.drop zeroes).takeWhile isDigit)

theorem zeroesAndDigits_eq {s : List UInt8} (notDigit : isDigit (peek s 0) = false) :
    zeroesAndDigits s = (0, []) := by
  have notZero : (peek s 0 == byteOf '0') = false := by
    by_contra zero
    rw [eq_of_beq (Bool.eq_true_of_not_eq_false zero)] at notDigit
    exact absurd notDigit (by decide)
  have noZeroes := mt (takeWhile_length_pos (· == byteOf '0') (by decide) s).mp (by simp [notZero])
  have noDigits := mt (takeWhile_length_pos isDigit (by decide) s).mp (by simp [notDigit])
  have zeroes : (s.takeWhile (· == byteOf '0')).length = 0 := by omega
  simp only [zeroesAndDigits, zeroes, drop_zero, Prod.mk.injEq, true_and]
  exact eq_nil_of_length_eq_zero (by omega)

theorem zeroesAndDigits_pos {s : List UInt8} (digit : isDigit (peek s 0) = true) :
    0 < (zeroesAndDigits s).1 + (zeroesAndDigits s).2.length := by
  rw [zeroesAndDigits]
  dsimp only
  rcases Nat.eq_zero_or_pos (s.takeWhile (· == byteOf '0')).length with none' | some'
  · have digits := (takeWhile_length_pos isDigit (by decide) s).mpr digit
    rw [none', drop_zero]
    omega
  · omega

/-- The branch for decimal numbers finds a number if there is a digit, or one behind the radix
character. -/
theorem parserDecimal_haveNumber (decimalDig : ℕ) (s : List UInt8) :
    (parserDecimal decimalDig [0x2e] s).2.1 =
      (isDigit (peek s 0) || (peek s 0 == byteOf '.' && isDigit (peek s 1))) := by
  simp only [parserDecimal, parserRadixchar_dot]
  cases digit : isDigit (peek s 0) with
  | true =>
    have pos := zeroesAndDigits_pos digit
    simp only [zeroesAndDigits] at pos
    simp only [Bool.true_or, decide_eq_true_eq]
    omega
  | false =>
    obtain ⟨zeroes, whole⟩ := Prod.mk.injEq .. ▸ zeroesAndDigits_eq digit
    rw [zeroes, drop_zero] at whole
    rw [zeroes, drop_zero, whole, length_nil, drop_zero]
    by_cases dot : peek s 0 = byteOf '.'
    · have second : peek (s.drop 1) 0 = peek s 1 := by simp [peek]
      simp only [dot, if_true, getD_some, isSome_some, and_self, Bool.false_or,
        beq_self_eq_true, Bool.true_and, Nat.zero_add]
      rw [← second]
      cases digit' : isDigit (peek (s.drop 1) 0) with
      | true =>
        have pos := zeroesAndDigits_pos digit'
        simp only [zeroesAndDigits] at pos
        simpa using pos
      | false =>
        obtain ⟨zeroes', fraction⟩ := Prod.mk.injEq .. ▸ zeroesAndDigits_eq digit'
        rw [fraction, zeroes']
        rfl
    · simp [dot]

/-- `parser_strtofloat.h` finds a number if and only if the string begins with one. -/
theorem parserStrtofloat_haveNumber (decimalDig : ℕ) (s : List UInt8) :
    (parserStrtofloat decimalDig [0x2e] s).haveNumber = beginsFloat s := by
  simp only [parserStrtofloat, drop_sign]
  rw [beginsFloat]
  generalize unsigned s = t
  split
  case isTrue infinity =>
    have begins : beginsLetters ('i', 'I') ('n', 'N') ('f', 'F') t = true := infinity
    rw [begins]
    rfl
  case isFalse infinity =>
    have notInfinity : beginsLetters ('i', 'I') ('n', 'N') ('f', 'F') t = false :=
      Bool.eq_false_of_not_eq_true infinity
    rw [notInfinity, Bool.false_or]
    split
    case isTrue nan =>
      have begins : beginsLetters ('n', 'N') ('a', 'A') ('n', 'N') t = true := nan
      rw [begins]
      rfl
    case isFalse nan =>
      have notNan : beginsLetters ('n', 'N') ('a', 'A') ('n', 'N') t = false :=
        Bool.eq_false_of_not_eq_true nan
      rw [notNan, Bool.false_or]
      split
      case isTrue hexadecimal =>
        have digit : isDigit (byteOf '0') = true := by decide
        rw [hexadecimal.1, digit]
        rfl
      case isFalse => exact parserDecimal_haveNumber decimalDig t

/-! ## Failures to match -/

theorem convertCharacters_leaves (env : ScanEnvironment) {scan : Scan} {conversion : Conversion}
    (short : scan.input.length < conversion.fieldWidth) :
    convertCharacters env scan conversion = .leave scan.done := by
  have wide : conversion.fieldWidth ≠ 0 := by omega
  rw [convertCharacters, if_neg wide]
  exact if_neg (by omega)

theorem convertScanset_leaves (env : ScanEnvironment) {scan : Scan} (conversion : Conversion)
    {bs : Byteset} {rest : List UInt8} (read : scanset scan.format = some (bs, rest)) {b : UInt8}
    {found : List UInt8} (input : scan.input = b :: found) (outside : bs b = false) :
    ∃ result, convertScanset env scan conversion = some (.leave result) ∧
      result.ret = scan.conversionsPerformed := by
  have none' : ∀ width, width ≠ 0 → ((b :: found).take width).takeWhile bs = [] := by
    intro width wide
    obtain ⟨width, rfl⟩ := Nat.exists_eq_succ_of_ne_zero wide
    rw [take_succ_cons]
    exact takeWhile_cons_of_neg (p := bs) (by simp [outside])
  have wide : (if conversion.fieldWidth = 0 then 2 ^ 64 - 1 else conversion.fieldWidth) ≠ 0 := by
    split_ifs with zero
    · decide
    · exact zero
  simp only [convertScanset, read, bind_eq_bind, bind_some, input, none' _ wide, stringAppendAll]
  exact ⟨_, rfl, rfl⟩

theorem convert_integer (env : ScanEnvironment) (scan : Scan) (conversion : Conversion) {c : Char}
    {base : ℕ} (integer : integerBase c = some base) (notIgnored : c ∉ ignoredLetters) :
    base ∈ [0, 8, 10, 16] ∧ c ∉ unskippedLetters ∧ ∃ conversion' isSigned,
      conversion'.fieldWidth = conversion.fieldWidth ∧
      convert env scan conversion c = convertInteger env scan conversion' isSigned base := by
  rw [integerBase.eq_def] at integer
  split at integer
  · cases integer
    exact ⟨by decide, by decide, conversion, true, rfl, rfl⟩
  · cases integer
    exact ⟨by decide, by decide, conversion, true, rfl, rfl⟩
  · cases integer
    exact ⟨by decide, by decide, conversion, false, rfl, rfl⟩
  · cases integer
    exact ⟨by decide, by decide, conversion, false, rfl, rfl⟩
  · cases integer
    exact ⟨by decide, by decide, conversion, false, rfl, rfl⟩
  · exact absurd (by decide) notIgnored
  · cases integer
    exact ⟨by decide, by decide, { conversion with length := .long }, false, rfl, rfl⟩
  · cases integer

theorem convert_float (env : ScanEnvironment) (scan : Scan) (conversion : Conversion) {c : Char}
    (float : c ∈ ['a', 'A', 'e', 'E', 'f', 'F', 'g', 'G']) (notIgnored : c ∉ ignoredLetters) :
    c ∉ unskippedLetters ∧ convert env scan conversion c = convertFloat env scan conversion := by
  simp only [mem_cons, not_mem_nil, or_false] at float
  rcases float with rfl | rfl | rfl | rfl | rfl | rfl | rfl | rfl
  · exact ⟨by decide, rfl⟩
  · exact absurd (by decide) notIgnored
  · exact ⟨by decide, rfl⟩
  · exact absurd (by decide) notIgnored
  · exact ⟨by decide, rfl⟩
  · exact absurd (by decide) notIgnored
  · exact ⟨by decide, rfl⟩
  · exact absurd (by decide) notIgnored

/-- Where white space is skipped, the field of a number is that of the specification. -/
theorem field_eq (spec : ConversionSpec) (skipped : spec.specifier.char ∉ unskippedLetters)
    (scan : Scan) {conversion : Conversion}
    (width : conversion.fieldWidth = decimalValue spec.width) :
    field scan conversion (scan.input.takeWhile isSpace).length =
      spec.field (spec.finds scan.input) := by
  rw [field, width, drop_takeWhile_length, ConversionSpec.finds, if_neg skipped,
    ConversionSpec.field]

section Posix

variable {env : ScanEnvironment} (posix : env.ctype = ctypeUsAscii)

include posix

theorem convertInteger_leaves {scan : Scan} {conversion : Conversion} (isSigned : Bool) {base : ℕ}
    (known : base ∈ [0, 8, 10, 16])
    (none' : beginsInteger base (field scan conversion (scan.input.takeWhile isSpace).length) =
      false) :
    convertInteger env scan conversion isSigned base = some (.leave scan.done) := by
  simp only [convertInteger, skipWhitespace_posix posix, bind_eq_bind, bind_some,
    parserStrtoint_haveNumber isSigned _ _ known, none']
  rfl

theorem convertFloat_leaves (point : env.decimalPoint = [0x2e]) {scan : Scan}
    {conversion : Conversion}
    (none' : beginsFloat (field scan conversion (scan.input.takeWhile isSpace).length) = false) :
    convertFloat env scan conversion = some (.leave scan.done) := by
  simp only [convertFloat, skipWhitespace_posix posix, bind_eq_bind, bind_some, point,
    parserStrtofloat_haveNumber, none']
  rfl

/-- A conversion that fails to match leaves the loop, unless it is ignored. -/
theorem convert_leaves (point : env.decimalPoint = [0x2e]) (scan : Scan) (spec : ConversionSpec)
    (rest : List UInt8) (mismatch : spec.mismatch scan.input = true)
    (notIgnored : spec.specifier.char ∉ ignoredLetters) :
    ∃ result, convert env (spec.behind scan (spec.specifier.tail ++ rest)) (spec.conversion scan.ap)
        spec.specifier.char = some (.leave result) ∧
      result.ret = scan.conversionsPerformed := by
  rw [ConversionSpec.mismatch] at mismatch
  cases finds : spec.finds scan.input with
  | nil =>
    rw [finds] at mismatch
    cases mismatch
  | cons b found =>
    rw [finds] at mismatch
    cases specifier : spec.specifier with
    | scanset negated first others notCircumflex notClosed =>
      obtain ⟨bs, read, members⟩ := scanset_text rest notCircumflex notClosed
      have input : scan.input = b :: found := by
        rw [← finds, ConversionSpec.finds, specifier]
        rfl
      have outside : bs b = false := by
        rw [specifier] at mismatch
        rw [members, eq_of_beq mismatch]
        exact bne_self_eq_false negated
      exact convertScanset_leaves env _ read input outside
    | letter c known =>
      have char : spec.specifier.char = c := by rw [specifier]; rfl
      rw [char] at notIgnored
      rw [specifier] at mismatch
      dsimp only at mismatch
      split at mismatch
      case h_1 base integer =>
        obtain ⟨base', skips, conversion, isSigned, width, converts⟩ := convert_integer env
          (spec.behind scan ((Specifier.letter c known).tail ++ rest)) (spec.conversion scan.ap)
          integer notIgnored
        refine ⟨_, converts.trans (convertInteger_leaves posix isSigned base' ?_), rfl⟩
        rw [field_eq spec (char ▸ skips) _ width]
        change beginsInteger base (spec.field (spec.finds scan.input)) = false
        rw [finds]
        simpa using mismatch
      case h_2 =>
        split at mismatch
        case isTrue float =>
          obtain ⟨skips, converts⟩ := convert_float env
            (spec.behind scan ((Specifier.letter c known).tail ++ rest))
            (spec.conversion scan.ap) float notIgnored
          refine ⟨_, converts.trans (convertFloat_leaves posix point ?_), rfl⟩
          rw [field_eq spec (char ▸ skips) _ rfl]
          change beginsFloat (spec.field (spec.finds scan.input)) = false
          rw [finds]
          simpa using mismatch
        case isFalse =>
          obtain ⟨isCharacters, short⟩ := of_decide_eq_true mismatch
          rw [← finds, ConversionSpec.finds, char] at short
          simp only [mem_cons, not_mem_nil, or_false] at isCharacters
          rcases isCharacters with rfl | rfl
          · exact ⟨_, congrArg some (convertCharacters_leaves env short), rfl⟩
          · exact ⟨_, congrArg some (convertCharacters_leaves env short), rfl⟩

/-- A directive that fails to match leaves the loop, unless it is ignored. -/
theorem mainPass_leaves (point : env.decimalPoint = [0x2e]) {scan : Scan} {directive : Directive}
    {rest : List Directive} (format : scan.format = formatText (directive :: rest))
    (mismatch : directive.mismatch scan.input = true) (notIgnored : directive.isIgnored = false) :
    ∃ result, mainPass env scan = some (.leave result) ∧
      result.ret = scan.conversionsPerformed := by
  cases directive with
  | literal c notPercent notNull =>
    have text : scan.format = c :: formatText rest := format
    simp only [Directive.mismatch, Bool.and_eq_true, Bool.not_eq_true'] at mismatch
    obtain ⟨notSpace, differs⟩ := mismatch
    have none' : ¬(scan.format.takeWhile isSpace).length > 0 := by
      rw [text, takeWhile_cons_of_neg (by simp [notSpace])]
      exact lt_irrefl 0
    have other : scan.input[0]? ≠ some c := by
      rw [← head?_eq_getElem?]
      intro same
      simp [same] at differs
    refine ⟨scan.done, ?_, rfl⟩
    rw [mainPass, text]
    simp only [if_neg notPercent, literalPass, skipWhitespace_posix posix, bind_eq_bind,
      bind_some, if_neg none', if_neg other]
    rfl
  | percent =>
    have other : (scan.input.dropWhile isSpace)[0]? ≠ some (byteOf '%') := by
      rw [← head?_eq_getElem?]
      intro same
      simp [Directive.mismatch, same] at mismatch
    have text : scan.format = byteOf '%' :: byteOf '%' :: formatText rest := format
    refine ⟨{ scan with format := formatText rest }.done, ?_, rfl⟩
    rw [mainPass, text]
    have ran : percentPass env { scan with format := formatText rest } =
        some (.leave { scan with format := formatText rest }.done) := by
      rw [← getElem?_takeWhile_add] at other
      simp only [percentPass, skipWhitespace_posix posix, bind_eq_bind, bind_some]
      exact if_neg other
    exact ran
  | conversion spec =>
    have text : scan.format = byteOf '%' :: (spec.text ++ formatText rest) := format
    rw [mainPass_conversion env scan spec text]
    exact convert_leaves posix point scan spec _ mismatch (of_decide_eq_false notIgnored)

end Posix

end Cloudlibc.Stdio
