import Cloudlibc.Foundations.Digits
import Cloudlibc.Locale.SingleByte
import Cloudlibc.Stdio.PrintFormat

/-!
# The integer conversions of `printf()`

What C11 7.21.6.1 prescribes for the conversions `d`, `i`, `o`, `u`, `x` and `X` is
`IntegerSpec.c11Text`, with the grouping of digits that POSIX adds. What `vprintf()` prints is
`integerText` (`printInteger_eq`). The two are the same text if and only if the conversion is one of
those that `IntegerSpec.Conforms` describes (`vprintf_integer_iff`).
-/

set_option autoImplicit false

namespace Cloudlibc.Stdio

open Cloudlibc.Locale Cloudlibc.Digits Cloudlibc.Loop List Option

/-! ## What the code prints -/

/-- The digits of a number as bytes. -/
def digitBytes (charset : List Char) (base value : ℕ) : List UInt8 :=
  (numeral base value).map fun digit => byteOf (charset.getD digit '0')

/-- The sizes of the groups of digits if there is a grouping flag. -/
def groupEntries (numeric : LcNumeric) (enabled : Bool) : List ℤ :=
  if enabled then numeric.grouping.getD [] else []

/-- The digits of a number with separators. -/
def groupedBytes (numeric : LcNumeric) (enabled : Bool) (digits : List UInt8) : List UInt8 :=
  grouped (byteOf (numeric.thousandsSep.headD '\x00')) (groupEntries numeric enabled) digits

/-- The number of separators in a number. -/
def separators (numeric : LcNumeric) (enabled : Bool) (ndigits : ℕ) : ℕ :=
  (groupSizes (groupEntries numeric enabled) ndigits).length - 1

/-- What `printInteger` prints. -/
def integerText (numeric : LcNumeric) (conversion : PrintConversion) (charset : List Char)
    (base value : ℕ) (numberPrefix : List Char) : List UInt8 :=
  let digits := digitBytes charset base value
  let width := max (digits.length + separators numeric conversion.flags.grouping digits.length)
    conversion.precision.toNat + numberPrefix.length
  layout conversion.flags.leftJustified
    (conversion.flags.zeroPadding && decide (conversion.precision < 0))
    (conversion.fieldWidth - width) (numberPrefix.map byteOf)
    (List.replicate (conversion.precision - digits.length).toNat (byteOf '0') ++
      groupedBytes numeric conversion.flags.grouping digits)

theorem digitsLoop_eq {charset : List Char} {base : ℕ} (two : 1 < base)
    (enough : base ≤ charset.length) (room : ℕ) :
    ∀ (value : ℕ) (digits : List UInt8), (numeral base value).length ≤ room →
      digitsLoop charset base room value digits =
        some (digitBytes charset base value ++ digits) := by
  induction room with
  | zero =>
    intro value digits short
    exact absurd (length_eq_zero_iff.mp (Nat.le_zero.mp short)) (numeral_ne_nil base value)
  | succ room ih =>
    intro value digits short
    have inside : value % base < charset.length :=
      (Nat.mod_lt _ (by omega)).trans_le enough
    have found : charset[value % base]? = some (charset.getD (value % base) '0') := by
      rw [getD_eq_getElem?_getD, getElem?_eq_getElem inside, getD_some]
    rw [digitsLoop, found]
    simp only [bind_eq_bind, bind_some, digitBytes]
    rw [numeral_eq_append two value] at short ⊢
    by_cases last : value / base = 0
    · rw [if_pos last, if_neg (by omega)]
      rfl
    · have more : value / base > 0 := Nat.pos_of_ne_zero last
      rw [if_pos more, length_append, length_singleton] at short
      rw [if_neg last, if_pos more, ih _ _ (by omega)]
      simp [digitBytes]

theorem length_numeral_le {base value : ℕ} (eight : 8 ≤ base) (small : value < 2 ^ 64) :
    (numeral base value).length ≤ 24 := by
  refine numeral_length_le (by omega) (by decide) (small.trans_le ?_)
  calc 2 ^ 64 ≤ 8 ^ 24 := by decide
    _ ≤ base ^ 24 := Nat.pow_le_pow_left eight 24

theorem length_digitBytes (charset : List Char) (base value : ℕ) :
    (digitBytes charset base value).length = (numeral base value).length :=
  length_map _

/-- **What `vprintf()` prints for an integer.** -/
theorem printInteger_eq (env : PrintEnvironment) {conversion : PrintConversion}
    (exclusive : conversion.flags.leftJustified → conversion.flags.zeroPadding = false)
    {charset : List Char} {base value : ℕ} (eight : 8 ≤ base) (enough : base ≤ charset.length)
    (small : value < 2 ^ 64) (numberPrefix : List Char) :
    printInteger env conversion charset base value numberPrefix =
      if conversion.precision = -2 ^ 31 then none
      else some (integerText env.numeric conversion charset base value numberPrefix) := by
  have room := length_numeral_le eight small
  have stored := digitsLoop_eq (by omega) enough 24 value [] room
  rw [append_nil] at stored
  have short : (digitBytes charset base value).length < 2 ^ 64 := by
    rw [length_digitBytes]
    omega
  obtain ⟨ng, started, printed⟩ := groupDigits_eq env.numeric conversion.flags.grouping
    (byteOf (env.numeric.thousandsSep.headD '\x00')) short
  change numericGroupingInit _ _ = some (ng, separators env.numeric conversion.flags.grouping
    (digitBytes charset base value).length) at started
  change groupDigits _ _ ng _ = some (groupedBytes env.numeric conversion.flags.grouping
    (digitBytes charset base value)) at printed
  rw [printInteger, integerText]
  simp only [stored, started, printed, bind_eq_bind, bind_some]
  generalize digitBytes charset base value = digits
  generalize separators env.numeric conversion.flags.grouping digits.length = count
  have width : (if ((digits.length + count : ℕ) : ℤ) < conversion.precision then
      conversion.precision.toNat else digits.length + count) =
      max (digits.length + count) conversion.precision.toNat := by
    split_ifs <;> omega
  rw [width]
  generalize max (digits.length + count) conversion.precision.toNat + numberPrefix.length = width'
  have nothing : replicate (min conversion.fieldWidth width' - width') (byteOf ' ') = [] := by
    rw [Nat.sub_eq_zero_of_le (Nat.min_le_right _ _), replicate_zero]
  by_cases least : conversion.precision = -2 ^ 31
  · rw [if_pos least, if_pos least]
  · by_cases padded : conversion.flags.zeroPadding = true ∧ conversion.precision < 0
    · have notLeft : conversion.flags.leftJustified = false := by
        by_contra left
        rw [exclusive (Bool.eq_true_of_not_eq_false left)] at padded
        exact Bool.false_ne_true padded.1
      simp only [padded.1, padded.2, and_self, if_true, padToFieldWidth, layout, notLeft,
        Bool.false_eq_true, if_false, decide_true, Bool.and_self, nothing, append_assoc,
        List.append_nil, Option.pure_def]
    · have notPadded : (conversion.flags.zeroPadding && decide (conversion.precision < 0)) = false := by
        rw [Bool.and_eq_false_imp]
        exact fun flag => decide_eq_false fun negative => padded ⟨flag, negative⟩
      cases left : conversion.flags.leftJustified with
      | true =>
        simp [padded, padToFieldWidth, layout]
      | false =>
        simp [padded, notPadded, padToFieldWidth, layout]

/-! ## What the standard prescribes -/

/-- A conversion specification of an integer. The length modifier `L` is for floating-point
numbers. -/
structure IntegerSpec extends PrintSpec where
  integer : specifier ∈ ['d', 'i', 'o', 'u', 'x', 'X']
  length_ne : length ≠ .L

namespace IntegerSpec

variable (spec : IntegerSpec)

def signed : Bool := spec.specifier ∈ ['d', 'i']

def base : ℕ :=
  if spec.specifier = 'o' then 8 else if spec.specifier = 'x' ∨ spec.specifier = 'X' then 16 else 10

/-- An octal number in the alternative form. -/
def alternativeOctal : Prop := spec.specifier = 'o' ∧ .alternative ∈ spec.flags

instance : Decidable spec.alternativeOctal := inferInstanceAs (Decidable (_ ∧ _))

/-- The argument, converted to the type of the length modifier. -/
def value (slot : BitVec 64) : ℤ :=
  if spec.signed then argSint spec.length.modifier slot else argUint spec.length.modifier slot

/-- The digits of a number. -/
def digits (n : ℕ) : List UInt8 := digitBytes (numberCharset spec.specifier) spec.base n

/-- The sign, or the indication of base sixteen. -/
def c11Prefix (value : BitVec 64) : List Char :=
  if spec.signed then
    if spec.value value < 0 then ['-']
    else if .plus ∈ spec.flags then ['+']
    else if .space ∈ spec.flags then [' ']
    else []
  else if .alternative ∈ spec.flags ∧ spec.value value ≠ 0 then
    if spec.specifier = 'x' then ['0', 'x'] else if spec.specifier = 'X' then ['0', 'X'] else []
  else
    []

/-- The number of leading zeros. The precision is the minimum number of digits, and the digits of
zero are all leading ones. The alternative form of an octal number increases the precision, if and
only if necessary, to force the first digit to be zero. -/
def c11Zeros (precision value : BitVec 64) : ℕ :=
  let ndigits := if spec.value value = 0 then 0 else (spec.digits (spec.value value).natAbs).length
  let zeros := (spec.c11Precision precision).getD 1 - ndigits
  if spec.alternativeOctal ∧ zeros = 0 then 1 else zeros

/-- The digits of the result. -/
def c11Body (numeric : LcNumeric) (precision value : BitVec 64) : List UInt8 :=
  List.replicate (spec.c11Zeros precision value) (byteOf '0') ++
    groupedBytes numeric (.grouping ∈ spec.flags)
      (if spec.value value = 0 then [] else spec.digits (spec.value value).natAbs)

/-- The result of the conversion. -/
def c11Text (numeric : LcNumeric) (width precision value : BitVec 64) : List UInt8 :=
  let front := (spec.c11Prefix value).map byteOf
  let body := spec.c11Body numeric precision value
  layout (spec.c11Left width) (.zero ∈ spec.flags && (spec.c11Precision precision).isNone)
    (spec.c11Width width - (front.length + body.length)) front body

/-! ## The conversions of the code -/

/-- The prefix that the code prints. -/
def codePrefix (value : BitVec 64) : List Char :=
  if spec.alternativeOctal ∧ spec.value value ≠ 0 then ['0'] else spec.c11Prefix value

/-- The numbers of a conversion do not overflow. -/
structure Defined (precision value : BitVec 64) : Prop where
  widthFits : spec.widthFits
  precisionFits : spec.precisionFits
  precisionMin : spec.storedPrecision precision ≠ -2 ^ 31
  valueMin : spec.signed → spec.value value ≠ -2 ^ 63

/-- What the code prints. -/
def codeText (numeric : LcNumeric) (width precision value : BitVec 64) : List UInt8 :=
  integerText numeric (spec.conversion 0 width precision) (numberCharset spec.specifier) spec.base
    (spec.value value).natAbs (spec.codePrefix value)

theorem argUint_lt (length : LengthModifier) (slot : BitVec 64) : argUint length slot < 2 ^ 64 := by
  have small := (slot.setWidth length.bits).isLt
  have bits : length.bits ≤ 64 := by cases length <;> decide
  exact small.trans_le (Nat.pow_le_pow_right (by decide) bits)

theorem argSint_range (length : LengthModifier) (slot : BitVec 64) :
    -2 ^ 63 ≤ argSint length slot ∧ argSint length slot < 2 ^ 63 := by
  have low := @BitVec.le_two_mul_toInt _ (slot.setWidth length.bits)
  have high := @BitVec.two_mul_toInt_lt _ (slot.setWidth length.bits)
  have bits : (2 : ℤ) ^ length.bits ≤ 2 ^ 64 := by cases length <;> decide
  rw [argSint]
  omega

theorem natAbs_value_lt (slot : BitVec 64) : (spec.value slot).natAbs < 2 ^ 64 := by
  rw [value]
  split_ifs
  · have := argSint_range spec.length.modifier slot
    omega
  · exact argUint_lt spec.length.modifier slot

theorem printInteger_conversion (env : PrintEnvironment) (width precision value : BitVec 64) :
    printInteger env (spec.conversion 0 width precision) (numberCharset spec.specifier) spec.base
        (spec.value value).natAbs (spec.codePrefix value) =
      if spec.storedPrecision precision = -2 ^ 31 then none
      else some (spec.codeText env.numeric width precision value) := by
  have exclusive : spec.printFlags.leftJustified → spec.printFlags.zeroPadding = false := by
    intro left
    exact decide_eq_false fun both => both.2 (of_decide_eq_true left)
  have eight : 8 ≤ spec.base := by
    rw [base]
    split_ifs <;> decide
  have enough : spec.base ≤ (numberCharset spec.specifier).length := by
    rw [base, numberCharset]
    split_ifs <;> decide
  exact printInteger_eq env exclusive eight enough (spec.natAbs_value_lt value) _

theorem signedInteger_value (width precision value : BitVec 64) (signed : spec.signed) :
    signedInteger (spec.conversion 0 width precision) (spec.value value) =
      if spec.value value = -2 ^ 63 then none
      else some ((spec.value value).natAbs, spec.c11Prefix value) := by
  rw [signedInteger, c11Prefix, if_pos signed]
  by_cases negative : spec.value value < 0
  · rw [if_neg (by omega), if_pos negative]
    split_ifs
    · rfl
    · rw [show (-spec.value value).toNat = (spec.value value).natAbs by omega]
  · rw [if_pos (by omega), if_neg (by omega), if_neg negative,
      show (spec.value value).toNat = (spec.value value).natAbs by omega]
    congr 2
    change (if Flag.plus ∈ spec.flags then some '+' else if Flag.space ∈ spec.flags then some ' '
      else none).toList = _
    split_ifs <;> rfl

/-- The conversions `d` and `i`. -/
theorem specifierPass_signed (env : PrintEnvironment) (width precision value : BitVec 64)
    (signed : spec.signed) (rest : List UInt8) (others : List (BitVec 64)) (output : List UInt8) :
    specifierPass env (spec.conversion 0 width precision) spec.specifier
        ⟨rest, .list (value :: others), output⟩ =
      if spec.storedPrecision precision = -2 ^ 31 ∨ spec.value value = -2 ^ 63 then none
      else some (.again ⟨rest, .list others,
        output ++ spec.codeText env.numeric width precision value⟩) := by
  have member : spec.specifier ∈ ['d', 'i'] := of_decide_eq_true signed
  have notOctal : ¬(spec.alternativeOctal ∧ spec.value value ≠ 0) := by
    rintro ⟨⟨octal, -⟩, -⟩
    rw [octal] at member
    exact absurd member (by decide)
  have decimal : spec.base = 10 := by
    simp only [mem_cons, not_mem_nil, or_false] at member
    obtain specifier | specifier := member <;> rw [base, specifier] <;> rfl
  have argument : argSint spec.length.modifier value = spec.value value := (if_pos signed).symm
  have printed := spec.printInteger_conversion env width precision value
  rw [decimal, codePrefix, if_neg notOctal] at printed
  have length : (spec.conversion 0 width precision).length = spec.length.modifier := rfl
  rw [specifierPass, if_pos member]
  simp only [Arguments.get, length, argument, spec.signedInteger_value width precision value signed,
    bind_eq_bind, bind_some]
  by_cases least : spec.value value = -2 ^ 63
  · simp [least]
  · simp only [least, if_false, bind_some, printed, or_false]
    split_ifs <;> rfl

theorem unsignedPrefix_value (width precision value : BitVec 64) (unsigned : spec.signed = false)
    (text : List Char) : unsignedPrefix (spec.conversion 0 width precision)
      (argUint spec.length.modifier value) text =
        if .alternative ∈ spec.flags ∧ spec.value value ≠ 0 then text else [] := by
  have argument : spec.value value = argUint spec.length.modifier value := by
    rw [IntegerSpec.value, unsigned, if_neg Bool.false_ne_true]
  rw [argument]
  refine if_congr ?_ rfl rfl
  rw [Int.natCast_ne_zero]
  exact and_congr_left' decide_eq_true_iff

/-- The conversions `o`, `u`, `x` and `X`. -/
theorem specifierPass_unsigned (env : PrintEnvironment) (width precision value : BitVec 64)
    (unsigned : spec.signed = false) (rest : List UInt8) (others : List (BitVec 64))
    (output : List UInt8) :
    specifierPass env (spec.conversion 0 width precision) spec.specifier
        ⟨rest, .list (value :: others), output⟩ =
      if spec.storedPrecision precision = -2 ^ 31 then none
      else some (.again ⟨rest, .list others,
        output ++ spec.codeText env.numeric width precision value⟩) := by
  have notMember : spec.specifier ∉ ['d', 'i'] := of_decide_eq_false unsigned
  have member : spec.specifier ∈ ['o', 'u', 'x', 'X'] := by
    have integer := spec.integer
    simp only [mem_cons, not_mem_nil, or_false] at integer notMember ⊢
    tauto
  have argument : (spec.value value).natAbs = argUint spec.length.modifier value := by
    rw [IntegerSpec.value, unsigned, if_neg Bool.false_ne_true, Int.natAbs_natCast]
  have printed := spec.printInteger_conversion env width precision value
  rw [argument] at printed
  have length : (spec.conversion 0 width precision).length = spec.length.modifier := rfl
  have parts : (if spec.specifier = 'o' then (8, unsignedPrefix (spec.conversion 0 width precision)
        (argUint spec.length.modifier value) ['0'])
      else if spec.specifier = 'u' then (10, [])
      else if spec.specifier = 'x' then (16, unsignedPrefix (spec.conversion 0 width precision)
        (argUint spec.length.modifier value) ['0', 'x'])
      else (16, unsignedPrefix (spec.conversion 0 width precision)
        (argUint spec.length.modifier value) ['0', 'X'])) = (spec.base, spec.codePrefix value) := by
    simp only [spec.unsignedPrefix_value width precision value unsigned, base, codePrefix, c11Prefix,
      alternativeOctal, unsigned, Bool.false_eq_true, if_false]
    simp only [mem_cons, not_mem_nil, or_false] at member
    obtain specifier | specifier | specifier | specifier := member <;>
      simp [specifier]
  rw [specifierPass, if_neg notMember, if_pos member]
  simp only [Arguments.get, length, parts, bind_eq_bind, bind_some, printed]
  split_ifs <;> rfl

open Classical in
/-- **What the code prints for a conversion of an integer.** -/
theorem vprintf_text (env : PrintEnvironment) (width precision value : BitVec 64) :
    vprintf env (byteOf '%' :: spec.text) (spec.arguments width precision value) =
      if spec.Defined precision value then
        some ⟨none, spec.codeText env.numeric width precision value⟩
      else
        none := by
  by_cases fits : spec.widthFits ∧ spec.precisionFits
  · have switched : specifierPass env (spec.conversion 0 width precision) spec.specifier
        ⟨[], .list [value], []⟩ = if spec.Defined precision value then
          some (.again ⟨[], .list [], spec.codeText env.numeric width precision value⟩)
        else none := by
      cases signed : spec.signed with
      | true =>
        rw [spec.specifierPass_signed env width precision value signed]
        by_cases overflow : spec.storedPrecision precision = -2 ^ 31 ∨ spec.value value = -2 ^ 63
        · rw [if_pos overflow, if_neg]
          rintro ⟨-, -, precisionMin, valueMin⟩
          exact overflow.elim precisionMin (valueMin signed)
        · rw [if_neg overflow, if_pos]
          · rfl
          · rw [not_or] at overflow
            exact ⟨fits.1, fits.2, overflow.1, fun _ => overflow.2⟩
      | false =>
        rw [spec.specifierPass_unsigned env width precision value signed]
        by_cases overflow : spec.storedPrecision precision = -2 ^ 31
        · rw [if_pos overflow, if_neg]
          rintro ⟨-, -, precisionMin, -⟩
          exact precisionMin overflow
        · rw [if_neg overflow, if_pos]
          · rfl
          · exact ⟨fits.1, fits.2, overflow, fun isSigned => by simp [signed] at isSigned⟩
    split_ifs at switched ⊢
    · exact spec.vprintf_of_print fits.1 fits.2 switched
    · exact spec.vprintf_of_none fits.1 fits.2 switched
  · rw [if_neg]
    · exact spec.vprintf_of_overflow fits
    · rintro ⟨widthFits, precisionFits, -, -⟩
      exact fits ⟨widthFits, precisionFits⟩

/-! ## Comparison -/

/-- The number of digits. -/
def ndigits (value : BitVec 64) : ℕ := (spec.digits (spec.value value).natAbs).length

/-- The number of separators between the digits. -/
def nseparators (numeric : LcNumeric) (value : BitVec 64) : ℕ :=
  separators numeric (.grouping ∈ spec.flags) (spec.ndigits value)

/-- The conversions whose results are the prescribed ones: no number overflows, the width is not a
negative argument, zero is not printed without digits, the alternative form of an octal number has
no leading zeros already, and the padding of a number with leading zeros and separators is not
miscounted. -/
structure Conforms (numeric : LcNumeric) (width precision value : BitVec 64) : Prop
    extends spec.Defined precision value where
  widthNonneg : spec.width = .star → 0 ≤ argSint .default width
  zero : spec.value value = 0 → spec.c11Precision precision = some 0 → spec.alternativeOctal
  octal : spec.alternativeOctal → spec.value value ≠ 0 → ∀ p ∈ spec.c11Precision precision,
    p ≤ spec.ndigits value
  grouping : 0 < spec.nseparators numeric value → ∀ p ∈ spec.c11Precision precision,
    spec.ndigits value < p → spec.c11Width width ≤
      max (spec.ndigits value + spec.nseparators numeric value) p + (spec.c11Prefix value).length

theorem ndigits_pos (value : BitVec 64) : 0 < spec.ndigits value := by
  rw [ndigits, digits, length_digitBytes]
  exact length_pos_iff.mpr (numeral_ne_nil _ _)

theorem ndigits_le (value : BitVec 64) : spec.ndigits value ≤ 24 := by
  have eight : 8 ≤ spec.base := by
    rw [base]
    split_ifs <;> decide
  rw [ndigits, digits, length_digitBytes]
  exact length_numeral_le eight (spec.natAbs_value_lt value)

theorem length_groupedBytes (numeric : LcNumeric) (value : BitVec 64) :
    (groupedBytes numeric (.grouping ∈ spec.flags)
      (spec.digits (spec.value value).natAbs)).length =
      spec.ndigits value + spec.nseparators numeric value :=
  length_grouped _ _ _

theorem nseparators_le (numeric : LcNumeric) (value : BitVec 64) :
    spec.nseparators numeric value ≤ spec.ndigits value := by
  have := length_groupSizes_le (groupEntries numeric (.grouping ∈ spec.flags)) (spec.ndigits value)
  rw [nseparators, separators]
  omega

theorem groupedBytes_nil (numeric : LcNumeric) (enabled : Bool) :
    groupedBytes numeric enabled [] = [] :=
  grouped_of_single (groupSizes_of_le_one _ (Nat.zero_le 1))

theorem groupedBytes_zero (numeric : LcNumeric) :
    groupedBytes numeric (.grouping ∈ spec.flags) (spec.digits 0) = [byteOf '0'] := by
  have first : ∀ specifier, byteOf ((numberCharset specifier).getD 0 '0') = byteOf '0' := by
    intro specifier
    rw [numberCharset]
    split_ifs <;> rfl
  have digits : spec.digits 0 = [byteOf '0'] := congrArg (fun c => [c]) (first spec.specifier)
  rw [digits]
  exact grouped_of_single (groupSizes_of_le_one _ le_rfl)

theorem ndigits_zero {value : BitVec 64} (zero : spec.value value = 0) :
    spec.ndigits value = 1 := by
  rw [ndigits, zero]
  rfl

/-- The digits that the code prints. -/
def codeBody (numeric : LcNumeric) (precision value : BitVec 64) : List UInt8 :=
  List.replicate (spec.storedPrecision precision - spec.ndigits value).toNat (byteOf '0') ++
    groupedBytes numeric (.grouping ∈ spec.flags) (spec.digits (spec.value value).natAbs)

theorem codeText_eq (numeric : LcNumeric) (width precision value : BitVec 64) :
    spec.codeText numeric width precision value =
      layout (.minus ∈ spec.flags)
        (decide (.zero ∈ spec.flags ∧ .minus ∉ spec.flags) &&
          decide (spec.storedPrecision precision < 0))
        (spec.fieldWidth width -
          (max (spec.ndigits value + spec.nseparators numeric value)
            (spec.storedPrecision precision).toNat + (spec.codePrefix value).length))
        ((spec.codePrefix value).map byteOf) (spec.codeBody numeric precision value) :=
  rfl

theorem length_codeBody (numeric : LcNumeric) (precision value : BitVec 64) :
    (spec.codeBody numeric precision value).length =
      (spec.storedPrecision precision - spec.ndigits value).toNat +
        (spec.ndigits value + spec.nseparators numeric value) := by
  rw [codeBody, length_append, length_replicate, length_groupedBytes]

/-- The digits are the prescribed ones, apart from zero without digits and from octal numbers in the
alternative form. -/
theorem c11Body_eq_codeBody {numeric : LcNumeric} {precision value : BitVec 64}
    (notOctal : ¬(spec.alternativeOctal ∧ spec.value value ≠ 0))
    (zero : spec.value value = 0 → spec.c11Precision precision = some 0 → spec.alternativeOctal) :
    spec.c11Body numeric precision value = spec.codeBody numeric precision value := by
  rw [c11Body, codeBody, c11Zeros]
  by_cases isZero : spec.value value = 0
  · rw [if_pos isZero, if_pos isZero, groupedBytes_nil, spec.ndigits_zero isZero, isZero, Int.natAbs_zero,
      groupedBytes_zero, ← replicate_succ', append_nil]
    congr 1
    rw [spec.c11Precision_eq] at zero ⊢
    have alternative := zero isZero
    split_ifs at alternative ⊢ with negative octal octal
    · simp at octal
    · simp only [getD_none]
      omega
    · simp only [getD_some] at octal
      omega
    · simp only [getD_some, some.injEq, Nat.sub_zero, not_and] at *
      by_cases none : (spec.storedPrecision precision).toNat = 0
      · exact absurd none (octal (alternative none))
      · omega
  · have noOctal : ¬spec.alternativeOctal := fun octal => notOctal ⟨octal, isZero⟩
    have digits := spec.ndigits_pos value
    rw [if_neg isZero, if_neg isZero, if_neg (fun both => noOctal both.1)]
    change replicate ((spec.c11Precision precision).getD 1 - spec.ndigits value) _ ++ _ = _
    congr 2
    rw [spec.c11Precision_eq]
    split_ifs
    · rw [getD_none]
      omega
    · rw [getD_some]
      omega

theorem c11Body_octal {numeric : LcNumeric} {precision value : BitVec 64}
    (octal : spec.alternativeOctal) (nonzero : spec.value value ≠ 0)
    (few : ∀ p ∈ spec.c11Precision precision, p ≤ spec.ndigits value) :
    spec.c11Body numeric precision value =
      byteOf '0' :: spec.codeBody numeric precision value := by
  have digits := spec.ndigits_pos value
  have noZeros : (spec.c11Precision precision).getD 1 - spec.ndigits value = 0 ∧
      (spec.storedPrecision precision - spec.ndigits value).toNat = 0 := by
    rw [spec.c11Precision_eq] at few ⊢
    split_ifs at few ⊢
    · rw [getD_none]
      omega
    · have := few _ rfl
      rw [getD_some]
      omega
  rw [c11Body, codeBody, c11Zeros, if_neg nonzero, if_neg nonzero, noZeros.2]
  rw [if_pos ⟨octal, noZeros.1⟩]
  rfl

theorem c11Prefix_octal {value : BitVec 64} (octal : spec.alternativeOctal) :
    spec.c11Prefix value = [] := by
  have unsigned : spec.signed = false := by
    rw [signed, octal.1]
    rfl
  rw [c11Prefix, unsigned, if_neg Bool.false_ne_true, octal.1]
  split_ifs <;> first | rfl | contradiction

/-- A leading zero may be part of the prefix or of the digits. -/
theorem layout_zero (left zero : Bool) (padding : ℕ) (body : List UInt8) :
    layout left zero padding [byteOf '0'] body = layout left zero padding [] (byteOf '0' :: body) := by
  rw [layout, layout]
  split_ifs
  · rfl
  · rw [singleton_append, ← replicate_succ, replicate_succ', append_assoc]
    rfl
  · simp

theorem layout_flags (precision : BitVec 64) (padding : ℕ) (front body : List UInt8) :
    layout (.minus ∈ spec.flags)
        (decide (.zero ∈ spec.flags ∧ .minus ∉ spec.flags) &&
          decide (spec.storedPrecision precision < 0)) padding front body =
      layout (.minus ∈ spec.flags)
        (.zero ∈ spec.flags && (spec.c11Precision precision).isNone) padding front body := by
  by_cases left : Flag.minus ∈ spec.flags
  · simp [left, layout]
  · have absent : (spec.c11Precision precision).isNone =
        decide (spec.storedPrecision precision < 0) := by
      rw [spec.c11Precision_eq]
      split_ifs with negative
      · exact (decide_eq_true negative).symm
      · exact (decide_eq_false negative).symm
    rw [absent]
    simp [left]

/-- **The conversions that conform print what the standard prescribes.** -/
theorem codeText_of_conforms {numeric : LcNumeric} {width precision value : BitVec 64}
    (conforms : spec.Conforms numeric width precision value) :
    spec.codeText numeric width precision value = spec.c11Text numeric width precision value := by
  rw [codeText_eq, c11Text, spec.c11Left_eq conforms.widthNonneg, layout_flags,
    spec.fieldWidth_eq_c11Width conforms.widthNonneg]
  by_cases octal : spec.alternativeOctal ∧ spec.value value ≠ 0
  · have few := conforms.octal octal.1 octal.2
    have length : (spec.storedPrecision precision).toNat ≤ spec.ndigits value := by
      rw [spec.c11Precision_eq] at few
      split_ifs at few
      · omega
      · exact few _ rfl
    rw [codePrefix, if_pos octal, spec.c11Prefix_octal octal.1,
      spec.c11Body_octal octal.1 octal.2 few]
    rw [map_singleton, map_nil, layout_zero]
    congr 1
    simp only [length_cons, length_nil, length_codeBody]
    omega
  · have body : spec.c11Body numeric precision value = spec.codeBody numeric precision value :=
      spec.c11Body_eq_codeBody octal conforms.zero
    rw [codePrefix, if_neg octal, body]
    congr 1
    have grouping := conforms.grouping
    rw [spec.c11Precision_eq] at grouping
    rw [length_map, length_codeBody]
    split_ifs at grouping
    · omega
    · have enough := fun more => grouping more _ rfl
      omega

/-- The layout does not pad with zeros if there is a precision. -/
theorem count_texts (numeric : LcNumeric) (width value : BitVec 64) {precision : BitVec 64} {p : ℕ}
    (present : spec.c11Precision precision = some p) :
    (spec.codeText numeric width precision value).count (byteOf '0') =
        ((spec.codePrefix value).map byteOf).count (byteOf '0') +
          (spec.codeBody numeric precision value).count (byteOf '0') ∧
      (spec.c11Text numeric width precision value).count (byteOf '0') =
        ((spec.c11Prefix value).map byteOf).count (byteOf '0') +
          (spec.c11Body numeric precision value).count (byteOf '0') := by
  rw [codeText_eq, layout_flags, c11Text, present, isNone_some, Bool.and_false]
  exact ⟨count_layout _ _ _ _, count_layout _ _ _ _⟩

theorem codeText_ne_of_zero {numeric : LcNumeric} {width precision value : BitVec 64}
    (zero : spec.value value = 0) (present : spec.c11Precision precision = some 0)
    (notOctal : ¬spec.alternativeOctal) :
    spec.codeText numeric width precision value ≠ spec.c11Text numeric width precision value := by
  intro same
  obtain ⟨code, c11⟩ := spec.count_texts numeric width value present
  have body : spec.c11Body numeric precision value = [] := by
    rw [c11Body, c11Zeros, if_pos zero, if_pos zero, present, if_neg (fun both => notOctal both.1)]
    exact groupedBytes_nil numeric _
  have digit : byteOf '0' ∈ spec.codeBody numeric precision value := by
    rw [codeBody, zero, Int.natAbs_zero, groupedBytes_zero]
    exact mem_append_right _ (mem_singleton_self _)
  have positive := count_pos_iff.mpr digit
  rw [codePrefix, if_neg (fun both => notOctal both.1)] at code
  rw [same, c11, body, count_nil] at code
  omega

/-- An octal number in the alternative form has one zero more than its precision. -/
theorem codeText_ne_of_octal {numeric : LcNumeric} {width precision value : BitVec 64} {p : ℕ}
    (octal : spec.alternativeOctal) (nonzero : spec.value value ≠ 0)
    (present : spec.c11Precision precision = some p) (many : spec.ndigits value < p) :
    spec.codeText numeric width precision value ≠ spec.c11Text numeric width precision value := by
  intro same
  obtain ⟨code, c11⟩ := spec.count_texts numeric width value present
  have stored : (spec.storedPrecision precision - spec.ndigits value).toNat =
      p - spec.ndigits value := by
    rw [spec.c11Precision_eq] at present
    split_ifs at present
    rw [some.injEq] at present
    omega
  have body : spec.c11Body numeric precision value = spec.codeBody numeric precision value := by
    rw [c11Body, codeBody, c11Zeros, if_neg nonzero, if_neg nonzero, present, stored]
    change replicate (if spec.alternativeOctal ∧ p - spec.ndigits value = 0 then 1
      else p - spec.ndigits value) _ ++ _ = _
    rw [if_neg (by omega)]
  rw [codePrefix, if_pos ⟨octal, nonzero⟩] at code
  rw [spec.c11Prefix_octal octal, body] at c11
  rw [same, c11] at code
  simp at code

/-- The prescribed text is short if the width is a negative argument. -/
theorem codeText_ne_of_negative {numeric : LcNumeric} {width precision value : BitVec 64}
    (fits : spec.precisionFits) (star : spec.width = .star)
    (negative : argSint .default width < 0) :
    spec.codeText numeric width precision value ≠ spec.c11Text numeric width precision value := by
  intro same
  have lengths := congrArg length same
  have wide := spec.c11Width_add_lt star negative
  have front : (spec.c11Prefix value).length ≤ 2 := by
    rw [c11Prefix]
    split_ifs <;> decide
  have zeros : spec.c11Zeros precision value ≤ 2 ^ 31 := by
    have small : (spec.c11Precision precision).getD 1 ≤ 2 ^ 31 := by
      have := spec.storedPrecision_lt precision fits
      rw [spec.c11Precision_eq]
      split_ifs
      · decide
      · rw [getD_some]
        omega
    rw [c11Zeros]
    split_ifs <;> omega
  have body : (spec.c11Body numeric precision value).length ≤ 2 ^ 31 + 48 := by
    have digits := spec.ndigits_le value
    have separators := spec.nseparators_le numeric value
    rw [c11Body, length_append, length_replicate]
    split_ifs
    · rw [groupedBytes_nil, length_nil]
      omega
    · rw [length_groupedBytes]
      omega
  rw [codeText_eq, c11Text, length_layout, length_layout, length_codeBody, length_map,
    length_map] at lengths
  omega

/-- The padding of a number with leading zeros and separators is miscounted. -/
theorem codeText_ne_of_grouping {numeric : LcNumeric} {width precision value : BitVec 64} {p : ℕ}
    (notOctal : ¬(spec.alternativeOctal ∧ spec.value value ≠ 0))
    (zero : spec.value value = 0 → spec.c11Precision precision = some 0 → spec.alternativeOctal)
    (nonneg : spec.width = .star → 0 ≤ argSint .default width)
    (present : spec.c11Precision precision = some p) (many : spec.ndigits value < p)
    (more : 0 < spec.nseparators numeric value)
    (wide : max (spec.ndigits value + spec.nseparators numeric value) p +
      (spec.c11Prefix value).length < spec.c11Width width) :
    spec.codeText numeric width precision value ≠ spec.c11Text numeric width precision value := by
  intro same
  have lengths := congrArg length same
  have body : spec.c11Body numeric precision value = spec.codeBody numeric precision value :=
    spec.c11Body_eq_codeBody notOctal zero
  have stored : spec.storedPrecision precision = p := by
    rw [spec.c11Precision_eq] at present
    split_ifs at present
    rw [some.injEq] at present
    omega
  rw [codeText_eq, c11Text, length_layout, length_layout, length_map, length_map, body,
    length_codeBody, codePrefix, if_neg notOctal, stored,
    spec.fieldWidth_eq_c11Width nonneg] at lengths
  omega

/-- **The text that `vprintf()` prints for a conversion of an integer is the prescribed one if and
only if the conversion is one of those that conform.** -/
theorem vprintf_integer_iff (env : PrintEnvironment) (spec : IntegerSpec)
    (width precision value : BitVec 64) :
    vprintf env (byteOf '%' :: spec.text) (spec.arguments width precision value) =
        some ⟨none, spec.c11Text env.numeric width precision value⟩ ↔
      spec.Conforms env.numeric width precision value := by
  rw [vprintf_text]
  constructor
  · intro printed
    split_ifs at printed with isDefined
    rw [some.injEq, PrintResult.mk.injEq] at printed
    have same := printed.2
    have nonneg : spec.width = .star → 0 ≤ argSint .default width := by
      intro star
      by_contra negative
      exact spec.codeText_ne_of_negative isDefined.precisionFits star (not_le.mp negative) same
    have zero : spec.value value = 0 → spec.c11Precision precision = some 0 →
        spec.alternativeOctal := by
      intro isZero present
      by_contra notOctal
      exact spec.codeText_ne_of_zero isZero present notOctal same
    have octal : spec.alternativeOctal → spec.value value ≠ 0 →
        ∀ p ∈ spec.c11Precision precision, p ≤ spec.ndigits value := by
      intro isOctal nonzero p present
      by_contra many
      exact spec.codeText_ne_of_octal isOctal nonzero present (not_le.mp many) same
    refine ⟨isDefined, nonneg, zero, octal, fun more p present many => ?_⟩
    by_contra wide
    refine spec.codeText_ne_of_grouping ?_ zero nonneg present many more (not_le.mp wide) same
    rintro ⟨isOctal, nonzero⟩
    exact absurd (octal isOctal nonzero p present) (not_le.mpr many)
  · intro conforms
    rw [if_pos conforms.toDefined, spec.codeText_of_conforms conforms]

/-- The specification `%.0d`. -/
def zeroPrecision : IntegerSpec where
  flags := []
  width := .literal [] (List.forall_mem_nil _) (by decide)
  precision := .literal [byteOf '0'] (List.forall_mem_singleton.mpr (by decide))
  length := .none
  specifier := 'd'
  known := by decide
  integer := by decide
  length_ne := by decide

/-- The POSIX locale, and a memory without objects. -/
def posixEnvironment : PrintEnvironment where
  ctype := ctypeUsAscii
  numeric := ⟨[], none, none_ne_zero⟩
  memory := fun _ => none

/-- For `printf("%.0d", 0)`, where no characters are prescribed, a zero is printed. -/
theorem vprintf_zeroPrecision :
    vprintf posixEnvironment (byteOf '%' :: zeroPrecision.text) (zeroPrecision.arguments 0 0 0) =
        some ⟨none, [byteOf '0']⟩ ∧
      zeroPrecision.c11Text posixEnvironment.numeric 0 0 0 = [] := by
  refine ⟨by decide, ?_⟩
  have body : zeroPrecision.c11Body posixEnvironment.numeric 0 0 = [] := groupedBytes_nil _ _
  rw [c11Text, body]
  rfl

end IntegerSpec

end Cloudlibc.Stdio
