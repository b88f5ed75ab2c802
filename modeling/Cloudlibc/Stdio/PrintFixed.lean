import Cloudlibc.Float10.Rounding
import Cloudlibc.Stdio.PrintFloat
import Cloudlibc.Stdio.PrintInteger

/-!
# The conversion `%f`

What `%f` prints is a sign, digits in groups, a radix character and as many digits as the precision
asks for, in a field (`numberText`, `float10_eq`). The digits are those of the rounded number that
`__f10dec()` delivers, and all of them are printed (`f10dec_printed`).
-/

set_option autoImplicit false

namespace Cloudlibc.Stdio

open Cloudlibc.Float10 Cloudlibc.Locale Cloudlibc.Digits List Option

/-! ## Fields -/

/-- A number in its field. -/
def numberText (conversion : PrintConversion) (numberPrefix : List Char) (body : List UInt8) :
    List UInt8 :=
  let padding := conversion.fieldWidth - (numberPrefix.length + body.length)
  if conversion.flags.zeroPadding then
    numberPrefix.map byteOf ++ List.replicate padding (byteOf '0') ++ body
  else if conversion.flags.leftJustified then
    numberPrefix.map byteOf ++ body ++ List.replicate padding (byteOf ' ')
  else
    List.replicate padding (byteOf ' ') ++ numberPrefix.map byteOf ++ body

/-- What is printed in front of the digits and behind them fills the field. -/
theorem numberFront_eq (conversion : PrintConversion) (numberPrefix : List Char)
    (body : List UInt8) :
    (numberFront conversion numberPrefix (numberPrefix.length + body.length)).1 ++ body ++
        (padToFieldWidth ' '
          (numberFront conversion numberPrefix (numberPrefix.length + body.length)).2
          (numberPrefix.length + body.length)).1 =
      numberText conversion numberPrefix body := by
  have nothing : ∀ width, replicate (min conversion.fieldWidth width - width) (byteOf ' ') =
      [] := by
    intro width
    rw [Nat.sub_eq_zero_of_le (Nat.min_le_right _ _), replicate_zero]
  rw [numberText, numberFront]
  split_ifs <;> simp only [padToFieldWidth, nothing, append_nil, append_assoc]

/-! ## Digits -/

/-- A digit as a byte. -/
def digitByte (digit : ℕ) : UInt8 := .ofNat (digit + 0x30)

/-- The digits of a number from an index on. -/
def digitRange (digits : List ℕ) (idx : ℤ) (count : ℕ) : List ℕ :=
  (List.range count).map fun (i : ℕ) => indexedDigit digits (idx + i)

theorem fixedDigits_eq (digits : List ℕ) (idx : ℤ) (count : ℕ) :
    fixedDigits digits idx count = (digitRange digits idx count).map digitByte := by
  simp [fixedDigits, digitRange, digitByte]

@[simp] theorem length_digitRange (digits : List ℕ) (idx : ℤ) (count : ℕ) :
    (digitRange digits idx count).length = count := by simp [digitRange]

variable {count : ℕ}

theorem digitRange_ends (digits : List ℕ) (idx : ℤ) (written : 0 < count) :
    (digitRange digits idx count).head? = some (indexedDigit digits idx) ∧
      (digitRange digits idx count).getLast? = some (indexedDigit digits (idx + count - 1)) := by
  obtain ⟨count, rfl⟩ := Nat.exists_eq_add_of_lt written
  rw [digitRange, Nat.zero_add]
  constructor
  · rw [range_succ_eq_map, map_cons, head?_cons]
    simp
  · rw [range_succ, map_append, map_singleton, getLast?_concat]
    congr 2
    omega

variable {digits : List ℕ}

theorem digitRange_lt (small : ∀ digit ∈ digits, digit < 10) (idx : ℤ) (count : ℕ) :
    ∀ digit ∈ digitRange digits idx count, digit < 10 := by
  intro digit member
  obtain ⟨i, -, rfl⟩ := mem_map.mp member
  exact indexedDigit_lt small _

theorem digitRange_add (digits : List ℕ) (idx : ℤ) (count count' : ℕ) :
    digitRange digits idx (count + count') =
      digitRange digits idx count ++ digitRange digits (idx + count) count' := by
  rw [digitRange, List.range_add, List.map_append, List.map_map]
  congr 1
  refine List.map_congr_left fun i _ => ?_
  simp [add_assoc]

variable {idx : ℤ}

theorem indexedDigit_of_le (outside : (digits.length : ℤ) ≤ idx) : indexedDigit digits idx = 0 := by
  rw [indexedDigit, if_pos (by omega), getD_eq_getElem?_getD, getElem?_eq_none (by omega),
    getD_none]

theorem digitRange_zeros (outside : (digits.length : ℤ) ≤ idx) (count : ℕ) :
    ∀ digit ∈ digitRange digits idx count, digit = 0 := by
  intro digit member
  obtain ⟨i, -, rfl⟩ := mem_map.mp member
  exact indexedDigit_of_le (by omega)

theorem digitRange_all (digits : List ℕ) : digitRange digits 0 digits.length = digits := by
  refine ext_getElem (by simp) fun i _ inside => ?_
  simp [digitRange, indexedDigit, getD_eq_getElem?_getD, getElem?_eq_getElem inside]

theorem digitRange_front (digits : List ℕ) (count : ℕ) :
    ∀ digit ∈ digitRange digits (-count) count, digit = 0 := by
  intro digit member
  obtain ⟨i, inside, rfl⟩ := mem_map.mp member
  rw [mem_range] at inside
  rw [indexedDigit, if_neg (by omega)]

variable {exponent : ℤ}

/-- **A range that has all digits of a number stands for the number.** -/
theorem decimal_digitRange (start : idx ≤ 0) (all : (digits.length : ℤ) ≤ idx + count) :
    decimal (digitRange digits idx count) exponent = decimal digits (exponent + idx) := by
  obtain ⟨before, rfl⟩ := Int.exists_eq_neg_ofNat start
  obtain ⟨behind, rfl⟩ : ∃ behind, count = before + (digits.length + behind) :=
    ⟨count - before - digits.length, by omega⟩
  rw [digitRange_add, digitRange_add, decimal_append, decimal_append,
    decimal_zeros (digitRange_front digits before), length_digitRange,
    decimal_zeros (digitRange_zeros (by omega) behind), neg_add_cancel, digitRange_all]
  ring_nf

/-! ## What is printed -/

/-- A number without exponent. -/
def fixedBody (numeric : LcNumeric) (decimalPoint : Char) (flags : PrintFlags)
    (left right : List ℕ) : List UInt8 :=
  groupedBytes numeric flags.grouping (left.map digitByte) ++
    (if flags.alternativeForm || 0 < right.length then [byteOf decimalPoint] else []) ++
    right.map digitByte

/-- The number of digits in front of the radix character. -/
def leftCount (exponent : ℤ) : ℕ := if exponent ≥ 1 then exponent.toNat else 1

theorem leftCount_pos (exponent : ℤ) : 0 < leftCount exponent := by
  rw [leftCount]
  split_ifs <;> omega

/-- The digits in front of the radix character. -/
def leftDigits (digits : List ℕ) (exponent : ℤ) : List ℕ :=
  digitRange digits (exponent - leftCount exponent) (leftCount exponent)

/-- **What `%f` prints**, if the number of digits that are printed is enough. -/
theorem float10_eq (numeric : LcNumeric) (decimalPoint : Char) {round : RoundingMode}
    (conversion : PrintConversion) {precision : ℕ} (strip : Bool) {negative : Bool}
    {value : Shortest}
    (rounded : f10dec negative value precision decimalDig round = some (digits, exponent))
    (high : exponent ≤ 310)
    (printed : (if strip then stripPrecision digits exponent precision else precision) = count)
    (enough : (digits.length : ℤ) ≤ exponent + count) :
    float10 numeric decimalPoint round conversion precision strip negative value =
      some (numberText conversion (floatPrefix conversion.flags negative)
        (fixedBody numeric decimalPoint conversion.flags (leftDigits digits exponent)
          (digitRange digits exponent count))) := by
  have few : (if exponent ≥ 1 then exponent.toNat else 1) = leftCount exponent := rfl
  have idx : (if exponent ≥ 1 then 0 else exponent - 1) = exponent - leftCount exponent := by
    rw [leftCount]
    split_ifs <;> omega
  have length : (fixedDigits digits (exponent - leftCount exponent)
      (leftCount exponent)).length = leftCount exponent := by simp [fixedDigits]
  obtain ⟨ng, planned, separated⟩ := groupDigits_eq numeric conversion.flags.grouping
    (byteOf (numeric.thousandsSep.headD '\x00'))
    (show (fixedDigits digits (exponent - leftCount exponent) (leftCount exponent)).length < 2 ^ 64
      by omega)
  rw [length] at planned
  rw [float10, if_neg (by omega), Int.toNat_natCast, rounded]
  simp only [bind_eq_bind, bind_some, printed, few, idx, planned, separated,
    Int.toNat_natCast, sub_add_cancel]
  rw [if_pos enough]
  have body : fixedBody numeric decimalPoint conversion.flags (leftDigits digits exponent)
      (digitRange digits exponent count) =
      grouped (byteOf (numeric.thousandsSep.headD '\x00'))
          (if conversion.flags.grouping then numeric.grouping.getD [] else [])
          (fixedDigits digits (exponent - leftCount exponent) (leftCount exponent)) ++
        (if conversion.flags.alternativeForm || (0 : ℤ) < count then [byteOf decimalPoint] else []) ++
        fixedDigits digits exponent count := by
    rw [fixedBody, groupedBytes, groupEntries, leftDigits, ← fixedDigits_eq, ← fixedDigits_eq,
      length_digitRange]
    simp
  have width : (floatPrefix conversion.flags negative).length +
      (leftCount exponent + ((groupSizes (if conversion.flags.grouping then
        numeric.grouping.getD [] else []) (leftCount exponent)).length - 1)) +
      (if conversion.flags.alternativeForm || (0 : ℤ) < count then
        [byteOf decimalPoint] else []).length + count =
      (floatPrefix conversion.flags negative).length +
        (fixedBody numeric decimalPoint conversion.flags (leftDigits digits exponent)
          (digitRange digits exponent count)).length := by
    rw [body, length_append, length_append, length_grouped, length,
      show (fixedDigits digits exponent count).length = count by simp [fixedDigits]]
    omega
  rw [width, ← numberFront_eq, body]
  simp only [append_assoc]
  rfl

theorem float10_default (numeric : LcNumeric) (decimalPoint : Char) (round : RoundingMode)
    (conversion : PrintConversion) (strip negative : Bool) (value : Shortest) {precision : ℤ}
    {n : ℕ} (given : (if precision < 0 then 6 else precision) = n) :
    float10 numeric decimalPoint round conversion precision strip negative value =
      float10 numeric decimalPoint round conversion n strip negative value := by
  have same : (if (n : ℤ) < 0 then 6 else (n : ℤ)) = n := if_neg (by omega)
  rw [float10, given, float10, same]

theorem leftDigits_ne_nil (digits : List ℕ) (exponent : ℤ) : leftDigits digits exponent ≠ [] := by
  intro empty
  have length := congrArg length empty
  rw [leftDigits, length_digitRange, length_nil] at length
  exact (leftCount_pos exponent).ne' length

/-- The digits in front of the radix character do not begin with zero, unless there is only one. -/
theorem leftDigits_leading (leading : digits.head? ≠ some 0) (written : digits = [] → exponent = 1)
    (zero : (leftDigits digits exponent).head? = some 0) : leftDigits digits exponent = [0] := by
  have single : ∀ idx, digitRange digits idx 1 = [indexedDigit digits idx] := by simp [digitRange]
  by_cases many : exponent ≤ 1
  · have one : leftCount exponent = 1 := by
      rw [leftCount]
      split_ifs <;> omega
    rw [leftDigits, one, single] at zero ⊢
    rw [some.inj zero]
  · cases digits with
    | nil => exact absurd (written rfl) (by omega)
    | cons digit others =>
      refine absurd ?_ leading
      obtain ⟨n, count⟩ : ∃ n, leftCount exponent = 1 + n := ⟨leftCount exponent - 1, by
        have := leftCount_pos exponent
        omega⟩
      have start : exponent - leftCount exponent = 0 := by
        rw [leftCount, if_pos (by omega)]
        omega
      rw [leftDigits, start, count, digitRange_add, single, singleton_append, head?_cons] at zero
      exact zero

/-- **The result of `__f10dec()` is the number rounded at the requested position**, and `%f` prints
exactly its digits, with as many of them behind the radix character as the precision says. -/
theorem f10dec_printed (negative : Bool) (value : Shortest)
    (leading : (trim value.digits).head? ≠ some 0) (precision : ℕ) (limited : precision ≤ 10 ^ 6)
    (ndigits : ℕ) (room : 0 < ndigits) (round : RoundingMode) :
    (∃ digits exponent, f10dec negative value precision ndigits round = some (digits, exponent) ∧
      (∀ digit ∈ digits, digit ≤ 9) ∧ digits.head? ≠ some 0 ∧
      Rounds (round.magnitude negative)
        (10 ^ max (-precision : ℤ) (value.exponent - ndigits))
        (decimal value.digits value.exponent) (decimal digits exponent)) ∧
    ∀ (numeric : LcNumeric) (decimalPoint : Char) (conversion : PrintConversion) (specifier : Char),
      specifier ∈ ['f', 'F'] →
      (if conversion.precision < 0 then 6 else conversion.precision) = precision →
      ∃ digits exponent left right,
        f10dec negative value precision decimalDig round = some (digits, exponent) ∧
        printFloat10 numeric decimalPoint round conversion specifier (.finite negative value) =
          some (numberText conversion (floatPrefix conversion.flags negative)
            (fixedBody numeric decimalPoint conversion.flags left right)) ∧
        (∀ digit ∈ left ++ right, digit ≤ 9) ∧ left ≠ [] ∧ (left.head? = some 0 → left = [0]) ∧
        right.length = precision ∧
        decimal (left ++ right) left.length = decimal digits exponent := by
  have high := value.exponent_le
  have max' : intMax = 2147483647 := rfl
  have total : (precision : ℤ) + value.exponent ≤ intMax := by omega
  constructor
  · obtain ⟨digits, exponent, rounded, small, first, -, rounds⟩ :=
      f10dec_rounds negative leading room round (by omega) total
    exact ⟨digits, exponent, rounded, fun digit member => Nat.lt_succ_iff.mp (small digit member),
      first, rounds⟩
  · intro numeric decimalPoint conversion specifier fixed given
    obtain ⟨digits, exponent, rounded, small, first, empty, -⟩ :=
      f10dec_rounds negative leading (show 0 < decimalDig by decide) round (by omega) total
    obtain ⟨digits', exponent', rounded', -, fits, bound⟩ :=
      f10dec_spec negative value precision (show 0 < decimalDig by decide) round fun _ => total
    obtain ⟨rfl, rfl⟩ := Prod.mk.inj (some.inj (rounded.symm.trans rounded'))
    refine ⟨digits, exponent, leftDigits digits exponent, digitRange digits exponent precision,
      rounded, ?_, ?_, leftDigits_ne_nil digits exponent, ?_, length_digitRange _ _ _, ?_⟩
    · rw [printFloat10]
      simp only [fixed, if_true]
      rw [float10_default numeric decimalPoint round conversion false negative value given]
      exact float10_eq numeric decimalPoint conversion false rounded bound rfl fits
    · intro digit member
      obtain before | behind := mem_append.mp member
      · exact Nat.lt_succ_iff.mp (digitRange_lt small _ _ digit before)
      · exact Nat.lt_succ_iff.mp (digitRange_lt small _ _ digit behind)
    · exact leftDigits_leading first empty
    · have joined : leftDigits digits exponent ++ digitRange digits exponent precision =
          digitRange digits (exponent - leftCount exponent) (leftCount exponent + precision) := by
        rw [leftDigits, digitRange_add, sub_add_cancel]
      rw [joined, leftDigits, length_digitRange, decimal_digitRange]
      · rw [add_sub_cancel]
      · rw [leftCount]
        split_ifs <;> omega
      · push_cast
        omega

/-- The number 9.995 is printed as `10.00` with a precision of two. -/
theorem f10dec_printed_carry :
    (∃ digits exponent, f10dec false ⟨[9, 9, 9, 5], 1, by decide, by decide, by decide, by decide⟩ 2 3
        .toNearest = some (digits, exponent) ∧
      (∀ digit ∈ digits, digit ≤ 9) ∧ digits.head? ≠ some 0 ∧
      Rounds (RoundingMode.magnitude .toNearest false) (10 ^ max (-(2 : ℕ) : ℤ) (1 - (3 : ℕ)))
        (decimal [9, 9, 9, 5] 1) (decimal digits exponent)) :=
  (f10dec_printed false ⟨[9, 9, 9, 5], 1, by decide, by decide, by decide, by decide⟩ (by decide) 2
    (by decide) 3 (by decide) .toNearest).1

end Cloudlibc.Stdio
