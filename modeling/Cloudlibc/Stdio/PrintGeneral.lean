import Cloudlibc.Stdio.PrintFixed

/-!
# The conversion `%g`

What C11 7.21.6.1 prescribes for `%g` is the number rounded to a number of significant digits, with
or without exponent, and without zeroes at the end of its fraction (`generalBody`). The code converts
the number once to find the exponent and a second time if it prints no exponent; both give the same
digits (`f10dec_again`). It never removes zeroes in front of an exponent, and otherwise only those
that it would have added itself. So the text is the prescribed one if and only if the digits that
were kept by the rounding have no zeroes at the wrong place (`printFloat10_general_iff`).
-/

set_option autoImplicit false

namespace Cloudlibc.Stdio

open Cloudlibc.Float10 Cloudlibc.Locale Cloudlibc.Digits List Option Nat

/-! ## What the standard prescribes -/

/-- The number of significant digits. -/
def significant (precision : ℤ) : ℕ :=
  if precision < 0 then 6 else if precision = 0 then 1 else precision.toNat

/-- An exponent with at least two digits. -/
def exponentBytes (exponent : ℤ) : List UInt8 :=
  (if exponent.natAbs < 10 then [digitByte 0] else []) ++
    (numeral 10 exponent.natAbs).map digitByte

/-- A number with an exponent. -/
def exponentialBody (decimalPoint exponentChar : Char) (digits : List ℕ) (exponent : ℤ) :
    List UInt8 :=
  (digits.take 1).map digitByte ++ (if 1 < digits.length then [byteOf decimalPoint] else []) ++
    (digits.drop 1).map digitByte ++
    byteOf exponentChar :: byteOf (if exponent < 0 then '-' else '+') :: exponentBytes exponent

/-- The digits behind the radix character. -/
def rightDigits (digits : List ℕ) (exponent : ℤ) : List ℕ :=
  digitRange digits exponent (digits.length - exponent).toNat

/-- A number that has been rounded to significant digits, in the style of its exponent and without
zeroes at the end. -/
def generalBody (numeric : LcNumeric) (decimalPoint exponentChar : Char) (flags : PrintFlags)
    (precision : ℕ) (digits : List ℕ) (exponent : ℤ) : List UInt8 :=
  if exponent - 1 < precision ∧ -4 ≤ exponent - 1 then
    fixedBody numeric decimalPoint flags (leftDigits (trim digits) exponent)
      (rightDigits (trim digits) exponent)
  else
    exponentialBody decimalPoint exponentChar (trim digits) (exponent - 1)

/-! ## Both conversions give the same digits -/

section Conversions

variable {negative : Bool} {value : Shortest} {round : RoundingMode}

theorem f10dec_unlimited (nonzero : trim value.digits ≠ []) {precision : ℕ}
    (positive : 0 < precision) :
    f10dec negative value (2 ^ 32 - 1) (floatNdigits (precision - 1)) round =
      some (keepDigits (round.magnitude negative) (trim value.digits) value.exponent
        (min precision (trim value.digits).length)) := by
  have few := trim_length_le value
  have written := length_pos_iff.mpr nonzero
  have room : min (floatNdigits (precision - 1)) (trim value.digits).length =
      min precision (trim value.digits).length := by
    rw [floatNdigits, decimalDig]
    split_ifs <;> omega
  rw [f10dec, if_neg nonzero]
  rw [room, if_neg (by omega), if_neg (by decide)]

theorem roundUp_nines (n : ℕ) (exponent : ℤ) :
    roundUp (replicate n 9) exponent = ([1], exponent + 1) := by
  have nines : ∀ n, carry (replicate n 9) = none := by
    intro n
    induction n with
    | zero => rfl
    | succ n ih => rw [replicate_succ, carry, if_neg (by decide), ih]
  rw [roundUp, reverse_replicate, nines]

/-- A number whose exponent changes consists of nines that are rounded up. -/
theorem keepDigits_carry {buffer digits : List ℕ} (small : ∀ digit ∈ buffer, digit < 10)
    {exponent : ℤ} {n : ℕ} (enough : n ≤ buffer.length)
    (kept : keepDigits round buffer exponent n = (digits, exponent + 1)) :
    digits = [1] ∧ buffer.take n = replicate n 9 ∧ roundsUp round buffer n = true := by
  have front : ∀ digit ∈ buffer.take n, digit < 10 := fun digit member =>
    small digit (mem_of_mem_take member)
  have length : (buffer.take n).length = n := by
    rw [length_take]
    omega
  rw [keepDigits] at kept
  split_ifs at kept with up
  · obtain ⟨nines, rounded⟩ | ⟨others, digit, k, -, -, rounded⟩ := roundUp_cases front exponent
    · rw [rounded, Prod.mk.injEq] at kept
      rw [length] at nines
      exact ⟨kept.1.symm, nines, up⟩
    · rw [rounded, Prod.mk.injEq] at kept
      omega
  · have := (Prod.mk.inj kept).2
    omega

/-- **The second conversion gives the same digits**, because its precision ends at the same digit. A
carry into a new digit does not change that: all digits in front were nines. -/
theorem f10dec_again (nonzero : trim value.digits ≠ []) {precision : ℕ} (positive : 0 < precision)
    (limited : precision ≤ intMax) {digits : List ℕ} {exponent : ℤ}
    (kept : keepDigits (round.magnitude negative) (trim value.digits) value.exponent
      (min precision (trim value.digits).length) = (digits, exponent))
    {fraction : ℕ} (same : (fraction : ℤ) = precision - exponent) (int : fraction ≤ intMax) :
    f10dec negative value fraction decimalDig round = some (digits, exponent) := by
  have few := trim_length_le value
  have small := trim_lt value
  have written := length_pos_iff.mpr nonzero
  have spec := keepDigits_spec (round.magnitude negative) value.exponent
    (min precision (trim value.digits).length) small
  rw [kept] at spec
  rw [f10dec, if_neg nonzero]
  generalize trim value.digits = buffer at *
  generalize round.magnitude negative = round at *
  have room : min decimalDig buffer.length = buffer.length := by
    rw [decimalDig]
    omega
  rw [if_neg (by omega), if_pos int, if_neg (by omega)]
  obtain same' | carried : exponent = value.exponent ∨ exponent = value.exponent + 1 := by omega
  · rw [if_neg (by omega)]
    congr 1
    rw [← kept]
    congr 1
    split_ifs <;> omega
  · subst carried
    obtain ⟨rfl, nines, up⟩ := keepDigits_carry small (min_le_right _ _) kept
    have dropped : precision < buffer.length := by
      by_contra all
      rw [min_eq_right (by omega)] at up
      simp [roundsUp] at up
    rw [min_eq_left dropped.le] at nines up
    have nine : ∀ i < precision, buffer.getD i 0 = 9 := by
      intro i inside
      have there : (buffer.take precision)[i]? = some 9 := by
        rw [nines, getElem?_replicate, if_pos inside]
      rw [getElem?_take_of_lt inside] at there
      rw [getD_eq_getElem?_getD, there, getD_some]
    have direction : round = .upward ∨ round = .toNearest := by
      cases round <;> simp [roundsUp] at up ⊢
    by_cases one : precision = 1
    · rw [if_pos (by omega), if_pos ?_]
      · congr 2
        omega
      · obtain rfl | rfl := direction
        · exact .inl rfl
        · refine .inr ⟨rfl, by omega, ?_⟩
          rw [nine 0 positive]
          decide
    · rw [if_neg (by omega), if_pos (by omega),
        show (fraction + value.exponent).toNat = precision - 1 by omega, keepDigits, if_pos ?_]
      · have front : buffer.take (precision - 1) = replicate (precision - 1) 9 := by
          rw [← min_eq_left (show precision - 1 ≤ precision by omega), ← take_take, nines,
            take_replicate]
        rw [front, roundUp_nines]
      · obtain rfl | rfl := direction
        · simp [roundsUp]
          omega
        · rw [roundsUp, nine (precision - 1) (by omega)]
          rfl

end Conversions

/-! ## What is printed with an exponent -/

theorem numberCharset_digit (specifier : Char) {digit : ℕ} (small : digit < 10) :
    (numberCharset specifier)[digit]?.map byteOf = some (digitByte digit) := by
  rw [numberCharset]
  split_ifs
  · revert digit
    decide
  · revert digit
    decide

theorem charsetDigits_eq (specifier : Char) {digits : List ℕ}
    (small : ∀ digit ∈ digits, digit < 10) :
    charsetDigits (numberCharset specifier) digits = some (digits.map digitByte) := by
  rw [charsetDigits]
  induction digits with
  | nil => rfl
  | cons digit digits ih =>
    obtain ⟨below, others⟩ := forall_mem_cons.mp small
    rw [mapM_cons, numberCharset_digit specifier below, ih others]
    rfl

theorem exponentLoop_step (specifier : Char) {room mindigits exponent : ℕ}
    (more : 0 < mindigits ∨ exponent ≠ 0) (digits : List UInt8) :
    exponentLoop (numberCharset specifier) (room + 1) mindigits exponent digits =
      exponentLoop (numberCharset specifier) room (mindigits - 1) (exponent / 10)
        (digitByte (exponent % 10) :: digits) := by
  have digit := numberCharset_digit specifier (mod_lt exponent (show 0 < 10 by decide))
  obtain ⟨c, found, byte⟩ := map_eq_some_iff.mp digit
  rw [exponentLoop, if_pos more, found, ← byte]
  rfl

/-- The digits of an exponent. -/
theorem exponentLoop_eq (specifier : Char) (room : ℕ) :
    ∀ {exponent : ℕ} (digits : List UInt8), exponent < 10 ^ room →
      exponentLoop (numberCharset specifier) room 0 exponent digits =
        some ((if exponent = 0 then [] else (numeral 10 exponent).map digitByte) ++ digits) := by
  induction room with
  | zero =>
    intro exponent digits small
    obtain rfl : exponent = 0 := by simpa using small
    rfl
  | succ room ih =>
    intro exponent digits small
    by_cases zero : exponent = 0
    · rw [exponentLoop, if_neg (by omega), if_pos zero]
      rfl
    · rw [exponentLoop_step specifier (.inr zero), Nat.zero_sub,
        ih _ (by rw [pow_succ] at small; omega), if_neg zero,
        numeral_eq_append (by decide) exponent]
      by_cases last : exponent / 10 = 0
      · rw [if_pos last, if_neg (by omega)]
        rfl
      · rw [if_neg last, if_pos (by omega)]
        simp

theorem exponentLoop_two (specifier : Char) {exponent : ℤ} (small : exponent.natAbs < 10 ^ 10) :
    exponentLoop (numberCharset specifier) 12 2 exponent.natAbs [] =
      some (exponentBytes exponent) := by
  rw [exponentBytes]
  generalize exponent.natAbs = n at small ⊢
  rw [exponentLoop_step specifier (.inl (by decide)), exponentLoop_step specifier (.inl (by decide)),
    exponentLoop_eq specifier 10 _ (by omega), numeral_eq_append (by decide) n]
  by_cases short : n < 10
  · rw [if_pos short, if_pos (by omega), if_neg (by omega), div_eq_of_lt short]
    rfl
  · rw [if_neg short, if_pos (show n / 10 > 0 by omega),
      numeral_eq_append (by decide) (n / 10)]
    by_cases last : n / 10 / 10 = 0
    · rw [if_pos last, if_neg (by omega)]
      rfl
    · rw [if_neg last, if_pos (by omega)]
      simp

/-- **What is printed with an exponent**: the digits, and zeroes up to the precision. -/
theorem floatExponential_eq (decimalPoint : Char) {conversion : PrintConversion}
    (plain : conversion.flags.alternativeForm = false) (specifier exponentChar : Char)
    (numberPrefix : List Char) {precision : ℕ} (positive : 0 < precision)
    (int : precision ≤ intMax) {digits : List ℕ} (written : digits ≠ [])
    (small : ∀ digit ∈ digits, digit < 10) (few : digits.length ≤ precision) {exponent : ℤ}
    (near : exponent.natAbs < 10 ^ 10) :
    floatExponential decimalPoint conversion (numberCharset specifier) exponentChar 2 numberPrefix
        (precision - 1) digits exponent =
      some (numberText conversion numberPrefix (exponentialBody decimalPoint exponentChar
        (digits ++ replicate (precision - digits.length) 0) exponent)) := by
  have size : 0 < digits.length := length_pos_iff.mpr written
  rw [floatExponential, exponentLoop_two specifier near]
  simp only [bind_eq_bind, bind_some, if_neg written, plain, Bool.false_or,
    charsetDigits_eq specifier small]
  rw [if_neg (by omega)]
  have total : max ((precision : ℤ) - 1 + 1).toNat digits.length = precision := by omega
  have zeros : ((precision : ℤ) - 1 + 1 - digits.length).toNat = precision - digits.length := by
    omega
  have body : exponentialBody decimalPoint exponentChar
      (digits ++ replicate (precision - digits.length) 0) exponent =
      (digits.map digitByte).take 1 ++
        (if decide (1 < precision) then [byteOf decimalPoint] else []) ++
        (digits.map digitByte).drop 1 ++
        replicate (precision - digits.length) (byteOf '0') ++
        byteOf exponentChar :: byteOf (if exponent < 0 then '-' else '+') ::
          exponentBytes exponent := by
    have length : digits.length + (precision - digits.length) = precision := by omega
    rw [exponentialBody, take_append_of_le_length (by omega),
      drop_append_of_le_length (by omega), length_append, length_replicate, length,
      map_append, map_replicate, map_take, map_drop]
    simp only [decide_eq_true_eq, append_assoc]
    rfl
  have width : precision + numberPrefix.length + (exponentBytes exponent).length +
      ((if decide (1 < precision) then [byteOf decimalPoint] else []).length + 2) =
      numberPrefix.length + (exponentialBody decimalPoint exponentChar
        (digits ++ replicate (precision - digits.length) 0) exponent).length := by
    rw [body]
    simp only [length_append, length_take, length_drop, length_map, length_replicate, length_cons]
    omega
  rw [total, zeros, width, ← numberFront_eq, body]
  simp only [append_assoc, cons_append]
  rfl

/-! ## Different bodies -/

/-- **A field shows how long the number in it is**, unless zeroes of the number could be taken for
padding. -/
theorem numberText_ne {conversion : PrintConversion} {numberPrefix : List Char}
    (short : numberPrefix.length ≤ 1) {body body' : List UInt8}
    (shorter : body'.length < body.length) (written : body' ≠ [])
    (first : body.head? ≠ some (byteOf ' ')) (last : body.getLast? ≠ some (byteOf ' '))
    (apart : body.head? ≠ some (byteOf '0') ∨ body.getLast? ≠ body'.getLast?) :
    numberText conversion numberPrefix body ≠ numberText conversion numberPrefix body' := by
  intro same
  have lengths := congrArg length same
  rw [numberText, numberText] at same lengths
  generalize conversion.fieldWidth = fieldWidth at same lengths
  have wide : numberPrefix.length + body.length ≤ fieldWidth := by
    split_ifs at lengths <;>
      simp only [length_append, length_map, length_replicate] at lengths <;> omega
  obtain ⟨k, more⟩ : ∃ k, fieldWidth - (numberPrefix.length + body'.length) =
      fieldWidth - (numberPrefix.length + body.length) + (k + 1) :=
    ⟨body.length - body'.length - 1, by omega⟩
  rw [more] at same
  generalize fieldWidth - (numberPrefix.length + body.length) = n at same
  split_ifs at same
  · -- Zeroes in front of the shorter number are digits of the longer one.
    rw [append_assoc, append_assoc, replicate_add, append_assoc,
      append_cancel_left_eq, append_cancel_left_eq] at same
    obtain head | ends := apart
    · rw [same] at head
      exact head rfl
    · rw [same, getLast?_append_of_ne_nil _ written] at ends
      exact ends rfl
  · rw [append_assoc, append_assoc, append_cancel_left_eq, add_comm n, replicate_add,
      ← append_assoc, append_cancel_right_eq, replicate_succ', ← append_assoc] at same
    rw [same, getLast?_concat] at last
    exact last rfl
  · rw [append_assoc, append_assoc, replicate_add, append_assoc, append_cancel_left_eq] at same
    apply first
    rw [replicate_succ, cons_append] at same
    cases numberPrefix with
    | nil =>
      rw [map_nil, nil_append] at same
      rw [same, head?_cons]
    | cons c others =>
      obtain rfl : others = [] := length_eq_zero_iff.mp (by simpa using short)
      rw [map_singleton, singleton_append, cons.injEq] at same
      obtain ⟨blank, rest⟩ := same
      rw [rest, blank]
      cases k <;> rfl

theorem length_exponentialBody (decimalPoint exponentChar : Char) (digits : List ℕ)
    (exponent : ℤ) :
    (exponentialBody decimalPoint exponentChar digits exponent).length =
      digits.length + (if 1 < digits.length then 1 else 0) +
        (2 + (exponentBytes exponent).length) := by
  rw [exponentialBody]
  simp only [length_append, length_map, length_take, length_drop, length_cons]
  split_ifs <;> simp only [length_singleton, length_nil] <;> omega

theorem digitByte_ne_blank {digit : ℕ} (small : digit < 10) :
    digitByte digit ≠ byteOf ' ' ∧ (digit ≠ 0 → digitByte digit ≠ byteOf '0') := by
  revert digit
  decide

theorem digitByte_inj {digit digit' : ℕ} (small : digit < 10) (small' : digit' < 10)
    (same : digitByte digit = digitByte digit') : digit = digit' := by
  have values := congrArg UInt8.toNat same
  rw [digitByte, digitByte, UInt8.toNat_ofNat', UInt8.toNat_ofNat', mod_eq_of_lt (by omega),
    mod_eq_of_lt (by omega)] at values
  omega

theorem exponentBytes_getLast? (exponent : ℤ) :
    ∃ digit < 10, (exponentBytes exponent).getLast? = some (digitByte digit) := by
  refine ⟨exponent.natAbs % 10, mod_lt _ (by decide), ?_⟩
  rw [exponentBytes, numeral_eq_append (by decide), map_append, ← append_assoc,
    map_singleton, getLast?_concat]

/-! ## Bodies with zeroes at the end -/

theorem trim_eq_take (digits : List ℕ) : trim digits = digits.take (trim digits).length :=
  prefix_iff_eq_take.mp ( rdropWhile_prefix _ _)

theorem trim_length_le' (digits : List ℕ) : (trim digits).length ≤ digits.length :=
  ( rdropWhile_prefix _ _).length_le

theorem indexedDigit_trim (digits : List ℕ) (idx : ℤ) :
    indexedDigit (trim digits) idx = indexedDigit digits idx := by
  obtain ⟨trimmed, zeros, split⟩ := exists_trim_append digits
  rw [indexedDigit, indexedDigit]
  split_ifs
  · conv_rhs => rw [← split]
    rw [getD_eq_getElem?_getD, getD_eq_getElem?_getD]
    by_cases inside : idx.toNat < (trim digits).length
    · rw [getElem?_append_left inside]
    · rw [getElem?_append_right (by omega), getElem?_eq_none (by omega), getD_none]
      cases found : trimmed[idx.toNat - (trim digits).length]? with
      | none => rfl
      | some digit => exact (zeros digit (mem_of_getElem? found)).symm
  · rfl

theorem digitRange_trim (digits : List ℕ) (idx : ℤ) (count : ℕ) :
    digitRange (trim digits) idx count = digitRange digits idx count := by
  simp [digitRange, indexedDigit_trim]

theorem length_fixedBody (numeric : LcNumeric) (decimalPoint : Char) {flags : PrintFlags}
    (plain : flags.alternativeForm = false) (left right : List ℕ) :
    (fixedBody numeric decimalPoint flags left right).length =
      (groupedBytes numeric flags.grouping (left.map digitByte)).length +
        (if 0 < right.length then 1 else 0) + right.length := by
  rw [fixedBody, plain]
  simp only [length_append, length_map, Bool.false_or, decide_eq_true_eq]
  split_ifs <;> rfl

/-- The bytes at the ends of a number without exponent are digits. -/
theorem fixedBody_ends (numeric : LcNumeric) (decimalPoint : Char) (flags : PrintFlags)
    {left : List ℕ} (written : left ≠ []) (right : List ℕ) :
    (fixedBody numeric decimalPoint flags left right).head? = left.head?.map digitByte ∧
      (right ≠ [] → (fixedBody numeric decimalPoint flags left right).getLast? =
        right.getLast?.map digitByte) := by
  have written' : left.map digitByte ≠ [] := by simpa using written
  obtain ⟨first, -⟩ := grouped_ends (byteOf (numeric.thousandsSep.headD '\x00'))
    (groupEntries numeric flags.grouping) written'
  have nonempty : grouped (byteOf (numeric.thousandsSep.headD '\x00'))
      (groupEntries numeric flags.grouping) (left.map digitByte) ≠ [] := by
    intro empty
    rw [empty] at first
    exact written' (head?_eq_none_iff.mp first.symm)
  rw [fixedBody, groupedBytes]
  refine ⟨?_, fun more => ?_⟩
  · rw [append_assoc, head?_append_of_ne_nil _ nonempty, first, head?_map]
  · rw [getLast?_append_of_ne_nil _ (by simpa using more), getLast?_map]

section Zeroes

variable {digits : List ℕ} (small : ∀ digit ∈ digits, digit < 10) (written : digits ≠ [])
  (leading : digits.head? ≠ some 0)

include small written leading

theorem trim_leading : trim digits ≠ [] ∧ (trim digits).head? = digits.head? := by
  obtain ⟨trimmed, zeros, split⟩ := exists_trim_append digits
  have some : trim digits ≠ [] := by
    intro empty
    rw [empty, nil_append] at split
    rw [split] at zeros
    cases digits with
    | nil => exact written rfl
    | cons digit others =>
      rw [zeros digit mem_cons_self] at leading
      exact leading rfl
  refine ⟨some, ?_⟩
  conv_rhs => rw [← split]
  rw [head?_append_of_ne_nil _ some]

theorem fixedBody_trim_iff (numeric : LcNumeric) (decimalPoint : Char)
    {conversion : PrintConversion} (plain : conversion.flags.alternativeForm = false)
    {numberPrefix : List Char} (short : numberPrefix.length ≤ 1) (exponent : ℤ) :
    numberText conversion numberPrefix (fixedBody numeric decimalPoint conversion.flags
        (leftDigits digits exponent) (rightDigits digits exponent)) =
      numberText conversion numberPrefix (fixedBody numeric decimalPoint conversion.flags
        (leftDigits (trim digits) exponent) (rightDigits (trim digits) exponent)) ↔
    (digits.length : ℤ) ≤ exponent ∨ trim digits = digits := by
  have left : leftDigits (trim digits) exponent = leftDigits digits exponent :=
    digitRange_trim digits _ _
  obtain ⟨nonzero, head⟩ := trim_leading small written leading
  have fewer := trim_length_le' digits
  rw [left]
  constructor
  · contrapose!
    rintro ⟨fraction, zeroes⟩
    have shorter : (trim digits).length < digits.length := by
      refine lt_of_le_of_ne fewer fun same => zeroes ?_
      rw [trim_eq_take, same, take_length]
    have count : 0 < ((digits.length : ℤ) - exponent).toNat := by omega
    have more : rightDigits digits exponent ≠ [] := by
      rw [rightDigits, ← length_pos_iff, length_digitRange]
      exact count
    have zero : indexedDigit digits (digits.length - 1) = 0 := by
      rw [← indexedDigit_trim]
      exact indexedDigit_of_le (by omega)
    obtain ⟨first, last⟩ := fixedBody_ends numeric decimalPoint conversion.flags
      (leftDigits_ne_nil digits exponent) (rightDigits digits exponent)
    have below := indexedDigit_lt small (exponent - leftCount exponent)
    rw [leftDigits, (digitRange_ends digits _ (leftCount_pos exponent)).1, ← leftDigits] at first
    rw [rightDigits, (digitRange_ends digits exponent count).2, ← rightDigits,
      show exponent + ((digits.length : ℤ) - exponent).toNat - 1 = digits.length - 1 by omega,
      zero] at last
    refine numberText_ne short ?_ ?_ ?_ ?_ ?_
    · rw [length_fixedBody numeric decimalPoint plain, length_fixedBody numeric decimalPoint plain,
        rightDigits, rightDigits, length_digitRange, length_digitRange, if_pos count]
      split_ifs <;> omega
    · intro empty
      have start := (fixedBody_ends numeric decimalPoint conversion.flags
        (leftDigits_ne_nil digits exponent) (rightDigits (trim digits) exponent)).1
      rw [empty, leftDigits, (digitRange_ends digits _ (leftCount_pos exponent)).1] at start
      cases start
    · rw [first]
      exact fun blank => (digitByte_ne_blank below).1 (some.inj blank)
    · rw [last more]
      decide
    · by_cases positive : 1 ≤ exponent
      · left
        have start : indexedDigit digits (exponent - leftCount exponent) ≠ 0 := by
          rw [leftCount, if_pos positive, Int.toNat_of_nonneg (by omega), sub_self]
          intro zero
          cases digits with
          | nil => exact written rfl
          | cons digit others => exact leading (congrArg some zero)
        rw [first]
        exact fun zero => (digitByte_ne_blank below).2 start (some.inj zero)
      · right
        have count' : 0 < (((trim digits).length : ℤ) - exponent).toNat := by
          have := length_pos_iff.mpr nonzero
          omega
        have final : indexedDigit (trim digits) ((trim digits).length - 1) ≠ 0 := by
          have ends := trim_getLast? digits
          obtain ⟨front, digit, split⟩ := (eq_nil_or_concat (trim digits)).resolve_left nonzero
          rw [concat_eq_append] at split
          rw [split, getLast?_concat] at ends
          rw [split, indexedDigit, if_pos (by simp)]
          simpa using ends
        have other := (fixedBody_ends numeric decimalPoint conversion.flags
          (leftDigits_ne_nil digits exponent) (rightDigits (trim digits) exponent)).2 (by
            rw [rightDigits, ← length_pos_iff, length_digitRange]
            exact count')
        rw [rightDigits, (digitRange_ends (trim digits) exponent count').2, ← rightDigits,
          show exponent + (((trim digits).length : ℤ) - exponent).toNat - 1 =
            (trim digits).length - 1 by omega] at other
        rw [last more, other]
        refine fun same => final (digitByte_inj ?_ (by decide) (some.inj same).symm)
        rw [indexedDigit_trim]
        exact indexedDigit_lt small _
  · rintro (whole | same)
    · rw [rightDigits, rightDigits, digitRange_trim,
        show ((digits.length : ℤ) - exponent).toNat = 0 by omega,
        show (((trim digits).length : ℤ) - exponent).toNat = 0 by omega]
    · rw [same]

theorem exponentialBody_trim_iff (decimalPoint exponentChar : Char) {conversion : PrintConversion}
    {numberPrefix : List Char} (short : numberPrefix.length ≤ 1) (exponent : ℤ) {precision : ℕ}
    (few : digits.length ≤ precision) :
    numberText conversion numberPrefix (exponentialBody decimalPoint exponentChar
        (digits ++ replicate (precision - digits.length) 0) exponent) =
      numberText conversion numberPrefix
        (exponentialBody decimalPoint exponentChar (trim digits) exponent) ↔
    (trim digits).length = precision := by
  obtain ⟨nonzero, head⟩ := trim_leading small written leading
  have fewer := trim_length_le' digits
  constructor
  · contrapose!
    intro zeroes
    obtain ⟨digit, others, rfl⟩ := exists_cons_of_ne_nil written
    have below := small digit mem_cons_self
    have positive : digit ≠ 0 := fun zero => leading (by rw [zero]; rfl)
    have length : (digit :: others ++ replicate (precision - (digit :: others).length) 0).length =
        precision := by
      rw [length_append, length_replicate]
      omega
    have first : (exponentialBody decimalPoint exponentChar (digit :: others ++
        replicate (precision - (digit :: others).length) 0) exponent).head? =
        some (digitByte digit) := rfl
    obtain ⟨final, least, last⟩ := exponentBytes_getLast? exponent
    refine numberText_ne short ?_ ?_ ?_ ?_ (.inl ?_)
    · rw [length_exponentialBody, length_exponentialBody, length]
      split_ifs <;> omega
    · rw [exponentialBody]
      simp
    · rw [first]
      exact fun blank => (digitByte_ne_blank below).1 (some.inj blank)
    · rw [exponentialBody, getLast?_append_of_ne_nil _ (by simp), getLast?_cons_cons,
        getLast?_cons, last]
      exact fun blank => (digitByte_ne_blank least).1 (some.inj blank)
    · rw [first]
      exact fun zero => (digitByte_ne_blank below).2 positive (some.inj zero)
  · intro same
    rw [trim_eq_take, show (trim digits).length = digits.length by omega, take_length,
      show precision - digits.length = 0 by omega, replicate_zero, append_nil]

end Zeroes

/-! ## The conversion -/

theorem length_keepDigits_le (round : RoundingMode) {buffer : List ℕ}
    (small : ∀ digit ∈ buffer, digit < 10) (exponent : ℤ) {n : ℕ} (positive : 0 < n) :
    (keepDigits round buffer exponent n).1.length ≤ n := by
  have front : ∀ digit ∈ buffer.take n, digit < 10 := fun digit member =>
    small digit (mem_of_mem_take member)
  have length := length_take_le n buffer
  rw [keepDigits]
  split_ifs
  · obtain ⟨-, rounded⟩ | ⟨others, digit, k, split, -, rounded⟩ := roundUp_cases front exponent
    · rw [rounded]
      exact positive
    · rw [split, length_append, length_cons] at length
      rw [rounded, length_append, length_singleton]
      omega
  · exact length

/-- The digits that are kept are those of the number rounded to significant digits. -/
theorem keepDigits_significant (round : RoundingMode) {buffer : List ℕ}
    (small : ∀ digit ∈ buffer, digit < 10) (last : buffer.getLast? ≠ some 0) (exponent : ℤ)
    (precision : ℕ) :
    Rounds round (10 ^ (exponent - precision)) (decimal buffer exponent)
      (decimal (keepDigits round buffer exponent (min precision buffer.length)).1
        (keepDigits round buffer exponent (min precision buffer.length)).2) := by
  by_cases fewer : precision < buffer.length
  · rw [min_eq_left fewer.le]
    exact keepDigits_rounds round exponent small last fewer
  · rw [min_eq_right (not_lt.mp fewer), keepDigits_of_le round exponent le_rfl]
    obtain ⟨k, multiple⟩ := decimal_eq_multiple buffer exponent
      (show exponent - precision ≤ exponent - buffer.length by omega)
    exact .of_multiple round (by positivity) multiple

theorem length_floatPrefix_le (flags : PrintFlags) (negative : Bool) :
    (floatPrefix flags negative).length ≤ 1 := by
  rw [floatPrefix]
  split_ifs
  · exact le_rfl
  · cases flags.positiveSign <;> simp

end Cloudlibc.Stdio
