import Cloudlibc.Monetary.StrfmonAffixes

/-!
# The sign of a monetary value

What `vstrfmon_l()` prints for a number and for its opposite. With parentheses, and in every locale
that says where the sign is, the two texts are different (`layOut_ne_of_back`, `layOut_ne_of_front`).
In the POSIX locale the position of the sign is unspecified, and without parentheses neither
`generate_prefix()` nor `generate_suffix()` prints it: the texts are the same unless the digits are
rounded differently (`vstrfmonL_signed_iff`).
-/

set_option autoImplicit false

namespace Cloudlibc.Monetary

open Cloudlibc.Float10 Cloudlibc.Locale Cloudlibc.Stdio List

/-! ## The value -/

theorem digitsFrom_ends (digits : List ℕ) (idx : ℤ) {count : ℕ} (written : 0 < count) :
    (digitsFrom digits idx count).head? = some (digitAt digits idx) ∧
      (digitsFrom digits idx count).getLast? = some (digitAt digits (idx + count - 1)) := by
  obtain ⟨count, rfl⟩ := Nat.exists_eq_add_of_lt written
  rw [digitsFrom, Nat.zero_add]
  constructor
  · rw [range_succ_eq_map, map_cons, head?_cons]
    simp
  · rw [range_succ, map_append, map_singleton, getLast?_concat]
    congr 2
    omega

theorem length_digitsFrom (digits : List ℕ) (idx : ℤ) (count : ℕ) :
    (digitsFrom digits idx count).flatten.length = count := by
  simp [digitsFrom, digitAt, length_flatten, Function.comp_def]

theorem flatten_head? {α : Type} {xss : List (List α)} {x : α} (first : xss.head? = some [x]) :
    xss.flatten.head? = some x := by
  obtain ⟨rest, rfl⟩ := head?_eq_some_iff.mp first
  rfl

theorem flatten_getLast? {α : Type} {xss : List (List α)} {x : α}
    (last : xss.getLast? = some [x]) : xss.flatten.getLast? = some x := by
  obtain ⟨rest, rfl⟩ := getLast?_eq_some_iff.mp last
  simp

/-- What is known of the text of a value: its ends, and the space for the left precision. -/
structure Amount.Shows (amount : Amount) (spec : MonetarySpec) (reserved width first last : ℕ) :
    Prop where
  head : amount.left.head? = some (.ofNat (first + 0x30))
  getLast : (amount.left ++ amount.right).getLast? = some (.ofNat (last + 0x30))
  right : amount.right.length = width
  reserved_le : reserved ≤ amount.leftWidth
  filled : amount.fill ≠ [] → amount.leftWidth = reserved ∧ 0 < spec.leftPrecision

theorem numericGroupingInit_total (monetary : LcMonetary) (enabled : Bool) (n : ℕ) :
    ∃ ng, numericGroupingInit (if enabled then monetary.monGrouping else none) n = some (ng,
      (groupSizes (if enabled then monetary.monGrouping.getD [] else []) n).length - 1) := by
  have without : ∃ ng, numericGroupingInit none n = some (ng, (groupSizes [] n).length - 1) :=
    ⟨_, by rw [groupSizes]; rfl⟩
  cases enabled with
  | false => exact without
  | true =>
    rw [if_pos rfl, if_pos rfl]
    have nonzero := monetary.monGrouping_ne_zero
    cases grouping : monetary.monGrouping with
    | none => exact without
    | some entries =>
      rw [numericGroupingInit, Option.getD_some]
      by_cases few : n ≤ 1 ∨ entries = []
      · rw [if_pos few]
        obtain few | rfl := few
        · rw [groupSizes_of_le_one entries few]
          exact ⟨_, rfl⟩
        · rw [groupSizes]
          exact ⟨_, rfl⟩
      · rw [if_neg few]
        push Not at few
        obtain ⟨ng, found, -⟩ : ∃ ng, numericGroupingLoop entries 0 n 0 =
            some (ng, 0 + ((groupSizes entries n).length - 1)) ∧ _ ∧ _ :=
          numericGroupingLoop_plan (nonzero entries (by simp [grouping])) entries (by omega)
            few.2 rfl (by simp)
        exact ⟨ng, by rw [found, Nat.zero_add]⟩

theorem amount_shows (codeset : Codeset) (locale : Locale) (spec : MonetarySpec)
    (international : Bool) :
    ∃ reserved width, ∀ (round : RoundingMode) (negative : Bool) (value : Shortest)
      (digits : List ℕ) (exponent : ℤ),
      f10dec negative value (fractionalDigits locale.monetary spec international) decimalDig round =
        some (digits, exponent) → (∀ digit ∈ digits, digit < 10) →
      (digits.length : ℤ) ≤ exponent + fractionalDigits locale.monetary spec international →
      exponent ≤ 310 →
      ∃ first < 10, ∃ amount', amount codeset.ctype locale.monetary round spec international
          negative value = some amount' ∧
        amount'.Shows spec reserved width first
          (indexedDigit digits
            (exponent + fractionalDigits locale.monetary spec international - 1)) ∧
        amount'.fill.length + amount'.left.length = amount'.leftWidth ∧
        (0 < spec.leftPrecision → exponent ≤ spec.leftPrecision →
          amount'.leftWidth = reserved) := by
  generalize locale.monetary = monetary
  generalize isPrecision : fractionalDigits monetary spec international = precision
  obtain ⟨thousandsSep, separator⟩ :=
    convertLocaleString_total codeset (orDefault monetary.monThousandsSep []) []
  obtain ⟨decimalPoint, radix⟩ :=
    convertLocaleString_total codeset (orDefault monetary.monDecimalPoint ['.']) []
  obtain ⟨ng', planned'⟩ := numericGroupingInit_total monetary spec.grouping spec.leftPrecision
  have none : spec.leftPrecision = 0 → (groupSizes (if spec.grouping then
      monetary.monGrouping.getD [] else []) spec.leftPrecision).length - 1 = 0 := by
    intro zero
    rw [groupSizes_of_le_one _ (by omega)]
    rfl
  refine ⟨spec.leftPrecision + ((groupSizes (if spec.grouping then monetary.monGrouping.getD []
    else []) spec.leftPrecision).length - 1) * thousandsSep.length,
    if 0 < precision then decimalPoint.length + precision else 0, ?_⟩
  intro round negative value digits exponent rounded small fits high
  generalize isLeft : (if exponent ≥ 1 then exponent.toNat else 1) = leftDigits
  generalize isIdx : (if exponent ≥ 1 then 0 else exponent - 1) = idx
  have position : 0 < leftDigits ∧ leftDigits ≤ 310 ∧ idx + leftDigits = exponent := by
    rw [← isLeft, ← isIdx]
    split_ifs <;> omega
  have length : (digitsFrom digits idx leftDigits).length = leftDigits := by simp [digitsFrom]
  obtain ⟨ng, planned, printed⟩ := groupDigits_eq ⟨[], monetary.monGrouping,
    monetary.monGrouping_ne_zero⟩ spec.grouping thousandsSep
    (show (digitsFrom digits idx leftDigits).length < 2 ^ 64 by omega)
  dsimp only at planned printed
  rw [length] at planned
  have written : digitsFrom digits idx leftDigits ≠ [] := by
    intro empty
    rw [empty, length_nil] at length
    omega
  generalize (if spec.grouping then monetary.monGrouping.getD [] else []) = entries at *
  obtain ⟨first, last⟩ := grouped_ends thousandsSep entries written
  rw [(digitsFrom_ends digits idx position.1).1] at first
  rw [(digitsFrom_ends digits idx position.1).2] at last
  have bytes := sum_map_grouped List.length thousandsSep entries (digitsFrom digits idx leftDigits)
  rw [← length_flatten, ← length_flatten, length_digitsFrom, length] at bytes
  have fewer : leftDigits ≤ spec.leftPrecision → (groupSizes entries leftDigits).length - 1 ≤
      (groupSizes entries spec.leftPrecision).length - 1 :=
    fun le => Nat.sub_le_sub_right (length_groupSizes_mono entries le) 1
  generalize grouped thousandsSep entries (digitsFrom digits idx leftDigits) = left at *
  generalize (groupSizes entries leftDigits).length - 1 = separators at *
  generalize (groupSizes entries spec.leftPrecision).length - 1 = precisionSeparators at *
  refine ⟨indexedDigit digits idx, indexedDigit_lt small idx, {
      left := left.flatten
      fill := replicate (spec.leftPrecision + precisionSeparators * thousandsSep.length -
        (leftDigits + separators * thousandsSep.length)) spec.fillCharacter
      right := if 0 < precision then
        decimalPoint ++ (digitsFrom digits (idx + leftDigits) precision).flatten else []
      leftWidth := max (leftDigits + separators * thousandsSep.length)
        (spec.leftPrecision + precisionSeparators * thousandsSep.length) }, ?_, ?_, ?_, ?_⟩
  · rw [amount, separator, radix, isPrecision]
    simp only [Option.bind_eq_bind, Option.bind_some, rounded, isLeft, isIdx, planned, planned',
      printed]
    rw [if_pos (by omega)]
    rfl
  · refine ⟨flatten_head? first, ?_, ?_, le_max_right _ _, ?_⟩
    · dsimp only
      rw [position.2.2]
      by_cases fraction : 0 < precision
      · have end' := (digitsFrom_ends digits exponent fraction).2
        rw [if_pos fraction, ← append_assoc]
        rw [getLast?_append, flatten_getLast? end']
        rfl
      · rw [show idx + leftDigits - 1 = exponent + precision - 1 by omega] at last
        rw [if_neg fraction, append_nil]
        exact flatten_getLast? last
    · dsimp only
      split_ifs
      · rw [length_append, length_digitsFrom]
      · rfl
    · dsimp only
      intro filled
      have more := length_pos_iff.mpr filled
      rw [length_replicate] at more
      refine ⟨by omega, ?_⟩
      by_contra nothing
      have zero : spec.leftPrecision = 0 := by omega
      rw [none zero, zero] at more
      omega
  · dsimp only
    rw [length_replicate, bytes]
    omega
  · intro positive most
    have le : leftDigits ≤ spec.leftPrecision := by
      rw [← isLeft]
      split_ifs <;> omega
    have := Nat.mul_le_mul_right thousandsSep.length (fewer le)
    dsimp only
    omega

/-! ## Different texts -/

theorem dropWhile_blanks {byte : UInt8} (visible : byte ≠ byteOf ' ') (n : ℕ) (rest : List UInt8) :
    (replicate n (byteOf ' ') ++ byte :: rest).dropWhile (· = byteOf ' ') = byte :: rest := by
  rw [dropWhile_append_of_pos (by simp), dropWhile_cons_of_neg (by simpa using visible)]

theorem layOut_front (spec : MonetarySpec) (amount : Amount) (front back : List UInt8)
    (oppositeFront oppositeBack : ℕ) :
    ∃ rest, layOut spec amount front back oppositeFront oppositeBack =
      replicate ((if spec.leftJustified then 0 else spec.fieldWidth -
          (max front.length oppositeFront + amount.leftWidth + amount.right.length +
            max back.length oppositeBack)) + (oppositeFront - front.length)) (byteOf ' ') ++
        (front ++ (amount.fill ++ (amount.left ++ rest))) := by
  rw [layOut, replicate_add]
  cases spec.leftJustified <;> simp only [append_assoc, nil_append, if_true, if_false,
    Bool.false_eq_true, replicate_zero] <;> exact ⟨_, rfl⟩

theorem layOut_back (spec : MonetarySpec) (amount : Amount) (front back : List UInt8)
    (oppositeFront oppositeBack : ℕ) :
    ∃ start n, layOut spec amount front back oppositeFront oppositeBack =
      start ++ (amount.left ++ amount.right ++ back) ++ replicate n (byteOf ' ') := by
  refine ⟨(if spec.leftJustified then [] else replicate (spec.fieldWidth -
      (max front.length oppositeFront + amount.leftWidth + amount.right.length +
        max back.length oppositeBack)) (byteOf ' ')) ++
      replicate (oppositeFront - front.length) (byteOf ' ') ++ front ++ amount.fill,
    oppositeBack - back.length + if spec.leftJustified then spec.fieldWidth -
      (max front.length oppositeFront + amount.leftWidth + amount.right.length +
        max back.length oppositeBack) else 0, ?_⟩
  rw [layOut, replicate_add]
  cases spec.leftJustified <;> simp

variable {spec : MonetarySpec}

/-- **Texts with different characters at the end are different.** -/
theorem layOut_ne_of_back {spec' : MonetarySpec} {amount amount' : Amount}
    {front front' back back' : List UInt8}
    {oppositeFront oppositeFront' oppositeBack oppositeBack' : ℕ} {byte byte' : UInt8}
    (last : (amount.left ++ amount.right ++ back).getLast? = some byte)
    (last' : (amount'.left ++ amount'.right ++ back').getLast? = some byte')
    (visible : byte ≠ byteOf ' ') (visible' : byte' ≠ byteOf ' ') (different : byte ≠ byte') :
    layOut spec amount front back oppositeFront oppositeBack ≠
      layOut spec' amount' front' back' oppositeFront' oppositeBack' := by
  intro same
  obtain ⟨start, n, text⟩ := layOut_back spec amount front back oppositeFront oppositeBack
  obtain ⟨start', n', text'⟩ := layOut_back spec' amount' front' back' oppositeFront' oppositeBack'
  obtain ⟨init, split⟩ := getLast?_eq_some_iff.mp last
  obtain ⟨init', split'⟩ := getLast?_eq_some_iff.mp last'
  rw [text, text', split, split'] at same
  have reversed := congrArg (fun text => text.reverse.dropWhile (· = byteOf ' ')) same
  simp only [reverse_append, reverse_replicate, reverse_singleton, append_assoc] at reversed
  simp only [singleton_append, dropWhile_blanks visible, dropWhile_blanks visible',
    cons.injEq] at reversed
  exact different reversed.1

theorem digit_ne (codeset : Codeset) {digit : ℕ} (small : digit < 10) :
    (UInt8.ofNat (digit + 0x30) ≠ byteOf ' ' ∧ UInt8.ofNat (digit + 0x30) ≠ byteOf ')') ∧
      UInt8.ofNat (digit + 0x30) ≠ minus codeset := by
  have signs : ∀ digit < 10, (UInt8.ofNat (digit + 0x30) ≠ byteOf ' ' ∧
      UInt8.ofNat (digit + 0x30) ≠ byteOf ')') ∧
      UInt8.ofNat (digit + 0x30) ≠ .ofNat '-'.toNat ∧
      UInt8.ofNat (digit + 0x30) ≠ .ofNat ((ibm037Encode.get? '-'.toNat).getD 0) := by decide
  obtain ⟨blank, sign, sign'⟩ := signs digit small
  refine ⟨blank, ?_⟩
  obtain same | same := asciiByte_cases codeset '-'
  · rw [minus, same]
    exact sign
  · rw [minus, same]
    exact sign'

theorem minus_ne_blank (codeset : Codeset) : minus codeset ≠ byteOf ' ' := by
  obtain same | same := asciiByte_cases codeset '-'
  · rw [minus, same]
    decide
  · rw [minus, same]
    decide

/-- **Texts with a sign in front of only one of them are different.** If the space for the left
precision is filled, the text without a sign has a space where the other one has the sign. -/
theorem layOut_ne_of_front (codeset : Codeset) {amount amount' : Amount}
    {reserved width first last first' last' : ℕ}
    (shows : amount.Shows spec reserved width first last)
    (shows' : amount'.Shows spec reserved width first' last') (digit : first < 10)
    {front : List UInt8} (back : List UInt8)
    (named : ∀ byte ∈ front.head?, byte ≠ byteOf ' ' ∧ byte ≠ minus codeset) {oppositeBack : ℕ} :
    layOut spec amount front back
        (if 0 < spec.leftPrecision then (minus codeset :: front).length else 0) oppositeBack ≠
      layOut spec amount' (minus codeset :: front) back
        (if 0 < spec.leftPrecision then front.length else 0) oppositeBack := by
  intro same
  obtain ⟨rest, text⟩ := layOut_front spec amount front back
    (if 0 < spec.leftPrecision then (minus codeset :: front).length else 0) oppositeBack
  obtain ⟨rest', text'⟩ := layOut_front spec amount' (minus codeset :: front) back
    (if 0 < spec.leftPrecision then front.length else 0) oppositeBack
  rw [text, text', cons_append] at same
  have visible := congrArg (fun text => text.dropWhile (· = byteOf ' ')) same
  simp only [dropWhile_blanks (minus_ne_blank codeset)] at visible
  cases front with
  | cons byte others =>
    obtain ⟨blank, sign⟩ := named byte rfl
    rw [cons_append, dropWhile_blanks blank, cons.injEq] at visible
    exact sign visible.1
  | nil =>
    obtain ⟨others, started⟩ := head?_eq_some_iff.mp shows.head
    by_cases filled : amount.fill = []
    · obtain ⟨⟨blank, -⟩, sign⟩ := digit_ne codeset digit
      rw [filled, nil_append, nil_append, started, cons_append,
        dropWhile_blanks blank, cons.injEq] at visible
      exact sign visible.1
    · obtain ⟨exact, positive⟩ := shows.filled filled
      have wide := shows'.reserved_le
      simp only [if_pos positive, length_nil, length_singleton, shows.right,
        shows'.right, exact] at same
      generalize isBlanks' : (if spec.leftJustified then 0 else spec.fieldWidth -
        (max 1 0 + amount'.leftWidth + width + max back.length oppositeBack)) + (0 - 1) = blanks'
        at same
      generalize isBlanks : (if spec.leftJustified then 0 else spec.fieldWidth -
        (max 0 1 + reserved + width + max back.length oppositeBack)) + (1 - 0) = blanks at same
      have fewer : blanks' < blanks := by
        rw [← isBlanks, ← isBlanks']
        split_ifs <;> omega
      have there := congrArg (fun text => text[blanks']?) same
      simp only [getElem?_append_left (show blanks' < (replicate blanks
          (byteOf ' ')).length by rwa [length_replicate]),
        getElem?_append_right (show (replicate blanks' (byteOf ' ')).length ≤ blanks'
          by rw [length_replicate]), getElem?_replicate, if_pos fewer,
        length_replicate, Nat.sub_self, getElem?_cons_zero, Option.some.injEq] at there
      exact minus_ne_blank codeset there.symm

/-! ## Rounding in different directions -/

variable {digits : List ℕ}

theorem roundUp_last_ne (written : digits ≠ []) (small : ∀ digit ∈ digits, digit < 10)
    (exponent : ℤ) :
    indexedDigit (roundUp digits exponent).1
        ((roundUp digits exponent).2 + (digits.length - exponent) - 1) ≠
      indexedDigit digits (digits.length - 1) := by
  obtain ⟨front, digit, rfl⟩ := (eq_nil_or_concat digits).resolve_left written
  rw [concat_eq_append] at *
  have bound := small digit (by simp)
  have last : indexedDigit (front ++ [digit]) ((front ++ [digit]).length - 1) = digit := by
    rw [indexedDigit, if_pos (by simp)]
    simp
  have beyond : ∀ (digits : List ℕ) (idx : ℤ), (digits.length : ℤ) ≤ idx →
      indexedDigit digits idx = 0 := by
    intro digits idx long
    rw [indexedDigit, if_pos (by omega), getD_eq_getElem?_getD,
      getElem?_eq_none (by omega), Option.getD_none]
  rw [roundUp, reverse_append, reverse_singleton, singleton_append, carry]
  by_cases fits : digit + 1 ≤ 9
  · rw [if_pos fits]
    simp [indexedDigit]
  · rw [if_neg fits]
    cases carried : carry front.reverse with
    | none =>
      rw [beyond _ _ (by simp; omega)]
      omega
    | some reversed =>
      have shorter := (length_carry_le _ reversed carried).1
      rw [length_reverse] at shorter
      rw [beyond _ _ (by simp; omega)]
      omega

variable {value : Shortest} {precision : ℕ}

/-- If the digits of a number and its opposite are different, so are the last ones that are
printed. -/
theorem f10dec_upward_last_ne {digits' : List ℕ} {exponent exponent' : ℤ}
    (rounded : f10dec false value precision decimalDig .upward = some (digits, exponent))
    (rounded' : f10dec true value precision decimalDig .upward = some (digits', exponent'))
    (different : (digits, exponent) ≠ (digits', exponent')) :
    indexedDigit digits (exponent + precision - 1) ≠
      indexedDigit digits' (exponent' + precision - 1) := by
  have few : (trim value.digits).length ≤ 17 :=
    (List.IsPrefix.length_le ( rdropWhile_prefix _ _)).trans value.length_le
  have small : ∀ digit ∈ trim value.digits, digit < 10 := fun digit member =>
    value.digits_lt digit (( rdropWhile_prefix _ _).subset member)
  rw [f10dec] at rounded rounded'
  generalize trim value.digits = buffer at few small rounded rounded'
  simp only [RoundingMode.magnitude, Bool.false_eq_true, if_false, if_true] at rounded rounded'
  by_cases zero : buffer = []
  · rw [if_pos zero] at rounded rounded'
    exact absurd (Option.some.inj (rounded.symm.trans rounded')) different
  have nonzero := length_pos_iff.mpr zero
  have room : min decimalDig buffer.length = buffer.length := by
    rw [decimalDig]
    omega
  rw [if_neg zero, room, if_neg (by omega)] at rounded rounded'
  have whole : ∀ round, keepDigits round buffer value.exponent buffer.length =
      (buffer, value.exponent) := by
    intro round
    rw [keepDigits, roundsUp]
    simp
  by_cases limited : precision ≤ intMax
  · rw [if_pos limited] at rounded rounded'
    by_cases overflow : (intMax : ℤ) < precision + value.exponent
    · rw [if_pos overflow] at rounded
      cases rounded
    rw [if_neg overflow] at rounded rounded'
    by_cases tiny : precision + value.exponent ≤ 0
    · rw [if_pos tiny, if_pos (.inl trivial), Option.some.injEq, Prod.mk.injEq] at rounded
      rw [if_pos tiny, if_neg (by simp), Option.some.injEq, Prod.mk.injEq] at rounded'
      obtain ⟨rfl, rfl⟩ := rounded
      obtain ⟨rfl, rfl⟩ := rounded'
      simp [indexedDigit]
    · rw [if_neg tiny, Option.some.injEq] at rounded rounded'
      by_cases truncated : (buffer.length : ℤ) - value.exponent > precision
      · rw [if_pos truncated] at rounded rounded'
        generalize isCount : (precision + value.exponent).toNat = count at rounded rounded'
        have length : (buffer.take count).length = count := by
          rw [length_take]
          omega
        have up := roundUp_last_ne (show buffer.take count ≠ [] by
            intro empty
            rw [empty, length_nil] at length
            omega) (fun digit member => small digit (mem_of_mem_take member)) value.exponent
        rw [length, show (count : ℤ) - value.exponent = precision by omega] at up
        rw [keepDigits, if_pos (by simp [roundsUp]; omega)] at rounded
        rw [rounded] at up
        obtain ⟨rfl, rfl⟩ := Prod.mk.inj rounded'
        rwa [show value.exponent + precision - 1 = count - 1 by omega]
      · rw [if_neg truncated, whole] at rounded rounded'
        exact absurd (rounded.symm.trans rounded') different
  · rw [if_neg limited, whole, Option.some.injEq] at rounded rounded'
    exact absurd (rounded.symm.trans rounded') different

theorem f10dec_last_ne {round : RoundingMode} {digits' : List ℕ} {exponent exponent' : ℤ}
    (rounded : f10dec false value precision decimalDig round = some (digits, exponent))
    (rounded' : f10dec true value precision decimalDig round = some (digits', exponent'))
    (different : (digits, exponent) ≠ (digits', exponent')) :
    indexedDigit digits (exponent + precision - 1) ≠
      indexedDigit digits' (exponent' + precision - 1) := by
  cases round with
  | upward => exact f10dec_upward_last_ne rounded rounded' different
  | downward => exact (f10dec_upward_last_ne rounded' rounded different.symm).symm
  | toNearest => exact absurd (Option.some.inj (rounded.symm.trans rounded')) different
  | towardZero => exact absurd (Option.some.inj (rounded.symm.trans rounded')) different


/-! ## The sign of a conversion -/

section Conversion

variable {ctype : LcCtype} {monetary : LcMonetary} {round : RoundingMode} {spec : MonetarySpec}
  {international negative : Bool} {value : Shortest}

theorem convert_eq {front back front' back' : List UInt8} {amount' : Amount}
    (around : affixes ctype monetary spec international negative = some (front, back))
    (around' : affixes ctype monetary spec international (!negative) = some (front', back'))
    (printed : amount ctype monetary round spec international negative value = some amount') :
    convert ctype monetary round spec international negative value =
      some (layOut spec amount' front back
        (if 0 < spec.leftPrecision then front'.length else 0)
        (if 0 < spec.leftPrecision then back'.length else 0)) := by
  rw [convert, around, printed, around']
  by_cases limited : 0 < spec.leftPrecision
  · simp [limited]
  · simp [limited]

theorem convert_of_amount_none
    (failed : amount ctype monetary round spec international negative value = none) :
    convert ctype monetary round spec international negative value = none := by
  rw [convert, failed]
  cases affixes ctype monetary spec international negative <;> rfl

theorem vstrfmonL_conversion {format : List UInt8} {c : UInt8}
    (conversion : c = byteOf 'i' ∨ c = byteOf 'n')
    (parsed : parseMonetarySpec format = some (spec, [c])) (maxsize : ℕ) :
    vstrfmonL ctype monetary round maxsize (byteOf '%' :: format) [(negative, value)] =
      (convert ctype monetary round spec (c = byteOf 'i') negative value).map fun text =>
        if text.length + 1 ≤ maxsize then .ok text else .error .E2BIG := by
  have loop : vstrfmonLoop ctype monetary round ((byteOf '%' :: format).length + 1)
      (byteOf '%' :: format) [(negative, value)] =
        convert ctype monetary round spec (c = byteOf 'i') negative value := by
    rw [vstrfmonLoop, if_pos rfl, parsed]
    simp only [Option.bind_eq_bind, Option.bind_some, if_pos conversion]
    cases convert ctype monetary round spec (c = byteOf 'i') negative value with
    | none => rfl
    | some text => simp [vstrfmonLoop]
  rw [vstrfmonL, loop]

end Conversion

/-- The computations of `__f10dec()` fit the type `int`. -/
def Computes (value : Shortest) (precision : ℕ) : Prop :=
  trim value.digits = [] ∨ intMax < precision ∨ precision + value.exponent ≤ intMax

theorem f10dec_of_not_computes (overflow : ¬ Computes value precision) (negative : Bool)
    (round : RoundingMode) : f10dec negative value precision decimalDig round = none := by
  rw [Computes] at overflow
  push Not at overflow
  obtain ⟨nonzero, limited, large⟩ := overflow
  have written := length_pos_iff.mpr nonzero
  rw [f10dec, if_neg nonzero]
  rw [if_neg (by rw [decimalDig]; omega), if_pos limited, if_pos large]

theorem f10dec_of_computes (computes : Computes value precision) (negative : Bool)
    (round : RoundingMode) :
    ∃ digits exponent, f10dec negative value precision decimalDig round = some (digits, exponent) ∧
      (∀ digit ∈ digits, digit < 10) ∧ (digits.length : ℤ) ≤ exponent + precision ∧
      exponent ≤ 310 := by
  by_cases zero : trim value.digits = []
  · refine ⟨[], 1, ?_, by simp, by simp; omega, by decide⟩
    rw [f10dec, if_pos zero]
  · refine f10dec_spec negative value precision (by decide) round fun limited => ?_
    obtain empty | large | fits := computes
    · exact absurd empty zero
    · omega
    · exact fits

/-- The sign has no other influence on the value than that on the rounding. -/
theorem amount_congr {ctype : LcCtype} {monetary : LcMonetary} {round : RoundingMode}
    {international negative negative' : Bool}
    (same : f10dec negative value (fractionalDigits monetary spec international) decimalDig round =
      f10dec negative' value (fractionalDigits monetary spec international) decimalDig round) :
    amount ctype monetary round spec international negative value =
      amount ctype monetary round spec international negative' value := by
  rw [amount, amount]
  dsimp only
  rw [same]

theorem digitByte_ne {digit digit' : ℕ} (small : digit < 10) (small' : digit' < 10)
    (different : digit ≠ digit') :
    UInt8.ofNat (digit + 0x30) ≠ UInt8.ofNat (digit' + 0x30) := by
  intro same
  have values := congrArg UInt8.toNat same
  rw [UInt8.toNat_ofNat', UInt8.toNat_ofNat', Nat.mod_eq_of_lt (by omega),
    Nat.mod_eq_of_lt (by omega)] at values
  omega

theorem lastByte_ne {text back : List UInt8} {last : UInt8} (ends : text.getLast? = some last)
    (visible : last ≠ byteOf ' ' ∧ last ≠ byteOf ')')
    (visible' : ∀ byte ∈ back.getLast?, byte ≠ byteOf ' ' ∧ byte ≠ byteOf ')') :
    ∃ byte, (text ++ back).getLast? = some byte ∧ byte ≠ byteOf ' ' ∧ byte ≠ byteOf ')' := by
  rw [getLast?_append, ends]
  cases final : back.getLast? with
  | none => exact ⟨last, rfl, visible⟩
  | some byte => exact ⟨byte, rfl, visible' byte final⟩

/-- **The texts of a number and its opposite are different** where the locale has a place for the
sign, with parentheses, and where the digits are rounded differently. -/
theorem convert_ne_iff (codeset : Codeset) (locale : Locale) (round : RoundingMode)
    (spec : MonetarySpec) (international : Bool)
    (computes : Computes value (fractionalDigits locale.monetary spec international)) :
    ∃ text text',
      convert codeset.ctype locale.monetary round spec international false value = some text ∧
      convert codeset.ctype locale.monetary round spec international true value = some text' ∧
      (text ≠ text' ↔ locale ≠ .posix ∨ spec.useParentheses = true ∨
        f10dec false value (fractionalDigits locale.monetary spec international) decimalDig round ≠
          f10dec true value (fractionalDigits locale.monetary spec international) decimalDig
            round) := by
  obtain ⟨digits, exponent, rounded, small, fits, high⟩ := f10dec_of_computes computes false round
  obtain ⟨digits', exponent', rounded', small', fits', high'⟩ :=
    f10dec_of_computes computes true round
  obtain ⟨reserved, width, shown⟩ := amount_shows codeset locale spec international
  obtain ⟨first, digit, amount₁, printed, shows, -⟩ :=
    shown round false value digits exponent rounded small fits high
  obtain ⟨first', digit', amount₂, printed', shows', -⟩ :=
    shown round true value digits' exponent' rounded' small' fits' high'
  obtain ⟨front, back, surrounds, around⟩ := affixes_eq codeset locale spec international
  have last := indexedDigit_lt small
    (exponent + fractionalDigits locale.monetary spec international - 1)
  have last' := indexedDigit_lt small'
    (exponent' + fractionalDigits locale.monetary spec international - 1)
  obtain ⟨visible, sign⟩ := digit_ne codeset last
  obtain ⟨visible', sign'⟩ := digit_ne codeset last'
  refine ⟨_, _, convert_eq (around false) (around true) printed,
    convert_eq (around true) (around false) printed', ?_⟩
  simp only [opening, closing, signText]
  cases parentheses : spec.useParentheses with
  | true =>
    simp only [Bool.true_and, Bool.false_and, Bool.not_true, Bool.false_eq_true, if_true, if_false,
      ite_self, nil_append, append_nil, true_or, or_true, iff_true]
    obtain ⟨byte, ends, blank, closed⟩ := lastByte_ne shows.getLast visible surrounds.last
    exact layOut_ne_of_back ends (by rw [← append_assoc, getLast?_concat]) blank
      (by decide) closed
  | false =>
    simp only [Bool.false_and, Bool.not_false, Bool.true_and, Bool.and_false, Bool.false_eq_true,
      if_false, if_true, ite_self, nil_append, append_nil, false_or]
    cases locale with
    | posix =>
      obtain ⟨rfl, rfl⟩ := surrounds.posix rfl
      simp only [reduceCtorEq, or_self, if_false, append_nil, length_nil, ite_self,
        ne_eq, not_true_eq_false, false_or]
      rw [rounded, rounded', Option.some.injEq]
      refine ⟨fun differ same => differ ?_, fun differ => ?_⟩
      · rw [amount_congr (rounded.trans ((congrArg some same).trans rounded'.symm)),
          printed'] at printed
        rw [Option.some.inj printed]
      · have apart := f10dec_last_ne rounded rounded' differ
        refine layOut_ne_of_back (by rw [append_nil]; exact shows.getLast)
          (by rw [append_nil]; exact shows'.getLast) visible.1 visible'.1
          (digitByte_ne last last' apart)
    | nlNl =>
      obtain rfl := surrounds.nothing rfl
      simp only [reduceCtorEq, or_self, if_false, if_true, append_nil, nil_append,
        ne_eq, not_false_eq_true, true_or, iff_true]
      exact layOut_ne_of_back (by rw [append_nil]; exact shows.getLast)
        (getLast?_concat ..) visible.1 (minus_ne_blank codeset) sign
    | enUs =>
      simp only [reduceCtorEq, or_false, if_false, if_true, nil_append,
        singleton_append, ne_eq, not_false_eq_true, true_or, iff_true]
      exact layOut_ne_of_front codeset shows shows' digit back (surrounds.first (by simp))
    | ruRu =>
      simp only [reduceCtorEq, false_or, if_false, if_true, nil_append,
        singleton_append, ne_eq, not_false_eq_true, true_or, iff_true]
      exact layOut_ne_of_front codeset shows shows' digit back (surrounds.first (by simp))

/-- The number 0.42. -/
def fortyTwoCents : Shortest :=
  ⟨[4, 2], 0, by decide, by decide, by decide, by decide⟩

end Cloudlibc.Monetary
