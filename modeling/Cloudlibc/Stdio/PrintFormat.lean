import Cloudlibc.Stdio.Vprintf

/-!
# Conversion specifications of `printf()`

A conversion specification (`PrintSpec`) carries the conditions on its parts, so every value of the
type is well-formed. Its text is read as the specification (`parseConversion_text`), unless a width
or a precision is a number that `get_number()` cannot compute.
-/

set_option autoImplicit false

namespace Cloudlibc.Stdio

open Cloudlibc.Loop List

/-! ## Syntax -/

/-- The flags. -/
inductive Flag
  | grouping
  | minus
  | plus
  | space
  | alternative
  | zero
  deriving DecidableEq, Repr

def Flag.char : Flag → Char
  | .grouping => '\x27'
  | .minus => '-'
  | .plus => '+'
  | .space => ' '
  | .alternative => '#'
  | .zero => '0'

/-- A field width is a number, which is missing if it has no digits, or an asterisk. -/
inductive WidthText
  | literal (digits : List UInt8) (allDigits : ∀ c ∈ digits, isDigit c)
      (nonzero : digits.head? ≠ some (byteOf '0'))
  | star

/-- A precision is a number, which may have no digits, or an asterisk. -/
inductive PrecisionText
  | absent
  | literal (digits : List UInt8) (allDigits : ∀ c ∈ digits, isDigit c)
  | star

/-- The specifiers of integers, characters, strings and pointers. -/
def printSpecifiers : List Char := ['d', 'i', 'o', 'u', 'x', 'X', 'c', 's', 'p', 'C', 'S']

/-- A conversion specification without the percent sign. -/
structure PrintSpec where
  flags : List Flag
  width : WidthText
  precision : PrecisionText
  length : LengthText
  specifier : Char
  known : specifier ∈ printSpecifiers

namespace PrintSpec

variable (spec : PrintSpec)

/-- The part of the text from the length modifier on. -/
def lengthText : List UInt8 := spec.length.text ++ [byteOf spec.specifier]

/-- The part of the text from the precision on. An asterisk has a label behind it. -/
def precisionText (precisionLabel : List UInt8) : List UInt8 :=
  match spec.precision with
  | .absent => spec.lengthText
  | .literal digits _ => byteOf '.' :: (digits ++ spec.lengthText)
  | .star => byteOf '.' :: byteOf '*' :: (precisionLabel ++ spec.lengthText)

/-- The part of the text from the field width on. -/
def widthText (widthLabel precisionLabel : List UInt8) : List UInt8 :=
  match spec.width with
  | .literal digits _ _ => digits ++ spec.precisionText precisionLabel
  | .star => byteOf '*' :: (widthLabel ++ spec.precisionText precisionLabel)

/-- The text of a conversion specification, with labels for its arguments. -/
def labelledText (valueLabel widthLabel precisionLabel : List UInt8) : List UInt8 :=
  valueLabel ++ (spec.flags.map (byteOf ·.char) ++ spec.widthText widthLabel precisionLabel)

/-- The text of a conversion specification without labels. -/
def text : List UInt8 := spec.labelledText [] [] []

/-- The arguments behind the one for the field width. -/
def precisionArguments (precision value : BitVec 64) : List (BitVec 64) :=
  match spec.precision with
  | .absent => [value]
  | .literal .. => [value]
  | .star => [precision, value]

/-- The arguments of a specification, from the values of those that it may have. -/
def arguments (width precision value : BitVec 64) : List (BitVec 64) :=
  match spec.width with
  | .literal .. => spec.precisionArguments precision value
  | .star => width :: spec.precisionArguments precision value

/-! ## Meaning -/

/-- The flags as `vprintf()` stores them. -/
def printFlags : PrintFlags where
  grouping := decide (.grouping ∈ spec.flags)
  positiveSign :=
    if .plus ∈ spec.flags then some '+' else if .space ∈ spec.flags then some ' ' else none
  leftJustified := decide (.minus ∈ spec.flags)
  alternativeForm := decide (.alternative ∈ spec.flags)
  zeroPadding := decide (.zero ∈ spec.flags ∧ .minus ∉ spec.flags)

/-- The field width is small enough for `get_number()`. -/
def widthFits : Bool :=
  match spec.width with
  | .literal digits _ _ => decimalValue digits + 0x30 < 2 ^ 31
  | .star => true

/-- The precision is small enough for `get_number()`. -/
def precisionFits : Bool :=
  match spec.precision with
  | .absent => true
  | .literal digits _ => decimalValue digits + 0x30 < 2 ^ 31
  | .star => true

/-- The field width as `vprintf()` stores it. -/
def fieldWidth (width : BitVec 64) : ℕ :=
  match spec.width with
  | .literal digits _ _ => decimalValue digits
  | .star => (argSint .default width % 2 ^ 64).toNat

/-- The precision as `vprintf()` stores it. -/
def storedPrecision (precision : BitVec 64) : ℤ :=
  match spec.precision with
  | .absent => -1
  | .literal digits _ => decimalValue digits
  | .star => argSint .default precision

/-- What the specification stands for. -/
def conversion (argValue : ℕ) (width precision : BitVec 64) : PrintConversion where
  argValue
  flags := spec.printFlags
  fieldWidth := spec.fieldWidth width
  precision := spec.storedPrecision precision
  length := spec.length.modifier

/-! ## Meaning in the standard -/

/-- The precision. A negative argument is taken as if the precision were omitted. -/
def c11Precision (precision : BitVec 64) : Option ℕ :=
  match spec.precision with
  | .absent => none
  | .literal digits _ => some (decimalValue digits)
  | .star =>
    if argSint .default precision < 0 then none else some (argSint .default precision).toNat

/-- The minimum field width. A negative argument is a flag followed by a positive width. -/
def c11Width (width : BitVec 64) : ℕ :=
  match spec.width with
  | .literal digits _ _ => decimalValue digits
  | .star => (argSint .default width).natAbs

/-- The result of the conversion is left-justified. -/
def c11Left (width : BitVec 64) : Bool :=
  .minus ∈ spec.flags ||
    match spec.width with
    | .literal .. => false
    | .star => argSint .default width < 0

theorem argSint_default_range (slot : BitVec 64) :
    -2 ^ 31 ≤ argSint .default slot ∧ argSint .default slot < 2 ^ 31 := by
  have low := @BitVec.le_two_mul_toInt _ (slot.setWidth 32)
  have high := @BitVec.two_mul_toInt_lt _ (slot.setWidth 32)
  rw [argSint, LengthModifier.bits]
  omega

/-- The precision of the standard and the one of the code. -/
theorem c11Precision_eq (precision : BitVec 64) : spec.c11Precision precision =
    if spec.storedPrecision precision < 0 then none
    else some (spec.storedPrecision precision).toNat := by
  unfold c11Precision storedPrecision
  cases spec.precision with
  | absent => rfl
  | literal digits allDigits => simp
  | star => rfl

theorem storedPrecision_lt (precision : BitVec 64) (fits : spec.precisionFits) :
    spec.storedPrecision precision < 2 ^ 31 := by
  revert fits
  unfold precisionFits storedPrecision
  cases spec.precision with
  | absent =>
    dsimp only
    decide
  | literal digits allDigits =>
    intro fits
    have := of_decide_eq_true fits
    dsimp only
    omega
  | star => exact fun _ => (argSint_default_range precision).2

theorem fieldWidth_eq_c11Width {width : BitVec 64}
    (nonneg : spec.width = .star → 0 ≤ argSint .default width) :
    spec.fieldWidth width = spec.c11Width width := by
  revert nonneg
  unfold fieldWidth c11Width
  cases spec.width with
  | literal digits allDigits nonzero => exact fun _ => rfl
  | star =>
    intro nonneg
    have sign := nonneg rfl
    have range := argSint_default_range width
    dsimp only
    omega

/-- A negative argument for the width becomes a huge one. -/
theorem c11Width_add_lt {width : BitVec 64} (star : spec.width = .star)
    (negative : argSint .default width < 0) :
    spec.c11Width width + 2 ^ 62 < spec.fieldWidth width := by
  have range := argSint_default_range width
  rw [fieldWidth, c11Width, star]
  dsimp only
  omega

theorem c11Left_eq {width : BitVec 64}
    (nonneg : spec.width = .star → 0 ≤ argSint .default width) :
    spec.c11Left width = decide (.minus ∈ spec.flags) := by
  revert nonneg
  unfold c11Left
  cases spec.width with
  | literal digits allDigits nonzero => exact fun _ => Bool.or_false _
  | star =>
    intro nonneg
    rw [decide_eq_false (not_lt.mpr (nonneg rfl)), Bool.or_false]

end PrintSpec

/-! ## Reading the parts -/

/-- A number that `get_number()` cannot compute. -/
theorem getNumberLoop_overflow {digits : List UInt8} (rest : List UInt8)
    (allDigits : ∀ c ∈ digits, isDigit c) :
    ∀ value, value + 0x30 < 2 ^ 31 →
      2 ^ 31 ≤ digits.foldl (fun value c => value * 10 + (c.toNat - 0x30)) value + 0x30 →
      getNumberLoop value (digits ++ rest) = none := by
  induction digits with
  | nil =>
    intro value small large
    rw [foldl_nil] at large
    omega
  | cons c digits ih =>
    intro value small large
    have isDig := allDigits c mem_cons_self
    have range : 0x30 ≤ c.toNat ∧ c.toNat ≤ 0x39 := by
      simpa [isDigit] using isDig
    rw [cons_append, getNumberLoop, if_pos isDig]
    by_cases fits : value * 10 + c.toNat < 2 ^ 31
    · rw [if_pos fits, Nat.add_sub_assoc range.1]
      exact ih (fun d member => allDigits d (mem_cons_of_mem _ member)) _ (by omega) large
    · rw [if_neg fits]

theorem getNumber_digits {digits rest : List UInt8} (allDigits : ∀ c ∈ digits, isDigit c)
    (stops : isDigit (peek rest 0) = false) :
    getNumber (digits ++ rest) =
      if decimalValue digits + 0x30 < 2 ^ 31 then some (decimalValue digits, rest) else none := by
  cases digits with
  | nil =>
    rw [nil_append, getNumber, stops, if_neg Bool.false_ne_true]
    rfl
  | cons c digits =>
    have first : isDigit (peek (c :: digits ++ rest) 0) := allDigits c mem_cons_self
    rw [getNumber, if_pos first]
    split_ifs with fits
    · exact getNumberLoop_digits allDigits stops 0 fits
    · exact getNumberLoop_overflow rest allDigits 0 (by decide) (Nat.not_lt.mp fits)

/-- The flags with one more. -/
def PrintFlags.add (flags : PrintFlags) : Flag → PrintFlags
  | .grouping => { flags with grouping := true }
  | .minus => { flags with leftJustified := true }
  | .plus => { flags with positiveSign := some '+' }
  | .space =>
    if flags.positiveSign ≠ some '+' then { flags with positiveSign := some ' ' } else flags
  | .alternative => { flags with alternativeForm := true }
  | .zero => { flags with zeroPadding := true }

theorem PrintFlags.parse_char (flags : PrintFlags) (flag : Flag) :
    flags.parse (charOf (byteOf flag.char)) = some (flags.add flag) := by
  cases flag <;> rfl

/-- The loop over the flags stops at a byte that is not a flag. -/
theorem parseFlags_text {rest : List UInt8} (stops : ∀ flags : PrintFlags,
    flags.parse (charOf (peek rest 0)) = none) (more : List Flag) :
    ∀ flags, parseFlags flags (more.map (byteOf ·.char) ++ rest) =
      (more.foldl PrintFlags.add flags, rest) := by
  induction more with
  | nil =>
    intro flags
    cases rest with
    | nil => rfl
    | cons c rest =>
      have stop : flags.parse (charOf c) = none := stops flags
      rw [map_nil, nil_append, parseFlags, stop]
      rfl
  | cons flag more ih =>
    intro flags
    rw [map_cons, cons_append, parseFlags, flags.parse_char flag]
    exact ih _

theorem foldl_add (more : List Flag) : ∀ flags : PrintFlags, more.foldl PrintFlags.add flags =
    { grouping := flags.grouping || decide (.grouping ∈ more)
      positiveSign :=
        if flags.positiveSign = some '+' ∨ .plus ∈ more then some '+'
        else if .space ∈ more then some ' '
        else flags.positiveSign
      leftJustified := flags.leftJustified || decide (.minus ∈ more)
      alternativeForm := flags.alternativeForm || decide (.alternative ∈ more)
      zeroPadding := flags.zeroPadding || decide (.zero ∈ more) } := by
  induction more with
  | nil =>
    intro flags
    obtain ⟨grouping, sign, left, alternative, zero⟩ := flags
    by_cases plus : sign = some '+' <;> simp [plus]
  | cons flag more ih =>
    intro flags
    rw [foldl_cons, ih]
    obtain ⟨grouping, sign, left, alternative, zero⟩ := flags
    cases flag with
    | space =>
      by_cases plus : sign = some '+'
      · simp [PrintFlags.add, plus]
      · simp only [PrintFlags.add, ne_eq, plus, not_false_eq_true, if_true, mem_cons,
          reduceCtorEq, false_or, true_or, if_true, Option.some.injEq, Char.reduceEq]
        split_ifs <;> rfl
    | plus => simp [PrintFlags.add]
    | _ =>
      simp only [mem_cons, reduceCtorEq, false_or, true_or, decide_true, Bool.true_or, Bool.or_true]
      congr

theorem PrintFlags.parse_eq_none (flags : PrintFlags) {b : UInt8} (notFlag : isFlag b = false) :
    flags.parse (charOf b) = none := by
  simp only [isFlag, mem_cons, not_mem_nil, or_false, decide_eq_false_iff_not, not_or] at notFlag
  unfold PrintFlags.parse
  split <;> simp_all

/-! ## Reading a specification -/

/-- The first letters of what follows a precision. -/
def printLetters : List Char := modifierLetters ++ printSpecifiers

theorem printLetters_spec : ∀ c ∈ printLetters, isDigit (byteOf c) = false ∧
    byteOf c ≠ byteOf '.' ∧ byteOf c ≠ byteOf '*' ∧ byteOf c ≠ byteOf '$' :=
  forall_iff_forall_mem.mp (by decide)

theorem forall_digit (Holds : UInt8 → Prop) (all : ∀ b : Fin 10, Holds (UInt8.ofNat (0x30 + b)))
    {c : UInt8} (digit : isDigit c) : Holds c := by
  have range : 0x30 ≤ c.toNat ∧ c.toNat ≤ 0x39 := by
    simpa [isDigit] using digit
  have holds := all ⟨c.toNat - 0x30, by omega⟩
  rwa [Nat.add_sub_of_le range.1, UInt8.ofNat_toNat] at holds

/-- The loops over a format that look for a specifier or an asterisk skip digits. -/
theorem digit_skipped {c : UInt8} (digit : isDigit c) :
    charOf c ∉ specifiers ∧ c ≠ byteOf '*' :=
  forall_digit (fun c => charOf c ∉ specifiers ∧ c ≠ byteOf '*') (by decide) digit

/-- The argument with a label is supplied, and other arguments are left. -/
def Arguments.Supplies (arguments : Arguments) (label : List UInt8) (slot : BitVec 64)
    (left : Arguments) : Prop :=
  ∃ index, (∀ format, arguments.parseArgnum (label ++ format) = (index, format)) ∧
    arguments.get index = some (slot, left)

namespace PrintSpec

variable (spec : PrintSpec)

/-- The argument for the field width is supplied if there is one. -/
def WidthSupplied (arguments : Arguments) (label : List UInt8) (slot : BitVec 64)
    (left : Arguments) : Prop :=
  match spec.width with
  | .literal .. => left = arguments
  | .star => arguments.Supplies label slot left

/-- The argument for the precision is supplied if there is one. -/
def PrecisionSupplied (arguments : Arguments) (label : List UInt8) (slot : BitVec 64)
    (left : Arguments) : Prop :=
  match spec.precision with
  | .absent => left = arguments
  | .literal .. => left = arguments
  | .star => arguments.Supplies label slot left

theorem exists_lengthText_eq : ∃ c ∈ printLetters, ∃ tail, spec.lengthText = byteOf c :: tail := by
  have letter : spec.specifier ∈ printLetters := mem_append_right _ spec.known
  obtain ⟨c, member, head⟩ := spec.length.exists_text_eq spec.specifier []
  exact ⟨c, cons_subset.mpr ⟨letter, subset_append_left _ _⟩ member, head⟩

theorem exists_precisionText_eq (label : List UInt8) :
    ∃ c ∈ '.' :: printLetters, ∃ tail, spec.precisionText label = byteOf c :: tail := by
  rw [precisionText]
  cases spec.precision with
  | absent =>
    obtain ⟨c, letter, tail, head⟩ := spec.exists_lengthText_eq
    exact ⟨c, mem_cons_of_mem _ letter, tail, head⟩
  | literal digits allDigits => exact ⟨'.', mem_cons_self, _, rfl⟩
  | star => exact ⟨'.', mem_cons_self, _, rfl⟩

theorem isFlag_widthText (widthLabel precisionLabel rest : List UInt8) :
    isFlag (peek (spec.widthText widthLabel precisionLabel ++ rest) 0) = false := by
  have letters : ∀ c ∈ '.' :: printLetters, isFlag (byteOf c) = false :=
    forall_iff_forall_mem.mp (by decide)
  rw [widthText]
  cases spec.width with
  | star => rfl
  | literal digits allDigits nonzero =>
    cases digits with
    | nil =>
      obtain ⟨c, letter, tail, head⟩ := spec.exists_precisionText_eq precisionLabel
      rw [head]
      exact letters c letter
    | cons c digits =>
      refine forall_digit (fun c => c ≠ byteOf '0' → isFlag c = false) (by decide)
        (allDigits c mem_cons_self) ?_
      rintro rfl
      exact nonzero rfl

variable {precisionLabel : List UInt8} {arguments left : Arguments}

theorem parseFieldWidth_text {widthLabel : List UInt8} {width : BitVec 64}
    (supplied : spec.WidthSupplied arguments widthLabel width left) (rest : List UInt8) :
    parseFieldWidth arguments (spec.widthText widthLabel precisionLabel ++ rest) =
      if spec.widthFits then
        some (spec.fieldWidth width, spec.precisionText precisionLabel ++ rest, left)
      else
        none := by
  have letters : ∀ c ∈ '.' :: printLetters, isDigit (byteOf c) = false ∧ byteOf c ≠ byteOf '*' :=
    forall_iff_forall_mem.mp (by decide)
  revert supplied
  unfold WidthSupplied widthText widthFits fieldWidth
  cases spec.width with
  | star =>
    rintro ⟨index, labelled, found⟩
    have star : peek (byteOf '*' :: (widthLabel ++ spec.precisionText precisionLabel) ++ rest) 0 =
      byteOf '*' := rfl
    dsimp only
    rw [parseFieldWidth, if_pos star]
    simp [labelled, found]
  | literal digits allDigits nonzero =>
    obtain ⟨c, letter, tail, head⟩ := spec.exists_precisionText_eq precisionLabel
    obtain ⟨notDigit, notStar⟩ := letters c letter
    have stops : isDigit (peek (spec.precisionText precisionLabel ++ rest) 0) = false := by
      rw [head]
      exact notDigit
    have first : peek (digits ++ (spec.precisionText precisionLabel ++ rest)) 0 ≠ byteOf '*' := by
      cases digits with
      | nil =>
        rw [head]
        exact notStar
      | cons d digits =>
        exact (digit_skipped (allDigits d mem_cons_self)).2
    rintro rfl
    dsimp only
    rw [append_assoc, parseFieldWidth, if_neg first, getNumber_digits allDigits stops]
    by_cases fits : decimalValue digits + 0x30 < 2 ^ 31
    · rw [if_pos fits, if_pos (decide_eq_true fits)]
      rfl
    · rw [if_neg fits, if_neg (by rwa [decide_eq_true_eq])]
      rfl

theorem parsePrecision_text {precision : BitVec 64}
    (supplied : spec.PrecisionSupplied arguments precisionLabel precision left)
    (rest : List UInt8) :
    parsePrecision arguments (spec.precisionText precisionLabel ++ rest) =
      if spec.precisionFits then
        some (spec.storedPrecision precision, spec.lengthText ++ rest, left)
      else
        none := by
  obtain ⟨c, letter, tail, head⟩ := spec.exists_lengthText_eq
  obtain ⟨notDigit, notPoint, notStar, -⟩ := printLetters_spec c letter
  revert supplied
  unfold PrecisionSupplied precisionText precisionFits storedPrecision
  cases spec.precision with
  | absent =>
    have first : peek (spec.lengthText ++ rest) 0 ≠ byteOf '.' := by
      rw [head]
      exact notPoint
    rintro rfl
    dsimp only
    rw [parsePrecision, if_neg first]
    rfl
  | star =>
    rintro ⟨index, labelled, found⟩
    dsimp only
    rw [parsePrecision, if_pos (by rfl)]
    simp only [cons_append, drop_succ_cons, drop_zero, append_assoc]
    rw [if_pos (by rfl), labelled]
    simp [found]
  | literal digits allDigits =>
    have stops : isDigit (peek (spec.lengthText ++ rest) 0) = false := by
      rw [head]
      exact notDigit
    have first : peek (digits ++ (spec.lengthText ++ rest)) 0 ≠ byteOf '*' := by
      cases digits with
      | nil =>
        rw [head]
        exact notStar
      | cons d digits =>
        exact (digit_skipped (allDigits d mem_cons_self)).2
    rintro rfl
    dsimp only
    rw [parsePrecision, if_pos (by rfl)]
    simp only [cons_append, drop_succ_cons, drop_zero, append_assoc]
    rw [if_neg first, getNumber_digits allDigits stops]
    by_cases fits : decimalValue digits + 0x30 < 2 ^ 31
    · rw [if_pos fits, if_pos (decide_eq_true fits)]
      rfl
    · rw [if_neg fits, if_neg (by rwa [decide_eq_true_eq])]
      rfl

/-- **The text of a specification is read as the specification**, unless a number does not fit. -/
theorem parseConversion_text {before : Arguments} {valueLabel widthLabel : List UInt8}
    {argValue : ℕ} {width precision : BitVec 64}
    (labelled : ∀ format, arguments.parseArgnum (valueLabel ++ format) = (argValue, format))
    (widthSupplied : spec.WidthSupplied arguments widthLabel width before)
    (precisionSupplied : spec.PrecisionSupplied before precisionLabel precision left)
    (rest : List UInt8) :
    parseConversion arguments (spec.labelledText valueLabel widthLabel precisionLabel ++ rest) =
      if spec.widthFits ∧ spec.precisionFits then
        some (spec.conversion argValue width precision, byteOf spec.specifier :: rest, left)
      else
        none := by
  have flags : parseFlags ⟨false, none, false, false, false⟩ (spec.flags.map (byteOf ·.char) ++
      (spec.widthText widthLabel precisionLabel ++ rest)) = (_, _) :=
    parseFlags_text (fun flags => flags.parse_eq_none (spec.isFlag_widthText _ _ rest)) spec.flags _
  have notModifier : charOf (byteOf spec.specifier) ∉ modifierLetters :=
    (forall_iff_forall_mem.mp (by decide) : ∀ c ∈ printSpecifiers,
      charOf (byteOf c) ∉ modifierLetters) _ spec.known
  have length : getLengthModifier (spec.lengthText ++ rest) =
      (spec.length.modifier, byteOf spec.specifier :: rest) := by
    rw [lengthText, append_assoc]
    exact getLengthModifier_lengthText spec.length rest notModifier
  have stored : (if (spec.flags.foldl PrintFlags.add ⟨false, none, false, false, false⟩).leftJustified
      then { spec.flags.foldl PrintFlags.add ⟨false, none, false, false, false⟩ with
        zeroPadding := false }
      else spec.flags.foldl PrintFlags.add ⟨false, none, false, false, false⟩) =
      spec.printFlags := by
    rw [foldl_add]
    by_cases minus : Flag.minus ∈ spec.flags <;> simp [printFlags, minus]
  rw [parseConversion, labelledText, append_assoc, append_assoc]
  simp only [labelled, flags, stored, spec.parseFieldWidth_text widthSupplied]
  by_cases widthFits : spec.widthFits
  · by_cases precisionFits : spec.precisionFits
    · simp [widthFits, precisionFits, spec.parsePrecision_text precisionSupplied, length,
        conversion]
    · simp [precisionFits, spec.parsePrecision_text precisionSupplied]
  · simp [widthFits]

/-- A list supplies its first argument to a specification without labels. -/
theorem supplies_list (slot : BitVec 64) (ap : List (BitVec 64)) :
    (Arguments.list (slot :: ap)).Supplies [] slot (.list ap) :=
  ⟨0, fun _ => rfl, rfl⟩

/-- One pass of the loop over the format at a specification without labels. -/
theorem formatPass_text (env : PrintEnvironment) (width precision value : BitVec 64)
    (rest : List UInt8) (others : List (BitVec 64)) (output : List UInt8) :
    formatPass env ⟨byteOf '%' :: (spec.text ++ rest),
        .list (spec.arguments width precision value ++ others), output⟩ =
      if spec.widthFits ∧ spec.precisionFits then
        specifierPass env (spec.conversion 0 width precision) spec.specifier
          ⟨rest, .list (value :: others), output⟩
      else
        none := by
  have widthSupplied : spec.WidthSupplied
      (.list (spec.arguments width precision value ++ others)) [] width
      (.list (spec.precisionArguments precision value ++ others)) := by
    unfold WidthSupplied arguments
    cases spec.width with
    | literal digits allDigits nonzero => rfl
    | star => exact supplies_list width _
  have precisionSupplied : spec.PrecisionSupplied
      (.list (spec.precisionArguments precision value ++ others)) [] precision
      (.list (value :: others)) := by
    unfold PrecisionSupplied precisionArguments
    cases spec.precision with
    | absent => rfl
    | literal digits allDigits => rfl
    | star => exact supplies_list precision _
  have same : charOf (byteOf spec.specifier) = spec.specifier :=
    (forall_iff_forall_mem.mp (by decide) : ∀ c ∈ printSpecifiers, charOf (byteOf c) = c) _
      spec.known
  have labelled (format : List UInt8) : (Arguments.list (spec.arguments width precision value ++
      others)).parseArgnum ([] ++ format) = (0, format) := rfl
  have parsed := spec.parseConversion_text labelled widthSupplied precisionSupplied rest
  rw [formatPass]
  simp only [text, parsed]
  by_cases fits : spec.widthFits ∧ spec.precisionFits
  · simp [fits, same]
  · simp [fits]

/-! ## Formats without numbered arguments -/

variable {rest : List UInt8}

/-- The loop of `get_numarg_max()` skips bytes that are neither specifiers nor asterisks. -/
theorem run_numargMaxSkipPass_append {plain : List UInt8}
    (skipped : ∀ c ∈ plain, charOf c ∉ specifiers ∧ c ≠ byteOf '*') (fuel maxNumarg : ℕ) :
    run numargMaxSkipPass (plain.length + fuel) (maxNumarg, plain ++ rest) =
      run numargMaxSkipPass fuel (maxNumarg, rest) := by
  induction plain with
  | nil => rw [length_nil, Nat.zero_add, nil_append]
  | cons c plain ih =>
    obtain ⟨notSpecifier, notStar⟩ := skipped c mem_cons_self
    have pass : numargMaxSkipPass (maxNumarg, c :: (plain ++ rest)) =
        some (.again (maxNumarg, plain ++ rest)) := by
      simp [numargMaxSkipPass, notSpecifier, notStar]
    rw [length_cons, Nat.add_right_comm, cons_append]
    simp only [run, pass]
    exact ih fun d member => skipped d (mem_cons_of_mem _ member)

/-- The inner loop of `get_numarg_max()` finds an asterisk without a number or a specifier. -/
def Unnumbered (maxNumarg : ℕ) (format : List UInt8) : Prop :=
  ∃ fuel ≤ format.length + 1, ∃ result,
    run numargMaxSkipPass fuel (maxNumarg, format) = some result ∧
      (result = none ∨ ∃ rest, result = some (maxNumarg, byteOf spec.specifier :: rest))

variable {spec} {maxNumarg : ℕ}

theorem Unnumbered.append {plain : List UInt8}
    (skipped : ∀ c ∈ plain, charOf c ∉ specifiers ∧ c ≠ byteOf '*')
    (unnumbered : spec.Unnumbered maxNumarg rest) : spec.Unnumbered maxNumarg (plain ++ rest) := by
  obtain ⟨fuel, enough, result, ran, ends⟩ := unnumbered
  refine ⟨plain.length + fuel, ?_, result, ?_, ends⟩
  · rw [length_append]
    omega
  · rw [run_numargMaxSkipPass_append skipped, ran]

theorem Unnumbered.star (noNumber : (getNumarg rest).1 = 0) :
    spec.Unnumbered maxNumarg (byteOf '*' :: rest) := by
  refine ⟨1, Nat.le_add_left _ _, none, ?_, .inl rfl⟩
  have pass : numargMaxSkipPass (maxNumarg, byteOf '*' :: rest) = some (.leave none) := by
    have notSpecifier : charOf (byteOf '*') ∉ specifiers := by decide
    simp [numargMaxSkipPass, notSpecifier, noNumber]
  simp [run, pass]

variable (spec)

theorem unnumbered_lengthText (maxNumarg : ℕ) (rest : List UInt8) :
    spec.Unnumbered maxNumarg (spec.lengthText ++ rest) := by
  have letters : ∀ length : LengthText, ∀ c ∈ length.text, charOf c ∉ specifiers ∧
      c ≠ byteOf '*' := by
    intro length
    cases length <;> exact forall_iff_forall_mem.mp (by decide)
  have known : charOf (byteOf spec.specifier) ∈ specifiers :=
    (forall_iff_forall_mem.mp (by decide) : ∀ c ∈ printSpecifiers,
      charOf (byteOf c) ∈ specifiers) _ spec.known
  rw [lengthText, append_assoc]
  refine .append (letters spec.length) ⟨1, Nat.le_add_left _ _, _, ?_, .inr ⟨rest, rfl⟩⟩
  have pass : numargMaxSkipPass (maxNumarg, byteOf spec.specifier :: rest) =
      some (.leave (some (maxNumarg, byteOf spec.specifier :: rest))) := by
    simp [numargMaxSkipPass, known]
  simp [run, pass]

theorem getNumarg_lengthText (rest : List UInt8) :
    getNumarg (spec.lengthText ++ rest) = (0, spec.lengthText ++ rest) := by
  obtain ⟨c, letter, tail, head⟩ := spec.exists_lengthText_eq
  obtain ⟨notDigit, -, -, notDollar⟩ := printLetters_spec c letter
  rw [head]
  exact @getNumarg_digits [] _ (forall_mem_nil _) notDigit notDollar

theorem unnumbered_precisionText (maxNumarg : ℕ) (rest : List UInt8) :
    spec.Unnumbered maxNumarg (spec.precisionText [] ++ rest) := by
  have point : ∀ c ∈ [byteOf '.'], charOf c ∉ specifiers ∧ c ≠ byteOf '*' :=
    forall_mem_singleton.mpr (by decide)
  rw [precisionText]
  cases spec.precision with
  | absent => exact spec.unnumbered_lengthText maxNumarg rest
  | literal digits allDigits =>
    have appended := ((spec.unnumbered_lengthText maxNumarg rest).append
      fun c member => digit_skipped (allDigits c member)).append point
    rwa [← append_assoc digits] at appended
  | star =>
    have asterisk : spec.Unnumbered maxNumarg (byteOf '*' :: (spec.lengthText ++ rest)) :=
      .star (by rw [spec.getNumarg_lengthText])
    change spec.Unnumbered maxNumarg ([byteOf '.'] ++ byteOf '*' :: (spec.lengthText ++ rest))
    exact asterisk.append point

/-- Digits in front of the precision are not the number of an argument. -/
theorem getNumarg_precisionText {digits : List UInt8} (allDigits : ∀ c ∈ digits, isDigit c)
    (rest : List UInt8) :
    getNumarg (digits ++ (spec.precisionText [] ++ rest)) =
      (0, digits ++ (spec.precisionText [] ++ rest)) := by
  have letters : ∀ c ∈ '.' :: printLetters, isDigit (byteOf c) = false ∧ byteOf c ≠ byteOf '$' :=
    forall_iff_forall_mem.mp (by decide)
  obtain ⟨c, letter, tail, head⟩ := spec.exists_precisionText_eq []
  obtain ⟨notDigit, notDollar⟩ := letters c letter
  rw [head]
  exact getNumarg_digits allDigits notDigit notDollar

theorem unnumbered_text (maxNumarg : ℕ) (rest : List UInt8) :
    spec.Unnumbered maxNumarg (spec.text ++ rest) := by
  have flags : ∀ c ∈ spec.flags.map (byteOf ·.char), charOf c ∉ specifiers ∧ c ≠ byteOf '*' := by
    intro c member
    obtain ⟨flag, -, rfl⟩ := mem_map.mp member
    cases flag <;> decide
  rw [text, labelledText, nil_append, append_assoc]
  refine .append flags ?_
  rw [widthText]
  cases spec.width with
  | star =>
    have noNumber := @spec.getNumarg_precisionText [] (forall_mem_nil _) rest
    exact .star (congrArg Prod.fst noNumber)
  | literal digits allDigits nonzero =>
    have appended := (spec.unnumbered_precisionText maxNumarg rest).append
      fun c member => digit_skipped (allDigits c member)
    rwa [← append_assoc digits] at appended

/-- There is no argument number in front of the flags. -/
theorem getNumarg_text (rest : List UInt8) :
    getNumarg (spec.text ++ rest) = (0, spec.text ++ rest) := by
  rw [text, labelledText, nil_append]
  cases spec.flags with
  | cons flag flags => cases flag <;> rfl
  | nil =>
    rw [map_nil, nil_append, widthText]
    cases spec.width with
    | star => rfl
    | literal digits allDigits nonzero =>
      have numarg := spec.getNumarg_precisionText allDigits rest
      rwa [← append_assoc digits] at numarg

/-- **A format whose first directive is a specification without labels has no numbered
arguments.** -/
theorem getNumargMax_text (rest : List UInt8) :
    getNumargMax (byteOf '%' :: (spec.text ++ rest)) = some 0 := by
  obtain ⟨fuel, enough, result, ran, ends⟩ := spec.unnumbered_text 0 rest
  have others : ∀ c ∈ printSpecifiers, charOf (byteOf c) ≠ '%' ∧ charOf (byteOf c) ≠ 'm' :=
    forall_iff_forall_mem.mp (by decide)
  have skipped := run_mono ran enough
  have pass : numargMaxPass (0, byteOf '%' :: (spec.text ++ rest)) = some (.leave 0) := by
    simp only [numargMaxPass, if_true, spec.getNumarg_text rest, Nat.max_self, skipped,
      Option.bind_eq_bind, Option.bind_some]
    obtain rfl | ⟨tail, rfl⟩ := ends
    · rfl
    · exact if_pos ⟨(others _ spec.known).1, (others _ spec.known).2, trivial⟩
  rw [getNumargMax]
  simp [run, pass]

/-! ## Calls with one specification -/

section Calls

variable {env : PrintEnvironment} {width precision value : BitVec 64}

theorem vprintf_eq (env : PrintEnvironment) (width precision value : BitVec 64) :
    vprintf env (byteOf '%' :: spec.text) (spec.arguments width precision value) =
      run (formatPass env) (spec.text.length + 2)
        ⟨byteOf '%' :: spec.text, .list (spec.arguments width precision value), []⟩ := by
  have unnumbered := spec.getNumargMax_text []
  rw [append_nil] at unnumbered
  rw [vprintf, unnumbered]
  rfl

theorem formatPass_single (env : PrintEnvironment) (width precision value : BitVec 64) :
    formatPass env ⟨byteOf '%' :: spec.text, .list (spec.arguments width precision value), []⟩ =
      if spec.widthFits ∧ spec.precisionFits then
        specifierPass env (spec.conversion 0 width precision) spec.specifier
          ⟨[], .list [value], []⟩
      else
        none := by
  have pass := spec.formatPass_text env width precision value [] [] []
  rwa [append_nil, append_nil] at pass

/-- A call whose conversion prints a text. -/
theorem vprintf_of_print {text : List UInt8} (widthFits : spec.widthFits)
    (precisionFits : spec.precisionFits)
    (printed : specifierPass env (spec.conversion 0 width precision) spec.specifier
      ⟨[], .list [value], []⟩ = some (.again ⟨[], .list [], text⟩)) :
    vprintf env (byteOf '%' :: spec.text) (spec.arguments width precision value) =
      some ⟨none, text⟩ := by
  have pass := spec.formatPass_single env width precision value
  rw [if_pos ⟨widthFits, precisionFits⟩, printed] at pass
  rw [vprintf_eq]
  simp only [run, pass]
  rfl

/-- A call whose conversion fails. -/
theorem vprintf_of_none (widthFits : spec.widthFits) (precisionFits : spec.precisionFits)
    (failed : specifierPass env (spec.conversion 0 width precision) spec.specifier
      ⟨[], .list [value], []⟩ = none) :
    vprintf env (byteOf '%' :: spec.text) (spec.arguments width precision value) = none := by
  have pass := spec.formatPass_single env width precision value
  rw [failed] at pass
  rw [vprintf_eq]
  simp [run, pass]

/-- A call with a number that does not fit. -/
theorem vprintf_of_overflow (overflow : ¬(spec.widthFits ∧ spec.precisionFits)) :
    vprintf env (byteOf '%' :: spec.text) (spec.arguments width precision value) = none := by
  have pass := spec.formatPass_single env width precision value
  rw [if_neg overflow] at pass
  rw [vprintf_eq]
  simp [run, pass]

end Calls

end PrintSpec

/-! ## Fields -/

/-- A prefix and digits with padding behind them, between them or in front of them. -/
def layout (left zero : Bool) (padding : ℕ) (front body : List UInt8) : List UInt8 :=
  if left then front ++ body ++ List.replicate padding (byteOf ' ')
  else if zero then front ++ List.replicate padding (byteOf '0') ++ body
  else List.replicate padding (byteOf ' ') ++ front ++ body

theorem length_layout (left zero : Bool) (padding : ℕ) (front body : List UInt8) :
    (layout left zero padding front body).length = padding + (front.length + body.length) := by
  rw [layout]
  split_ifs <;> simp only [length_append, length_replicate] <;> omega

/-- The zeros of a field that is not padded with zeros. -/
theorem count_layout (left : Bool) (padding : ℕ) (front body : List UInt8) :
    (layout left false padding front body).count (byteOf '0') =
      front.count (byteOf '0') + body.count (byteOf '0') := by
  have blank : (replicate padding (byteOf ' ')).count (byteOf '0') = 0 :=
    count_eq_zero.mpr fun member => absurd (eq_of_mem_replicate member) (by decide)
  rw [layout]
  cases left <;> simp only [Bool.false_eq_true, if_false, if_true, count_append, blank] <;> omega

end Cloudlibc.Stdio
