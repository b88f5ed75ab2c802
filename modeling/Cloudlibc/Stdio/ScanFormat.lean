import Cloudlibc.Stdio.Vsscanf

/-!
# Well-formed formats of `scanf()`

A well-formed format is a list of directives (`Directive`): percent signs that stand for themselves,
conversion specifications, and other bytes. A conversion specification carries the conditions on its
parts, so every value of the type is well-formed; in particular its width is one that `get_number()`
computes without overflow. The text of a specification is read as the specification
(`conversionPass_text`).
-/

set_option autoImplicit false

namespace Cloudlibc.Stdio

open Cloudlibc.Loop List

/-! ## Syntax -/

/-- The specifiers that consist of a letter. -/
def specifierLetters : List Char :=
  ['d', 'i', 'o', 'u', 'x', 'X', 'p', 'a', 'A', 'e', 'E', 'f', 'F', 'g', 'G', 's', 'S', 'c', 'C', 'n']

/-- A specifier is a letter or a scanset. The first byte of a scanset may be a closing bracket. -/
inductive Specifier
  | letter (c : Char) (known : c ∈ specifierLetters)
  | scanset (negated : Bool) (first : UInt8) (others : List UInt8)
      (notCircumflex : first ≠ byteOf '^' ∨ negated) (notClosed : byteOf ']' ∉ others)

def Specifier.char : Specifier → Char
  | .letter c _ => c
  | .scanset .. => '['

/-- The part of a specifier behind its first byte. -/
def Specifier.tail : Specifier → List UInt8
  | .letter .. => []
  | .scanset negated first others _ _ =>
    (if negated then [byteOf '^'] else []) ++ first :: others ++ [byteOf ']']

/-- A conversion specification without the percent sign. `numarg` is the number of an argument. -/
structure ConversionSpec where
  numarg : List UInt8
  suppress : Bool
  width : List UInt8
  allocate : Bool
  length : LengthText
  specifier : Specifier
  numarg_digits : ∀ c ∈ numarg, isDigit c
  numarg_nonzero : numarg.head? ≠ some (byteOf '0')
  width_digits : ∀ c ∈ width, isDigit c
  width_fits : decimalValue width + 0x30 < 2 ^ 31

namespace ConversionSpec

variable (spec : ConversionSpec)

/-- The part of the text from the length modifier on. -/
def lengthText : List UInt8 :=
  spec.length.text ++ byteOf spec.specifier.char :: spec.specifier.tail

/-- The part of the text from the flag for allocation on. -/
def allocateText : List UInt8 :=
  (if spec.allocate then [byteOf 'm'] else []) ++ spec.lengthText

/-- The part of the text from the flag for suppression on. -/
def suppressText : List UInt8 :=
  (if spec.suppress then [byteOf '*'] else []) ++ (spec.width ++ spec.allocateText)

/-- The text of a conversion specification. -/
def text : List UInt8 :=
  (if spec.numarg = [] then [] else spec.numarg ++ [byteOf '$']) ++ spec.suppressText

/-- What the specification stands for if the next argument is `ap`. -/
def conversion (ap : ℕ) : Conversion where
  suppress := spec.suppress
  argument := if numargValue spec.numarg > 0 then numargValue spec.numarg - 1 else ap
  fieldWidth := decimalValue spec.width
  allocate := spec.allocate
  length := spec.length.modifier

/-- Go on behind the specification with the format `rest`. -/
def behind (scan : Scan) (rest : List UInt8) : Scan :=
  { scan with
    format := rest
    ap := if spec.suppress ∨ numargValue spec.numarg > 0 then scan.ap else scan.ap + 1 }

end ConversionSpec

/-- A directive of a format. -/
inductive Directive
  | literal (c : UInt8) (notPercent : c ≠ byteOf '%') (notNull : c ≠ 0)
  | percent
  | conversion (spec : ConversionSpec)

def Directive.text : Directive → List UInt8
  | .literal c _ _ => [c]
  | .percent => [byteOf '%', byteOf '%']
  | .conversion spec => byteOf '%' :: spec.text

theorem Directive.text_length_pos (directive : Directive) : 0 < directive.text.length := by
  cases directive <;> simp [text]

/-- The text of a well-formed format. -/
def formatText (directives : List Directive) : List UInt8 := directives.flatMap Directive.text

/-! ## Reading a specification -/

/-- The letters that the part of a specification from the length modifier on may begin with. -/
def lengthLetters : List Char := '[' :: 'h' :: 'l' :: 'j' :: 'z' :: 't' :: 'L' :: specifierLetters

/-- The letters that a conversion specification may have behind its width. -/
def partLetters : List Char := 'm' :: lengthLetters

theorem Specifier.char_mem (specifier : Specifier) : specifier.char ∈ '[' :: specifierLetters := by
  cases specifier with
  | letter c known => exact mem_cons_of_mem _ known
  | scanset => exact mem_cons_self

theorem ConversionSpec.exists_lengthText_eq (spec : ConversionSpec) :
    ∃ c ∈ lengthLetters, ∃ tail, spec.lengthText = byteOf c :: tail := by
  have subset : '[' :: specifierLetters ⊆ lengthLetters := by decide
  obtain ⟨c, member, head⟩ := spec.length.exists_text_eq spec.specifier.char spec.specifier.tail
  exact ⟨c, cons_subset.mpr ⟨subset spec.specifier.char_mem, by decide⟩ member, head⟩

theorem ConversionSpec.exists_allocateText_eq (spec : ConversionSpec) :
    ∃ c ∈ partLetters, ∃ tail, spec.allocateText = byteOf c :: tail := by
  obtain ⟨c, letter, tail, head⟩ := spec.exists_lengthText_eq
  rw [allocateText, head]
  cases spec.allocate with
  | true => exact ⟨'m', mem_cons_self, _, rfl⟩
  | false => exact ⟨c, mem_cons_of_mem _ letter, _, rfl⟩

/-- None of these letters is a digit or has another meaning before the width. -/
theorem partLetters_spec : ∀ c ∈ partLetters, isDigit (byteOf c) = false ∧ byteOf c ≠ byteOf '$' ∧
    byteOf c ≠ byteOf '*' ∧ byteOf c ≠ byteOf '%' :=
  forall_iff_forall_mem.mp (by decide)

section

variable (spec : ConversionSpec)

include spec

section

variable (rest : List UInt8)

include rest

theorem ConversionSpec.getNumber_text :
    getNumber (spec.width ++ (spec.allocateText ++ rest)) =
      some (decimalValue spec.width, spec.allocateText ++ rest) := by
  obtain ⟨c, letter, tail, head⟩ := spec.exists_allocateText_eq
  have stops : isDigit (peek (spec.allocateText ++ rest) 0) = false := by
    rw [head]
    exact (partLetters_spec c letter).1
  have loop := getNumberLoop_digits spec.width_digits stops 0 spec.width_fits
  rw [getNumber]
  by_cases digit : isDigit (peek (spec.width ++ (spec.allocateText ++ rest)) 0)
  · rw [if_pos digit, loop]
    rfl
  · rw [if_neg digit]
    cases width : spec.width with
    | nil => rfl
    | cons c digits =>
      rw [width] at digit
      exact absurd (spec.width_digits c (by simp [width])) digit

theorem ConversionSpec.getNumarg_suppressText :
    getNumarg (spec.suppressText ++ rest) = (0, spec.suppressText ++ rest) := by
  obtain ⟨c, letter, tail, head⟩ := spec.exists_allocateText_eq
  obtain ⟨notDigit, notDollar, -, -⟩ := partLetters_spec c letter
  rw [suppressText]
  cases spec.suppress with
  | true => rfl
  | false =>
    simp only [Bool.false_eq_true, if_false, nil_append, append_assoc]
    have stops : isDigit (peek (spec.allocateText ++ rest) 0) = false := by
      rw [head]
      exact notDigit
    have dollar : peek (spec.allocateText ++ rest) 0 ≠ byteOf '$' := by
      rw [head]
      exact notDollar
    exact getNumarg_digits spec.width_digits stops dollar

/-- An argument number is read up to the dollar sign. -/
theorem ConversionSpec.getNumarg_text :
    getNumarg (spec.text ++ rest) = (numargValue spec.numarg, spec.suppressText ++ rest) := by
  rw [text]
  by_cases unnumbered : spec.numarg = []
  · rw [unnumbered]
    exact spec.getNumarg_suppressText rest
  · obtain ⟨c, digits, numarg⟩ := exists_cons_of_ne_nil unnumbered
    have digit : isDigit c := spec.numarg_digits c (by simp [numarg])
    have nonzero : c ≠ byteOf '0' := fun zero => spec.numarg_nonzero (by simp [numarg, zero])
    have stops : isDigit (peek (byteOf '$' :: (spec.suppressText ++ rest)) 0) = false := rfl
    have loop := getNumargLoop_digits spec.numarg_digits stops 0
    have first : peek (spec.numarg ++ [byteOf '$'] ++ spec.suppressText ++ rest) 0 = c := by
      rw [numarg]
      rfl
    rw [if_neg unnumbered, getNumarg, first, if_pos (by simp [digit, nonzero])]
    rw [append_assoc, append_assoc, singleton_append, loop]
    exact if_pos rfl

theorem ConversionSpec.getLengthModifier_text :
    getLengthModifier (spec.lengthText ++ rest) =
      (spec.length.modifier, byteOf spec.specifier.char :: (spec.specifier.tail ++ rest)) := by
  have letters : ∀ c ∈ '[' :: specifierLetters, charOf (byteOf c) = c ∧ c ∉ modifierLetters :=
    forall_iff_forall_mem.mp (by decide)
  obtain ⟨same, notModifier⟩ := letters _ spec.specifier.char_mem
  rw [lengthText, append_assoc]
  exact getLengthModifier_lengthText spec.length _ (by rwa [same])

theorem ConversionSpec.suppressText_flag :
    decide (peek (spec.suppressText ++ rest) 0 = byteOf '*') = spec.suppress ∧
      (if spec.suppress then (spec.suppressText ++ rest).drop 1 else spec.suppressText ++ rest) =
        spec.width ++ (spec.allocateText ++ rest) := by
  rw [suppressText]
  cases spec.suppress with
  | true => exact ⟨rfl, by simp⟩
  | false =>
    refine ⟨decide_eq_false ?_, by simp⟩
    cases width : spec.width with
    | nil =>
      obtain ⟨c, letter, tail, head⟩ := spec.exists_allocateText_eq
      rw [head]
      exact (partLetters_spec c letter).2.2.1
    | cons c digits =>
      have digit : isDigit c := spec.width_digits c (by simp [width])
      intro star
      have same : c = byteOf '*' := star
      rw [same] at digit
      exact absurd digit (by decide)

/-- The flag for allocation is read up to the length modifier. -/
theorem ConversionSpec.allocateText_flag :
    decide (peek (spec.allocateText ++ rest) 0 = byteOf 'm') = spec.allocate ∧
      (if spec.allocate then (spec.allocateText ++ rest).drop 1 else spec.allocateText ++ rest) =
        spec.lengthText ++ rest := by
  have letters : ∀ c ∈ lengthLetters, byteOf c ≠ byteOf 'm' :=
    forall_iff_forall_mem.mp (by decide)
  rw [allocateText]
  cases spec.allocate with
  | true => exact ⟨rfl, rfl⟩
  | false =>
    refine ⟨decide_eq_false ?_, rfl⟩
    obtain ⟨c, letter, tail, head⟩ := spec.exists_lengthText_eq
    rw [head]
    exact letters c letter

end

end

/-- **A specification is read as it was written.** -/
theorem conversionPass_text (env : ScanEnvironment) (scan : Scan) (spec : ConversionSpec)
    {rest : List UInt8} (format : scan.format = spec.text ++ rest) :
    conversionPass env scan =
      convert env (spec.behind scan (spec.specifier.tail ++ rest)) (spec.conversion scan.ap)
        spec.specifier.char := by
  have letters : ∀ c ∈ '[' :: specifierLetters, charOf (byteOf c) = c :=
    forall_iff_forall_mem.mp (by decide)
  have same := letters _ spec.specifier.char_mem
  obtain ⟨suppressed, afterSuppress⟩ := spec.suppressText_flag rest
  obtain ⟨allocated, afterAllocate⟩ := spec.allocateText_flag rest
  rw [conversionPass, format, spec.getNumarg_text]
  simp only [suppressed, afterSuppress, spec.getNumber_text, Option.bind_eq_bind, Option.bind_some,
    allocated, afterAllocate, spec.getLengthModifier_text, same]
  rfl

/-- The text of a specification does not begin with a percent sign. -/
theorem ConversionSpec.peek_text (spec : ConversionSpec) (rest : List UInt8) :
    peek (spec.text ++ rest) 0 ≠ byteOf '%' := by
  have notPercent : ∀ c, isDigit c → c ≠ byteOf '%' := by
    rintro c digit rfl
    exact absurd digit (by decide)
  rw [text]
  cases numarg : spec.numarg with
  | cons c digits => exact notPercent c (spec.numarg_digits c (by simp [numarg]))
  | nil =>
    rw [suppressText]
    cases spec.suppress with
    | true =>
      have star : byteOf '*' ≠ byteOf '%' := by decide
      exact star
    | false =>
      cases width : spec.width with
      | cons c digits => exact notPercent c (spec.width_digits c (by simp [width]))
      | nil =>
        obtain ⟨c, letter, tail, head⟩ := spec.exists_allocateText_eq
        rw [head]
        exact (partLetters_spec c letter).2.2.2

/-- The loop over a scanset ends at the closing bracket, and updates the set at every byte before
it. -/
theorem scansetLoop_text (member : Bool) {others : List UInt8} (rest : List UInt8)
    (notClosed : byteOf ']' ∉ others) :
    ∀ (bs : Byteset) (first : UInt8), ∃ bs',
      scansetLoop member bs (first :: others ++ byteOf ']' :: rest) = some (bs', rest) ∧
      ∀ b, bs' b = if b ∈ first :: others then member else bs b := by
  induction others with
  | nil =>
    intro bs first
    refine ⟨_, rfl, fun b => ?_⟩
    simp only [Byteset.update, mem_singleton]
  | cons c others ih =>
    intro bs first
    rw [mem_cons, not_or] at notClosed
    have open_ : peek (c :: others ++ byteOf ']' :: rest) 0 ≠ byteOf ']' := Ne.symm notClosed.1
    rw [cons_append, scansetLoop]
    simp only [open_, if_false]
    obtain ⟨bs', loop, members⟩ := ih notClosed.2 (bs.update first member) c
    refine ⟨bs', loop, fun b => ?_⟩
    rw [members, Byteset.update]
    by_cases isFirst : b = first
    · simp [isFirst]
    · simp [isFirst]

/-- A scanset is read up to its closing bracket. -/
theorem scanset_text {negated : Bool} {first : UInt8} {others : List UInt8} (rest : List UInt8)
    (notCircumflex : first ≠ byteOf '^' ∨ negated) (notClosed : byteOf ']' ∉ others) :
    ∃ bs, scanset ((if negated then [byteOf '^'] else []) ++ first :: others ++ [byteOf ']'] ++ rest) =
        some (bs, rest) ∧
      ∀ b, bs b = (decide (b ∈ first :: others) != negated) := by
  rw [scanset]
  cases negated with
  | true =>
    obtain ⟨bs, loop, members⟩ := scansetLoop_text false rest notClosed (fun _ => true) first
    refine ⟨bs, by simpa [peek] using loop, fun b => ?_⟩
    rw [members]
    by_cases listed : b ∈ first :: others <;> simp [listed]
  | false =>
    obtain ⟨bs, loop, members⟩ := scansetLoop_text true rest notClosed (fun _ => false) first
    have positive : first ≠ byteOf '^' := notCircumflex.resolve_right (by decide)
    refine ⟨bs, by simpa [peek, positive] using loop, fun b => ?_⟩
    rw [members]
    by_cases listed : b ∈ first :: others <;> simp [listed]

end Cloudlibc.Stdio
