import Mathlib

/-!
# Numbers and length modifiers in format strings

The functions of `common/vprintscanf.h`, which the `printf()` and the `scanf()` families share. A
format string is the list of its bytes without the null byte that ends it, and a pointer into it is
the part of the list behind the pointer. The types have their widths on a 64-bit system.
-/

set_option autoImplicit false

namespace Cloudlibc.Stdio

open List

/-- A byte as a character. -/
def charOf (b : UInt8) : Char := Char.ofNat b.toNat

/-- An ASCII character as a byte. -/
def byteOf (c : Char) : UInt8 := UInt8.ofNat c.toNat

/-- Byte `n` of a string, where the null byte follows the last one. -/
def peek (s : List UInt8) (n : ℕ) : UInt8 := s[n]?.getD 0

/-- The byte is a decimal digit. -/
def isDigit (b : UInt8) : Bool := 0x30 ≤ b.toNat && b.toNat ≤ 0x39

theorem nil_digits : ∀ c ∈ ([] : List UInt8), isDigit c := List.forall_mem_nil _

theorem nil_nonzero : ([] : List UInt8).head? ≠ some (byteOf '0') := by decide

/-! ## Numbers -/

/-- The loop of `get_number()`, on a value of type `int`. -/
def getNumberLoop : (value : ℕ) → (s : List UInt8) → Option (ℕ × List UInt8)
  | value, [] => some (value, [])
  | value, c :: s =>
    if isDigit c then
      if value * 10 + c.toNat < 2 ^ 31 then
        getNumberLoop (value * 10 + c.toNat - 0x30) s
      else
        none
    else
      some (value, c :: s)

/-- `get_number()`. -/
def getNumber (format : List UInt8) : Option (ℕ × List UInt8) :=
  if isDigit (peek format 0) then getNumberLoop 0 format else some (0, format)

/-- The loop of `get_numarg()`, on a value of type `size_t`. -/
def getNumargLoop : (value : ℕ) → (s : List UInt8) → ℕ × List UInt8
  | value, [] => (value, [])
  | value, c :: s =>
    if isDigit c then
      getNumargLoop ((value * 10 + c.toNat - 0x30) % 2 ^ 64) s
    else
      (value, c :: s)

/-- `get_numarg()`. -/
def getNumarg (format : List UInt8) : ℕ × List UInt8 :=
  if isDigit (peek format 0) && peek format 0 ≠ byteOf '0' then
    let (value, s) := getNumargLoop 0 format
    if peek s 0 = byteOf '$' then (value, s.drop 1) else (0, format)
  else
    (0, format)

/-! ## Length modifiers -/

/-- `enum length_modifier`. -/
inductive LengthModifier
  | shortShort
  | short
  | default
  | long
  | longLong
  | longDouble
  deriving DecidableEq, Repr

/-- `get_length_modifier()`. The modifiers `j`, `z` and `t` stand for types of the width of
`long`. -/
def getLengthModifier (format : List UInt8) : LengthModifier × List UInt8 :=
  match charOf (peek format 0), charOf (peek format 1) with
  | 'h', 'h' => (.shortShort, format.drop 2)
  | 'h', _ => (.short, format.drop 1)
  | 'l', 'l' => (.longLong, format.drop 2)
  | 'l', _ => (.long, format.drop 1)
  | 'j', _ => (.long, format.drop 1)
  | 'z', _ => (.long, format.drop 1)
  | 't', _ => (.long, format.drop 1)
  | 'L', _ => (.longDouble, format.drop 1)
  | _, _ => (.default, format)

/-! ## Numbers and length modifiers of a specification -/

/-- The value of a string of decimal digits. -/
def decimalValue (digits : List UInt8) : ℕ :=
  digits.foldl (fun value c => value * 10 + (c.toNat - 0x30)) 0

/-- The value of a string of decimal digits as an argument number, which has type `size_t`. -/
def numargValue (digits : List UInt8) : ℕ :=
  digits.foldl (fun value c => (value * 10 + c.toNat - 0x30) % 2 ^ 64) 0

/-- The length modifiers of a conversion specification. -/
inductive LengthText
  | none
  | hh
  | h
  | l
  | ll
  | j
  | z
  | t
  | L
  deriving DecidableEq, Repr

def LengthText.text : LengthText → List UInt8
  | .none => []
  | .hh => [byteOf 'h', byteOf 'h']
  | .h => [byteOf 'h']
  | .l => [byteOf 'l']
  | .ll => [byteOf 'l', byteOf 'l']
  | .j => [byteOf 'j']
  | .z => [byteOf 'z']
  | .t => [byteOf 't']
  | .L => [byteOf 'L']

def LengthText.modifier : LengthText → LengthModifier
  | .none => .default
  | .hh => .shortShort
  | .h => .short
  | .l => .long
  | .ll => .longLong
  | .j => .long
  | .z => .long
  | .t => .long
  | .L => .longDouble

/-- The letters of the length modifiers. -/
def modifierLetters : List Char := ['h', 'l', 'j', 'z', 't', 'L']

theorem le_decimalFold (digits : List UInt8) (value : ℕ) :
    value ≤ digits.foldl (fun value c => value * 10 + (c.toNat - 0x30)) value := by
  induction digits generalizing value with
  | nil => exact le_rfl
  | cons c digits ih =>
    have more := ih (value * 10 + (c.toNat - 0x30))
    rw [foldl_cons]
    omega

/-- The digits of a width are read as its value. -/
theorem getNumberLoop_digits {digits rest : List UInt8} (allDigits : ∀ c ∈ digits, isDigit c)
    (stops : isDigit (peek rest 0) = false) :
    ∀ value, digits.foldl (fun value c => value * 10 + (c.toNat - 0x30)) value + 0x30 < 2 ^ 31 →
      getNumberLoop value (digits ++ rest) =
        some (digits.foldl (fun value c => value * 10 + (c.toNat - 0x30)) value, rest) := by
  induction digits with
  | nil =>
    intro value fits
    cases rest with
    | nil => rfl
    | cons c rest =>
      have notDigit : isDigit c = false := stops
      simp [getNumberLoop, notDigit]
  | cons c digits ih =>
    intro value fits
    have isDig := allDigits c mem_cons_self
    have range : 0x30 ≤ c.toNat ∧ c.toNat ≤ 0x39 := by
      simpa [isDigit] using isDig
    have bound := le_decimalFold digits (value * 10 + (c.toNat - 0x30))
    rw [foldl_cons] at fits ⊢
    rw [cons_append, getNumberLoop, if_pos isDig, if_pos (by omega),
      Nat.add_sub_assoc range.1]
    exact ih (fun d member => allDigits d (mem_cons_of_mem _ member)) _ fits

/-- The digits of an argument number are read up to the dollar sign. -/
theorem getNumargLoop_digits {digits rest : List UInt8} (allDigits : ∀ c ∈ digits, isDigit c)
    (stops : isDigit (peek rest 0) = false) :
    ∀ value, getNumargLoop value (digits ++ rest) =
      (digits.foldl (fun value c => (value * 10 + c.toNat - 0x30) % 2 ^ 64) value, rest) := by
  induction digits with
  | nil =>
    intro value
    cases rest with
    | nil => rfl
    | cons c rest =>
      have notDigit : isDigit c = false := stops
      simp [getNumargLoop, notDigit]
  | cons c digits ih =>
    intro value
    rw [cons_append, getNumargLoop, if_pos (allDigits c mem_cons_self)]
    exact ih (fun d member => allDigits d (mem_cons_of_mem _ member)) _

/-- Digits are not an argument number if no dollar sign follows. -/
theorem getNumarg_digits {digits rest : List UInt8} (allDigits : ∀ c ∈ digits, isDigit c)
    (stops : isDigit (peek rest 0) = false) (noDollar : peek rest 0 ≠ byteOf '$') :
    getNumarg (digits ++ rest) = (0, digits ++ rest) := by
  rw [getNumarg, getNumargLoop_digits allDigits stops 0]
  split_ifs
  · simp only [noDollar, if_false]
  · rfl

/-- What a length modifier and the letter behind it begin with. -/
theorem LengthText.exists_text_eq (length : LengthText) (specifier : Char) (rest : List UInt8) :
    ∃ c ∈ specifier :: modifierLetters, ∃ tail,
      length.text ++ byteOf specifier :: rest = byteOf c :: tail := by
  cases length with
  | none => exact ⟨specifier, mem_cons_self, _, rfl⟩
  | hh => exact ⟨'h', mem_cons_of_mem _ (by decide), _, rfl⟩
  | h => exact ⟨'h', mem_cons_of_mem _ (by decide), _, rfl⟩
  | l => exact ⟨'l', mem_cons_of_mem _ (by decide), _, rfl⟩
  | ll => exact ⟨'l', mem_cons_of_mem _ (by decide), _, rfl⟩
  | j => exact ⟨'j', mem_cons_of_mem _ (by decide), _, rfl⟩
  | z => exact ⟨'z', mem_cons_of_mem _ (by decide), _, rfl⟩
  | t => exact ⟨'t', mem_cons_of_mem _ (by decide), _, rfl⟩
  | L => exact ⟨'L', mem_cons_of_mem _ (by decide), _, rfl⟩

/-- The length modifier is read up to the next letter. -/
theorem getLengthModifier_lengthText (length : LengthText) {c : UInt8} (rest : List UInt8)
    (notModifier : charOf c ∉ modifierLetters) :
    getLengthModifier (length.text ++ c :: rest) = (length.modifier, c :: rest) := by
  simp only [modifierLetters, mem_cons, not_mem_nil, or_false, not_or] at notModifier
  obtain ⟨notH, notL, notJ, notZ, notT, notUpperL⟩ := notModifier
  cases length with
  | none => simp [getLengthModifier, LengthText.text, LengthText.modifier, peek, notH, notL]
  | h =>
    have first : charOf (byteOf 'h') = 'h' := rfl
    simp [getLengthModifier, LengthText.text, LengthText.modifier, peek, first]
  | l =>
    have first : charOf (byteOf 'l') = 'l' := rfl
    simp [getLengthModifier, LengthText.text, LengthText.modifier, peek, first]
  | hh => rfl
  | ll => rfl
  | j => rfl
  | z => rfl
  | t => rfl
  | L => rfl

end Cloudlibc.Stdio
