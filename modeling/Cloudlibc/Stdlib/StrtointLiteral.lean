import Cloudlibc.Stdlib.Strtoint

/-!
# Integer literals

The literals that the functions of `common/strtoint.h` accept in a base (`Literal`). The parser of
`common/parser_strtoint.h` first decides on the radix and on whether there is a `0x` to skip
(`literalStart`), and then it takes all the digits that follow (`Run`). What it takes is the
longest literal in front of the string, and if it finds no digit, there is no literal
(`literalStart_longest`).
-/

set_option autoImplicit false

namespace Cloudlibc.Stdlib

open Cloudlibc.Digits Cloudlibc.Stdio List

/-! ## Literals -/

/-- The base as the parser takes it. A negative one is as invalid as one. -/
def parserBase : ℤ → ℕ
  | .ofNat base => base
  | .negSucc _ => 1

/-- The text has digits of the radix only, and at least one. -/
def Spells (radix : ℕ) (text : List UInt8) (digits : List ℕ) : Prop :=
  text ≠ [] ∧ text.map digitValue = digits.map some ∧ ∀ digit ∈ digits, digit < radix

/-- The literals of a base, with their numbers. -/
inductive Literal (base : ℤ) : List UInt8 → ℕ → Prop
  | digits {text : List UInt8} {digits : List ℕ} :
      2 ≤ base → base ≤ 36 → Spells base.toNat text digits →
        Literal base text (value base.toNat 0 digits)
  | hexadecimal {text : List UInt8} {digits : List ℕ} {letter : UInt8} :
      base = 0 ∨ base = 16 → letter = byteOf 'x' ∨ letter = byteOf 'X' → Spells 16 text digits →
        Literal base (byteOf '0' :: letter :: text) (value 16 0 digits)
  | octal {text : List UInt8} {digits : List ℕ} :
      base = 0 → text.head? = some (byteOf '0') → Spells 8 text digits →
        Literal base text (value 8 0 digits)
  | decimal {text : List UInt8} {digits : List ℕ} :
      base = 0 → text.head? ≠ some (byteOf '0') → Spells 10 text digits →
        Literal base text (value 10 0 digits)

/-! ## Runs of digits -/

/-- The text is the digits in front of the rest, all of them. -/
structure Run (radix : ℕ) (text : List UInt8) (digits : List ℕ) (rest : List UInt8) : Prop where
  spelled : text.map digitValue = digits.map some
  small : ∀ digit ∈ digits, digit < radix
  stops : NoDigit radix rest

theorem exists_run (radix : ℕ) (s : List UInt8) :
    ∃ text digits rest, s = text ++ rest ∧ Run radix text digits rest := by
  induction s with
  | nil => exact ⟨[], [], [], rfl, rfl, by simp, by simp [NoDigit]⟩
  | cons b s ih =>
    obtain ⟨text, digits, rest, rfl, run⟩ := ih
    by_cases isDigit : ∃ digit, digitValue b = some digit ∧ digit < radix
    · obtain ⟨digit, spelled, small⟩ := isDigit
      exact ⟨b :: text, digit :: digits, rest, rfl, by simp [spelled, run.spelled],
        forall_mem_cons.mpr ⟨small, run.small⟩, run.stops⟩
    · refine ⟨[], [], b :: (text ++ rest), rfl, rfl, by simp, ?_⟩
      intro first isFirst digit spelled
      obtain rfl : b = first := by simpa using isFirst
      exact Nat.not_lt.mp fun small => isDigit ⟨digit, spelled, small⟩

variable {radix : ℕ} {rest : List UInt8}

/-- Digits in front of a text are digits of its run. -/
theorem Run.maximal (stops : NoDigit radix rest) (text : List UInt8) :
    ∀ (text' : List UInt8) (digits' : List ℕ),
      text' <+: text ++ rest → text'.map digitValue = digits'.map some →
      (∀ digit ∈ digits', digit < radix) → text' <+: text := by
  induction text with
  | nil =>
    intro text' digits' front spelled small
    cases text' with
    | nil => exact prefix_rfl
    | cons b text' =>
      obtain ⟨digit, digits', rfl⟩ : ∃ digit digits, digits' = digit :: digits := by
        cases digits' with
        | nil => simp at spelled
        | cons digit digits' => exact ⟨digit, digits', rfl⟩
      obtain ⟨tail, rfl⟩ := front
      have large := stops b rfl digit (cons.inj spelled).1
      exact absurd (small digit mem_cons_self) (Nat.not_lt.mpr large)
  | cons b text ih =>
    intro text' digits' front spelled small
    cases text' with
    | nil => exact nil_prefix
    | cons b' text' =>
      obtain ⟨rfl, front'⟩ := cons_prefix_cons.mp front
      cases digits' with
      | nil => simp at spelled
      | cons digit digits' =>
        exact cons_prefix_cons.mpr ⟨rfl, ih text' digits' front'
          (cons.inj spelled).2 (forall_mem_cons.mp small).2⟩

variable {digits : List ℕ} {text : List UInt8}

/-- Digits in front of a text are the run, or they are shorter. -/
theorem Run.longest {text' : List UInt8} {digits' : List ℕ} (run : Run radix text digits rest)
    (front : text' <+: text ++ rest) (spells : Spells radix text' digits') :
    text'.length < text.length ∨ text' = text ∧ digits' = digits := by
  have shorter := Run.maximal run.stops text text' digits' front spells.2.1 spells.2.2
  rcases shorter.length_le.lt_or_eq with less | same
  · exact Or.inl less
  · obtain rfl := shorter.eq_of_length same
    exact Or.inr ⟨rfl, map_injective_iff.mpr (Option.some_injective ℕ)
      (spells.2.1.symm.trans run.spelled)⟩

/-! ## The radix of a literal -/

/-- The number of bytes in front of the digits and the radix that `parser_strtoint.h` determines. -/
def literalStart (base : ℕ) (s : List UInt8) : ℕ × ℕ :=
  if (base = 0 ∨ base = 16) ∧ peek s 0 = byteOf '0' ∧
      (peek s 1 = byteOf 'x' ∨ peek s 1 = byteOf 'X') ∧ isXdigit (peek s 2) then (2, 16)
  else (0, if base = 0 then if peek s 0 = byteOf '0' then 8 else 10 else base)

/-- The text is the longest literal in front of a string. -/
def LongestLiteral (base : ℤ) (s text : List UInt8) (n : ℕ) : Prop :=
  Literal base text n ∧ ∀ text' n', text' <+: s → Literal base text' n' →
    text'.length < text.length ∨ text' = text ∧ n' = n

variable {base : ℤ}

theorem parserBase_eq {n : ℕ} (valid : n ≠ 1) : parserBase base = n ↔ base = n := by
  cases base with
  | ofNat base => simp [parserBase]
  | negSucc base => simp [parserBase, valid.symm]

variable {s : List UInt8} {b : UInt8}

theorem peek_zero_eq (nonzero : b ≠ 0) (first : peek s 0 = b) : ∃ rest, s = b :: rest := by
  cases s with
  | nil => exact absurd first.symm nonzero
  | cons c s => exact ⟨s, by rw [← first]; rfl⟩

theorem isXdigit_iff : isXdigit b = true ↔ ∃ digit, digitValue b = some digit ∧ digit < 16 := by
  rw [isXdigit]
  cases digitValue b <;> simp

/-- A literal has a character. -/
theorem Literal.ne_nil {n : ℕ} (literal : Literal base text n) : text ≠ [] := by
  cases literal with
  | digits _ _ spells => exact spells.1
  | hexadecimal _ _ _ => exact cons_ne_nil _ _
  | octal _ _ spells => exact spells.1
  | decimal _ _ spells => exact spells.1

/-- The digits in front of a text that goes on with something else. -/
theorem Spells.length_le_one {c : UInt8} (spells : Spells radix text digits)
    (front : text <+: b :: c :: s) (other : ∀ digit, digitValue c = some digit → radix ≤ digit) :
    text.length ≤ 1 := by
  have stops : NoDigit radix (c :: s) := by
    intro first isFirst digit spelled
    obtain rfl : c = first := by simpa using isFirst
    exact other digit spelled
  exact (Run.maximal stops [b] text digits front spells.2.1 spells.2.2).length_le

theorem head?_eq_of_front (some_text : text ≠ []) (front : text <+: b :: s) :
    text.head? = some b := by
  cases text with
  | nil => exact absurd rfl some_text
  | cons c text => rw [(cons_prefix_cons.mp front).1, head?_cons]

theorem head?_of_cons_front (front : b :: text <+: s) : s.head? = some b := by
  obtain ⟨tail, rfl⟩ := front
  rfl

variable {letter : UInt8}

/-- The letter behind the zero is no digit of a base up to sixteen. -/
theorem digitValue_x (isX : letter = byteOf 'x' ∨ letter = byteOf 'X') :
    digitValue letter = some 33 := by
  rcases isX with rfl | rfl <;> decide

theorem longestLiteral_hexadecimal (isBase : base = 0 ∨ base = 16)
    (isX : letter = byteOf 'x' ∨ letter = byteOf 'X') (run : Run 16 text digits rest)
    (some_text : text ≠ []) :
    LongestLiteral base (byteOf '0' :: letter :: (text ++ rest)) (byteOf '0' :: letter :: text)
      (value 16 0 digits) := by
  have short : ∀ {radix : ℕ} {text' : List UInt8} {digits' : List ℕ}, radix ≤ 16 →
      text' <+: byteOf '0' :: letter :: (text ++ rest) → Spells radix text' digits' →
      text'.length < (byteOf '0' :: letter :: text).length := by
    intro radix text' digits' small front spells
    have one := spells.length_le_one front fun digit spelled => by
      rw [digitValue_x isX, Option.some.injEq] at spelled
      omega
    rw [length_cons, length_cons]
    omega
  refine ⟨Literal.hexadecimal isBase isX ⟨some_text, run.spelled, run.small⟩, ?_⟩
  intro text' n' front literal
  cases literal with
  | digits low high spells =>
    refine Or.inl (short ?_ front spells)
    omega
  | hexadecimal isBase' isX' spells =>
    obtain ⟨-, front'⟩ := cons_prefix_cons.mp front
    obtain ⟨rfl, front''⟩ := cons_prefix_cons.mp front'
    rcases run.longest front'' spells with less | ⟨rfl, rfl⟩
    · exact Or.inl (by simpa using less)
    · exact Or.inr ⟨rfl, rfl⟩
  | octal _ _ spells => exact Or.inl (short (by decide) front spells)
  | decimal _ first spells => exact absurd (head?_eq_of_front spells.1 front) first

/-- A hexadecimal literal in front of a string makes the parser skip the `0x`. -/
theorem literalStart_hexadecimal {base : ℕ} (isBase : base = 0 ∨ base = 16)
    (isX : letter = byteOf 'x' ∨ letter = byteOf 'X') (spells : Spells 16 text digits)
    (front : byteOf '0' :: letter :: text <+: s) : literalStart base s = (2, 16) := by
  obtain ⟨tail, rfl⟩ := front
  obtain ⟨some_text, spelled, small⟩ := spells
  cases text with
  | nil => exact absurd rfl some_text
  | cons b text =>
    cases digits with
    | nil => simp at spelled
    | cons digit digits =>
      have isHex : isXdigit b = true :=
        isXdigit_iff.mpr ⟨digit, (cons.inj spelled).1, small digit mem_cons_self⟩
      rw [literalStart, if_pos ⟨isBase, rfl, isX, isHex⟩]

theorem parserBase_zero : parserBase 0 = 0 := rfl

theorem parserBase_toNat (low : 2 ≤ base) : parserBase base = base.toNat := by
  cases base with
  | ofNat base => rfl
  | negSucc base => omega

/-- The radix of a string without a hexadecimal literal in front. -/
theorem literalStart_plain {base : ℕ} (start : literalStart base s = (0, radix)) :
    radix = if base = 0 then if peek s 0 = byteOf '0' then 8 else 10 else base := by
  rw [literalStart] at start
  split_ifs at start <;> simp_all

theorem peek_zero_iff (some_text : text ≠ []) (b : UInt8) :
    peek (text ++ rest) 0 = b ↔ text.head? = some b := by
  cases text with
  | nil => exact absurd rfl some_text
  | cons c text => simp [peek]

theorem longestLiteral_plain (start : literalStart (parserBase base) (text ++ rest) = (0, radix))
    (run : Run radix text digits rest) {text' : List UInt8} {n' : ℕ}
    (front : text' <+: text ++ rest) (literal : Literal base text' n') :
    (2 ≤ radix ∧ radix ≤ 36) ∧
      (text'.length < text.length ∨ text' = text ∧ n' = value radix 0 digits) := by
  have isRadix := literalStart_plain start
  have first : ∀ b, peek (text ++ rest) 0 = b ↔ text'.head? = some b := by
    obtain ⟨tail, whole⟩ := front
    rw [← whole]
    exact peek_zero_iff literal.ne_nil
  have longest : ∀ {digits' : List ℕ}, Spells radix text' digits' →
      text'.length < text.length ∨ text' = text ∧ value radix 0 digits' = value radix 0 digits :=
    fun spells => (run.longest front spells).imp_right (And.imp_right fun same => by rw [same])
  cases literal with
  | digits low high spells =>
    obtain rfl : radix = base.toNat := by
      rw [isRadix, parserBase_toNat low, if_neg (by omega)]
    exact ⟨by omega, longest spells⟩
  | hexadecimal isBase isX spells =>
    have isBase' : parserBase base = 0 ∨ parserBase base = 16 := by
      rcases isBase with rfl | rfl
      · exact Or.inl rfl
      · exact Or.inr rfl
    have skips := literalStart_hexadecimal isBase' isX spells front
    simp [start] at skips
  | octal zero isZero spells =>
    subst zero
    rw [parserBase_zero, if_pos rfl, if_pos ((first _).mpr isZero)] at isRadix
    subst isRadix
    exact ⟨by decide, longest spells⟩
  | decimal zero notZero spells =>
    subst zero
    rw [parserBase_zero, if_pos rfl, if_neg (mt (first _).mp notZero)] at isRadix
    subst isRadix
    exact ⟨by decide, longest spells⟩

/-- The digits in front of a string without a hexadecimal literal in front are a literal. -/
theorem literal_plain (start : literalStart (parserBase base) (text ++ rest) = (0, radix))
    (run : Run radix text digits rest) (valid : 2 ≤ radix ∧ radix ≤ 36) (some_text : text ≠ []) :
    Literal base text (value radix 0 digits) := by
  have isRadix := literalStart_plain start
  have spells : Spells radix text digits := ⟨some_text, run.spelled, run.small⟩
  by_cases zero : parserBase base = 0
  · obtain rfl : base = 0 := (parserBase_eq (by decide)).mp zero
    rw [if_pos zero] at isRadix
    by_cases isZero : peek (text ++ rest) 0 = byteOf '0'
    · rw [if_pos isZero] at isRadix
      subst isRadix
      exact Literal.octal rfl ((peek_zero_iff some_text _).mp isZero) spells
    · rw [if_neg isZero] at isRadix
      subst isRadix
      exact Literal.decimal rfl (mt (peek_zero_iff some_text _).mpr isZero) spells
  · rw [if_neg zero] at isRadix
    have isBase : base = radix := (parserBase_eq (by omega)).mp isRadix.symm
    subst isBase
    exact Literal.digits (by omega) (by omega) spells

/-- The parser skips the `0x` in front of a digit only. -/
theorem literalStart_cases (base : ℕ) (s : List UInt8) :
    (literalStart base s = (2, 16) ∧ ∃ letter u, s = byteOf '0' :: letter :: u ∧
      (base = 0 ∨ base = 16) ∧ (letter = byteOf 'x' ∨ letter = byteOf 'X') ∧
      isXdigit (peek u 0) = true) ∨
    ∃ radix, literalStart base s = (0, radix) := by
  rw [literalStart]
  split_ifs with isHex
  · obtain ⟨isBase, isZero, isX, isDigit⟩ := isHex
    obtain ⟨tail, rfl⟩ := peek_zero_eq (by decide) isZero
    obtain ⟨letter, u, rfl⟩ : ∃ letter u, tail = letter :: u := by
      rcases isX with isX | isX
      · obtain ⟨u, rfl⟩ := peek_zero_eq (s := tail) (by decide) isX
        exact ⟨_, u, rfl⟩
      · obtain ⟨u, rfl⟩ := peek_zero_eq (s := tail) (by decide) isX
        exact ⟨_, u, rfl⟩
    exact Or.inl ⟨rfl, letter, u, rfl, isBase, isX, isDigit⟩
  all_goals exact Or.inr ⟨_, rfl⟩

/-- **The longest literal starts where the parser starts to look at the digits.** -/
theorem literalStart_longest {leading : ℕ}
    (start : literalStart (parserBase base) s = (leading, radix))
    (split : s.drop leading = text ++ rest) (run : Run radix text digits rest) :
    ((2 ≤ radix ∧ radix ≤ 36) ∧ text ≠ [] ∧ ∃ whole, s = whole ++ rest ∧
      whole.length = leading + text.length ∧
      LongestLiteral base s whole (value radix 0 digits)) ∨
    (2 ≤ radix ∧ radix ≤ 36 → text = []) ∧ ∀ text' n', text' <+: s → ¬ Literal base text' n' := by
  rcases literalStart_cases (parserBase base) s with
    ⟨hex, letter, u, rfl, isBase, isX, isDigit⟩ | ⟨radix', plain⟩
  · obtain ⟨rfl, rfl⟩ : 2 = leading ∧ 16 = radix := Prod.mk.inj (hex.symm.trans start)
    obtain rfl : u = text ++ rest := split
    have some_text : text ≠ [] := by
      rintro rfl
      obtain ⟨digit, spelled, small⟩ := isXdigit_iff.mp isDigit
      cases rest with
      | nil => simp [peek, digitValue] at spelled
      | cons b rest => exact absurd (run.stops b rfl digit spelled) (Nat.not_le.mpr small)
    have isBase' : base = 0 ∨ base = 16 := isBase.imp (parserBase_eq (by decide)).mp
      (parserBase_eq (by decide)).mp
    exact Or.inl ⟨by decide, some_text, byteOf '0' :: letter :: text, rfl,
      by simp only [length_cons]; omega,
      longestLiteral_hexadecimal isBase' isX run some_text⟩
  · obtain ⟨rfl, rfl⟩ : 0 = leading ∧ radix' = radix := Prod.mk.inj (plain.symm.trans start)
    obtain rfl : s = text ++ rest := split
    by_cases found : (2 ≤ radix' ∧ radix' ≤ 36) ∧ text ≠ []
    · exact Or.inl ⟨found.1, found.2, text, rfl, (Nat.zero_add _).symm,
        literal_plain start run found.1 found.2,
        fun text' n' front literal => (longestLiteral_plain start run front literal).2⟩
    · refine Or.inr ⟨fun valid => not_not.mp fun some_text => found ⟨valid, some_text⟩, ?_⟩
      intro text' n' front literal
      obtain ⟨valid, shorter⟩ := longestLiteral_plain start run front literal
      have empty : text = [] := not_not.mp fun some_text => found ⟨valid, some_text⟩
      rcases shorter with less | ⟨same, -⟩
      · simp [empty] at less
      · exact literal.ne_nil (same.trans empty)

end Cloudlibc.Stdlib
