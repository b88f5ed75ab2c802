import Cloudlibc.Locale.Utf8
import Cloudlibc.Stdio.PrintFormat

/-!
# Wide strings of `printf()`

The conversions `%ls` and `%S` print the encodings of the characters of a wide string. With a
precision, the prescribed bytes are those of the longest prefix of the string that fits
(`fittingBytes`), padded to the field width on one side.

The code for a result that is left-justified prints these bytes. The code for a result that is
right-justified prints one character more if the precision lies inside the encoding of a character.
So the text is the prescribed one if and only if the result is left-justified or the precision lies
at a boundary of the characters (`vprintf_wideString_iff`).
-/

set_option autoImplicit false

namespace Cloudlibc.Stdio

open Cloudlibc.Locale Cloudlibc.Loop List Option

/-! ## The longest prefix that fits -/

/-- The number of encodings that fit into a number of bytes. -/
def fitCount (encodings : List (List UInt8)) (n : ℕ) : ℕ :=
  Nat.findGreatest (fun k => (encodings.take k).flatten.length ≤ n) encodings.length

/-- The encodings that fit into a number of bytes. -/
def fittingBytes (encodings : List (List UInt8)) (n : ℕ) : List UInt8 :=
  (encodings.take (fitCount encodings n)).flatten

section Fitting

variable {encodings : List (List UInt8)} {n i : ℕ}

theorem flatten_take_succ (inside : i < encodings.length) :
    (encodings.take (i + 1)).flatten = (encodings.take i).flatten ++ encodings[i] := by
  rw [take_succ_eq_append_getElem inside, flatten_append, flatten_singleton]

theorem flatten_take_le (encodings : List (List UInt8)) {j : ℕ} (before : i ≤ j) :
    (encodings.take i).flatten <+: (encodings.take j).flatten := by
  obtain ⟨rest, split⟩ := take_prefix_take_left before (l := encodings)
  exact ⟨rest.flatten, by rw [← split, flatten_append]⟩

theorem fitCount_le (encodings : List (List UInt8)) (n : ℕ) :
    fitCount encodings n ≤ encodings.length :=
  Nat.findGreatest_le _

theorem length_fittingBytes_le (encodings : List (List UInt8)) (n : ℕ) :
    (fittingBytes encodings n).length ≤ n := by
  exact Nat.findGreatest_spec (P := fun k => (encodings.take k).flatten.length ≤ n)
    (Nat.zero_le encodings.length) (Nat.zero_le n)

theorem le_fitCount (inside : i ≤ encodings.length)
    (fits : (encodings.take i).flatten.length ≤ n) : i ≤ fitCount encodings n :=
  Nat.le_findGreatest inside fits

theorem fittingBytes_of_full (inside : i ≤ encodings.length)
    (full : (encodings.take i).flatten.length = n) :
    fittingBytes encodings n = (encodings.take i).flatten := by
  refine ((flatten_take_le encodings (le_fitCount inside full.le)).eq_of_length_le ?_).symm
  rw [full]
  exact length_fittingBytes_le encodings n

theorem fitCount_of_next (inside : i < encodings.length)
    (fits : (encodings.take i).flatten.length ≤ n)
    (next : n < (encodings.take i).flatten.length + encodings[i].length) :
    fitCount encodings n = i := by
  refine Nat.le_antisymm ?_ (le_fitCount inside.le fits)
  by_contra later
  have longer := (flatten_take_le encodings (not_le.mp later)).length_le
  have bound := length_fittingBytes_le encodings n
  rw [flatten_take_succ inside, length_append] at longer
  rw [fittingBytes] at bound
  omega

theorem fitCount_of_all (fits : encodings.flatten.length ≤ n) :
    fitCount encodings n = encodings.length :=
  Nat.le_antisymm (fitCount_le _ _) (le_fitCount le_rfl (by rwa [take_length]))

end Fitting

/-! ## The loops -/

/-- A null-terminated wide string. -/
structure WideString (wstring : ℕ → Option ℕ) (characters : List ℕ) : Prop where
  character : ∀ i (inside : i < characters.length), wstring i = some characters[i]
  nonzero : ∀ c ∈ characters, c ≠ 0
  terminator : wstring characters.length = some 0
  short : characters.length < 2 ^ 62

/-- The encodings of characters. -/
def Encodings (env : PrintEnvironment) (characters : List ℕ) (encodings : List (List UInt8)) :
    Prop :=
  List.Forall₂ (fun c bytes => env.ctype.c32tomb c = some (.ok bytes)) characters encodings

section Loops

variable {env : PrintEnvironment} {wstring : ℕ → Option ℕ} {characters : List ℕ}
  {encodings : List (List UInt8)}

theorem Encodings.c32tomb (encoded : Encodings env characters encodings) {i : ℕ}
    (inside : i < characters.length) (inside' : i < encodings.length) :
    env.ctype.c32tomb characters[i] = some (.ok encodings[i]) :=
  List.Forall₂.get encoded inside inside'

section

variable (string : WideString wstring characters)

include string

theorem run_wideLeftPass (encoded : Encodings env characters encodings) (n : ℕ) :
    run (wideLeftPass env wstring n) (2 ^ 62) (0, []) = some (.ok (fittingBytes encodings n)) := by
  have lengths : characters.length = encodings.length := encoded.length_eq
  have short := string.short
  obtain ⟨result, ran, rfl⟩ : ∃ result, run (wideLeftPass env wstring n) (2 ^ 62) (0, []) =
      some result ∧ result = .ok (fittingBytes encodings n) := by
    refine run_spec (fun state => state.1 ≤ encodings.length ∧
      state.2 = (encodings.take state.1).flatten ∧ state.2.length ≤ n)
      (fun state => encodings.length - state.1) _ ?_ ⟨Nat.zero_le _, rfl, Nat.zero_le _⟩
      (show encodings.length - 0 < 2 ^ 62 by omega)
    rintro ⟨i, bytes⟩ ⟨inside, value, fits⟩
    dsimp only at inside value fits
    rw [wideLeftPass]
    by_cases room : bytes.length < n
    · simp only [if_pos room]
      obtain next | last := inside.lt_or_eq
      · have nonzero := string.nonzero _ (getElem_mem (lengths ▸ next))
        simp only [string.character i (lengths ▸ next), bind_eq_bind, bind_some,
          nonzero, if_false, encoded.c32tomb (lengths ▸ next) next]
        by_cases long : bytes.length + encodings[i].length > n
        · rw [if_pos long]
          refine ⟨_, rfl, ?_⟩
          rw [value] at long fits
          rw [Pass.meets_leave, fittingBytes, fitCount_of_next next fits long, value]
        · rw [if_neg long]
          refine ⟨_, rfl, ⟨next, ?_, ?_⟩, show encodings.length - (i + 1) < encodings.length - i by
            omega⟩
          · rw [flatten_take_succ next, value]
          · rw [length_append]
            omega
      · rw [last, ← lengths, string.terminator]
        refine ⟨_, rfl, ?_⟩
        rw [last, take_length] at value
        rw [value] at fits
        rw [Pass.meets_leave, fittingBytes, fitCount_of_all fits, take_length, value]
    · rw [if_neg room]
      refine ⟨_, rfl, ?_⟩
      rw [value] at room fits
      rw [Pass.meets_leave, fittingBytes_of_full inside (by omega), value]
  exact ran

/-- The precision lies inside the encoding of a character. -/
def Straddles (encodings : List (List UInt8)) (n : ℕ) : Prop :=
  (fittingBytes encodings n).length < n ∧ fitCount encodings n < encodings.length

instance (n : ℕ) : Decidable (Straddles encodings n) := inferInstanceAs (Decidable (_ ∧ _))

/-- The loop that computes the width of a result that is right-justified. A character that does not
fit is left out of the width, but not of the characters. -/
theorem run_wideWidthPass (encoded : Encodings env characters encodings) (n : ℕ) :
    ∃ count, run (wideWidthPass env wstring n) (2 ^ 62) (0, 0) =
        some (.ok (count, (fittingBytes encodings n).length)) ∧ count ≤ encodings.length ∧
      (encodings.take count).flatten = if Straddles encodings n then
        (encodings.take (fitCount encodings n + 1)).flatten else fittingBytes encodings n := by
  have lengths : characters.length = encodings.length := encoded.length_eq
  have short := string.short
  obtain ⟨result, ran, count, rfl, inside, bytes⟩ : ∃ result,
      run (wideWidthPass env wstring n) (2 ^ 62) (0, 0) = some result ∧
        ∃ count, result = .ok (count, (fittingBytes encodings n).length) ∧
          count ≤ encodings.length ∧
          (encodings.take count).flatten = if Straddles encodings n then
            (encodings.take (fitCount encodings n + 1)).flatten else fittingBytes encodings n := by
    refine run_spec (fun state => state.1 ≤ encodings.length ∧
      state.2 = (encodings.take state.1).flatten.length ∧ state.2 ≤ n)
      (fun state => encodings.length - state.1) _ ?_ ⟨Nat.zero_le _, rfl, Nat.zero_le _⟩
      (show encodings.length - 0 < 2 ^ 62 by omega)
    rintro ⟨i, width⟩ ⟨inside, value, fits⟩
    dsimp only at inside value fits
    rw [wideWidthPass]
    by_cases room : width < n
    · simp only [if_pos room]
      obtain next | last := inside.lt_or_eq
      · have nonzero := string.nonzero _ (getElem_mem (lengths ▸ next))
        simp only [string.character i (lengths ▸ next), bind_eq_bind, bind_some,
          nonzero, if_false, encoded.c32tomb (lengths ▸ next) next]
        by_cases long : width + encodings[i].length > n
        · rw [if_pos long]
          rw [value] at long fits room
          have fitted := fitCount_of_next next fits long
          have bytes : fittingBytes encodings n = (encodings.take i).flatten := by
            rw [fittingBytes, fitted]
          refine ⟨_, rfl, i + 1, by rw [bytes, value], next, ?_⟩
          rw [if_pos ⟨by rwa [bytes], by rwa [fitted]⟩, fitted]
        · rw [if_neg long]
          refine ⟨_, rfl, ⟨next, ?_, ?_⟩, show encodings.length - (i + 1) < encodings.length - i by
            omega⟩
          · rw [flatten_take_succ next, length_append, value]
          · exact not_lt.mp long
      · rw [last, ← lengths, string.terminator]
        rw [last, take_length] at value
        rw [value] at fits
        have fitted := fitCount_of_all fits
        have bytes : fittingBytes encodings n = encodings.flatten := by
          rw [fittingBytes, fitted, take_length]
        refine ⟨_, rfl, encodings.length, by rw [bytes, value, lengths], lengths.ge, ?_⟩
        rw [if_neg fun straddles => straddles.2.ne fitted, bytes, take_length]
    · rw [if_neg room]
      rw [value] at room fits
      have bytes := fittingBytes_of_full inside (show _ = n by omega)
      refine ⟨_, rfl, i, by rw [bytes, value], inside, ?_⟩
      rw [if_neg fun straddles => room (bytes ▸ straddles.1), bytes]
  exact ⟨count, ran, inside, bytes⟩

/-- The loop that prints the characters of a result that is right-justified. -/
theorem wideBytes_eq (encoded : Encodings env characters encodings) (count : ℕ) :
    ∀ i, i + count ≤ encodings.length →
      wideBytes env wstring count i = some ((encodings.drop i).take count).flatten := by
  have lengths : characters.length = encodings.length := encoded.length_eq
  induction count with
  | zero => exact fun _ _ => rfl
  | succ count ih =>
    intro i inside
    have next : i < encodings.length := by omega
    rw [wideBytes, string.character i (lengths ▸ next)]
    simp only [bind_eq_bind, bind_some, encoded.c32tomb (lengths ▸ next) next,
      ih (i + 1) (by omega)]
    rw [drop_eq_getElem_cons next, take_succ_cons, flatten_cons]
    rfl

end

end Loops

/-! ## The conversions -/

/-- A conversion specification of a wide string. -/
structure WideStringSpec extends PrintSpec where
  wide : (specifier = 's' ∧ length = .l) ∨ (specifier = 'S' ∧ length = .none)

namespace WideStringSpec

variable (spec : WideStringSpec)

/-- What the code prints. -/
def codeText (encodings : List (List UInt8)) (n : ℕ) (width : BitVec 64) : List UInt8 :=
  layout (.minus ∈ spec.flags) false (spec.fieldWidth width - (fittingBytes encodings n).length) []
    (if .minus ∉ spec.flags ∧ Straddles encodings n then
      (encodings.take (fitCount encodings n + 1)).flatten
    else fittingBytes encodings n)

/-- What the standard prescribes. -/
def c11Text (encodings : List (List UInt8)) (n : ℕ) (width : BitVec 64) : List UInt8 :=
  layout (spec.c11Left width) false (spec.c11Width width - (fittingBytes encodings n).length) []
    (fittingBytes encodings n)

section Text

variable {env : PrintEnvironment} {wstring : ℕ → Option ℕ} {characters : List ℕ}
  {encodings : List (List UInt8)} {n : ℕ} {precision : BitVec 64}

theorem printWideString_eq (string : WideString wstring characters)
    (encoded : Encodings env characters encodings) (present : spec.c11Precision precision = some n)
    (fits : spec.precisionFits) (width : BitVec 64) :
    printWideString env (spec.conversion 0 width precision) wstring =
      some (.ok (spec.codeText encodings n width)) := by
  have limit : (spec.storedPrecision precision % 2 ^ 64).toNat = n := by
    have small := spec.storedPrecision_lt precision fits
    rw [spec.c11Precision_eq] at present
    split_ifs at present with negative
    rw [some.injEq] at present
    omega
  obtain ⟨count, ran, inside, bytes⟩ := run_wideWidthPass string encoded n
  have printed := wideBytes_eq string encoded count 0 (by rwa [Nat.zero_add])
  rw [drop_zero, bytes] at printed
  rw [printWideString, codeText]
  by_cases left : Flag.minus ∈ spec.flags
  · simp only [PrintSpec.conversion, PrintSpec.printFlags, left, decide_true, if_true, limit,
      run_wideLeftPass string encoded n, Option.bind_eq_bind, Option.bind_some, padToFieldWidth,
      layout, not_true_eq_false, false_and, if_false, List.nil_append, Option.pure_def]
  · simp only [PrintSpec.conversion, PrintSpec.printFlags, left, decide_false, Bool.false_eq_true,
      if_false, limit, ran, printed, Option.bind_eq_bind, Option.bind_some, padToFieldWidth,
      layout, not_false_eq_true, true_and, List.append_nil, Option.pure_def]

/-- **What the code prints for a conversion of a wide string.** -/
theorem vprintf_text {slot : BitVec 64} (string : WideString (pointedWideString env slot) characters)
    (encoded : Encodings env characters encodings) (present : spec.c11Precision precision = some n)
    (width : BitVec 64) :
    vprintf env (byteOf '%' :: spec.text) (spec.arguments width precision slot) =
      if spec.widthFits ∧ spec.precisionFits then
        some ⟨none, spec.codeText encodings n width⟩
      else
        none := by
  by_cases fits : spec.widthFits ∧ spec.precisionFits
  · have printed := spec.printWideString_eq string encoded present fits.2 width
    have switched : specifierPass env (spec.conversion 0 width precision) spec.specifier
        ⟨[], .list [slot], []⟩ =
          some (.again ⟨[], .list [], spec.codeText encodings n width⟩) := by
      obtain ⟨specifier, length⟩ | ⟨specifier, -⟩ := spec.wide
      · have long : (spec.conversion 0 width precision).length = .long := by
          rw [PrintSpec.conversion, length]
          rfl
        rw [specifier, specifierPass]
        simp [Arguments.get, long, printed, Printing.printWide, Printing.print]
      · rw [specifier, specifierPass]
        simp [Arguments.get, printed, Printing.printWide, Printing.print]
    rw [if_pos fits]
    exact spec.vprintf_of_print fits.1 fits.2 switched
  · rw [if_neg fits]
    exact spec.vprintf_of_overflow fits

end Text

/-- The conversions whose results are the prescribed ones: the numbers do not overflow, the width is
not a negative argument, and the precision does not lie inside the encoding of a character if the
result is right-justified. -/
structure Conforms (encodings : List (List UInt8)) (n : ℕ) (width : BitVec 64) : Prop where
  widthFits : spec.widthFits
  precisionFits : spec.precisionFits
  widthNonneg : spec.width = .star → 0 ≤ argSint .default width
  boundary : .minus ∉ spec.flags → ¬Straddles encodings n

section Comparison

variable {encodings : List (List UInt8)} {n : ℕ} {width : BitVec 64}

theorem codeText_of_conforms (conforms : spec.Conforms encodings n width) :
    spec.codeText encodings n width = spec.c11Text encodings n width := by
  rw [codeText, c11Text, if_neg fun both => conforms.boundary both.1 both.2,
    spec.c11Left_eq conforms.widthNonneg, spec.fieldWidth_eq_c11Width conforms.widthNonneg]

/-- The text is longer than the prescribed one if a character has been printed that does not fit. -/
theorem codeText_ne_of_straddles (nonneg : spec.width = .star → 0 ≤ argSint .default width)
    (right : .minus ∉ spec.flags) (straddles : Straddles encodings n) :
    spec.codeText encodings n width ≠ spec.c11Text encodings n width := by
  intro same
  have lengths := congrArg length same
  have next : n < (encodings.take (fitCount encodings n + 1)).flatten.length := by
    by_contra fits
    exact absurd (le_fitCount straddles.2 (not_lt.mp fits)) (by omega)
  have room := straddles.1
  rw [codeText, c11Text, if_pos ⟨right, straddles⟩, length_layout, length_layout,
    spec.fieldWidth_eq_c11Width nonneg] at lengths
  omega

/-- The prescribed text is short if the width is a negative argument. -/
theorem codeText_ne_of_negative (small : n < 2 ^ 31) (star : spec.width = .star)
    (negative : argSint .default width < 0) :
    spec.codeText encodings n width ≠ spec.c11Text encodings n width := by
  intro same
  have lengths := congrArg length same
  have wide := spec.c11Width_add_lt star negative
  have bytes := length_fittingBytes_le encodings n
  rw [codeText, c11Text, length_layout, length_layout] at lengths
  omega

end Comparison

/-- **The text that `vprintf()` prints for a wide string is the prescribed one if and only if the
conversion is one of those that conform.** -/
theorem vprintf_wideString_iff (env : PrintEnvironment) (spec : WideStringSpec)
    (width precision slot : BitVec 64) {characters : List ℕ} {encodings : List (List UInt8)} {n : ℕ}
    (string : WideString (pointedWideString env slot) characters)
    (encoded : Encodings env characters encodings)
    (present : spec.c11Precision precision = some n) :
    vprintf env (byteOf '%' :: spec.text) (spec.arguments width precision slot) =
        some ⟨none, spec.c11Text encodings n width⟩ ↔
      spec.Conforms encodings n width := by
  rw [spec.vprintf_text string encoded present width]
  constructor
  · intro printed
    split_ifs at printed with fits
    rw [some.injEq, PrintResult.mk.injEq] at printed
    have small : n < 2 ^ 31 := by
      have stored := spec.storedPrecision_lt precision fits.2
      rw [spec.c11Precision_eq] at present
      split_ifs at present
      rw [some.injEq] at present
      omega
    have nonneg : spec.width = .star → 0 ≤ argSint .default width := by
      intro star
      by_contra negative
      exact spec.codeText_ne_of_negative small star (not_le.mp negative) printed.2
    refine ⟨fits.1, fits.2, nonneg, fun right straddles => ?_⟩
    exact spec.codeText_ne_of_straddles nonneg right straddles printed.2
  · intro conforms
    rw [if_pos ⟨conforms.widthFits, conforms.precisionFits⟩, spec.codeText_of_conforms conforms]

/-- The specification `%.1ls` with flags. -/
def oneByte (flags : List Flag) : WideStringSpec where
  flags
  width := .literal [] nil_digits nil_nonzero
  precision := .literal [byteOf '1'] (List.forall_mem_singleton.mpr (by decide))
  length := .l
  specifier := 's'
  known := by decide
  wide := .inl ⟨rfl, rfl⟩

/-- A locale with UTF-8, and a memory that has the string U+00E9 at address 16. -/
def accentEnvironment : PrintEnvironment where
  ctype := ctypeUtf8
  numeric := ⟨[], none, none_ne_zero⟩
  memory := fun address => if address < 16 then none else [0xe9, 0, 0, 0, 0, 0, 0, 0][address - 16]?

theorem vprintf_wideString_left :
    WideString (pointedWideString accentEnvironment 16) [0xe9] ∧
      Encodings accentEnvironment [0xe9] [[0xc3, 0xa9]] ∧
      vprintf accentEnvironment (byteOf '%' :: (oneByte [.minus]).text)
        ((oneByte [.minus]).arguments 0 0 16) = some ⟨none, []⟩ := by
  have string : WideString (pointedWideString accentEnvironment 16) [0xe9] :=
    ⟨fun i inside => by obtain rfl := Nat.lt_one_iff.mp inside; rfl,
      forall_mem_singleton.mpr (by decide), rfl, by decide⟩
  have encoded : Encodings accentEnvironment [0xe9] [[0xc3, 0xa9]] := .cons rfl .nil
  exact ⟨string, encoded, (vprintf_wideString_iff accentEnvironment (oneByte [.minus]) 0 0 16 string
    encoded rfl).mpr ⟨rfl, rfl, (by rintro ⟨⟩),
      fun right => absurd (mem_singleton_self _) right⟩⟩

/-- For `printf("%.1ls", L"\u00e9")`, where no bytes are prescribed, two bytes are printed. -/
theorem vprintf_wideString_right :
    vprintf accentEnvironment (byteOf '%' :: (oneByte []).text) ((oneByte []).arguments 0 0 16) =
        some ⟨none, [0xc3, 0xa9]⟩ ∧
      (oneByte []).c11Text [[0xc3, 0xa9]] 1 0 = [] := by
  decide

end WideStringSpec

end Cloudlibc.Stdio
