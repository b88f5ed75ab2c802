import Cloudlibc.Stdlib.StrtointLiteral

/-!
# The integer in front of a string

The strings that the functions of `common/strtoint.h` accept are white space, an optional sign and
a literal in the base (`Subject`, `Accepted`). A conversion returns the number of the longest one
that the string starts with, or the limit of the type that the number lies beyond, and it hands
back the pointer behind the literal (`Converts`). The loop finds out about an overflow without
computing the number. Its accumulator keeps the number as long as the number is in the range, and
once an overflow has been noticed, the number stays out of the range (`Tracks`).

`strto_longestLiteral` has the result for each integer type, for the multibyte and the wide
character functions.
-/

set_option autoImplicit false

namespace Cloudlibc.Stdlib

open Cloudlibc.Digits Cloudlibc.Locale Cloudlibc.Stdio List Nat Bool

/-! ## The functions -/

/-- An integer type that `uintmax_t` has the absolute values of. -/
structure IntegerType where
  isSigned : Bool
  width : ℕ
  width_pos : 0 < width
  width_le : width ≤ 64

namespace IntegerType

/-- `NUMERIC_MIN()`. -/
def numericMin (type : IntegerType) : ℤ := if type.isSigned then -2 ^ (type.width - 1) else 0

/-- `NUMERIC_MAX()`. -/
def numericMax (type : IntegerType) : ℤ :=
  if type.isSigned then 2 ^ (type.width - 1) - 1 else 2 ^ type.width - 1

end IntegerType

/-- The functions `strtol_l()`, `strtoul_l()`, `strtoimax_l()` and so on. -/
def strtoL (type : IntegerType) (ctype : LcCtype) (str : List UInt8) (base : ℤ) :
    Option StrtointResult :=
  strtoint ctype type.isSigned type.numericMin type.numericMax str (parserBase base)

/-- What the parser sees of a wide character. It compares it with ASCII characters only. -/
def asciiByte (wc : ℕ) : UInt8 := if wc < 0x80 then .ofNat wc else 0x80

/-- The functions `wcstol()`, `wcstoul()`, `wcstoimax()` and so on: the number, the string behind
`*endptr` and the error number. -/
def wcsto (type : IntegerType) (str : List ℕ) (base : ℤ) : ℤ × List ℕ × Option Errno :=
  let s := str.dropWhile iswspace
  let result := parserStrtoint type.isSigned type.numericMin type.numericMax true
    (parserBase base) (s.map asciiByte)
  (result.number,
    if result.haveNumber then s.drop result.skipped else str,
    if result.haveNumber = false then some .EINVAL
    else if result.haveOverflow then some .ERANGE
    else none)

/-! ## The result of a conversion -/

/-- A literal behind an optional sign. -/
inductive Subject (base : ℤ) : List UInt8 → ℤ → Prop
  | unsigned {text : List UInt8} {n : ℕ} : Literal base text n → Subject base text n
  | plus {text : List UInt8} {n : ℕ} : Literal base text n → Subject base (byteOf '+' :: text) n
  | minus {text : List UInt8} {n : ℕ} :
      Literal base text n → Subject base (byteOf '-' :: text) (-n)

/-- The value of the type that stands for a number, and the error. -/
def IntegerType.store (type : IntegerType) (number : ℤ) : ℤ × Option Errno :=
  if type.numericMin ≤ number ∧ number ≤ type.numericMax then (number, none)
  else if type.isSigned ∧ number < 0 then (type.numericMin, some .ERANGE)
  else (type.numericMax, some .ERANGE)

section

variable {char : Type} (ascii : char → UInt8) (white : List char → Prop)

/-- The text is white space and a literal with a sign. -/
def Accepted (base : ℤ) (text : List char) (number : ℤ) : Prop :=
  ∃ spaces subject, text = spaces ++ subject ∧ white spaces ∧
    Subject base (subject.map ascii) number

/-- The result of a conversion: the value and the end of the longest accepted text in front of the
string, or zero and the string itself if there is none. -/
def Converts (type : IntegerType) (base : ℤ) (str : List char)
    (result : ℤ × List char × Option Errno) : Prop :=
  (∃ text rest number, str = text ++ rest ∧ Accepted ascii white base text number ∧
      (∀ text' number', text' <+: str → Accepted ascii white base text' number' →
        text'.length < text.length ∨ text' = text ∧ number' = number) ∧
      result = ((type.store number).1, rest, (type.store number).2)) ∨
    (∀ text number, text <+: str → ¬ Accepted ascii white base text number) ∧
      result = (0, str, some .EINVAL)

end

/-! ## The loop over the digits -/

/-- What the loop knows of the number that the digits so far stand for. -/
def Tracks (limit : ℕ) (state : DigitLoop) (number : ℕ) : Prop :=
  state.value ≤ limit ∧
    (state.haveOverflow = false ∧ state.value = number ∨
      state.haveOverflow = true ∧ limit < number)

theorem exceeds_iff {radix ceil lastDigit digit number : ℕ} (small : digit < radix)
    (small' : lastDigit < radix) :
    (number > ceil ∨ number = ceil ∧ digit > lastDigit) ↔
      ceil * radix + lastDigit < number * radix + digit := by
  rcases lt_trichotomy number ceil with below | rfl | above
  · have room : (number + 1) * radix ≤ ceil * radix := mul_le_mul_right _ below
    rw [succ_mul] at room
    omega
  · omega
  · have room : (ceil + 1) * radix ≤ number * radix := mul_le_mul_right _ above
    rw [succ_mul] at room
    omega

/-- The state of the loop behind one more digit. -/
def pushDigit (radix ceil lastDigit digit : ℕ) (state : DigitLoop) : DigitLoop :=
  if state.value > ceil ∨ state.value = ceil ∧ digit > lastDigit then
    ⟨state.skipped + 1, true, true, state.value⟩
  else
    ⟨state.skipped + 1, true, state.haveOverflow, state.value * radix + digit⟩

variable {b : UInt8}

theorem strtointLoop_cons {radix ceil lastDigit digit : ℕ} {s : List UInt8}
    (spelled : digitValue b = some digit) (small : digit < radix) (state : DigitLoop) :
    strtointLoop radix ceil lastDigit (b :: s) state =
      strtointLoop radix ceil lastDigit s (pushDigit radix ceil lastDigit digit state) := by
  rw [strtointLoop, spelled, pushDigit]
  dsimp only
  rw [if_neg (not_le.mpr small)]
  by_cases exceeds : state.value > ceil ∨ state.value = ceil ∧ digit > lastDigit
  · rw [if_pos exceeds, if_pos exceeds]
  · rw [if_neg exceeds, if_neg exceeds]

/-- One digit keeps what the loop knows. -/
theorem Tracks.digit {radix ceil lastDigit digit : ℕ} {state : DigitLoop} {number : ℕ}
    (small : digit < radix) (small' : lastDigit < radix)
    (tracks : Tracks (ceil * radix + lastDigit) state number) :
    Tracks (ceil * radix + lastDigit) (pushDigit radix ceil lastDigit digit state)
      (number * radix + digit) := by
  obtain ⟨bounded, ⟨fits, known⟩ | ⟨overflow, beyond⟩⟩ := tracks
  · rw [pushDigit]
    by_cases exceeds : state.value > ceil ∨ state.value = ceil ∧ digit > lastDigit
    · rw [if_pos exceeds]
      refine ⟨bounded, Or.inr ⟨rfl, ?_⟩⟩
      rw [← known]
      exact (exceeds_iff small small').mp exceeds
    · rw [if_neg exceeds]
      exact ⟨not_lt.mp (mt (exceeds_iff small small').mpr exceeds),
        Or.inl ⟨fits, by rw [known]⟩⟩
  · have grows : number ≤ number * radix + digit :=
      (Nat.le_mul_of_pos_right number (by omega)).trans (Nat.le_add_right _ _)
    rw [pushDigit]
    by_cases exceeds : state.value > ceil ∨ state.value = ceil ∧ digit > lastDigit
    · rw [if_pos exceeds]
      exact ⟨bounded, Or.inr ⟨rfl, by omega⟩⟩
    · rw [if_neg exceeds]
      exact ⟨not_lt.mp (mt (exceeds_iff small small').mpr exceeds),
        Or.inr ⟨overflow, by omega⟩⟩

/-- **The loop over digits that are followed by something else.** -/
theorem strtointLoop_tracks {radix ceil lastDigit : ℕ} (small' : lastDigit < radix)
    {rest : List UInt8} (stops : NoDigit radix rest) (digits : List ℕ) :
    ∀ (text : List UInt8) (state : DigitLoop) (number : ℕ),
      text.map digitValue = digits.map some → (∀ digit ∈ digits, digit < radix) →
      Tracks (ceil * radix + lastDigit) state number →
      let final := strtointLoop radix ceil lastDigit (text ++ rest) state
      final.skipped = state.skipped + text.length ∧
        final.haveNumber = (state.haveNumber || !text.isEmpty) ∧
        Tracks (ceil * radix + lastDigit) final (value radix number digits) := by
  induction digits with
  | nil =>
    intro text state number spelled _ tracks
    obtain rfl : text = [] := map_eq_nil_iff.mp spelled
    rw [nil_append, strtointLoop_noDigit _ _ stops]
    exact ⟨rfl, by simp, tracks⟩
  | cons digit digits ih =>
    intro text state number spelled small tracks
    obtain ⟨b, text, rfl⟩ : ∃ b text', text = b :: text' := by
      cases text with
      | nil => simp at spelled
      | cons b text => exact ⟨b, text, rfl⟩
    obtain ⟨first, others⟩ := forall_mem_cons.mp small
    obtain ⟨head, tail⟩ := cons.inj spelled
    have pushed := ih text (pushDigit radix ceil lastDigit digit state) _ tail others
      (tracks.digit first small')
    have counted : (pushDigit radix ceil lastDigit digit state).skipped = state.skipped + 1 ∧
        (pushDigit radix ceil lastDigit digit state).haveNumber = true := by
      rw [pushDigit]
      split_ifs <;> exact ⟨rfl, rfl⟩
    rw [cons_append, strtointLoop_cons head first]
    obtain ⟨skipped, haveNumber, tracked⟩ := pushed
    refine ⟨?_, ?_, tracked⟩
    · rw [skipped, counted.1, length_cons]
      omega
    · rw [haveNumber, counted.2]
      simp

/-! ## The number of a literal -/

/-- The part of `parser_strtoint.h` behind the sign. -/
def parseMagnitude (isSigned : Bool) (min max : ℤ) (negative : Bool) (base sign : ℕ)
    (s : List UInt8) : IntegerResult :=
  let start := literalStart base s
  if 2 ≤ start.2 ∧ start.2 ≤ 36 then
    let ceil := if negative then (-(min.tdiv start.2)).toNat else (max / start.2).toNat
    let lastDigit := if negative then (-(min.tmod start.2)).toNat else (max % start.2).toNat
    let digits := strtointLoop start.2 ceil lastDigit (s.drop start.1) ⟨0, false, false, 0⟩
    let number : ℤ :=
      if digits.haveOverflow then
        if isSigned = false ∨ negative = false then max else min
      else
        if negative then -digits.value else digits.value
    ⟨sign + start.1 + digits.skipped, digits.haveNumber, digits.haveOverflow, number⟩
  else
    ⟨sign + start.1, false, false, 0⟩

theorem parserStrtoint_eq (isSigned : Bool) (min max : ℤ) (allowNegative : Bool) (base : ℕ)
    (s : List UInt8) :
    parserStrtoint isSigned min max allowNegative base s =
      let negative := allowNegative && peek s 0 == byteOf '-'
      let sign := if negative || peek s 0 == byteOf '+' then 1 else 0
      parseMagnitude isSigned min max negative base sign (s.drop sign) := by
  rw [parserStrtoint, parseMagnitude]
  rw [literalStart]
  split_ifs <;> rfl

namespace IntegerType

variable (type : IntegerType)

/-- The largest absolute value of a number with a sign. -/
def limit (negative : Bool) : ℕ := if negative then (-type.numericMin).toNat else type.numericMax.toNat

theorem limit_true : (type.limit true : ℤ) = -type.numericMin := by
  rw [limit, if_pos rfl, Int.toNat_of_nonneg]
  rw [numericMin]
  split_ifs
  · rw [neg_neg]
    positivity
  · exact le_rfl

theorem limit_false : (type.limit false : ℤ) = type.numericMax := by
  rw [limit, if_neg Bool.false_ne_true, Int.toNat_of_nonneg]
  rw [numericMax]
  split_ifs
  · exact Int.sub_nonneg_of_le (one_le_pow₀ (by decide))
  · exact Int.sub_nonneg_of_le (one_le_pow₀ (by decide))

/-- The quotient and the last digit that `parser_strtoint.h` determines belong to the limit. -/
theorem limit_eq (negative : Bool) (radix : ℕ) :
    (if negative then (-(type.numericMin.tdiv radix)).toNat
      else (type.numericMax / radix).toNat) = type.limit negative / radix ∧
    (if negative then (-(type.numericMin.tmod radix)).toNat
      else (type.numericMax % radix).toNat) = type.limit negative % radix := by
  cases negative with
  | false =>
    rw [← limit_false, ← Int.natCast_div, ← Int.natCast_mod]
    exact ⟨rfl, rfl⟩
  | true =>
    have minimum : type.numericMin = -(type.limit true : ℤ) := by rw [limit_true, neg_neg]
    rw [minimum, Int.neg_tdiv, Int.neg_tmod, neg_neg, neg_neg]
    exact ⟨by norm_cast, by norm_cast⟩

end IntegerType

/-- The number of a literal behind a sign. -/
def signed (negative : Bool) (n : ℕ) : ℤ := if negative then -n else n

variable {n : ℕ}

/-- The number that is returned is the one that the loop has kept track of. -/
theorem store_of_tracks {type : IntegerType} {negative : Bool} {final : DigitLoop}
    (tracks : Tracks (type.limit negative) final n) :
    type.store (signed negative n) =
      ((if final.haveOverflow then
          if type.isSigned = false ∨ negative = false then type.numericMax else type.numericMin
        else signed negative final.value),
        if final.haveOverflow then some .ERANGE else none) := by
  have low := type.limit_true
  have high := type.limit_false
  obtain ⟨bounded, ⟨fits, rfl⟩ | ⟨overflow, beyond⟩⟩ := tracks
  · rw [fits, if_neg Bool.false_ne_true, if_neg Bool.false_ne_true, IntegerType.store, if_pos]
    cases negative with
    | false =>
      rw [signed, if_neg Bool.false_ne_true]
      omega
    | true =>
      rw [signed, if_pos rfl]
      omega
  · rw [overflow, if_pos rfl, if_pos rfl, IntegerType.store]
    cases negative with
    | false =>
      rw [signed, if_neg Bool.false_ne_true, if_neg (by omega), if_neg (by omega),
        if_pos (Or.inr rfl)]
    | true =>
      rw [signed, if_pos rfl, if_neg (by omega)]
      cases type.isSigned with
      | false => rw [if_neg (by simp), if_pos (Or.inl rfl)]
      | true => rw [if_pos ⟨rfl, by omega⟩, if_neg (by simp)]

/-- **The part of the parser behind the sign finds the longest literal.** -/
theorem parseMagnitude_longest (type : IntegerType) (negative : Bool) (base : ℤ) (sign : ℕ)
    (s : List UInt8) :
    let result := parseMagnitude type.isSigned type.numericMin type.numericMax negative
      (parserBase base) sign s
    (∃ text rest n, s = text ++ rest ∧ LongestLiteral base s text n ∧
      result.haveNumber = true ∧ result.skipped = sign + text.length ∧
      (result.number, if result.haveOverflow then some Errno.ERANGE else none) =
        type.store (signed negative n)) ∨
    (∀ text n, text <+: s → ¬ Literal base text n) ∧
      result.haveNumber = false ∧ result.number = 0 := by
  obtain ⟨leading, radix, start⟩ : ∃ leading radix,
      literalStart (parserBase base) s = (leading, radix) := ⟨_, _, rfl⟩
  obtain ⟨text, digits, rest, split, run⟩ := exists_run radix (s.drop leading)
  have longest := literalStart_longest start split run
  simp only [parseMagnitude, start, split]
  by_cases valid : 2 ≤ radix ∧ radix ≤ 36
  · have last : type.limit negative % radix < radix := mod_lt _ (by omega)
    have tracked := @strtointLoop_tracks radix (type.limit negative / radix) _ last rest run.stops
      digits text ⟨0, false, false, 0⟩ 0 run.spelled run.small
      ⟨zero_le _, Or.inl ⟨rfl, rfl⟩⟩
    rw [div_add_mod'] at tracked
    rw [if_pos valid, (type.limit_eq negative radix).1, (type.limit_eq negative radix).2]
    generalize strtointLoop radix _ _ (text ++ rest) _ = final at tracked ⊢
    obtain ⟨skipped, haveNumber, tracks⟩ := tracked
    rcases longest with ⟨-, some_text, whole, split', length, literal⟩ | ⟨empty, none⟩
    · refine Or.inl ⟨whole, rest, _, split', literal, ?_, ?_, ?_⟩
      · simp [haveNumber, some_text]
      · show sign + leading + final.skipped = sign + whole.length
        rw [skipped, length, zero_add, add_assoc]
      · rw [store_of_tracks tracks]
        rfl
    · obtain rfl := empty valid
      obtain rfl : digits = [] := by simpa using run.spelled.symm
      obtain ⟨-, ⟨fits, zero⟩ | ⟨-, beyond⟩⟩ := tracks
      · refine Or.inr ⟨none, by simp [haveNumber], ?_⟩
        simp [fits, zero, value]
      · exact absurd beyond (not_lt.mpr (zero_le _))
  · rw [if_neg valid]
    rcases longest with ⟨valid', -⟩ | ⟨-, none⟩
    · exact absurd valid' valid
    · exact Or.inr ⟨none, rfl, rfl⟩

/-! ## Signs -/

/-- The text of an optional sign, and whether it is a minus sign. -/
inductive Sign : List UInt8 → Bool → Prop
  | none : Sign [] false
  | plus : Sign [byteOf '+'] false
  | minus : Sign [byteOf '-'] true

variable {base : ℤ} {text : List UInt8}

/-- A literal has digits and letters only. -/
theorem Literal.isSome (literal : Literal base text n) : ∀ b ∈ text, (digitValue b).isSome := by
  have spelled : ∀ {radix : ℕ} {text : List UInt8} {digits : List ℕ}, Spells radix text digits →
      ∀ b ∈ text, (digitValue b).isSome := by
    rintro radix text digits ⟨-, spelled, -⟩ b member
    obtain ⟨digit, -, same⟩ := mem_map.mp (spelled ▸ mem_map_of_mem member)
    rw [← same, Option.isSome_some]
  cases literal with
  | digits _ _ spells => exact spelled spells
  | hexadecimal _ isX spells =>
    refine forall_mem_cons.mpr ⟨by decide, forall_mem_cons.mpr ⟨?_, spelled spells⟩⟩
    rw [digitValue_x isX, Option.isSome_some]
  | octal _ _ spells => exact spelled spells
  | decimal _ _ spells => exact spelled spells

/-- A literal is not in front of a string that starts with something else. -/
theorem Literal.not_front {s : List UInt8} (literal : Literal base text n)
    (other : digitValue b = none) : ¬ text <+: b :: s := by
  intro front
  cases text with
  | nil => exact literal.ne_nil rfl
  | cons c text =>
    have digit := literal.isSome c mem_cons_self
    rw [(cons_prefix_cons.mp front).1, other] at digit
    exact absurd digit (by simp)

theorem digitValue_sign : digitValue (byteOf '+') = none ∧ digitValue (byteOf '-') = none := by
  decide

/-- A literal with a sign, which is a minus sign only if there may be one. -/
def Signed (allowNegative : Bool) (base : ℤ) (text : List UInt8) (number : ℤ) : Prop :=
  Subject base text number ∧ (text.head? = some (byteOf '-') → allowNegative = true)

variable {allowNegative : Bool}

theorem parserStrtoint_sign (isSigned : Bool) (min max : ℤ) (allowNegative : Bool) (base : ℕ)
    (s : List UInt8) :
    ∃ sign negative t, s = sign ++ t ∧ Sign sign negative ∧
      (negative = true → allowNegative = true) ∧
      (sign = [] → t.head? ≠ some (byteOf '+') ∧
        (t.head? = some (byteOf '-') → allowNegative = false)) ∧
      parserStrtoint isSigned min max allowNegative base s =
        parseMagnitude isSigned min max negative base sign.length t := by
  rw [parserStrtoint_eq]
  by_cases minus : (allowNegative && peek s 0 == byteOf '-') = true
  · obtain ⟨allowed, isMinus⟩ := and_eq_true_iff.mp minus
    obtain ⟨t, rfl⟩ := peek_zero_eq (by decide) (beq_iff_eq.mp isMinus)
    exact ⟨[byteOf '-'], true, t, rfl, Sign.minus, fun _ => allowed, by simp, by simp [minus]⟩
  · rw [not_eq_true] at minus
    by_cases plus : peek s 0 = byteOf '+'
    · obtain ⟨t, rfl⟩ := peek_zero_eq (by decide) plus
      refine ⟨[byteOf '+'], false, t, rfl, Sign.plus, by simp, by simp, ?_⟩
      simp only [minus]
      simp [plus]
    · refine ⟨[], false, s, rfl, Sign.none, by simp, fun _ => ?_, ?_⟩
      · cases s with
        | nil => simp
        | cons b s => exact ⟨fun same => plus (by simpa [peek] using same),
            fun same => by simpa [peek, Option.some_inj.mp same] using minus⟩
      · simp [minus, beq_eq_false_iff_ne.mpr plus]

/-- A literal with a sign in front of a string has the sign of the string. -/
theorem signed_iff {sign t : List UInt8} {negative : Bool} {number : ℤ}
    (isSign : Sign sign negative) (allowed : negative = true → allowNegative = true)
    (noSign : sign = [] → t.head? ≠ some (byteOf '+') ∧
      (t.head? = some (byteOf '-') → allowNegative = false))
    (front : text <+: sign ++ t) :
    Signed allowNegative base text number ↔ ∃ text' n, text = sign ++ text' ∧ text' <+: t ∧
      Literal base text' n ∧ number = signed negative n := by
  constructor
  · rintro ⟨subject, maybeMinus⟩
    cases isSign with
    | none =>
      obtain ⟨notPlus, notMinus⟩ := noSign rfl
      cases subject with
      | unsigned literal => exact ⟨text, _, rfl, front, literal, rfl⟩
      | plus literal => exact absurd (head?_of_cons_front front) notPlus
      | minus literal =>
        cases (maybeMinus rfl).symm.trans (notMinus (head?_of_cons_front front))
    | plus =>
      cases subject with
      | unsigned literal => exact absurd front (literal.not_front digitValue_sign.1)
      | plus literal =>
        exact ⟨_, _, rfl, (cons_prefix_cons.mp front).2, literal, rfl⟩
      | minus literal => exact absurd (cons_prefix_cons.mp front).1 (by decide)
    | minus =>
      cases subject with
      | unsigned literal => exact absurd front (literal.not_front digitValue_sign.2)
      | plus literal => exact absurd (cons_prefix_cons.mp front).1 (by decide)
      | minus literal =>
        exact ⟨_, _, rfl, (cons_prefix_cons.mp front).2, literal, rfl⟩
  · rintro ⟨text', n, rfl, -, literal, rfl⟩
    cases isSign with
    | none =>
      refine ⟨.unsigned literal, fun first => ?_⟩
      have digit := literal.isSome _ (mem_of_mem_head? first)
      rw [digitValue_sign.2] at digit
      cases digit
    | plus => exact ⟨.plus literal, fun first => absurd (Option.some.inj first) (by decide)⟩
    | minus => exact ⟨.minus literal, fun _ => allowed rfl⟩

/-- **The parser finds the longest literal with a sign.** -/
theorem parserStrtoint_longest (type : IntegerType) (allowNegative : Bool) (base : ℤ)
    (s : List UInt8) :
    let result := parserStrtoint type.isSigned type.numericMin type.numericMax allowNegative
      (parserBase base) s
    (∃ text rest number, s = text ++ rest ∧ Signed allowNegative base text number ∧
      (∀ text' number', text' <+: s → Signed allowNegative base text' number' →
        text'.length < text.length ∨ text' = text ∧ number' = number) ∧
      result.haveNumber = true ∧ result.skipped = text.length ∧
      (result.number, if result.haveOverflow then some Errno.ERANGE else none) =
        type.store number) ∨
    (∀ text number, text <+: s → ¬ Signed allowNegative base text number) ∧
      result.haveNumber = false ∧ result.number = 0 := by
  obtain ⟨sign, negative, t, rfl, isSign, allowed, noSign, parsed⟩ := parserStrtoint_sign
    type.isSigned type.numericMin type.numericMax allowNegative (parserBase base) s
  dsimp only
  rw [parsed]
  rcases parseMagnitude_longest type negative base sign.length t with
    ⟨text, rest, n, rfl, ⟨literal, longest⟩, haveNumber, skipped, stored⟩ | ⟨none, missing⟩
  · refine Or.inl ⟨sign ++ text, rest, signed negative n, (append_assoc _ _ _).symm, ?_, ?_,
      haveNumber, by rw [skipped, length_append], stored⟩
    · exact (signed_iff isSign allowed noSign
        ((prefix_append_right_inj sign).mpr (prefix_append text rest))).mpr
          ⟨text, n, rfl, prefix_append text rest, literal, rfl⟩
    · intro text' number' front subject
      obtain ⟨text', n', rfl, front', literal', rfl⟩ :=
        (signed_iff isSign allowed noSign front).mp subject
      rcases longest text' n' front' literal' with less | ⟨rfl, rfl⟩
      · exact Or.inl (by simpa using less)
      · exact Or.inr ⟨rfl, rfl⟩
  · refine Or.inr ⟨?_, missing⟩
    intro text number front subject
    obtain ⟨text', n, -, front', literal, -⟩ :=
      (signed_iff isSign allowed noSign front).mp subject
    exact none text' n front' literal

/-- A literal with a sign starts with the sign or a digit. -/
theorem Subject.head {number : ℤ} (subject : Subject base text number) :
    ∃ b rest, text = b :: rest ∧
      ((digitValue b).isSome ∨ b = byteOf '+' ∨ b = byteOf '-') := by
  cases subject with
  | unsigned literal =>
    obtain ⟨b, rest, rfl⟩ := exists_cons_of_ne_nil literal.ne_nil
    exact ⟨b, rest, rfl, Or.inl (literal.isSome b mem_cons_self)⟩
  | plus literal => exact ⟨_, _, rfl, Or.inr (Or.inl rfl)⟩
  | minus literal => exact ⟨_, _, rfl, Or.inr (Or.inr rfl)⟩

/-- Behind its first character a literal with a sign has digits and letters only. -/
theorem Subject.isSome_tail {number : ℤ} (subject : Subject base text number) :
    ∀ b ∈ text.tail, (digitValue b).isSome := by
  cases subject with
  | unsigned literal => exact fun b member => literal.isSome b (mem_of_mem_tail member)
  | plus literal => exact literal.isSome
  | minus literal => exact literal.isSome

/-- **The parser takes a literal that is in front of something else.** -/
theorem parserStrtoint_of_signed (type : IntegerType) {number : ℤ} {rest : List UInt8}
    (isSigned : Signed allowNegative base text number)
    (stop : ∀ b ∈ rest.head?, digitValue b = none) :
    let result := parserStrtoint type.isSigned type.numericMin type.numericMax allowNegative
      (parserBase base) (text ++ rest)
    result.haveNumber = true ∧ result.skipped = text.length ∧
      (result.number, if result.haveOverflow then some Errno.ERANGE else none) =
        type.store number := by
  rcases parserStrtoint_longest type allowNegative base (text ++ rest) with
    ⟨text', rest', number', split, isSigned', longest, found⟩ | ⟨none, -⟩
  · rcases longest text number (prefix_append _ _) isSigned with less | ⟨rfl, rfl⟩
    · -- A longer literal would have the character that is behind this one.
      obtain ⟨more, rfl⟩ : text <+: text' :=
        prefix_of_prefix_length_le (prefix_append _ _) ⟨rest', split.symm⟩ less.le
      rw [append_assoc, append_cancel_left_eq] at split
      cases more with
      | nil => simp at less
      | cons b more =>
        obtain ⟨c, tail, rfl, -⟩ := isSigned.1.head
        have digit := isSigned'.1.isSome_tail b (mem_append_right tail mem_cons_self)
        rw [stop b (by rw [split]; rfl)] at digit
        cases digit
    · exact found
  · exact absurd isSigned (none text number (prefix_append _ _))

theorem spells_numeral (n : ℕ) : Spells 10 ((numeral 10 n).map decimalByte) (numeral 10 n) := by
  have small : ∀ digit ∈ numeral 10 n, digit < 10 := fun digit member =>
    numeral_lt (by decide) member
  refine ⟨by simp [numeral_ne_nil], ?_, small⟩
  rw [map_map]
  exact map_congr_left fun digit member => digitValue_decimalByte (small digit member)

theorem head_numeral (n : ℕ) : ∃ digit < 10, ∃ digits,
    (numeral 10 n).map decimalByte = decimalByte digit :: digits ∧ (n ≠ 0 → digit ≠ 0) := by
  obtain ⟨digit, digits, split⟩ := exists_cons_of_ne_nil (numeral_ne_nil 10 n)
  refine ⟨digit, (spells_numeral n).2.2 digit (by simp [split]), _, by rw [split, map_cons], ?_⟩
  exact fun positive => numeral_head positive split

/-- **A decimal numeral is converted to its number.** -/
theorem strtoul_numeral {rest : List UInt8} (stop : ∀ b ∈ rest.head?, digitValue b = none)
    (fits : n < 2 ^ 64) :
    strtoul ((numeral 10 n).map decimalByte ++ rest) 10 = some ⟨n, rest, none⟩ := by
  have plain : ∀ digit < 10, isSpace (decimalByte digit) = false := by
    decide
  obtain ⟨digit, small, digits, split, -⟩ := head_numeral n
  have literal := Literal.digits (show (2 : ℤ) ≤ 10 by decide) (by decide) (spells_numeral n)
  rw [show (10 : ℤ).toNat = 10 from rfl, value_numeral] at literal
  have isSigned : Signed true 10 ((numeral 10 n).map decimalByte) n :=
    ⟨.unsigned literal, fun _ => rfl⟩
  obtain ⟨haveNumber, skipped, stored⟩ :=
    parserStrtoint_of_signed ⟨false, 64, by decide, by decide⟩ isSigned stop
  generalize parsed : parserStrtoint _ _ _ _ _ _ = result at haveNumber skipped stored
  have fits : (n : ℤ) ≤ 2 ^ 64 - 1 := by omega
  obtain ⟨number, overflow⟩ :=
    Prod.mk.inj (stored.trans (if_pos ⟨Int.natCast_nonneg n, fits⟩))
  have white : takeWhile isSpace ((numeral 10 n).map decimalByte ++ rest) = [] := by
    rw [split, cons_append, takeWhile_cons, plain digit small]
    rfl
  rw [strtoul, strtoint, skipWhitespace_usAscii, white]
  simp only [length_nil, drop_zero, Option.bind_eq_bind, Option.bind_some, Option.pure_def,
    show parserStrtoint false 0 (2 ^ 64 - 1) true 10 _ = result from parsed, haveNumber, skipped,
    drop_left, number, if_true, overflow]
  rfl

/-! ## White space -/

section

variable {char : Type} {ascii : char → UInt8} {white : List char → Prop}

/-- White space in front of a string is all the white space that there is, if a literal follows. -/
def Determined (ascii : char → UInt8) (white : List char → Prop) (base : ℤ) (str spaces : List char) :
    Prop :=
  ∀ spaces' subject number, white spaces' → spaces' ++ subject <+: str →
    Subject base (subject.map ascii) number → spaces' = spaces

/-- The result of a conversion, if white space has been skipped. -/
theorem converts_of_longest (type : IntegerType) {base : ℤ} {spaces s : List char}
    (isWhite : white spaces) (determined : Determined ascii white base (spaces ++ s) spaces)
    {result : IntegerResult}
    (parsed : parserStrtoint type.isSigned type.numericMin type.numericMax true (parserBase base)
      (s.map ascii) = result) :
    Converts ascii white type base (spaces ++ s)
      (result.number, if result.haveNumber then s.drop result.skipped else spaces ++ s,
        if result.haveNumber = false then some .EINVAL
        else if result.haveOverflow then some .ERANGE
        else none) := by
  subst parsed
  rcases parserStrtoint_longest type true base (s.map ascii) with
    ⟨text, rest, number, split, ⟨subject, -⟩, longest, haveNumber, skipped, stored⟩ |
      ⟨none, haveNumber, zero⟩
  · obtain ⟨text, rest, rfl, rfl, rfl⟩ := map_eq_append_iff.mp split
    refine Or.inl ⟨spaces ++ text, rest, number, (append_assoc _ _ _).symm,
      ⟨spaces, text, rfl, isWhite, subject⟩, ?_, ?_⟩
    · rintro text' number' front ⟨spaces', subject', rfl, isWhite', isSubject⟩
      obtain rfl := determined spaces' subject' number' isWhite' front isSubject
      have front' : subject' <+: text ++ rest := (prefix_append_right_inj _).mp front
      rcases longest _ number' (front'.map ascii) ⟨isSubject, fun _ => rfl⟩ with less | ⟨same, rfl⟩
      · exact Or.inl (by simpa using less)
      · have length : subject'.length = text.length := by
          simpa using congrArg length same
        refine Or.inr ⟨?_, rfl⟩
        rw [append_cancel_left_eq]
        exact (prefix_of_prefix_length_le front' (prefix_append _ _)
          length.le).eq_of_length length
    · rw [← stored, haveNumber, skipped, length_map, drop_left]
      rfl
  · refine Or.inr ⟨?_, ?_⟩
    · rintro text number front ⟨spaces', subject', rfl, isWhite', isSubject⟩
      obtain rfl := determined spaces' subject' number isWhite' front isSubject
      exact none _ number (List.IsPrefix.map ascii ((prefix_append_right_inj _).mp front))
        ⟨isSubject, fun _ => rfl⟩
    · rw [haveNumber, zero]
      rfl

/-- White space that is neither a digit nor a sign is determined by the string. -/
theorem determined_takeWhile {isWhite : char → Bool}
    (other : ∀ c, isWhite c = true →
      digitValue (ascii c) = none ∧ ascii c ≠ byteOf '+' ∧ ascii c ≠ byteOf '-')
    (base : ℤ) (str : List char) :
    Determined ascii (fun spaces => ∀ c ∈ spaces, isWhite c = true) base str
      (str.takeWhile isWhite) := by
  rintro spaces' subject number allWhite ⟨tail, rfl⟩ isSubject
  obtain ⟨b, rest, split, first⟩ := isSubject.head
  obtain ⟨c, subject, rfl, rfl, rfl⟩ := map_eq_cons_iff.mp split
  have notWhite : isWhite c = false := by
    by_contra white
    obtain ⟨noDigit, notPlus, notMinus⟩ := other c (eq_true_of_not_eq_false white)
    rcases first with digit | plus | minus
    · simp [noDigit] at digit
    · exact notPlus plus
    · exact notMinus minus
  rw [append_assoc, takeWhile_append_of_pos allWhite, cons_append, takeWhile_cons, notWhite]
  simp

end

theorem iswspace_other (wc : ℕ) (white : iswspace wc = true) :
    digitValue (asciiByte wc) = none ∧ asciiByte wc ≠ byteOf '+' ∧ asciiByte wc ≠ byteOf '-' := by
  by_cases low : wc < 0x80
  · revert white
    revert wc
    decide
  · rw [asciiByte, if_neg low]
    decide

theorem isSpace_other (b : UInt8) (white : isSpace b = true) :
    digitValue b = none ∧ b ≠ byteOf '+' ∧ b ≠ byteOf '-' := by
  have low : b.toNat < 0x80 := by
    have byte := b.toNat_lt
    simp only [isSpace, iswspace, or_eq_true, and_eq_true, decide_eq_true_eq,
      beq_iff_eq] at white
    omega
  have other := iswspace_other b.toNat white
  rwa [asciiByte, if_pos low, UInt8.ofNat_toNat] at other

theorem strtoL_of_skip (type : IntegerType) (base : ℤ) {ctype : LcCtype} {str : List UInt8}
    {skipped : ℕ} (skip : skipWhitespace ctype str = some skipped) :
    let result := parserStrtoint type.isSigned type.numericMin type.numericMax true
      (parserBase base) (str.drop skipped)
    strtoL type ctype str base = some {
      number := result.number
      endptr := if result.haveNumber then (str.drop skipped).drop result.skipped else str
      errno :=
        if result.haveNumber = false then some .EINVAL
        else if result.haveOverflow then some .ERANGE
        else none } := by
  rw [strtoL, strtoint, skip]
  rfl

/-- **The strings that are converted to an integer.** In the POSIX locale white space is bytes. In
another locale it is what its decoder says. The wide character functions have white space of their
own. -/
theorem strto_longestLiteral (type : IntegerType) (base : ℤ) :
    (∀ str : List UInt8, ∃ result, strtoL type ctypeUsAscii str base = some result ∧
      Converts id (fun spaces => ∀ b ∈ spaces, isSpace b = true) type base str
        (result.number, result.endptr, result.errno)) ∧
    (∀ (ctype : LcCtype) (str : List UInt8) (skipped : ℕ),
      skipWhitespace ctype str = some skipped →
      ∃ result, strtoL type ctype str base = some result ∧
        Converts id (fun spaces => spaces = str.take skipped) type base str
          (result.number, result.endptr, result.errno)) ∧
    ∀ str : List ℕ, Converts asciiByte (fun spaces => ∀ wc ∈ spaces, iswspace wc = true) type base
      str (wcsto type str base) := by
  have skips : ∀ (ctype : LcCtype) (white : List UInt8 → Prop) (str : List UInt8) (skipped : ℕ),
      skipWhitespace ctype str = some skipped → white (str.take skipped) →
      Determined id white base str (str.take skipped) →
      ∃ result, strtoL type ctype str base = some result ∧
        Converts id white type base str (result.number, result.endptr, result.errno) := by
    intro ctype white str skipped skip isWhite determined
    refine ⟨_, strtoL_of_skip type base skip, ?_⟩
    have converts := @converts_of_longest UInt8 id white type base (str.take skipped)
      (str.drop skipped) isWhite (by rwa [take_append_drop]) _ (by rw [map_id])
    rwa [take_append_drop] at converts
  refine ⟨fun str => ?_, fun ctype str skipped skip => ?_, fun str => ?_⟩
  · have spaces : str.take (str.takeWhile isSpace).length = str.takeWhile isSpace :=
      (prefix_iff_eq_take.mp ( takeWhile_prefix isSpace)).symm
    refine skips ctypeUsAscii _ str _ (skipWhitespace_usAscii str) ?_ ?_
    · rw [spaces]
      exact fun b member => mem_takeWhile_imp member
    · rw [spaces]
      exact determined_takeWhile isSpace_other base str
  · exact skips ctype _ str skipped skip rfl fun spaces' _ _ isWhite _ _ => isWhite
  · have converts := @converts_of_longest ℕ asciiByte
      (fun spaces => ∀ wc ∈ spaces, iswspace wc = true) type base (str.takeWhile iswspace)
      (str.dropWhile iswspace) (fun wc member => mem_takeWhile_imp member)
      (by rw [takeWhile_append_dropWhile]; exact determined_takeWhile iswspace_other base str)
      _ rfl
    rwa [takeWhile_append_dropWhile] at converts

end Cloudlibc.Stdlib
