import Cloudlibc.Locale.CodesetDecoders
import Cloudlibc.Monetary.Strfmon

/-!
# The text around a monetary value

What `generate_prefix()` and `generate_suffix()` print for the locales of the library, in every
character set. A locale says where the sign is (`affixes_eq`): in front of the value in `en_US` and
`ru_RU`, behind it in `nl_NL`, and nowhere in the POSIX locale.
-/

set_option autoImplicit false

namespace Cloudlibc.Monetary

open Cloudlibc.Float10 Cloudlibc.Locale Cloudlibc.Stdio List Option

/-! ## Encoded characters -/

/-- The byte of an ASCII character in a character set. -/
def asciiByte : Codeset → Char → UInt8
  | .ibm037, c => .ofNat ((ibm037Encode.get? c.toNat).getD 0)
  | _, c => .ofNat c.toNat

section

variable (codeset : Codeset)

include codeset

theorem encodeCharacter_ascii {c : Char}
    (ascii : c ∈ ['-', '$', 'U', 'S', 'D', 'E', 'R', 'B', '.', ',', ' ']) :
    encodeCharacter codeset.ctype c = some [asciiByte codeset c] := by
  have small : c.toNat < 128 := by fin_cases ascii <;> decide
  have encoded : codeset.ctype.c32tomb c.toNat = some (.ok [asciiByte codeset c]) := by
    cases codeset with
    | asciiplus set => exact if_pos small
    | gb2312 => exact if_pos small
    | _ => fin_cases ascii <;> decide
  rw [encodeCharacter, encoded]
  rfl

theorem encodeCharacter_total (c : Char) :
    ∃ bytes, encodeCharacter codeset.ctype c = some bytes ∧ bytes.length ≤ 4 := by
  obtain ⟨result, total⟩ := isSome_iff_exists.mp (codeset.c32tomb_isSome c.toNat)
  rw [encodeCharacter, total]
  cases result with
  | ok bytes => exact ⟨bytes, rfl, Codeset.length_c32tomb_le total⟩
  | error errno => exact ⟨[byteOf '?'], rfl, by decide⟩

/-- The bytes of a string. -/
def encoded (codeset : Codeset) (str : List Char) : List UInt8 :=
  str.flatMap fun c => (encodeCharacter codeset.ctype c).getD []

@[simp] theorem encoded_nil : encoded codeset [] = [] := rfl

theorem encoded_cons (c : Char) (str : List Char) :
    encoded codeset (c :: str) =
      (encodeCharacter codeset.ctype c).getD [] ++ encoded codeset str := rfl

theorem length_encoded_le (str : List Char) :
    (encoded codeset str).length ≤ 4 * str.length := by
  induction str with
  | nil => exact le_rfl
  | cons c str ih =>
    obtain ⟨bytes, found, length⟩ := encodeCharacter_total codeset c
    rw [encoded_cons, found, getD_some, length_append, length_cons]
    omega

theorem convertLocaleString_total (str : List Char) :
    ∀ field, ∃ bytes, convertLocaleString codeset.ctype str field = some bytes := by
  induction str with
  | nil => exact fun field => ⟨field, rfl⟩
  | cons c str ih =>
    intro field
    obtain ⟨bytes, found, -⟩ := encodeCharacter_total codeset c
    rw [convertLocaleString, found]
    split_ifs
    · exact ⟨field, rfl⟩
    · exact ih (field ++ bytes)

end

/-! ## Prefixes and suffixes -/

variable {text : List UInt8}

theorem Affix.putchar_eq (room : text.length < 32) (c : Char) :
    Affix.putchar ⟨text, false⟩ c = ⟨text ++ [byteOf c], false⟩ := by
  rw [Affix.putchar, if_neg Bool.false_ne_true, if_neg (by dsimp only; omega)]

theorem Affix.putcharIf_eq (room : text.length < 32) (condition : Bool) (c : Char) :
    Affix.putcharIf ⟨text, false⟩ condition c =
      ⟨text ++ if condition then [byteOf c] else [], false⟩ := by
  rw [Affix.putcharIf]
  split_ifs
  · exact Affix.putchar_eq room c
  · rw [append_nil]

theorem Affix.putstring_eq (codeset : Codeset) (str : List Char) :
    ∀ {text : List UInt8}, text.length + 4 * str.length ≤ 32 →
      Affix.putstring codeset.ctype ⟨text, false⟩ str =
        some ⟨text ++ encoded codeset str, false⟩ := by
  induction str with
  | nil =>
    intro text _
    rw [Affix.putstring, encoded_nil, append_nil]
  | cons c str ih =>
    intro text room
    rw [length_cons] at room
    obtain ⟨bytes, found, length⟩ := encodeCharacter_total codeset c
    have enough : ¬ 32 - text.length < mbLenMax := by
      rw [mbLenMax]
      omega
    rw [Affix.putstring, if_neg Bool.false_ne_true, if_neg enough, encoded_cons, found]
    show Affix.putstring codeset.ctype ⟨text ++ bytes, false⟩ str = _
    rw [ih (by rw [length_append]; omega), getD_some, append_assoc]

theorem Affix.putstringIf_eq (codeset : Codeset) {str : List Char}
    (room : text.length + 4 * str.length ≤ 32) (condition : Bool) :
    Affix.putstringIf codeset.ctype ⟨text, false⟩ condition str =
      some ⟨text ++ if condition then encoded codeset str else [], false⟩ := by
  rw [Affix.putstringIf]
  split_ifs
  · exact Affix.putstring_eq codeset str room
  · rw [append_nil]

theorem length_ite_nil_le {α : Type} (condition : Prop) [Decidable condition] (xs : List α) :
    (if condition then xs else []).length ≤ xs.length := by
  split_ifs
  · exact le_rfl
  · exact Nat.zero_le _

section Affixes

variable (codeset : Codeset) {sign : List Char} {attributes : SignAttributes} (negative : Bool)
  (separator : Char)

/-- The prefix of a locale whose currency symbol is in front of the value. -/
theorem generatePrefix_precedes {symbol : List Char} (short : symbol.length ≤ 4)
    (short' : sign.length ≤ 1) (precedes : attributes.csPrecedes = 1)
    (spacing : attributes.sepBySpace ≠ 2) (position : attributes.signPosn < 3) :
    generatePrefix codeset.ctype (some symbol) sign attributes negative separator =
      some ((if attributes.signPosn = 0 && negative then [byteOf '('] else []) ++
        (if attributes.signPosn = 1 then encoded codeset sign else []) ++
        if symbol = [] then []
        else encoded codeset symbol ++
          if attributes.sepBySpace = 1 then [byteOf separator] else []) := by
  have signed := length_encoded_le codeset sign
  have symbols := length_encoded_le codeset symbol
  have third : ¬ attributes.signPosn = 3 := by omega
  have fourth : ¬ attributes.signPosn = 4 := by omega
  rw [generatePrefix, Affix.putcharIf_eq (by simp)]
  have opening := length_ite_nil_le ((attributes.signPosn = 0 && negative) = true) [byteOf '(']
  rw [length_singleton] at opening
  simp only [precedes, if_true, nil_append, third, fourth, decide_false, Bool.or_false,
    if_false, spacing, Bool.and_false]
  rw [Affix.putstringIf_eq codeset (by omega)]
  have middle := length_ite_nil_le (attributes.signPosn = 1) (encoded codeset sign)
  simp only [decide_eq_true_eq, bind_eq_bind, bind_some]
  rw [Affix.putcharIf_eq (by rw [length_append]; omega)]
  simp only [Bool.false_eq_true, if_false, append_nil]
  by_cases empty : symbol = []
  · rw [if_pos empty, if_pos empty, append_nil]
    rfl
  · rw [if_neg empty, if_neg empty,
      Affix.putstring_eq codeset symbol (by rw [length_append]; omega), bind_some,
      Affix.putcharIf_eq (by rw [length_append, length_append]; omega)]
    simp only [decide_eq_true_eq, append_assoc]
    rfl

theorem generatePrefix_follows (symbol : Option (List Char)) (short : sign.length ≤ 1)
    (follows : attributes.csPrecedes ≠ 1) (spacing : attributes.sepBySpace ≠ 2) :
    generatePrefix codeset.ctype symbol sign attributes negative separator =
      some ((if attributes.signPosn = 0 && negative then [byteOf '('] else []) ++
        if attributes.signPosn = 1 then encoded codeset sign else []) := by
  have opening := length_ite_nil_le ((attributes.signPosn = 0 && negative) = true) [byteOf '(']
  rw [length_singleton] at opening
  rw [generatePrefix, Affix.putcharIf_eq (by simp)]
  simp only [follows, if_false, nil_append, spacing, decide_false, Bool.and_false]
  rw [Affix.putstringIf_eq codeset (by omega)]
  simp only [decide_eq_true_eq]
  rfl

/-- The suffix of a locale whose currency symbol is not behind the value. -/
theorem generateSuffix_precedes (symbol : Option (List Char)) (short : sign.length ≤ 1)
    (precedes : attributes.csPrecedes ≠ 0) (spacing : attributes.sepBySpace ≠ 2) :
    generateSuffix codeset.ctype symbol sign attributes negative separator =
      some ((if attributes.signPosn = 2 then encoded codeset sign else []) ++
        if attributes.signPosn = 0 && negative then [byteOf ')'] else []) := by
  have signed := length_encoded_le codeset sign
  have middle := length_ite_nil_le (attributes.signPosn = 2) (encoded codeset sign)
  rw [generateSuffix]
  simp only [precedes, if_false, spacing, decide_false, Bool.and_false]
  rw [Affix.putcharIf_eq (by simp)]
  simp only [Bool.false_eq_true, if_false, append_nil]
  rw [Affix.putstringIf_eq codeset (by rw [length_nil]; omega)]
  simp only [bind_eq_bind, bind_some, decide_eq_true_eq, nil_append]
  rw [Affix.putcharIf_eq (by omega)]
  rfl

/-- The suffix of a locale whose currency symbol is behind the value. -/
theorem generateSuffix_follows {symbol : List Char} (short : symbol.length ≤ 4)
    (short' : sign.length ≤ 1) (follows : attributes.csPrecedes = 0)
    (low : 0 ≤ attributes.signPosn) (position : attributes.signPosn < 2) :
    generateSuffix codeset.ctype (some symbol) sign attributes negative separator =
      some ((if symbol = [] then []
          else (if attributes.sepBySpace = 1 then [byteOf separator] else []) ++
            encoded codeset symbol) ++
        if attributes.signPosn = 0 && negative then [byteOf ')'] else []) := by
  have symbols := length_encoded_le codeset symbol
  have third : ¬ attributes.signPosn = 3 := by omega
  have second : ¬ attributes.signPosn = 2 := by omega
  have fourth : ¬ attributes.signPosn = 4 := by omega
  have position' : attributes.signPosn = 0 ∨ attributes.signPosn = 1 := by omega
  have separated : (decide (attributes.sepBySpace = 1) && (decide (attributes.signPosn = 0) ||
      decide (attributes.signPosn = 1))) = decide (attributes.sepBySpace = 1) := by
    simp [position']
  have opening := length_ite_nil_le (attributes.sepBySpace = 1) [byteOf separator]
  rw [length_singleton] at opening
  rw [generateSuffix]
  simp only [follows, if_true, third, decide_false, Bool.false_and]
  rw [Affix.putcharIf_eq (by simp)]
  simp only [Bool.false_eq_true, if_false, append_nil]
  rw [Affix.putstringIf_eq codeset (by rw [length_nil]; omega)]
  simp only [Bool.false_eq_true, if_false, append_nil, bind_eq_bind, bind_some, suffixSymbol,
    second, third, fourth, decide_false, Bool.false_and, Bool.or_false, Bool.false_or, separated]
  by_cases empty : symbol = []
  · rw [if_pos empty, if_pos empty, bind_some, Affix.putcharIf_eq (by simp)]
    rfl
  · rw [if_neg empty, if_neg empty, Affix.putcharIf_eq (by simp)]
    simp only [decide_eq_true_eq, nil_append]
    rw [Affix.putstring_eq codeset symbol (by omega), bind_some,
      Affix.putcharIf_eq (by rw [length_append]; omega)]
    simp only [Bool.false_eq_true, if_false, append_nil]
    rw [Affix.putstringIf_eq codeset (by simp; omega)]
    simp only [Bool.false_eq_true, if_false, append_nil, bind_some]
    rw [Affix.putcharIf_eq (by rw [length_append]; omega)]
    rfl

end Affixes

/-! ## The locales -/

/-- The negative sign. -/
def minus (codeset : Codeset) : UInt8 := asciiByte codeset '-'

theorem asciiByte_cases (codeset : Codeset) (c : Char) :
    asciiByte codeset c = .ofNat c.toNat ∨
      asciiByte codeset c = .ofNat ((ibm037Encode.get? c.toNat).getD 0) := by
  cases codeset with
  | ibm037 => exact .inr rfl
  | _ => exact .inl rfl

theorem encoded_ascii (codeset : Codeset) {c : Char} (str : List Char)
    (ascii : c ∈ ['-', '$', 'U', 'S', 'D', 'E', 'R', 'B', '.', ',', ' ']) :
    encoded codeset (c :: str) = asciiByte codeset c :: encoded codeset str := by
  rw [encoded_cons, encodeCharacter_ascii codeset ascii]
  rfl

theorem encoded_minus (codeset : Codeset) : encoded codeset ['-'] = [minus codeset] :=
  encoded_ascii codeset [] (by simp)

/-- The currency symbol of a locale other than `__monetary_posix`. -/
theorem symbolOf_eq {locale : Locale} (specified : locale ≠ .posix) (spec : MonetarySpec)
    (international : Bool) :
    ∃ symbol, symbolOf locale.monetary spec international = (some symbol, ' ') ∧
      symbol.length ≤ 4 ∧
      (locale = .enUs → symbol = [] ∨ symbol = ['$'] ∨ symbol = ['U', 'S', 'D']) ∧
      (locale = .ruRu → symbol = [] ∨ symbol = ['р', 'у', 'б', '.'] ∨ symbol = ['R', 'U', 'B']) := by
  rw [symbolOf]
  by_cases without : spec.useCurrencySymbol = false
  · rw [if_pos without]
    exact ⟨[], rfl, by simp, by simp, by simp⟩
  · rw [if_neg without]
    cases locale <;> cases international
    · exact absurd rfl specified
    · exact absurd rfl specified
    all_goals exact ⟨_, rfl, by decide, by decide, by decide⟩

/-- The parenthesis in front of a negative value. -/
def opening (spec : MonetarySpec) (negative : Bool) : List UInt8 :=
  if spec.useParentheses && negative then [byteOf '('] else []

/-- The parenthesis behind a negative value. -/
def closing (spec : MonetarySpec) (negative : Bool) : List UInt8 :=
  if spec.useParentheses && negative then [byteOf ')'] else []

/-- The negative sign, if there are no parentheses. -/
def signText (codeset : Codeset) (spec : MonetarySpec) (negative : Bool) : List UInt8 :=
  if !spec.useParentheses && negative then [minus codeset] else []

/-- What is printed around a value, apart from its sign. -/
structure Surrounds (codeset : Codeset) (locale : Locale) (front back : List UInt8) : Prop where
  first : locale ≠ .nlNl → ∀ byte ∈ front.head?, byte ≠ byteOf ' ' ∧ byte ≠ minus codeset
  last : ∀ byte ∈ back.getLast?, byte ≠ byteOf ' ' ∧ byte ≠ byteOf ')'
  nothing : locale = .nlNl → back = []
  posix : locale = .posix → front = [] ∧ back = []

theorem affixes_of {ctype : LcCtype} {monetary : LcMonetary} {spec : MonetarySpec}
    {international negative : Bool} {symbol : Option (List Char)} {separator : Char}
    {front back : List UInt8}
    (named : symbolOf monetary spec international = (symbol, separator))
    (before : generatePrefix ctype symbol (signString monetary negative)
      (signAttributes monetary spec international negative) negative separator = some front)
    (behind : generateSuffix ctype symbol (signString monetary negative)
      (signAttributes monetary spec international negative) negative separator = some back) :
    affixes ctype monetary spec international negative = some (front, back) := by
  rw [affixes, named]
  dsimp only
  rw [before, behind]
  rfl

theorem signString_eq (locale : Locale) (negative : Bool) :
    signString locale.monetary negative = if negative then ['-'] else [] := by
  cases locale <;> cases negative <;> rfl

theorem asciiByte_ne (codeset : Codeset) : ∀ c ∈ ['$', 'U', '.', 'B'],
    asciiByte codeset c ≠ byteOf ' ' ∧ asciiByte codeset c ≠ minus codeset ∧
      asciiByte codeset c ≠ byteOf ')' := by
  cases codeset with
  | ibm037 => exact forall_iff_forall_mem.mp (by decide)
  | _ =>
    simp only [minus, asciiByte]
    exact forall_iff_forall_mem.mp (by decide)

theorem signAttributes_eq (locale : Locale) (spec : MonetarySpec) (international negative : Bool) :
    signAttributes locale.monetary spec international negative =
      match locale with
      | .posix => ⟨127, 127, if spec.useParentheses then 0 else 127⟩
      | .enUs => ⟨1, if international then 1 else 0, if spec.useParentheses then 0 else 1⟩
      | .nlNl => ⟨1, 1, if spec.useParentheses then 0 else if negative then 2 else 1⟩
      | .ruRu => ⟨0, 1, if spec.useParentheses then 0 else 1⟩ := by
  rw [signAttributes]
  cases locale <;> cases international <;> cases negative <;> cases spec.useParentheses <;> rfl

/-- **Where the locales have their negative signs.** The locale `nl_NL` has it behind the value, and
`__monetary_posix` has it nowhere. -/
theorem affixes_eq (codeset : Codeset) (locale : Locale) (spec : MonetarySpec)
    (international : Bool) :
    ∃ front back, Surrounds codeset locale front back ∧ ∀ negative,
      affixes codeset.ctype locale.monetary spec international negative =
        some (opening spec negative ++
            (if locale = .enUs ∨ locale = .ruRu then signText codeset spec negative else []) ++ front,
          (if locale = .nlNl then signText codeset spec negative else []) ++ back ++
            closing spec negative) := by
  have short : ∀ negative, (signString locale.monetary negative).length ≤ 1 := by
    intro negative
    rw [signString_eq]
    exact length_ite_nil_le _ _
  cases locale with
  | posix =>
    refine ⟨[], [], ⟨by simp, by simp, fun _ => rfl, fun _ => ⟨rfl, rfl⟩⟩, fun negative => ?_⟩
    have attributes := signAttributes_eq .posix spec international negative
    rw [affixes_of rfl
      (generatePrefix_follows codeset negative _ _ (short negative)
        (by simp [attributes]) (by simp [attributes]))
      (generateSuffix_precedes codeset negative _ _ (short negative)
        (by simp [attributes]) (by simp [attributes])), attributes]
    cases negative <;> cases parentheses : spec.useParentheses <;>
      simp [opening, closing, parentheses]
  | enUs =>
    obtain ⟨symbol, named, few, known, -⟩ :=
      symbolOf_eq (show Locale.enUs ≠ .posix by decide) spec international
    refine ⟨if symbol = [] then [] else encoded codeset symbol ++
      if international then [byteOf ' '] else [], [], ⟨fun _ => ?_, by simp, by simp, by simp⟩,
      fun negative => ?_⟩
    · have different := asciiByte_ne codeset
      obtain rfl | rfl | rfl := known rfl
      · simp
      · rw [encoded_ascii codeset _ (by simp)]
        simp [different '$' (by simp)]
      · rw [encoded_ascii codeset _ (by simp)]
        simp [different 'U' (by simp)]
    · have attributes := signAttributes_eq .enUs spec international negative
      rw [affixes_of named
        (generatePrefix_precedes codeset negative _ few (short negative)
          (by rw [attributes]) (by rw [attributes]; cases international <;> simp)
          (by rw [attributes]; cases spec.useParentheses <;> simp))
        (generateSuffix_precedes codeset negative _ _ (short negative)
          (by simp [attributes]) (by rw [attributes]; cases international <;> simp)),
        attributes, signString_eq]
      cases negative <;> cases international <;> cases parentheses : spec.useParentheses <;>
        simp [opening, closing, signText, parentheses, encoded_minus]
  | nlNl =>
    obtain ⟨symbol, named, few, -, -⟩ :=
      symbolOf_eq (show Locale.nlNl ≠ .posix by decide) spec international
    refine ⟨if symbol = [] then [] else encoded codeset symbol ++ [byteOf ' '], [],
      ⟨by simp, by simp, fun _ => rfl, by simp⟩, fun negative => ?_⟩
    have attributes := signAttributes_eq .nlNl spec international negative
    rw [affixes_of named
      (generatePrefix_precedes codeset negative _ few (short negative)
        (by rw [attributes]) (by simp [attributes])
        (by rw [attributes]; cases negative <;> cases spec.useParentheses <;> simp))
      (generateSuffix_precedes codeset negative _ _ (short negative)
        (by simp [attributes]) (by simp [attributes])),
      attributes, signString_eq]
    cases negative <;> cases parentheses : spec.useParentheses <;>
      simp [opening, closing, signText, parentheses, encoded_minus]
  | ruRu =>
    obtain ⟨symbol, named, few, -, known⟩ :=
      symbolOf_eq (show Locale.ruRu ≠ .posix by decide) spec international
    refine ⟨[], if symbol = [] then [] else byteOf ' ' :: encoded codeset symbol,
      ⟨by simp, ?_, by simp, by simp⟩, fun negative => ?_⟩
    · have different := asciiByte_ne codeset
      obtain rfl | rfl | rfl := known rfl
      · simp
      · rw [if_neg (by simp), encoded_cons, encoded_cons, encoded_cons,
          encoded_ascii codeset _ (by simp), encoded_nil, ← append_assoc, ← append_assoc,
          ← cons_append, getLast?_concat]
        simp [different '.' (by simp)]
      · rw [encoded_ascii codeset _ (by simp), encoded_ascii codeset _ (by simp),
          encoded_ascii codeset _ (by simp)]
        simp [different 'B' (by simp)]
    · have attributes := signAttributes_eq .ruRu spec international negative
      rw [affixes_of named
        (generatePrefix_follows codeset negative _ _ (short negative)
          (by simp [attributes]) (by simp [attributes]))
        (generateSuffix_follows codeset negative _ few (short negative)
          (by rw [attributes]) (by rw [attributes]; cases spec.useParentheses <;> simp)
          (by rw [attributes]; cases spec.useParentheses <;> simp)),
        attributes, signString_eq]
      cases negative <;> cases parentheses : spec.useParentheses <;>
        simp [opening, closing, signText, parentheses, encoded_minus]

end Cloudlibc.Monetary
