import Cloudlibc.Foundations.Comparison

/-!
# Comparing version strings

`strverscmp()` of `common/strverscmp.h`. A string is the list of the values of its characters
without the null character at its end, so the model is that of the narrow and of the wide function.

The function walks over the common part of two strings with an automaton and decides at the first
difference. It compares the strings by the lexicographic order of lists of keys
(`compareLoop_eq`): the key of a digit in an integer has the number of the digits that follow, so
that a longer integer is greater. Hence the function is a strict total order, in which integers
without leading zeros are ordered by their values (`strverscmp_strictTotalOrder`).
-/

set_option autoImplicit false

namespace Cloudlibc.String

open List

/-! ## The function -/

/-- `enum chartype`. -/
inductive Chartype
  | zero
  | digit
  | other
  deriving DecidableEq, Repr

/-- `enum state`. -/
inductive VersionState
  | text
  | frac
  | frac0
  | int
  deriving DecidableEq, Repr

/-- `enum retmode`. The table has no entry where the characters are compared. -/
inductive Retmode
  | lt
  | gt
  | length
  | difference
  deriving DecidableEq, Repr

/-- The first character of a string. -/
def deref (s : List ℤ) : ℤ := s.headD 0

/-- `get_chartype()`. -/
def getChartype (c : ℤ) : Chartype :=
  if c = 0x30 then .zero else if 0x31 ≤ c ∧ c ≤ 0x39 then .digit else .other

/-- The table `next`. -/
def nextState : VersionState → Chartype → VersionState
  | .text, .zero => .frac0
  | .text, .digit => .int
  | .text, .other => .text
  | .frac, .zero => .frac
  | .frac, .digit => .frac
  | .frac, .other => .text
  | .frac0, .zero => .frac0
  | .frac0, .digit => .frac
  | .frac0, .other => .text
  | .int, .zero => .int
  | .int, .digit => .int
  | .int, .other => .text

/-- The table `mode`. -/
def retmode : VersionState → Chartype → Chartype → Retmode
  | .text, .digit, .digit => .length
  | .frac, .zero, .other => .gt
  | .frac, .digit, .other => .gt
  | .frac, .other, .zero => .lt
  | .frac, .other, .digit => .lt
  | .frac0, .zero, .other => .lt
  | .frac0, .digit, .other => .lt
  | .frac0, .other, .zero => .gt
  | .frac0, .other, .digit => .gt
  | .int, .zero, .digit => .length
  | .int, .zero, .other => .gt
  | .int, .digit, .zero => .length
  | .int, .digit, .digit => .length
  | .int, .digit, .other => .gt
  | .int, .other, .zero => .lt
  | .int, .other, .digit => .lt
  | _, _, _ => .difference

/-- The loop that compares the numbers of digits. -/
def lengthLoop (diff : ℤ) : (s1 s2 : List ℤ) → ℤ
  | [], s2 => if getChartype (deref s2) = .other then diff else -1
  | c1 :: s1, s2 =>
    if getChartype c1 = .other then
      if getChartype (deref s2) = .other then diff else -1
    else if getChartype (deref s2) = .other then
      1
    else
      lengthLoop diff s1 s2.tail

/-- The decision at the first difference. -/
def mismatch (state : VersionState) (s1 s2 : List ℤ) : ℤ :=
  let diff := if deref s1 < deref s2 then -1 else 1
  match retmode state (getChartype (deref s1)) (getChartype (deref s2)) with
  | .lt => -1
  | .gt => 1
  | .length => lengthLoop diff s1.tail s2.tail
  | .difference => diff

/-- The loop over the common part. -/
def compareLoop : (state : VersionState) → (s1 s2 : List ℤ) → ℤ
  | _, [], [] => 0
  | state, [], c2 :: s2 => mismatch state [] (c2 :: s2)
  | state, c1 :: s1, [] => mismatch state (c1 :: s1) []
  | state, c1 :: s1, c2 :: s2 =>
    if c1 = c2 then
      compareLoop (nextState state (getChartype c1)) s1 s2
    else
      mismatch state (c1 :: s1) (c2 :: s2)

/-- `strverscmp()`. -/
def strverscmp (s1 s2 : List ℤ) : ℤ := compareLoop .text s1 s2

/-! ## Numbers of digits -/

/-- The number of digits at the start of a string. -/
def digitRun : List ℤ → ℕ
  | [] => 0
  | c :: s => if getChartype c = .other then 0 else digitRun s + 1

variable {c : ℤ}

theorem getChartype_eq_other : getChartype c = .other ↔ c < 0x30 ∨ 0x39 < c := by
  rw [getChartype]
  split_ifs <;> simp <;> omega

variable {s : List ℤ}

theorem digitRun_pos : 0 < digitRun s ↔ getChartype (deref s) ≠ .other := by
  cases s with
  | nil => simp [digitRun, deref, getChartype]
  | cons c s =>
    rw [digitRun, deref, headD_cons]
    split_ifs with other <;> simp [other]

theorem digitRun_tail (digit : getChartype (deref s) ≠ .other) :
    digitRun s = digitRun s.tail + 1 := by
  cases s with
  | nil => exact absurd rfl digit
  | cons c s => exact if_neg digit

theorem digitRun_eq_zero (other : getChartype (deref s) = .other) : digitRun s = 0 := by
  by_contra positive
  exact digitRun_pos.mp (Nat.pos_of_ne_zero positive) other

/-- A result by numbers of digits, and otherwise by the characters. -/
theorem lengthLoop_eq (diff : ℤ) (s1 : List ℤ) : ∀ s2, lengthLoop diff s1 s2 =
    if digitRun s1 < digitRun s2 then -1 else if digitRun s2 < digitRun s1 then 1 else diff := by
  induction s1 with
  | nil =>
    intro s2
    rw [lengthLoop]
    by_cases other : getChartype (deref s2) = .other
    · simp [digitRun_eq_zero other, other, digitRun]
    · have := digitRun_pos.mpr other
      simp [other, digitRun, this]
  | cons c1 s1 ih =>
    intro s2
    rw [lengthLoop]
    by_cases other1 : getChartype c1 = .other
    · have none1 : digitRun (c1 :: s1) = 0 := digitRun_eq_zero other1
      by_cases other2 : getChartype (deref s2) = .other
      · simp [digitRun_eq_zero other2, none1, other1, other2]
      · have := digitRun_pos.mpr other2
        simp [none1, other1, other2, this]
    · have more1 : digitRun (c1 :: s1) = digitRun s1 + 1 := if_neg other1
      by_cases other2 : getChartype (deref s2) = .other
      · simp [digitRun_eq_zero other2, more1, other1, other2]
      · simp [other1, other2, ih s2.tail, more1, digitRun_tail other2]

/-- Two characters of an integer that differ are compared by the numbers of digits. -/
theorem retmode_int {c1 c2 : ℤ} (digit1 : getChartype c1 ≠ .other)
    (digit2 : getChartype c2 ≠ .other) (differ : c1 ≠ c2) :
    retmode .int (getChartype c1) (getChartype c2) = .length := by
  unfold getChartype at *
  split_ifs at * <;> simp_all [retmode]

theorem nextState_int (digit : getChartype c ≠ .other) : nextState .int (getChartype c) = .int := by
  cases type : getChartype c with
  | zero => rfl
  | digit => rfl
  | other => exact absurd type digit

theorem compareLoop_int_lt (s1 : List ℤ) :
    ∀ s2, digitRun s1 < digitRun s2 → compareLoop .int s1 s2 = -1 := by
  have less : ∀ {s1 s2}, getChartype (deref s1) = .other → getChartype (deref s2) ≠ .other →
      mismatch .int s1 s2 = -1 := by
    intro s1 s2 other digit
    rw [mismatch, other]
    cases type : getChartype (deref s2) with
    | zero => rfl
    | digit => rfl
    | other => exact absurd type digit
  induction s1 with
  | nil =>
    intro s2 shorter
    cases s2 with
    | nil => exact absurd shorter (Nat.lt_irrefl _)
    | cons c2 s2 => exact less rfl (digitRun_pos.mp shorter)
  | cons c1 s1 ih =>
    intro s2 shorter
    cases s2 with
    | nil => exact absurd shorter (Nat.not_lt_zero _)
    | cons c2 s2 =>
      have digit2 : getChartype c2 ≠ .other :=
        digitRun_pos.mp (Nat.lt_of_le_of_lt (Nat.zero_le _) shorter)
      have more2 : digitRun (c2 :: s2) = digitRun s2 + 1 := if_neg digit2
      rw [compareLoop]
      by_cases digit1 : getChartype c1 = .other
      · rw [if_neg (by rintro rfl; exact digit2 digit1)]
        exact less digit1 digit2
      · have more1 : digitRun (c1 :: s1) = digitRun s1 + 1 := if_neg digit1
        split_ifs with same
        · rw [nextState_int digit1]
          exact ih s2 (by omega)
        · rw [mismatch, deref, deref, headD_cons, headD_cons, retmode_int digit1 digit2 same]
          dsimp only [tail_cons]
          rw [lengthLoop_eq, if_pos (by omega)]

/-! ## Keys -/

/-- A key has a rank, a number of digits and a character. -/
abbrev VersionKey := ℤ ×ₗ ℕ ×ₗ ℤ

/-- The rank of a character. The digits behind zeros are less than other characters, and those of
other numbers are greater. -/
def rank (state : VersionState) (c : ℤ) : ℤ :=
  match state with
  | .text => if c < 0x31 then 0 else if c ≤ 0x39 then 1 else 2
  | .frac => if getChartype c = .other then 0 else 1
  | .frac0 => if getChartype c = .other then 1 else 0
  | .int => if getChartype c = .other then 0 else 1

/-- The character is a digit of an integer. -/
def counted (state : VersionState) (type : Chartype) : Bool :=
  (state = .text && type = .digit) || (state = .int && type ≠ .other)

/-- The key of the first character of a string. -/
def versionKey (state : VersionState) (s : List ℤ) : VersionKey :=
  toLex (rank state (deref s),
    toLex (if counted state (getChartype (deref s)) then digitRun s.tail else 0, deref s))

/-- The keys of the characters of a string and of the null character at its end. -/
def versionKeys : (state : VersionState) → (s : List ℤ) → List VersionKey
  | state, [] => [versionKey state []]
  | state, c :: s => versionKey state (c :: s) :: versionKeys (nextState state (getChartype c)) s

theorem getChartype_cases (c : ℤ) :
    (getChartype c = .zero ∧ c = 0x30) ∨ (getChartype c = .digit ∧ 0x31 ≤ c ∧ c ≤ 0x39) ∨
      (getChartype c = .other ∧ (c < 0x30 ∨ 0x39 < c)) := by
  rw [getChartype]
  split_ifs <;> simp <;> omega

/-- The decision at the first difference is the order of the keys. -/
theorem mismatch_neg_iff (state : VersionState) {s1 s2 : List ℤ} (differ : deref s1 ≠ deref s2) :
    mismatch state s1 s2 < 0 ↔ versionKey state s1 < versionKey state s2 := by
  rw [mismatch, versionKey, versionKey, Prod.Lex.toLex_lt_toLex, Prod.Lex.toLex_lt_toLex]
  simp only [lengthLoop_eq]
  generalize deref s1 = c1 at *
  generalize deref s2 = c2 at *
  generalize digitRun s1.tail = r1
  generalize digitRun s2.tail = r2
  obtain ⟨type1, range1⟩ | ⟨type1, range1⟩ | ⟨type1, range1⟩ := getChartype_cases c1 <;>
  obtain ⟨type2, range2⟩ | ⟨type2, range2⟩ | ⟨type2, range2⟩ := getChartype_cases c2 <;>
  cases state <;>
  simp only [type1, type2, retmode, rank, counted, decide_true, decide_false, Bool.and_false,
    Bool.and_true, Bool.or_false, Bool.or_true, Bool.false_eq_true, reduceCtorEq, ne_eq,
    not_false_eq_true, not_true_eq_false, if_true, if_false, true_and] <;>
  omega

theorem deref_eq_of_versionKey_eq {state : VersionState} {s1 s2 : List ℤ}
    (same : versionKey state s1 = versionKey state s2) : deref s1 = deref s2 :=
  (Prod.ext_iff.mp (toLex_inj.mp (Prod.ext_iff.mp (toLex_inj.mp same)).2)).2

/-! ## The order -/

/-- A decision is not zero, and swapping the strings changes its sign. -/
theorem mismatch_swap (state : VersionState) {s1 s2 : List ℤ} (differ : deref s1 ≠ deref s2) :
    mismatch state s1 s2 ≠ 0 ∧ mismatch state s2 s1 = -mismatch state s1 s2 := by
  have symmetric : ∀ t1 t2, retmode state t2 t1 =
      match retmode state t1 t2 with
      | .lt => .gt
      | .gt => .lt
      | .length => .length
      | .difference => .difference := by
    intro t1 t2
    cases state <;> cases t1 <;> cases t2 <;> rfl
  rw [mismatch, mismatch, symmetric (getChartype (deref s1))]
  simp only [lengthLoop_eq]
  cases retmode state (getChartype (deref s1)) (getChartype (deref s2)) <;> dsimp only <;> omega

/-- A string. -/
structure CharString where
  chars : List ℤ
  nonzero : ∀ c ∈ chars, c ≠ 0

theorem compareLoop_swap (s1 : List ℤ) : ∀ (state : VersionState) (s2 : List ℤ),
    (∀ c ∈ s1, c ≠ 0) → (∀ c ∈ s2, c ≠ 0) →
      compareLoop state s2 s1 = -compareLoop state s1 s2 ∧
        (compareLoop state s1 s2 = 0 ↔ s1 = s2) := by
  induction s1 with
  | nil =>
    intro state s2 _ nonzero
    cases s2 with
    | nil => exact ⟨rfl, by simp [compareLoop]⟩
    | cons c2 s2 =>
      obtain ⟨decided, swapped⟩ := @mismatch_swap state [] (c2 :: s2)
        (nonzero c2 mem_cons_self).symm
      rw [compareLoop]
      exact ⟨swapped, by simp [decided]⟩
  | cons c1 s1 ih =>
    intro state s2 nonzero1 nonzero2
    cases s2 with
    | nil =>
      obtain ⟨decided, swapped⟩ := @mismatch_swap state (c1 :: s1) []
        (nonzero1 c1 mem_cons_self)
      rw [compareLoop, compareLoop]
      exact ⟨swapped, by simp [decided]⟩
    | cons c2 s2 =>
      rw [compareLoop, compareLoop]
      by_cases same : c1 = c2
      · subst same
        rw [if_pos rfl, if_pos rfl, cons.injEq, and_iff_right rfl]
        exact ih _ s2 (fun c member => nonzero1 c (mem_cons_of_mem _ member))
          fun c member => nonzero2 c (mem_cons_of_mem _ member)
      · obtain ⟨decided, swapped⟩ := @mismatch_swap state (c1 :: s1) (c2 :: s2) same
        rw [if_neg same, if_neg (Ne.symm same)]
        exact ⟨swapped, by simp [decided, same]⟩

theorem nextState_of_counted {state : VersionState} {type : Chartype}
    (digit : counted state type) : nextState state type = .int := by
  revert digit
  cases state <;> cases type <;> decide

/-- **The function compares strings by their keys.** -/
theorem compareLoop_neg_iff (s1 : List ℤ) : ∀ (state : VersionState) (s2 : List ℤ),
    (∀ c ∈ s1, c ≠ 0) → (∀ c ∈ s2, c ≠ 0) →
      (compareLoop state s1 s2 < 0 ↔ versionKeys state s1 < versionKeys state s2) := by
  -- Strings that differ in their first characters are ordered by the first keys.
  have different : ∀ {state s1 s2 keys1 keys2}, deref s1 ≠ deref s2 → (mismatch state s1 s2 < 0 ↔
      versionKey state s1 :: keys1 < versionKey state s2 :: keys2) := by
    intro state s1 s2 keys1 keys2 differ
    rw [mismatch_neg_iff state differ, cons_lt_cons_iff]
    exact ⟨.inl, fun less => less.elim id fun tail =>
      absurd (deref_eq_of_versionKey_eq tail.1) differ⟩
  induction s1 with
  | nil =>
    intro state s2 _ nonzero
    cases s2 with
    | nil => simp [compareLoop]
    | cons c2 s2 => exact different (nonzero c2 mem_cons_self).symm
  | cons c1 s1 ih =>
    intro state s2 nonzero1 nonzero2
    cases s2 with
    | nil => exact different (nonzero1 c1 mem_cons_self)
    | cons c2 s2 =>
      rw [compareLoop]
      by_cases same : c1 = c2
      · subst same
        have others1 : ∀ c ∈ s1, c ≠ 0 := fun c member =>
          nonzero1 c (mem_cons_of_mem _ member)
        have others2 : ∀ c ∈ s2, c ≠ 0 := fun c member =>
          nonzero2 c (mem_cons_of_mem _ member)
        rw [if_pos rfl, versionKeys, versionKeys, cons_lt_cons_iff]
        cases digit : counted state (getChartype c1) with
        | false =>
          have keys : versionKey state (c1 :: s1) = versionKey state (c1 :: s2) := by
            simp [versionKey, deref, digit]
          rw [keys, ih _ s2 others1 others2]
          simp
        | true =>
          rw [nextState_of_counted digit]
          have keys : ∀ s, versionKey state (c1 :: s) =
              toLex (rank state c1, toLex (digitRun s, c1)) := by
            intro s
            simp [versionKey, deref, digit]
          rw [keys, keys]
          obtain shorter | equal | longer := lt_trichotomy (digitRun s1) (digitRun s2)
          · rw [compareLoop_int_lt s1 s2 shorter]
            simp [Prod.Lex.toLex_lt_toLex, shorter]
          · rw [equal, ih _ s2 others1 others2]
            simp
          · have swapped := (compareLoop_swap s1 .int s2 others1 others2).1
            rw [compareLoop_int_lt s2 s1 longer] at swapped
            have positive : ¬compareLoop .int s1 s2 < 0 := by omega
            simp [Prod.Lex.toLex_lt_toLex, positive, longer.le, longer.ne']
      · rw [if_neg same]
        exact different same

/-! ## Integers -/

/-- Digits without leading zeros. -/
structure IsNumber (digits : List ℤ) : Prop where
  nonempty : digits ≠ []
  digit : ∀ c ∈ digits, getChartype c ≠ .other
  leading : digits.head? = some 0x30 → digits = [0x30]

/-- The value of digits. -/
def numberValue : List ℤ → ℤ
  | [] => 0
  | c :: digits => (c - 0x30) * 10 ^ digits.length + numberValue digits

theorem digit_range (digit : getChartype c ≠ .other) : 0x30 ≤ c ∧ c ≤ 0x39 := by
  rw [Ne, getChartype_eq_other] at digit
  omega

theorem numberValue_range (digits : List ℤ) (digit : ∀ c ∈ digits, getChartype c ≠ .other) :
    0 ≤ numberValue digits ∧ numberValue digits < 10 ^ digits.length := by
  induction digits with
  | nil => exact ⟨le_rfl, by decide⟩
  | cons c digits ih =>
    have range := digit_range (digit c mem_cons_self)
    have rest := ih fun c member => digit c (mem_cons_of_mem _ member)
    have power : (0 : ℤ) < 10 ^ digits.length := by positivity
    rw [numberValue, length_cons, pow_succ]
    constructor <;> nlinarith

theorem numberValue_lt {c1 c2 : ℤ} {digits1 digits2 : List ℤ}
    (digit1 : ∀ c ∈ digits1, getChartype c ≠ .other)
    (digit2 : ∀ c ∈ digits2, getChartype c ≠ .other)
    (lengths : digits1.length = digits2.length) (less : c1 < c2) :
    numberValue (c1 :: digits1) < numberValue (c2 :: digits2) := by
  have range1 := numberValue_range digits1 digit1
  have range2 := numberValue_range digits2 digit2
  rw [numberValue, numberValue, ← lengths]
  nlinarith

theorem numberValue_lt_of_length {digits1 digits2 : List ℤ}
    (digit1 : ∀ c ∈ digits1, getChartype c ≠ .other) (number2 : IsNumber digits2)
    (nonzero : digits2.head? ≠ some 0x30) (shorter : digits1.length < digits2.length) :
    numberValue digits1 < numberValue digits2 := by
  obtain ⟨c, digits2, rfl⟩ := exists_cons_of_ne_nil number2.nonempty
  have range := digit_range (number2.digit c mem_cons_self)
  have first : 1 ≤ c - 0x30 := by
    have : c ≠ 0x30 := fun zero => nonzero (by rw [zero]; rfl)
    omega
  have rest := numberValue_range digits2 fun c member =>
    number2.digit c (mem_cons_of_mem _ member)
  rw [length_cons] at shorter
  calc numberValue digits1 < 10 ^ digits1.length := (numberValue_range digits1 digit1).2
    _ ≤ 10 ^ digits2.length := pow_le_pow_right₀ (by norm_num) (by omega)
    _ ≤ (c - 0x30) * 10 ^ digits2.length := le_mul_of_one_le_left (by positivity) first
    _ ≤ numberValue (c :: digits2) := by
      rw [numberValue]
      omega

theorem digitRun_append {digits rest : List ℤ} (digit : ∀ c ∈ digits, getChartype c ≠ .other)
    (ends : getChartype (deref rest) = .other) : digitRun (digits ++ rest) = digits.length := by
  induction digits with
  | nil => exact digitRun_eq_zero ends
  | cons c digits ih =>
    rw [cons_append, digitRun, if_neg (digit c mem_cons_self),
      ih fun c member => digit c (mem_cons_of_mem _ member), length_cons]

theorem compareLoop_self (s : List ℤ) : ∀ state, compareLoop state s s = 0 := by
  induction s with
  | nil => exact fun _ => rfl
  | cons c s ih =>
    intro state
    rw [compareLoop, if_pos rfl]
    exact ih _

/-- The common part of two strings only matters for the state behind it. -/
theorem compareLoop_append (common s1 s2 : List ℤ) : ∀ state,
    compareLoop state (common ++ s1) (common ++ s2) =
      compareLoop (common.foldl (fun state c => nextState state (getChartype c)) state) s1 s2 := by
  induction common with
  | nil => exact fun _ => rfl
  | cons c common ih =>
    intro state
    rw [cons_append, cons_append, compareLoop, if_pos rfl, ih]
    rfl

section Numbers

variable {rest : List ℤ}

section

variable (ends : getChartype (deref rest) = .other)

include ends

/-- Digits of an integer that are of one length are compared by their values. -/
theorem compareLoop_digits (digits1 : List ℤ) :
    ∀ digits2 : List ℤ, digits1.length = digits2.length →
      (∀ c ∈ digits1, getChartype c ≠ .other) → (∀ c ∈ digits2, getChartype c ≠ .other) →
      ∀ state, (∀ c1 ∈ digits1.head?, ∀ c2 ∈ digits2.head?, c1 ≠ c2 →
        retmode state (getChartype c1) (getChartype c2) ∈ [.length, .difference]) →
      (∀ c ∈ digits1.head?, c ∈ digits2.head? → nextState state (getChartype c) = .int) →
        (compareLoop state (digits1 ++ rest) (digits2 ++ rest)).sign =
          (numberValue digits1 - numberValue digits2).sign := by
  induction digits1 with
  | nil =>
    intro digits2 lengths _ _ state _ _
    obtain rfl := length_eq_zero_iff.mp lengths.symm
    rw [nil_append, compareLoop_self, sub_self]
  | cons c1 digits1 ih =>
    intro digits2 lengths digit1 digit2 state decided following
    cases digits2 with
    | nil => cases lengths
    | cons c2 digits2 =>
      have others1 : ∀ c ∈ digits1, getChartype c ≠ .other := fun c member =>
        digit1 c (mem_cons_of_mem _ member)
      have others2 : ∀ c ∈ digits2, getChartype c ≠ .other := fun c member =>
        digit2 c (mem_cons_of_mem _ member)
      have lengths' : digits1.length = digits2.length := Nat.succ.inj lengths
      rw [cons_append, cons_append, compareLoop]
      by_cases same : c1 = c2
      · subst same
        rw [if_pos rfl, following c1 rfl rfl, numberValue, numberValue, lengths',
          add_sub_add_left_eq_sub]
        refine ih digits2 lengths' others1 others2 .int ?_ ?_
        · intro c3 first3 c4 first4 differ
          rw [retmode_int (others1 c3 (mem_of_mem_head? first3))
            (others2 c4 (mem_of_mem_head? first4)) differ]
          exact mem_cons_self
        · intro c first _
          exact nextState_int (others1 c (mem_of_mem_head? first))
      · have runs : digitRun (digits1 ++ rest) = digitRun (digits2 ++ rest) := by
          rw [digitRun_append others1 ends, digitRun_append others2 ends, lengths']
        have result : mismatch state (c1 :: (digits1 ++ rest)) (c2 :: (digits2 ++ rest)) =
            if c1 < c2 then -1 else 1 := by
          have either := decided c1 rfl c2 rfl same
          simp only [mem_cons, not_mem_nil, or_false] at either
          rw [mismatch, deref, deref, headD_cons, headD_cons]
          obtain mode | mode := either <;> rw [mode]
          dsimp only [tail_cons]
          rw [lengthLoop_eq, runs, if_neg (lt_irrefl _), if_neg (lt_irrefl _)]
        rw [if_neg same, result]
        obtain less | greater := lt_or_gt_of_ne same
        · have := numberValue_lt others1 others2 lengths' less
          rw [if_pos less, Int.sign_eq_neg_one_of_neg (show numberValue (c1 :: digits1) -
            numberValue (c2 :: digits2) < 0 by omega)]
          rfl
        · have := numberValue_lt others2 others1 lengths'.symm greater
          rw [if_neg (by omega), Int.sign_eq_one_of_pos (show 0 < numberValue (c1 :: digits1) -
            numberValue (c2 :: digits2) by omega)]
          rfl

theorem compareLoop_shorter {digits1 digits2 : List ℤ}
    (number1 : IsNumber digits1) (number2 : IsNumber digits2)
    (shorter : digits1.length < digits2.length) :
    compareLoop .text (digits1 ++ rest) (digits2 ++ rest) = -1 ∧
      numberValue digits1 < numberValue digits2 := by
  have nonzero2 : digits2.head? ≠ some 0x30 := by
    intro zero
    have one := congrArg length (number2.leading zero)
    have := length_pos_iff.mpr number1.nonempty
    rw [length_singleton] at one
    omega
  refine ⟨?_, numberValue_lt_of_length number1.digit number2 nonzero2 shorter⟩
  have run1 := digitRun_append number1.digit ends
  have run2 := digitRun_append number2.digit ends
  obtain ⟨c1, digits1, rfl⟩ := exists_cons_of_ne_nil number1.nonempty
  obtain ⟨c2, digits2, rfl⟩ := exists_cons_of_ne_nil number2.nonempty
  have range1 := digit_range (number1.digit c1 mem_cons_self)
  have range2 := digit_range (number2.digit c2 mem_cons_self)
  have first2 : c2 ≠ 0x30 := fun zero => nonzero2 (by rw [zero]; rfl)
  have type2 : getChartype c2 = .digit := by
    rw [getChartype, if_neg first2, if_pos (by omega)]
  have more1 : digitRun (c1 :: digits1 ++ rest) = digitRun (digits1 ++ rest) + 1 :=
    if_neg (number1.digit c1 mem_cons_self)
  have more2 : digitRun (c2 :: digits2 ++ rest) = digitRun (digits2 ++ rest) + 1 :=
    if_neg (number2.digit c2 mem_cons_self)
  rw [cons_append, cons_append, compareLoop]
  split_ifs with same
  · rw [same, type2]
    exact compareLoop_int_lt _ _ (by omega)
  · rw [mismatch, deref, deref, headD_cons, headD_cons, type2]
    obtain ⟨type1, zero⟩ | ⟨type1, -⟩ | ⟨-, range⟩ := getChartype_cases c1
    · rw [type1]
      exact if_pos (by omega)
    · rw [type1]
      dsimp only [retmode, tail_cons]
      rw [lengthLoop_eq, if_pos (by omega)]
    · omega

/-- Integers without leading zeros are compared by their values. -/
theorem compareLoop_numbers
    (nonzero : ∀ c ∈ rest, c ≠ 0) {digits1 digits2 : List ℤ} (number1 : IsNumber digits1)
    (number2 : IsNumber digits2) :
    (compareLoop .text (digits1 ++ rest) (digits2 ++ rest)).sign =
      (numberValue digits1 - numberValue digits2).sign := by
  have chars : ∀ {digits}, IsNumber digits → ∀ c ∈ digits ++ rest, c ≠ 0 := by
    intro digits number c member
    obtain digit | other := mem_append.mp member
    · have := digit_range (number.digit c digit)
      omega
    · exact nonzero c other
  by_cases same : digits1 = digits2
  · rw [same, compareLoop_self, sub_self]
  obtain shorter | lengths | longer := lt_trichotomy digits1.length digits2.length
  · obtain ⟨less, values⟩ := compareLoop_shorter ends number1 number2 shorter
    rw [less, Int.sign_eq_neg_one_of_neg (show numberValue digits1 - numberValue digits2 < 0 by omega)]
    rfl
  · refine compareLoop_digits ends digits1 digits2 lengths number1.digit number2.digit .text ?_ ?_
    · intro c1 first1 c2 first2 differ
      cases type1 : getChartype c1 <;> cases type2 : getChartype c2 <;>
        first | contradiction | decide
    · intro c first1 first2
      have digit1 := number1.digit c (mem_of_mem_head? first1)
      cases type : getChartype c with
      | digit => rfl
      | other => exact absurd type digit1
      | zero =>
        -- Two integers that start with a zero are both zero.
        obtain ⟨-, rfl⟩ | ⟨digit, -⟩ | ⟨other, -⟩ := getChartype_cases c
        · exact absurd ((number1.leading first1).trans (number2.leading first2).symm) same
        · exact absurd (type.symm.trans digit) (by decide)
        · exact absurd (type.symm.trans other) (by decide)
  · obtain ⟨less, values⟩ := compareLoop_shorter ends number2 number1 longer
    have swapped := (compareLoop_swap (digits1 ++ rest) .text (digits2 ++ rest) (chars number1)
      (chars number2)).1
    rw [Int.sign_eq_one_of_pos (show 0 < numberValue digits1 - numberValue digits2 by omega),
      Int.sign_eq_one_of_pos (by omega)]

end

end Numbers

/-- **`strverscmp()` is a strict total order on strings.** Strings that differ in one integer without
leading zeros are ordered by its value. -/
theorem strverscmp_strictTotalOrder :
    (∀ a b : CharString, strverscmp a.chars b.chars = 0 ↔ a = b) ∧
    (∀ a b : CharString, (strverscmp a.chars b.chars).sign = -(strverscmp b.chars a.chars).sign) ∧
    (∀ a b c : CharString, strverscmp a.chars b.chars < 0 → strverscmp b.chars c.chars < 0 →
      strverscmp a.chars c.chars < 0) ∧
    ∀ (common rest : CharString) (digits1 digits2 : List ℤ),
      (∀ c ∈ common.chars.getLast?, getChartype c = .other) →
      getChartype (deref rest.chars) = .other → IsNumber digits1 → IsNumber digits2 →
        (strverscmp (common.chars ++ (digits1 ++ rest.chars))
            (common.chars ++ (digits2 ++ rest.chars))).sign =
          (numberValue digits1 - numberValue digits2).sign := by
  have swap (a b : CharString) : strverscmp b.chars a.chars = -strverscmp a.chars b.chars :=
    (compareLoop_swap a.chars .text b.chars a.nonzero b.nonzero).1
  have comparison : Comparison.IsComparison fun a b : CharString => strverscmp a.chars b.chars :=
    Comparison.isComparison_of_key (fun a => versionKeys .text a.chars) swap
      fun a b => compareLoop_neg_iff a.chars .text b.chars a.nonzero b.nonzero
  refine ⟨fun a b => ?_, fun a b => ?_, fun a b c => comparison.lt_trans, ?_⟩
  · obtain ⟨chars1, nonzero1⟩ := a
    obtain ⟨chars2, nonzero2⟩ := b
    rw [CharString.mk.injEq]
    exact (compareLoop_swap chars1 .text chars2 nonzero1 nonzero2).2
  · rw [swap a b, Int.sign_neg, neg_neg]
  · intro common rest digits1 digits2 before ends number1 number2
    have state : common.chars.foldl (fun state c => nextState state (getChartype c)) .text =
        .text := by
      obtain empty | ⟨front, last, split⟩ := eq_nil_or_concat' common.chars
      · rw [empty]
        rfl
      · have other : getChartype last = .other := before last (by rw [split]; simp)
        rw [split, foldl_append, foldl_cons, foldl_nil, other]
        cases front.foldl (fun state c => nextState state (getChartype c)) VersionState.text <;> rfl
    rw [strverscmp, compareLoop_append, state]
    exact compareLoop_numbers ends rest.nonzero number1 number2

end Cloudlibc.String
