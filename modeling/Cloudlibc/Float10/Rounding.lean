import Cloudlibc.Float10.F10dec

/-!
# The number that is rounded

Decimal digits and the position of the radix character stand for a rational number (`decimal`). The
function `__f10dec()` delivers the digits of a number that is rounded: the largest multiple of a unit
that is not above it, the smallest one that is not below it, or one at a distance of at most half a
unit (`Rounds`, `f10dec_rounds`). The unit is the position of the last digit that is asked for.
-/

set_option autoImplicit false

namespace Cloudlibc.Float10

open Cloudlibc.Digits List

/-! ## Numbers -/

/-- The number of some digits, of which `exponent` are in front of the radix character. -/
def decimal (digits : List ℕ) (exponent : ℤ) : ℚ :=
  value 10 0 digits * 10 ^ (exponent - digits.length)

/-- The number is rounded to a multiple of the unit. -/
def Rounds (round : RoundingMode) (unit number result : ℚ) : Prop :=
  (∃ k : ℤ, result = k * unit) ∧
    match round with
    | .towardZero | .downward => result ≤ number ∧ number < result + unit
    | .upward => number ≤ result ∧ result < number + unit
    | .toNearest => |result - number| ≤ unit / 2

@[simp] theorem decimal_nil (exponent : ℤ) : decimal [] exponent = 0 := by simp [decimal, value]

@[simp] theorem decimal_singleton (digit : ℕ) (exponent : ℤ) :
    decimal [digit] exponent = digit * 10 ^ (exponent - 1) := by simp [decimal, value]

theorem decimal_append (digits digits' : List ℕ) (exponent : ℤ) :
    decimal (digits ++ digits') exponent =
      decimal digits exponent + decimal digits' (exponent - digits.length) := by
  have shift : (10 : ℚ) ^ (exponent - digits.length) =
      10 ^ digits'.length * 10 ^ (exponent - digits.length - digits'.length) := by
    rw [← zpow_natCast, ← zpow_add₀ (by norm_num)]
    ring
  rw [decimal, decimal, decimal, value_append, value_eq_add, length_append, shift]
  push_cast
  ring

theorem decimal_cons (digit : ℕ) (digits : List ℕ) (exponent : ℤ) :
    decimal (digit :: digits) exponent =
      digit * 10 ^ (exponent - 1) + decimal digits (exponent - 1) := by
  rw [← singleton_append, decimal_append, decimal_singleton, length_singleton]
  norm_num

theorem decimal_nonneg (digits : List ℕ) (exponent : ℤ) : 0 ≤ decimal digits exponent := by
  rw [decimal]
  positivity

variable {digits : List ℕ}

theorem decimal_lt (small : ∀ digit ∈ digits, digit < 10) (exponent : ℤ) :
    decimal digits exponent < 10 ^ exponent := by
  have bound : (value 10 0 digits : ℚ) < 10 ^ digits.length := by exact_mod_cast value_lt small
  calc decimal digits exponent
      < 10 ^ digits.length * 10 ^ (exponent - digits.length) := by
        exact mul_lt_mul_of_pos_right bound (by positivity)
    _ = 10 ^ exponent := by
        rw [← zpow_natCast, ← zpow_add₀ (by norm_num)]
        ring

theorem decimal_pos (written : digits ≠ []) (last : digits.getLast? ≠ some 0) (exponent : ℤ) :
    0 < decimal digits exponent := by
  obtain ⟨front, digit, rfl⟩ := (eq_nil_or_concat digits).resolve_left written
  rw [concat_eq_append] at *
  rw [getLast?_concat, Ne, Option.some.injEq] at last
  rw [decimal_append, decimal_singleton]
  have front_nonneg := decimal_nonneg front exponent
  positivity

theorem unit_split (exponent : ℤ) : (10 : ℚ) ^ exponent = 10 * 10 ^ (exponent - 1) := by
  rw [zpow_sub₀ (by norm_num), zpow_one]
  field_simp

/-- The first digit tells whether a number is above the middle. -/
theorem half_le_decimal {exponent : ℤ} (large : 5 ≤ digits.getD 0 0) :
    (10 : ℚ) ^ exponent / 2 ≤ decimal digits exponent := by
  cases digits with
  | nil => simp at large
  | cons digit digits =>
    have large' : (5 : ℚ) ≤ digit := by exact_mod_cast large
    have rest := decimal_nonneg digits (exponent - 1)
    have positive : (0 : ℚ) < 10 ^ (exponent - 1) := by positivity
    rw [decimal_cons, unit_split exponent]
    nlinarith

section

variable (small : ∀ digit ∈ digits, digit < 10)

include small

theorem decimal_le_half {exponent : ℤ}
    (low : ¬ 5 ≤ digits.getD 0 0) : decimal digits exponent ≤ (10 : ℚ) ^ exponent / 2 := by
  cases digits with
  | nil =>
    rw [decimal_nil]
    positivity
  | cons digit digits =>
    obtain ⟨-, others⟩ := forall_mem_cons.mp small
    have low' : (digit : ℚ) ≤ 4 := by
      have : digit < 5 := by simpa using low
      exact_mod_cast Nat.lt_succ_iff.mp this
    have rest := decimal_lt others (exponent - 1)
    have positive : (0 : ℚ) < 10 ^ (exponent - 1) := by positivity
    rw [decimal_cons, unit_split exponent]
    nlinarith

/-! ## Adding one to the last digit -/

theorem carry_cases :
    (carry digits = none ∧ digits = replicate digits.length 9) ∨
      ∃ k digit rest, digits = replicate k 9 ++ digit :: rest ∧ digit < 9 ∧
        carry digits = some ((digit + 1) :: rest) := by
  induction digits with
  | nil => exact .inl ⟨rfl, rfl⟩
  | cons digit digits ih =>
    obtain ⟨below, others⟩ := forall_mem_cons.mp small
    rw [carry]
    by_cases fits : digit + 1 ≤ 9
    · rw [if_pos fits]
      exact .inr ⟨0, digit, digits, rfl, by omega, rfl⟩
    · obtain rfl : digit = 9 := by omega
      obtain ⟨carried, nines⟩ | ⟨k, digit, rest, split, below, carried⟩ := ih others
      · refine .inl ⟨carried, ?_⟩
        rw [length_cons, replicate_succ, ← nines]
      · exact .inr ⟨k + 1, digit, rest, by rw [split]; rfl, below, carried⟩

/-- Rounding up drops the nines at the end. -/
theorem roundUp_cases (exponent : ℤ) :
    (digits = replicate digits.length 9 ∧ roundUp digits exponent = ([1], exponent + 1)) ∨
      ∃ front digit k, digits = front ++ digit :: replicate k 9 ∧ digit < 9 ∧
        roundUp digits exponent = (front ++ [digit + 1], exponent) := by
  rw [roundUp]
  obtain ⟨carried, nines⟩ | ⟨k, digit, rest, split, below, carried⟩ :=
    carry_cases (show ∀ digit ∈ digits.reverse, digit < 10 by simpa using small)
  · refine .inl ⟨?_, by rw [carried]⟩
    rw [← reverse_reverse digits, nines]
    simp
  · refine .inr ⟨rest.reverse, digit, k, ?_, below, by rw [carried]; simp⟩
    rw [← reverse_reverse digits, split]
    simp

end

theorem value_nines (start k : ℕ) :
    value 10 start (replicate k 9) + 1 = (start + 1) * 10 ^ k := by
  induction k generalizing start with
  | zero => simp [value]
  | succ k ih =>
    rw [replicate_succ, show value 10 start (9 :: replicate k 9) =
      value 10 (start * 10 + 9) (replicate k 9) from rfl, ih, pow_succ]
    ring

/-- **Rounding up adds one unit of the last digit.** -/
theorem decimal_roundUp (small : ∀ digit ∈ digits, digit < 10) (exponent : ℤ) :
    decimal (roundUp digits exponent).1 (roundUp digits exponent).2 =
      decimal digits exponent + 10 ^ (exponent - digits.length) := by
  have scale : ∀ (n : ℕ) (k : ℤ), (10 : ℚ) ^ n * 10 ^ (k - n) = 10 ^ k := by
    intro n k
    rw [← zpow_natCast, ← zpow_add₀ (by norm_num)]
    ring
  obtain ⟨nines, rounded⟩ | ⟨front, digit, k, rfl, -, rounded⟩ := roundUp_cases small exponent
  · have total : (value 10 0 digits : ℚ) + 1 = 10 ^ digits.length := by
      have := value_nines 0 digits.length
      rw [← nines] at this
      exact_mod_cast by simpa using this
    rw [rounded, decimal_singleton, decimal, Nat.cast_one, one_mul,
      show exponent + 1 - 1 = exponent by ring, ← scale digits.length exponent, ← total]
    ring
  · have total : (value 10 0 (front ++ digit :: replicate k 9) : ℚ) + 1 =
        (value 10 0 (front ++ [digit]) + 1) * 10 ^ k := by
      have := value_nines (value 10 0 (front ++ [digit])) k
      rw [← value_append, append_assoc, singleton_append] at this
      exact_mod_cast this
    have last : (value 10 0 (front ++ [digit + 1]) : ℚ) = value 10 0 (front ++ [digit]) + 1 := by
      rw [value_append, value_append]
      simp only [value, foldl_cons, foldl_nil]
      push_cast
      ring
    rw [rounded, decimal, decimal, last]
    simp only [length_append, length_cons, length_nil, length_replicate,
      Nat.cast_add, Nat.cast_one, zero_add]
    rw [← scale k (exponent - (front.length + 1)), ← mul_assoc, ← total,
      show exponent - ((front.length : ℤ) + 1) - k = exponent - (front.length + (k + 1)) by ring]
    ring

/-! ## Rounded numbers -/

theorem Rounds.of_multiple (round : RoundingMode) {unit number : ℚ} (positive : 0 < unit) {k : ℤ}
    (multiple : number = k * unit) : Rounds round unit number number := by
  refine ⟨⟨k, multiple⟩, ?_⟩
  cases round
  · rw [sub_self, abs_zero]
    positivity
  · exact ⟨le_rfl, by linarith⟩
  · exact ⟨le_rfl, by linarith⟩
  · exact ⟨le_rfl, by linarith⟩

theorem Rounds.of_between {round : RoundingMode} {unit rest : ℚ} {k : ℤ} {up : Bool}
    (positive : 0 < rest) (small : rest < unit) (upward : round = .upward → up = true)
    (down : round = .towardZero ∨ round = .downward → up = false)
    (nearest : round = .toNearest → if up then unit / 2 ≤ rest else rest ≤ unit / 2) :
    Rounds round unit (k * unit + rest) ((k + if up then 1 else 0 : ℤ) * unit) := by
  refine ⟨⟨_, rfl⟩, ?_⟩
  cases round with
  | toNearest =>
    have middle := nearest rfl
    cases up with
    | true =>
      simp only [if_true] at middle ⊢
      push_cast
      rw [abs_le]
      constructor <;> linarith
    | false =>
      simp only [Bool.false_eq_true, if_false] at middle ⊢
      push_cast
      rw [abs_le]
      constructor <;> linarith
  | upward =>
    rw [upward rfl]
    exact ⟨by simp; linarith, by simp; linarith⟩
  | downward =>
    rw [down (.inr rfl)]
    exact ⟨by simp; linarith, by simp; linarith⟩
  | towardZero =>
    rw [down (.inl rfl)]
    exact ⟨by simp; linarith, by simp; linarith⟩

theorem decimal_eq_multiple (digits : List ℕ) (exponent : ℤ) {position : ℤ}
    (fine : position ≤ exponent - digits.length) :
    ∃ k : ℤ, decimal digits exponent = k * 10 ^ position := by
  obtain ⟨n, split⟩ := Int.eq_ofNat_of_zero_le (show 0 ≤ exponent - digits.length - position by omega)
  refine ⟨value 10 0 digits * 10 ^ n, ?_⟩
  rw [decimal, show exponent - (digits.length : ℤ) = n + position by omega,
    zpow_add₀ (by norm_num), zpow_natCast]
  push_cast
  ring

variable {n : ℕ} {buffer : List ℕ}

/-- **The digits that are kept** stand for the rounded number. The digits do not end in zero. -/
theorem keepDigits_rounds (round : RoundingMode) (exponent : ℤ)
    (small : ∀ digit ∈ buffer, digit < 10) (last : buffer.getLast? ≠ some 0)
    (fewer : n < buffer.length) :
    Rounds round (10 ^ (exponent - n)) (decimal buffer exponent)
      (decimal (keepDigits round buffer exponent n).1 (keepDigits round buffer exponent n).2) := by
  have front := take_lt small n
  have dropped : ∀ digit ∈ buffer.drop n, digit < 10 := fun digit member =>
    small digit (mem_of_mem_drop member)
  have length : (buffer.take n).length = n := by
    rw [length_take]
    omega
  have split : decimal buffer exponent =
      decimal (buffer.take n) exponent + decimal (buffer.drop n) (exponent - n) := by
    conv_lhs => rw [← take_append_drop n buffer]
    rw [decimal_append, length]
  obtain ⟨k, multiple⟩ := decimal_eq_multiple (buffer.take n) exponent
    (show exponent - n ≤ exponent - (buffer.take n).length by rw [length])
  have kept : decimal (keepDigits round buffer exponent n).1
      (keepDigits round buffer exponent n).2 =
        (k + if roundsUp round buffer n then 1 else 0 : ℤ) * 10 ^ (exponent - n) := by
    rw [keepDigits]
    split_ifs
    · rw [decimal_roundUp front, length, multiple]
      push_cast
      ring
    · rw [multiple]
      push_cast
      ring
  have first : (buffer.drop n).getD 0 0 = buffer.getD n 0 := by
    rw [getD_eq_getElem?_getD, getD_eq_getElem?_getD, getElem?_drop, Nat.add_zero]
  rw [kept, split, multiple]
  refine Rounds.of_between ?_ (decimal_lt dropped _) ?_ ?_ ?_
  · refine decimal_pos (by simpa using fewer) ?_ _
    rwa [getLast?_drop, if_neg (by omega)]
  · rintro rfl
    simp [roundsUp, fewer]
  · rintro (rfl | rfl) <;> simp [roundsUp]
  · rintro rfl
    have up : roundsUp .toNearest buffer n = decide (5 ≤ (buffer.drop n).getD 0 0) := by
      rw [first]
      simp [roundsUp]
    rw [up]
    by_cases high : 5 ≤ (buffer.drop n).getD 0 0
    · rw [if_pos (by simpa using high)]
      exact half_le_decimal high
    · rw [if_neg (by simpa using high)]
      exact decimal_le_half dropped high

/-- All digits are kept. -/
theorem keepDigits_of_le (round : RoundingMode) (exponent : ℤ) (all : buffer.length ≤ n) :
    keepDigits round buffer exponent n = (buffer, exponent) := by
  have none : buffer.getD n 0 = 0 := by
    rw [getD_eq_getElem?_getD, getElem?_eq_none all, Option.getD_none]
  rw [keepDigits, roundsUp, none, take_of_length_le all, if_neg (by simp; omega)]

/-- The digits that are kept do not begin with zero. -/
theorem keepDigits_leading (round : RoundingMode) (exponent : ℤ)
    (small : ∀ digit ∈ buffer, digit < 10) (leading : buffer.head? ≠ some 0) (positive : 0 < n) :
    (keepDigits round buffer exponent n).1.head? ≠ some 0 := by
  have front := take_lt small n
  have first : (buffer.take n).head? ≠ some 0 := by
    rwa [head?_take, if_neg (by omega)]
  rw [keepDigits]
  split_ifs
  · obtain ⟨-, rounded⟩ | ⟨others, digit, k, split, -, rounded⟩ := roundUp_cases front exponent
    · rw [rounded]
      simp
    · rw [rounded]
      rw [split] at first
      cases others with
      | nil => simp
      | cons digit' others => simpa using first
  · exact first

/-- At least one digit is kept. -/
theorem keepDigits_ne_nil (round : RoundingMode) (exponent : ℤ)
    (small : ∀ digit ∈ buffer, digit < 10) (written : buffer ≠ []) (positive : 0 < n) :
    (keepDigits round buffer exponent n).1 ≠ [] := by
  have front := take_lt small n
  rw [keepDigits]
  split_ifs
  · obtain ⟨-, rounded⟩ | ⟨others, digit, k, -, -, rounded⟩ := roundUp_cases front exponent
    · rw [rounded]
      simp
    · rw [rounded]
      simp
  · rw [Ne, take_eq_nil_iff]
    rintro (zero | empty)
    · omega
    · exact written empty

theorem trim_getLast? (digits : List ℕ) : (trim digits).getLast? ≠ some 0 := by
  intro zero
  obtain ⟨front, split⟩ := getLast?_eq_some_iff.mp zero
  have written : trim digits ≠ [] := by
    rw [split]
    simp
  have last := rdropWhile_last_not (fun digit : ℕ => decide (digit = 0)) digits written
  simp only [decide_eq_true_eq] at last
  apply last
  have := getLast?_eq_some_getLast written
  rw [zero] at this
  exact (Option.some.inj this).symm

theorem decimal_zeros (zeros : ∀ digit ∈ digits, digit = 0) (exponent : ℤ) :
    decimal digits exponent = 0 := by
  induction digits generalizing exponent with
  | nil => exact decimal_nil exponent
  | cons digit digits ih =>
    obtain ⟨rfl, others⟩ := forall_mem_cons.mp zeros
    rw [decimal_cons, ih others]
    simp

/-- Zeroes at the end have no value. -/
theorem decimal_trim (digits : List ℕ) (exponent : ℤ) :
    decimal (trim digits) exponent = decimal digits exponent := by
  obtain ⟨trimmed, zeros, split⟩ := exists_trim_append digits
  conv_rhs => rw [← split]
  rw [decimal_append, decimal_zeros zeros, add_zero]

/-- **The digits of `__f10dec()` stand for the number rounded at the requested position**, which is
that of the precision or that of the last digit that there is room for. -/
theorem f10dec_rounds (negative : Bool) {value : Shortest}
    (leading : (trim value.digits).head? ≠ some 0) {precision ndigits : ℕ} (room : 0 < ndigits)
    (round : RoundingMode) (limited : precision ≤ intMax)
    (fits : precision + value.exponent ≤ intMax) :
    ∃ digits exponent, f10dec negative value precision ndigits round = some (digits, exponent) ∧
      (∀ digit ∈ digits, digit < 10) ∧ digits.head? ≠ some 0 ∧ (digits = [] → exponent = 1) ∧
      Rounds (round.magnitude negative)
        (10 ^ max (-precision : ℤ) (value.exponent - ndigits))
        (decimal value.digits value.exponent) (decimal digits exponent) := by
  have small := trim_lt value
  have last := trim_getLast? value.digits
  rw [← decimal_trim value.digits, f10dec]
  generalize trim value.digits = buffer at leading small last
  generalize round.magnitude negative = round
  by_cases zero : buffer = []
  · rw [zero]
    refine ⟨[], 1, rfl, by simp, by simp, fun _ => rfl, ?_⟩
    rw [decimal_nil, decimal_nil]
    exact .of_multiple round (by positivity) (k := 0) (by simp)
  have written := length_pos_iff.mpr zero
  have high := decimal_lt small value.exponent
  have positive := decimal_pos zero last value.exponent
  rw [if_neg zero, if_neg (by omega), if_pos limited, if_neg (by omega)]
  by_cases tiny : precision + value.exponent ≤ 0
  · have unit : max (-precision : ℤ) (value.exponent - ndigits) = -precision := by omega
    have below : decimal buffer value.exponent < 10 ^ (-precision : ℤ) :=
      high.trans_le (zpow_le_zpow_right₀ (by norm_num) (by omega))
    rw [if_pos tiny, unit]
    have between := fun up : Bool => @Rounds.of_between round _ _ 0 up positive below
    by_cases up : round = .upward ∨
        round = .toNearest ∧ precision + value.exponent = 0 ∧ 5 ≤ buffer.getD 0 0
    · rw [if_pos up]
      refine ⟨[1], 1 - precision, rfl, by simp, by simp, by simp, ?_⟩
      have rounded := between true (fun _ => rfl) (by rintro (rfl | rfl) <;> simp at up) (by
        rintro rfl
        rw [show (-precision : ℤ) = value.exponent by simp at up; omega]
        exact half_le_decimal (by simpa using up.resolve_left (by simp) |>.2.2))
      simpa using rounded
    · rw [if_neg up]
      refine ⟨[], 1, rfl, by simp, by simp, fun _ => rfl, ?_⟩
      have rounded := between false (by rintro rfl; simp at up) (fun _ => rfl) (by
        rintro rfl
        rw [if_neg Bool.false_ne_true]
        by_cases same : precision + value.exponent = 0
        · rw [show (-precision : ℤ) = value.exponent by omega]
          exact decimal_le_half small fun large => up (.inr ⟨rfl, same, large⟩)
        · have further : (10 : ℚ) ^ value.exponent ≤ 10 ^ (-precision - 1 : ℤ) :=
            zpow_le_zpow_right₀ (by norm_num) (by omega)
          rw [unit_split (-precision : ℤ)]
          linarith)
      simpa using rounded
  · rw [if_neg tiny]
    generalize isCount : (if ((min ndigits buffer.length : ℕ) : ℤ) - value.exponent > precision
      then (precision + value.exponent).toNat else min ndigits buffer.length) = count
    have counted : 0 < count := by
      rw [← isCount]
      split_ifs <;> omega
    refine ⟨(keepDigits round buffer value.exponent count).1,
      (keepDigits round buffer value.exponent count).2, rfl,
      (keepDigits_spec round value.exponent count small).1,
      keepDigits_leading round value.exponent small leading counted,
      fun empty => absurd empty (keepDigits_ne_nil round value.exponent small zero counted), ?_⟩
    by_cases fewer : count < buffer.length
    · rw [show max (-precision : ℤ) (value.exponent - ndigits) = value.exponent - count by
        rw [← isCount] at fewer ⊢
        split_ifs at fewer ⊢ <;> omega]
      exact keepDigits_rounds round value.exponent small last fewer
    · rw [keepDigits_of_le round value.exponent (Nat.not_lt.mp fewer)]
      obtain ⟨k, multiple⟩ := decimal_eq_multiple buffer value.exponent
        (show max (-precision : ℤ) (value.exponent - ndigits) ≤
            value.exponent - buffer.length by
          rw [← isCount] at fewer
          split_ifs at fewer <;> omega)
      exact .of_multiple round (by positivity) multiple

end Cloudlibc.Float10
