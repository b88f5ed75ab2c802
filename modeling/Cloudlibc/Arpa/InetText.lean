import Cloudlibc.Arpa.Inet

/-!
# The text of an internet address

What the parsers make of the numbers that the printers write (`parseOctet_print`,
`groupLoop_print`), and the text that `inet_ntop()` writes for an IPv6 address (`Formats`). It always
fits into the buffer (`ntopLoop_formats`).
-/

set_option autoImplicit false

namespace Cloudlibc.Arpa

open Cloudlibc.Digits List Option

/-! ## Decimal numbers -/

/-- A decimal digit. -/
theorem digitChar_decimal : ∀ digit < 10, isDecimal (Nat.digitChar digit) = true ∧
    (Nat.digitChar digit).toNat = digit + 48 := by
  decide

theorem moreDigit_digit {digit : ℕ} (small : digit < 10) (number : ℕ) (src : List Char) :
    moreDigit (number, Nat.digitChar digit :: src) = (number * 10 + digit, src) := by
  obtain ⟨decimal, value⟩ := digitChar_decimal digit small
  rw [moreDigit, if_pos decimal, value]
  rfl

/-- What follows a number is not a decimal digit. -/
def NoDecimal (rest : List Char) : Prop :=
  ∀ c ∈ rest.head?, isDecimal c = false

variable {rest : List Char}

theorem moreDigit_stop (stop : NoDecimal rest) (number : ℕ) :
    moreDigit (number, rest) = (number, rest) := by
  cases rest with
  | nil => rfl
  | cons c rest =>
    rw [moreDigit, stop c rfl]
    rfl

theorem parseOctet_cons {digit : ℕ} {src : List Char} (small : digit < 10) (positive : digit ≠ 0) :
    parseOctet (Nat.digitChar digit :: src) =
      let (number, src) := moreDigit (moreDigit (digit, src))
      if number > 255 then none else some (.ofNat number, src) := by
  have first : ∀ digit < 10, digit ≠ 0 → Nat.digitChar digit ≠ '0' ∧
      '1' ≤ Nat.digitChar digit ∧ Nat.digitChar digit ≤ '9' := by decide
  obtain ⟨notZero, low, high⟩ := first digit small positive
  rw [parseOctet, if_neg notZero, if_pos ⟨low, high⟩, (digitChar_decimal digit small).2]
  rfl

theorem parseOctet_print (b : UInt8) (stop : NoDecimal rest) :
    parseOctet (printNumber 10 b.toNat ++ rest) = some (b, rest) := by
  have byte := b.toNat_lt
  by_cases zero : b.toNat = 0
  · obtain rfl : b = 0 := UInt8.toNat_inj.mp zero
    rfl
  · have digits : ∀ digit ∈ numeral 10 b.toNat, digit < 10 :=
      fun digit member => numeral_lt (by decide) member
    have short : (numeral 10 b.toNat).length ≤ 3 := numeral_length_le (by decide) (by decide)
      (by omega)
    have read := value_numeral 10 b.toNat
    rw [printNumber]
    have small : ¬ b.toNat > 255 := by omega
    rcases split : numeral 10 b.toNat with _ | ⟨first, _ | ⟨second, _ | ⟨third, _ | ⟨_, _⟩⟩⟩⟩
    · exact absurd split (numeral_ne_nil _ _)
    all_goals
      have positive := numeral_head zero split
      rw [split] at digits short read
      simp only [forall_mem_cons, value, foldl_cons, foldl_nil, Nat.zero_mul,
        Nat.zero_add] at digits read
      simp only [map_cons, map_nil, cons_append, nil_append]
    · rw [parseOctet_cons digits.1 positive, moreDigit_stop stop, moreDigit_stop stop, read]
      simp [small]
    · rw [parseOctet_cons digits.1 positive, moreDigit_digit digits.2.1, moreDigit_stop stop, read]
      simp [small]
    · rw [parseOctet_cons digits.1 positive, moreDigit_digit digits.2.1,
        moreDigit_digit digits.2.2.1, read]
      simp [small]
    · simp at short
      omega

theorem noDecimal_dot (rest : List Char) : NoDecimal ('.' :: rest) := by
  rintro c ⟨⟩
  rfl

theorem noDecimal_nil : NoDecimal [] := by
  rintro c ⟨⟩

/-- A dotted quad is read back. -/
theorem inetPton4_print (a b c d : UInt8) :
    inetPton4 (printQuad a b c d) = some [a, b, c, d] := by
  have last := parseOctet_print d noDecimal_nil
  rw [append_nil] at last
  simp only [inetPton4, printQuad, pton4Loop, parseOctet_print _ (noDecimal_dot _), last,
    bind_eq_bind, bind_some, head?_cons, tail_cons, head?_nil]
  rfl

/-! ## Hexadecimal numbers -/

theorem xdigitValue_digitChar : ∀ digit < 16, xdigitValue (Nat.digitChar digit) = some digit := by
  decide

/-- What follows a number is not a hexadecimal digit. -/
def NoXdigit (rest : List Char) : Prop :=
  rest.head?.bind xdigitValue = none

theorem groupLoop_stop (stop : NoXdigit rest) (left : ℕ) :
    ∀ {i : ℕ}, i ≠ 0 → ∀ number, groupLoop left i rest number = some (number, rest) := by
  induction left with
  | zero =>
    intro i later number
    rfl
  | succ left ih =>
    intro i later number
    rw [groupLoop, stop]
    simp only [later, if_false]
    exact ih (Nat.succ_ne_zero i) number

theorem groupLoop_digits (stop : NoXdigit rest) (digits : List ℕ) :
    ∀ {left i : ℕ}, digits.length ≤ left → (digits ≠ [] ∨ i ≠ 0) →
      (∀ digit ∈ digits, digit < 16) → ∀ number,
      groupLoop left i (digits.map Nat.digitChar ++ rest) number =
        some (value 16 number digits, rest) := by
  induction digits with
  | nil =>
    intro left i enough later small number
    exact groupLoop_stop stop left (later.resolve_left (fun nonempty => nonempty rfl)) number
  | cons digit digits ih =>
    intro left i enough later small number
    cases left with
    | zero => cases enough
    | succ left =>
      rw [forall_mem_cons] at small
      rw [groupLoop, map_cons, cons_append, head?_cons, bind_some,
        xdigitValue_digitChar digit small.1]
      exact ih (Nat.le_of_succ_le_succ enough) (.inr (Nat.succ_ne_zero i)) small.2 _

/-- A group is read back. -/
theorem groupLoop_print {group : ℕ} (small : group < 2 ^ 16) (stop : NoXdigit rest) :
    groupLoop 4 0 (printNumber 16 group ++ rest) 0 = some (group, rest) := by
  have short : (numeral 16 group).length ≤ 4 := numeral_length_le (by decide) (by decide) small
  rw [printNumber, groupLoop_digits stop _ short (.inl (numeral_ne_nil _ _))
    (fun digit member => numeral_lt (by decide) member), value_numeral]

/-- The digits of a byte in a dotted quad are read as those of a group. -/
theorem groupLoop_octet (b : UInt8) (rest : List Char) :
    ∃ number, groupLoop 4 0 (printNumber 10 b.toNat ++ '.' :: rest) 0 =
      some (number, '.' :: rest) := by
  have byte := b.toNat_lt
  have short : (numeral 10 b.toNat).length ≤ 4 :=
    numeral_length_le (by decide) (by decide) (by omega)
  refine ⟨_, groupLoop_digits (show NoXdigit ('.' :: rest) from rfl) _ short (.inl (numeral_ne_nil _ _)) ?_ 0⟩
  intro digit member
  have := numeral_lt (by decide) member
  omega

/-- A number starts with a digit. -/
theorem printNumber_eq_cons {base : ℕ} (n : ℕ) (two : 1 < base) (small : base ≤ 16) :
    ∃ digit < 16, ∃ rest, printNumber base n = Nat.digitChar digit :: rest := by
  rw [printNumber]
  cases split : numeral base n with
  | nil => exact absurd split (numeral_ne_nil _ _)
  | cons digit rest =>
    have member : digit ∈ numeral base n := by
      rw [split]
      exact mem_cons_self
    exact ⟨digit, (numeral_lt two member).trans_le small, _, map_cons⟩

theorem length_printNumber_le {base n k : ℕ} (two : 1 < base) (positive : 0 < k)
    (small : n < base ^ k) : (printNumber base n).length ≤ k := by
  rw [printNumber, length_map]
  exact numeral_length_le two positive small

theorem length_printQuad_le (a b c d : UInt8) : (printQuad a b c d).length ≤ 15 := by
  have octet : ∀ b : UInt8, (printNumber 10 b.toNat).length ≤ 3 := by
    intro b
    have byte := b.toNat_lt
    exact length_printNumber_le (by decide) (by decide) (by omega)
  have := octet a
  have := octet b
  have := octet c
  have := octet d
  simp only [printQuad, length_append, length_cons]
  omega

/-! ## IPv6 addresses -/

/-- The text of an address from group `i` on. -/
inductive Formats (src : In6Addr) (best : Zeroes) (ipv4 : Bool) : ℕ → Bool → List Char → Prop
  | done (stripColon : Bool) : Formats src best ipv4 8 stripColon []
  | quad (stripColon : Bool) (tail : ipv4 = true) : Formats src best ipv4 6 stripColon
      (colon stripColon ++ printQuad (src 12) (src 13) (src 14) (src 15))
  | compress {i : ℕ} {stripColon : Bool} {text : List Char} (noQuad : ¬ (i = 6 ∧ ipv4))
      (starts : i = best.start) (long : best.len > 1)
      (rest : Formats src best ipv4 (i + best.len) true text) :
      Formats src best ipv4 i stripColon (':' :: ':' :: text)
  | group {i group : ℕ} {stripColon : Bool} {text : List Char} (noQuad : ¬ (i = 6 ∧ ipv4))
      (noRun : ¬ (i = best.start ∧ best.len > 1)) (found : (groupsOf src)[i]? = some group)
      (rest : Formats src best ipv4 (i + 1) false text) :
      Formats src best ipv4 i stripColon (colon stripColon ++ (printNumber 16 group ++ text))

theorem length_groupsOf (src : In6Addr) : (groupsOf src).length = 8 := length_ofFn

theorem high_lt (i : Fin 8) : i.val * 2 < 16 := by omega

theorem low_lt (i : Fin 8) : i.val * 2 + 1 < 16 := by omega

/-- A group is the number of its two bytes. -/
theorem getElem?_groupsOf (src : In6Addr) (i : Fin 8) : (groupsOf src)[i.val]? =
    some ((src ⟨i * 2, high_lt i⟩).toNat * 256 + (src ⟨i * 2 + 1, low_lt i⟩).toNat) := by
  have low := (src ⟨i * 2 + 1, by omega⟩).toNat_lt
  rw [groupsOf, List.getElem?_ofFn, dif_pos i.isLt]
  rw [Nat.shiftLeft_eq, Nat.mul_comm, ← Nat.two_pow_add_eq_or_of_lt low, Nat.mul_comm]

theorem group_lt {src : In6Addr} {i group : ℕ} (found : (groupsOf src)[i]? = some group) :
    group < 2 ^ 16 := by
  have inside : i < 8 := length_groupsOf src ▸ (List.getElem?_eq_some_iff.mp found).1
  have value := getElem?_groupsOf src ⟨i, inside⟩
  have high := (src ⟨i * 2, by omega⟩).toNat_lt
  have low := (src ⟨i * 2 + 1, by omega⟩).toNat_lt
  rw [found, some.injEq] at value
  dsimp only at value
  omega

/-- The length of the text from group `i` on, with its colon. -/
def budget (i : ℕ) : ℕ := 5 * (8 - i) + 6

theorem length_colon (stripColon : Bool) :
    (colon stripColon).length + stripColon.toNat = 1 := by
  cases stripColon <;> rfl

theorem putText_eq {buf text : List Char} (fits : buf.length + text.length ≤ 45) :
    putText buf text = some (buf ++ text) := by
  rw [putText, inet6Addrstrlen, if_pos (by omega)]

theorem putChar_eq {buf : List Char} (fits : buf.length + 1 ≤ 46) (c : Char) :
    putChar buf c = some (buf ++ [c]) := by
  rw [putChar, inet6Addrstrlen, if_pos (by omega)]

/-- The loop writes the text of an address, and the buffer has room for it. -/
theorem ntopLoop_formats {src : In6Addr} {best : Zeroes} {ipv4 : Bool}
    (inside : best.len > 1 → best.start + best.len ≤ 8) (fuel : ℕ) :
    ∀ {i : ℕ} {stripColon : Bool} {buf : List Char}, i < 8 → 8 - i ≤ fuel →
      buf.length + budget i ≤ 45 + stripColon.toNat →
      ∃ text, ntopLoop src (groupsOf src) best ipv4 fuel i stripColon buf = some (buf ++ text) ∧
        Formats src best ipv4 i stripColon text ∧ text.length + stripColon.toNat ≤ budget i := by
  induction fuel with
  | zero =>
    intro i stripColon buf more enough room
    omega
  | succ fuel ih =>
    intro i stripColon buf more enough room
    have stripped := length_colon stripColon
    -- What the loop does from a later group on.
    have next : ∀ {i' : ℕ} {strip : Bool} {buf' : List Char}, i < i' → i' ≤ 8 →
        buf'.length + budget i' ≤ 45 + strip.toNat →
        ∃ text, (if i' < 8 then ntopLoop src (groupsOf src) best ipv4 fuel i' strip buf'
            else some buf') = some (buf' ++ text) ∧
          Formats src best ipv4 i' strip text ∧ text.length + strip.toNat ≤ budget i' := by
      intro i' strip buf' later end' room'
      by_cases inner : i' < 8
      · rw [if_pos inner]
        exact ih inner (by omega) room'
      · obtain rfl : i' = 8 := by omega
        refine ⟨[], by simp, .done strip, ?_⟩
        have := strip.toNat_le
        rw [budget, length_nil]
        omega
    rw [ntopLoop]
    rw [budget] at room ⊢
    by_cases quad : i = 6 ∧ ipv4
    · obtain ⟨rfl, tail⟩ := quad
      have short := length_printQuad_le (src 12) (src 13) (src 14) (src 15)
      have size : (colon stripColon ++ printQuad (src 12) (src 13) (src 14) (src 15)).length +
          stripColon.toNat ≤ 16 := by
        rw [length_append]
        omega
      rw [if_pos ⟨rfl, tail⟩, putText_eq (by omega)]
      exact ⟨_, rfl, .quad stripColon tail, size⟩
    · rw [if_neg quad]
      by_cases run : i = best.start ∧ best.len > 1
      · have ends := inside run.2
        have written : putChar buf ':' = some (buf ++ [':']) := putChar_eq (by omega) ':'
        have written' : putChar (buf ++ [':']) ':' = some (buf ++ [':', ':']) := by
          rw [putChar_eq (by rw [length_append, length_singleton]; omega),
            append_assoc]
          rfl
        obtain ⟨text, looped, formats, size⟩ :=
          @next (i + best.len) true (buf ++ [':', ':']) (by omega) (by omega) (by
            simp only [budget, length_append, length_cons, length_nil, Bool.toNat_true]
            omega)
        rw [if_pos run]
        simp only [written, written', Option.bind_eq_bind, Option.bind_some, Option.pure_def,
          looped]
        refine ⟨':' :: ':' :: text, by simp, .compress quad run.1 run.2 formats, ?_⟩
        have := stripColon.toNat_le
        simp only [budget, List.length_cons, Bool.toNat_true] at size ⊢
        omega
      · obtain ⟨group, found⟩ : ∃ group, (groupsOf src)[i]? = some group :=
          ⟨_, getElem?_groupsOf src ⟨i, more⟩⟩
        have short : (printNumber 16 group).length ≤ 4 :=
          length_printNumber_le (by decide) (by decide) (group_lt found)
        have size : (colon stripColon ++ printNumber 16 group).length + stripColon.toNat ≤ 5 := by
          rw [length_append]
          omega
        obtain ⟨text, looped, formats, size'⟩ :=
          @next (i + 1) false (buf ++ (colon stripColon ++ printNumber 16 group)) (by omega)
            (by omega) (by
              rw [length_append, budget, Bool.toNat_false]
              omega)
        rw [if_neg run]
        simp only [found, putText_eq (show buf.length + (colon stripColon ++
          printNumber 16 group).length ≤ 45 by omega), Option.bind_eq_bind, Option.bind_some,
          Option.pure_def, looped]
        refine ⟨colon stripColon ++ (printNumber 16 group ++ text), by simp,
          .group quad run found formats, ?_⟩
        rw [budget, Bool.toNat_false] at size'
        rw [List.length_append] at size
        rw [length_append, length_append]
        omega

end Cloudlibc.Arpa
