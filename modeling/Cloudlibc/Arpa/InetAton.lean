import Cloudlibc.Arpa.InetText
import Cloudlibc.Foundations.Words
import Cloudlibc.Stdlib.StrtointConversion

/-!
# Parsing of IPv4 addresses with C numbers

The function `inet_aton()` of `libc/arpa/inet`, which has one to four numbers with any of the bases
of C. The parts of the text between the dots are the numbers (`Dotted`), and the parser of the
integers lets each of them have a plus sign (`inetAton_eq_some`). So the function accepts the texts
that it should accept, and others if there is a plus sign (`inetAton_unsigned_iff`).

It reads a dotted quad that `inet_ntop()` prints (`inetAton_printQuad`), and it does not read text
that has a colon (`inetAton_colon`).
-/

set_option autoImplicit false

namespace Cloudlibc.Arpa

open Cloudlibc.Digits Cloudlibc.Stdio Cloudlibc.Stdlib List Option

/-- `htonl()`: the bytes of a number in network byte order. -/
def htonl (n : ℕ) : InAddr := fun i => .ofNat (n >>> (24 - 8 * i.val))

/-- The number of one pass of the loop of `inet_aton()`, with the text behind it. -/
def atonNumber (max : ℕ) (cp : List Char) : Option (ℕ × List Char) :=
  let result := parserStrtoint false 0 max false 0 (cp.map byteOf)
  if result.haveNumber = false ∨ result.haveOverflow = true then
    none
  else
    some (result.number.toNat, cp.drop result.skipped)

/-- The loop of `inet_aton()`, where `shift` is eight times `left`. -/
def atonLoop : (left : ℕ) → (max leading : ℕ) → (cp : List Char) → Option ℕ
  | 0, max, leading, cp => do
      match ← atonNumber max cp with
      | (number, []) => return leading ||| number
      | (_, _ :: _) => none
  | left + 1, max, leading, cp => do
      match ← atonNumber max cp with
      | (number, []) => return leading ||| number
      | (number, c :: cp) =>
        if number ≤ 255 ∧ c = '.' then
          atonLoop left (max >>> 8) (leading ||| number <<< (8 * (left + 1))) cp
        else
          none

/-- `inet_aton()`. -/
def inetAton (cp : List Char) : Option InAddr :=
  (atonLoop 3 (2 ^ 32 - 1) 0 cp).map htonl

/-! ## The numbers -/

/-- An integer literal of C. -/
def Unsigned (text : List Char) (n : ℕ) : Prop := Literal 0 (text.map byteOf) n

/-- An integer literal of C that may have a plus sign. -/
def PlusSigned (text : List Char) (n : ℕ) : Prop := Signed false 0 (text.map byteOf) n

/-- At most `left + 1` numbers with dots between them, behind parts with the value `front`. All of
them but the last are bytes, and the last one fills the bytes that are left. -/
def Dotted (part : List Char → ℕ → Prop) (left front : ℕ) (cp : List Char) (n : ℕ) : Prop :=
  ∃ bytes last, Forall₂ part (cp.splitOn '.') (bytes ++ [last]) ∧ bytes.length ≤ left ∧
    (∀ b ∈ bytes, b ≤ 255) ∧ last < 256 ^ (left + 1 - bytes.length) ∧
    n = value 256 front bytes * 256 ^ (left + 1 - bytes.length) + last

variable {text part rest cp : List Char} {n left : ℕ}

/-- A character of a number is a digit, a letter or the sign. -/
theorem PlusSigned.not_mem (number : PlusSigned text n) {c : Char}
    (other : digitValue (byteOf c) = none ∧ byteOf c ≠ byteOf '+') : c ∉ text := by
  intro member
  obtain ⟨subject, noMinus⟩ := number
  have inside := mem_map_of_mem (f := byteOf) member
  obtain ⟨b, rest, split, first⟩ := subject.head
  have behind := subject.isSome_tail (byteOf c)
  rw [split] at inside behind noMinus
  obtain here | later := mem_cons.mp inside
  · obtain digit | plus | minus := first
    · simp [← here, other.1] at digit
    · exact other.2 (here.trans plus)
    · cases noMinus (congrArg some minus)
  · simpa [other.1] using behind later

theorem dot_other : digitValue (byteOf '.') = none ∧ byteOf '.' ≠ byteOf '+' := by
  decide

/-- The unsigned type of the bytes that are left. -/
def partType (left : ℕ) (small : left < 4) : IntegerType :=
  ⟨false, 8 * (left + 1), by omega, by omega⟩

theorem numericMax_partType (small : left < 4) :
    (partType left small).numericMax = (2 ^ (8 * (left + 1)) - 1 : ℕ) := by
  rw [Nat.cast_sub Nat.one_le_two_pow]
  rfl

theorem store_partType (small : left < 4) (n : ℕ) : (partType left small).store n =
    if n < 2 ^ (8 * (left + 1)) then (↑n, none)
    else ((partType left small).numericMax, some .ERANGE) := by
  have positive := Nat.one_le_two_pow (n := 8 * (left + 1))
  have minimum : (partType left small).numericMin = 0 := rfl
  have unsigned : (partType left small).isSigned = false := rfl
  rw [IntegerType.store, minimum, unsigned, numericMax_partType]
  exact if_congr (by omega) rfl (if_neg fun negative => Bool.false_ne_true negative.1)

/-- The parser of a pass is the one for an integer type. -/
theorem parserStrtoint_partType (small : left < 4) (s : List UInt8) :
    parserStrtoint (partType left small).isSigned (partType left small).numericMin
      (partType left small).numericMax false (parserBase 0) s =
      parserStrtoint false 0 (2 ^ (8 * (left + 1)) - 1 : ℕ) false 0 s := by
  rw [numericMax_partType]
  rfl

/-- The number of a pass and the text behind it. -/
theorem exists_of_atonNumber (small : left < 4)
    (parsed : atonNumber (2 ^ (8 * (left + 1)) - 1) cp = some (n, rest)) :
    ∃ part, cp = part ++ rest ∧ PlusSigned part n ∧ n < 2 ^ (8 * (left + 1)) := by
  have longest := parserStrtoint_longest (partType left small) false 0 (cp.map byteOf)
  rw [parserStrtoint_partType] at longest
  rw [atonNumber] at parsed
  split_ifs at parsed with failed
  rw [not_or, Bool.not_eq_false, Bool.not_eq_true] at failed
  obtain ⟨rfl, rfl⟩ := Prod.mk.inj (some.inj parsed)
  obtain ⟨bytes, rest, number, split, isSigned, -, -, skipped, stored⟩ | ⟨-, none, -⟩ := longest
  · obtain ⟨part, rest, rfl, rfl, rfl⟩ := map_eq_append_iff.mp split
    obtain ⟨n, rfl⟩ : ∃ n : ℕ, number = n := by
      obtain ⟨subject, noMinus⟩ := isSigned
      generalize part.map byteOf = s at subject noMinus
      cases subject with
      | unsigned => exact ⟨_, rfl⟩
      | plus => exact ⟨_, rfl⟩
      | minus => cases noMinus rfl
    rw [failed.2, if_neg Bool.false_ne_true, store_partType] at stored
    by_cases fits : n < 2 ^ (8 * (left + 1))
    · obtain ⟨number, -⟩ := Prod.mk.inj (stored.trans (if_pos fits))
      rw [number, skipped, length_map, drop_left]
      exact ⟨part, rfl, isSigned, fits⟩
    · cases (Prod.mk.inj (stored.trans (if_neg fits))).2
  · cases none.symm.trans failed.1

/-- The text ends or goes on with a dot. -/
def DotOrEnd (rest : List Char) : Prop := rest = [] ∨ ∃ more, rest = '.' :: more

/-- A number in front of a dot or the end is the number of a pass. -/
theorem atonNumber_eq (small : left < 4) (number : PlusSigned part n)
    (dot : DotOrEnd rest) (fits : n < 2 ^ (8 * (left + 1))) :
    atonNumber (2 ^ (8 * (left + 1)) - 1) (part ++ rest) = some (n, rest) := by
  obtain ⟨haveNumber, skipped, stored⟩ := parserStrtoint_of_signed (partType left small)
    number (show ∀ b ∈ (rest.map byteOf).head?, _ by
      obtain rfl | ⟨more, rfl⟩ := dot
      · rintro b ⟨⟩
      · rintro b ⟨⟩
        exact dot_other.1)
  rw [← map_append, parserStrtoint_partType] at haveNumber skipped stored
  rw [store_partType, if_pos fits] at stored
  obtain ⟨number, overflow⟩ := Prod.mk.inj stored
  rw [atonNumber, haveNumber, skipped, number, if_neg (by simpa using overflow), length_map,
    drop_left]
  rfl

/-! ## The loop -/

theorem atonLoop_eq_some {max leading result : ℕ} :
    atonLoop left max leading cp = some result ↔
      (∃ n, atonNumber max cp = some (n, []) ∧ leading ||| n = result) ∨
      ∃ n cp' left', left = left' + 1 ∧ atonNumber max cp = some (n, '.' :: cp') ∧ n ≤ 255 ∧
        atonLoop left' (max >>> 8) (leading ||| n <<< (8 * left)) cp' = some result := by
  cases left with
  | zero =>
    rw [atonLoop]
    obtain - | ⟨n, - | ⟨c, rest⟩⟩ := atonNumber max cp <;> simp
  | succ left =>
    rw [atonLoop]
    obtain - | ⟨n, - | ⟨c, rest⟩⟩ := atonNumber max cp
    · simp
    · simp
    · by_cases dot : n ≤ 255 ∧ c = '.' <;> simp [dot] <;> tauto

/-- **The loop composes the number of the address from its parts.** -/
theorem atonLoop_dotted (left : ℕ) : ∀ {front : ℕ} {cp : List Char} {result : ℕ}, left < 4 →
    (atonLoop left (2 ^ (8 * (left + 1)) - 1) (front <<< (8 * (left + 1))) cp = some result ↔
      Dotted PlusSigned left front cp result) := by
  have bytes : ∀ k, 2 ^ (8 * k) = 256 ^ k := Nat.pow_mul 2 8
  have last : ∀ {left front n : ℕ}, n < 2 ^ (8 * (left + 1)) →
      front <<< (8 * (left + 1)) ||| n = front * 256 ^ (left + 1) + n := by
    intro left front n fits
    rw [← Nat.shiftLeft_add_eq_or_of_lt fits, Nat.shiftLeft_eq, bytes]
  have shifted : ∀ {left front n : ℕ}, n ≤ 255 →
      front <<< (8 * (left + 1 + 1)) ||| n <<< (8 * (left + 1)) =
        (front * 256 + n) <<< (8 * (left + 1)) := by
    intro left front n byte
    have joined := Nat.shiftLeft_add_eq_or_of_lt (show n < 2 ^ 8 by omega) front
    rw [show 8 * (left + 1 + 1) = 8 + 8 * (left + 1) by ring, Nat.shiftLeft_add,
      ← Nat.shiftLeft_or_distrib, ← joined, Nat.shiftLeft_eq front]
  have lower : ∀ left, (2 ^ (8 * (left + 1 + 1)) - 1) >>> 8 = 2 ^ (8 * (left + 1)) - 1 := by
    intro left
    have positive := Nat.one_le_two_pow (n := 8 * (left + 1))
    rw [show 8 * (left + 1 + 1) = 8 * (left + 1) + 8 by ring, Nat.pow_add]
    omega
  induction left using Nat.strong_induction_on with
  | _ left ih =>
    intro front cp result small
    rw [atonLoop_eq_some]
    constructor
    · rintro (⟨n, parsed, rfl⟩ | ⟨n, cp', left, rfl, parsed, byte, looped⟩)
      · obtain ⟨part, rfl, number, fits⟩ := exists_of_atonNumber small parsed
        rw [append_nil]
        refine ⟨[], n, ?_, Nat.zero_le _, forall_mem_nil _, bytes _ ▸ fits, last fits⟩
        rw [splitOn_eq_singleton (number.not_mem dot_other)]
        exact .cons number .nil
      · obtain ⟨part, rfl, number, -⟩ := exists_of_atonNumber small parsed
        rw [shifted byte, lower] at looped
        obtain ⟨rest, n', parts, few, others, bound, rfl⟩ :=
          (ih left (by omega) (by omega)).mp looped
        refine ⟨n :: rest, n', ?_, by simpa using few, forall_mem_cons.mpr ⟨byte, others⟩, ?_, ?_⟩
        · rw [splitOn_append_cons_self_of_not_mem (number.not_mem dot_other)]
          exact .cons number parts
        · rwa [length_cons, Nat.add_sub_add_right]
        · rw [length_cons, Nat.add_sub_add_right]
          rfl
    · rintro ⟨rest, n, parts, few, others, bound, rfl⟩
      by_cases dot : '.' ∈ cp
      · obtain ⟨part, cp, rfl, noDot⟩ := eq_append_cons_of_mem dot
        rw [splitOn_append_cons_self_of_not_mem noDot] at parts
        obtain - | ⟨b, rest⟩ := rest
        · obtain ⟨-, none⟩ := forall₂_cons.mp parts
          exact absurd (forall₂_nil_right_iff.mp none) (splitOn_ne_nil _ _)
        · obtain ⟨number, parts⟩ := forall₂_cons.mp parts
          obtain ⟨byte, others⟩ := forall_mem_cons.mp others
          obtain - | left := left
          · cases few
          · rw [length_cons, Nat.add_sub_add_right] at bound
            have fits : b < 2 ^ (8 * (left + 1 + 1)) := by
              rw [Nat.mul_succ, Nat.pow_add]
              have := Nat.one_le_two_pow (n := 8 * (left + 1))
              omega
            refine .inr ⟨b, cp, left, rfl, ?_, byte, ?_⟩
            · exact atonNumber_eq small number (Or.inr ⟨cp, rfl⟩) fits
            · rw [shifted byte, lower, ih left (by omega) (by omega)]
              exact ⟨rest, n, parts, by simpa using few, others, bound, by
                rw [length_cons, Nat.add_sub_add_right]; rfl⟩
      · rw [splitOn_eq_singleton dot] at parts
        obtain ⟨rfl, number⟩ : rest = [] ∧ PlusSigned cp n := by
          obtain - | ⟨b, rest⟩ := rest
          · exact ⟨rfl, (forall₂_cons.mp parts).1⟩
          · simp at parts
        rw [← bytes] at bound
        have parsed := @atonNumber_eq cp [] n left small number (Or.inl rfl) bound
        rw [append_nil] at parsed
        exact .inl ⟨n, parsed, last bound⟩

/-- What `inet_aton()` accepts, and the address that it stores. -/
theorem inetAton_eq_some {addr : InAddr} :
    inetAton cp = some addr ↔ ∃ n, Dotted PlusSigned 3 0 cp n ∧ addr = htonl n := by
  have looped : ∀ result, atonLoop 3 (2 ^ 32 - 1) 0 cp = some result ↔
      Dotted PlusSigned 3 0 cp result := fun result => by
    rw [← atonLoop_dotted 3 (by decide), Nat.zero_shiftLeft]
  simp only [inetAton, map_eq_some_iff, looped, eq_comm]

/-! ## Plus signs -/

theorem unsigned_iff : Unsigned text n ↔ byteOf '+' ∉ text.map byteOf ∧ PlusSigned text n := by
  rw [Unsigned, PlusSigned]
  generalize text.map byteOf = s
  constructor
  · intro literal
    refine ⟨fun plus => ?_, .unsigned literal, fun first => ?_⟩
    · simpa [digitValue_sign.1] using literal.isSome _ plus
    · simpa [digitValue_sign.2] using literal.isSome _ (mem_of_mem_head? first)
  · rintro ⟨noPlus, subject, noMinus⟩
    generalize number : (n : ℤ) = z at subject
    cases subject with
    | unsigned literal => rwa [Int.ofNat_inj.mp number]
    | plus => exact absurd mem_cons_self noPlus
    | minus => cases noMinus rfl

/-- The numbers have no signs if and only if there is no plus sign in the text. -/
theorem dotted_unsigned_iff {front : ℕ} : Dotted Unsigned left front cp n ↔
    byteOf '+' ∉ cp.map byteOf ∧ Dotted PlusSigned left front cp n := by
  have noPlus : byteOf '+' ∉ cp.map byteOf ↔
      ∀ part ∈ cp.splitOn '.', byteOf '+' ∉ part.map byteOf := by
    simp only [List.mem_map, not_exists, not_and]
    exact Words.forall_mem_splitOn (p := (byteOf · ≠ byteOf '+')) (by decide) cp
  have parts : ∀ numbers, Forall₂ Unsigned (cp.splitOn '.') numbers ↔
      byteOf '+' ∉ cp.map byteOf ∧ Forall₂ PlusSigned (cp.splitOn '.') numbers := by
    intro numbers
    rw [noPlus, ← forall₂_and_left]
    exact ⟨Forall₂.imp fun _ _ => unsigned_iff.mp, Forall₂.imp fun _ _ => unsigned_iff.mpr⟩
  simp only [Dotted, parts, and_assoc, exists_and_left]

/-! ## The texts of addresses -/

theorem printNumber_bytes (n : ℕ) :
    (printNumber 10 n).map byteOf = (numeral 10 n).map decimalByte := by
  have digits : ∀ digit < 10, byteOf (Nat.digitChar digit) = decimalByte digit := by
    decide
  rw [printNumber, List.map_map]
  exact List.map_congr_left fun digit member => digits digit (numeral_lt (by decide) member)

theorem plusSigned_printNumber (n : ℕ) : PlusSigned (printNumber 10 n) n := by
  refine (unsigned_iff.mp ?_).2
  rw [Unsigned, printNumber_bytes]
  by_cases zero : n = 0
  · subst zero
    exact @Literal.octal 0 [byteOf '0'] [0] rfl rfl ⟨by simp, rfl, by simp⟩
  · have literal := @Literal.decimal 0 _ _ rfl ?_ (spells_numeral n)
    · rwa [value_numeral] at literal
    · obtain ⟨digit, small, digits, split, nonzero⟩ := head_numeral n
      have others : ∀ digit < 10, digit ≠ 0 → decimalByte digit ≠ byteOf '0' := by decide
      rw [split, head?_cons, Ne, some.injEq]
      exact others digit small (nonzero zero)

/-- **`inet_aton()` reads a dotted quad.** -/
theorem inetAton_printQuad (src : InAddr) :
    inetAton (printQuad (src 0) (src 1) (src 2) (src 3)) = some src := by
  have number := fun i => plusSigned_printNumber (src i).toNat
  have noDot := fun i => (number i).not_mem dot_other
  have bytes := fun i => (src i).toNat_lt
  have := bytes 0
  have := bytes 1
  have := bytes 2
  have := bytes 3
  refine inetAton_eq_some.mpr ⟨_, ⟨[(src 0).toNat, (src 1).toNat, (src 2).toNat], (src 3).toNat,
    ?_, le_rfl, ?_, ?_, rfl⟩, ?_⟩
  · simp [printQuad, splitOn_append_cons_self_of_not_mem, splitOn_eq_singleton, noDot, number]
  · simp
    omega
  · exact bytes 3
  · funext i
    rw [htonl, ← UInt8.toNat_inj, UInt8.toNat_ofNat', Nat.shiftRight_eq_div_pow]
    simp only [value, foldl_cons, foldl_nil, length_cons, length_nil]
    fin_cases i <;> dsimp only [Fin.zero_eta, Fin.mk_one, Fin.reduceFinMk, Fin.isValue] <;> norm_num <;>
      omega

/-- **`inet_aton()` does not read text with a colon.** -/
theorem inetAton_colon (colon : ':' ∈ cp) : inetAton cp = none := by
  rw [eq_none_iff_forall_ne_some]
  intro addr accepted
  obtain ⟨n, ⟨bytes, last, parts, -⟩, -⟩ := inetAton_eq_some.mp accepted
  have noColon : ∀ part ∈ cp.splitOn '.', ∀ c ∈ part, c ≠ ':' := by
    refine ((forall₂_and_left _ _).mp (parts.imp fun part n number => ⟨?_, number⟩)).1
    exact fun c inside same => number.not_mem (by decide) (same ▸ inside)
  exact (Words.forall_mem_splitOn (by decide) cp).mpr noColon ':' colon rfl

end Cloudlibc.Arpa
