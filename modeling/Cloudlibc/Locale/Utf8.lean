import Cloudlibc.Locale.Ctype

/-!
# UTF-8

The encoder and the decoder of `libc/locale/ctype/utf_8.c`. The decoder undoes the encoder on
every character (`utf8_undoes`).
-/

set_option autoImplicit false

namespace Cloudlibc.Locale

open Option

/-! ## The decoder -/

/-- The loop over the continuation bytes. `sb` is the offset of the next byte. -/
def utf8Continue (s : List UInt8) :
    (n : ℕ) → (sb bytesleft partialC32 lowerbound : ℕ) → Option Mbtoc32Result
  | 0, _, bytesleft, partialC32, lowerbound =>
    some (.incomplete (.setMultibyte bytesleft partialC32 lowerbound))
  | n + 1, sb, bytesleft, partialC32, lowerbound => do
      let b := (← s[sb]?).toNat
      if b &&& 0xc0 ≠ 0x80 then
        return .error .EILSEQ
      else
        let partialC32 := partialC32 <<< 6 % 2 ^ 32 ||| b &&& 0x3f
        if bytesleft - 1 = 0 then
          if partialC32 < lowerbound ∨ partialC32 ≥ 0xd800 ∧ partialC32 ≤ 0xdfff ∨
              partialC32 > 0x10ffff then
            return .error .EILSEQ
          else
            return .character partialC32 (sb + 1) .setInit
        else
          utf8Continue s n (sb + 1) (bytesleft - 1) partialC32 lowerbound

/-- `utf_8_mbtoc32()`. -/
def utf8Mbtoc32 (s : List UInt8) (n : ℕ) (ps : Mbstate) : Option Mbtoc32Result := do
  if n < 1 then
    return .incomplete ps
  else if ps.bytesleft = 0 then
    let b := (← s[0]?).toNat
    if b &&& 0x80 = 0 then
      return .character b 1 .setInit
    else if b &&& 0xe0 = 0xc0 then
      utf8Continue s (n - 1) 1 1 (b &&& 0x1f) 0x80
    else if b &&& 0xf0 = 0xe0 then
      utf8Continue s (n - 1) 1 2 (b &&& 0xf) 0x800
    else if b &&& 0xf8 = 0xf0 then
      utf8Continue s (n - 1) 1 3 (b &&& 0x7) 0x10000
    else
      return .error .EILSEQ
  else
    utf8Continue s n 0 ps.bytesleft ps.partialC32 ps.lowerbound

/-! ## The encoder -/

/-- `utf_8_c32tomb()`. -/
def utf8C32tomb (c32 : ℕ) : Option (Except Errno (List UInt8)) :=
  if c32 ≤ 0x7f then
    some (.ok [.ofNat c32])
  else if c32 ≤ 0x7ff then
    some (.ok [.ofNat (0xc0 ||| c32 >>> 6), .ofNat (0x80 ||| c32 &&& 0x3f)])
  else if c32 ≤ 0xffff then
    if c32 ≥ 0xd800 ∧ c32 ≤ 0xdfff then
      some (.error .EILSEQ)
    else
      some (.ok [.ofNat (0xe0 ||| c32 >>> 12), .ofNat (0x80 ||| c32 >>> 6 &&& 0x3f),
        .ofNat (0x80 ||| c32 &&& 0x3f)])
  else if c32 ≤ 0x10ffff then
    some (.ok [.ofNat (0xf0 ||| c32 >>> 18), .ofNat (0x80 ||| c32 >>> 12 &&& 0x3f),
      .ofNat (0x80 ||| c32 >>> 6 &&& 0x3f), .ofNat (0x80 ||| c32 &&& 0x3f)])
  else
    some (.error .EILSEQ)

/-- `__ctype_utf_8`. -/
def ctypeUtf8 : LcCtype where
  codeset := "UTF-8"
  mbtoc32 := utf8Mbtoc32
  c32tombMax := 4
  c32tomb := utf8C32tomb

/-! ## Round trip -/

theorem leadingByte_masks : ∀ b < 256,
    (b &&& 0x80 = 0 ↔ b < 0x80) ∧ (b &&& 0xe0 = 0xc0 ↔ 0xc0 ≤ b ∧ b < 0xe0) ∧
      (b &&& 0xf0 = 0xe0 ↔ 0xe0 ≤ b ∧ b < 0xf0) ∧ (b &&& 0xf8 = 0xf0 ↔ 0xf0 ≤ b ∧ b < 0xf8) := by
  decide +kernel

theorem continuation_masks : ∀ x < 64,
    (UInt8.ofNat (0x80 ||| x)).toNat &&& 0xc0 = 0x80 ∧
      (UInt8.ofNat (0x80 ||| x)).toNat &&& 0x3f = x := by
  decide +kernel

theorem leading_masks :
    (∀ x < 32, (UInt8.ofNat (0xc0 ||| x)).toNat = 0xc0 + x ∧ (0xc0 + x) &&& 0x1f = x) ∧
      (∀ x < 16, (UInt8.ofNat (0xe0 ||| x)).toNat = 0xe0 + x ∧ (0xe0 + x) &&& 0xf = x) ∧
      (∀ x < 8, (UInt8.ofNat (0xf0 ||| x)).toNat = 0xf0 + x ∧ (0xf0 + x) &&& 0x7 = x) := by
  decide +kernel

/-- One more continuation byte of the encoding. -/
theorem shift_or (high x : ℕ) (small : high < 2 ^ 26) (six : x < 64) :
    high <<< 6 % 2 ^ 32 ||| x = 64 * high + x := by
  rw [Nat.shiftLeft_eq, Nat.mod_eq_of_lt (by omega), Nat.mul_comm,
    ← Nat.two_pow_add_eq_or_of_lt (show x < 2 ^ 6 from six)]

variable {n x : ℕ} {s : List UInt8}

theorem utf8Continue_step {sb bytesleft high lowerbound : ℕ}
    (byte : s[sb]? = some (UInt8.ofNat (0x80 ||| x))) (six : x < 64) (small : high < 2 ^ 26)
    (more : 2 ≤ bytesleft) :
    utf8Continue s (n + 1) sb bytesleft high lowerbound =
      utf8Continue s n (sb + 1) (bytesleft - 1) (64 * high + x) lowerbound := by
  obtain ⟨continues, payload⟩ := continuation_masks x six
  have notLast : bytesleft - 1 ≠ 0 := by omega
  simp only [utf8Continue, byte, bind_eq_bind, bind_some, continues, payload,
    shift_or high x small six, notLast, ne_eq, not_true_eq_false, if_false]

theorem utf8Continue_last {sb high lowerbound : ℕ} (byte : s[sb]? = some (UInt8.ofNat (0x80 ||| x)))
    (six : x < 64) (small : high < 2 ^ 26) (shortest : lowerbound ≤ 64 * high + x)
    (scalar : ¬ (64 * high + x ≥ 0xd800 ∧ 64 * high + x ≤ 0xdfff))
    (inRange : 64 * high + x ≤ 0x10ffff) :
    utf8Continue s (n + 1) sb 1 high lowerbound =
      some (.character (64 * high + x) (sb + 1) .setInit) := by
  obtain ⟨continues, payload⟩ := continuation_masks x six
  have valid : ¬ (64 * high + x < lowerbound ∨
      64 * high + x ≥ 0xd800 ∧ 64 * high + x ≤ 0xdfff ∨ 64 * high + x > 0x10ffff) := by
    omega
  simp only [utf8Continue, byte, bind_eq_bind, bind_some, continues, payload,
    shift_or high x small six, valid, ne_eq, not_true_eq_false, if_false, Nat.sub_self, if_true]
  rfl

/-- The decoder in the initial state, by the range of the leading byte. -/
theorem utf8Mbtoc32_leading {byte : UInt8} (n : ℕ) (first : s[0]? = some byte) :
    utf8Mbtoc32 s (n + 1) .setInit =
      let b := byte.toNat
      if b < 0x80 then some (.character b 1 .setInit)
      else if 0xc0 ≤ b ∧ b < 0xe0 then utf8Continue s n 1 1 (b &&& 0x1f) 0x80
      else if 0xe0 ≤ b ∧ b < 0xf0 then utf8Continue s n 1 2 (b &&& 0xf) 0x800
      else if 0xf0 ≤ b ∧ b < 0xf8 then utf8Continue s n 1 3 (b &&& 0x7) 0x10000
      else some (.error .EILSEQ) := by
  obtain ⟨one, two, three, four⟩ := leadingByte_masks byte.toNat byte.toNat_lt
  have nonempty : ¬ n + 1 < 1 := by omega
  simp only [utf8Mbtoc32, nonempty, if_false, show Mbstate.setInit.bytesleft = 0 from rfl, if_true,
    first, bind_eq_bind, bind_some, one, two, three, four, Nat.add_sub_cancel]
  rfl

/-- The decoder at the leading byte of an encoding of two bytes. -/
theorem utf8Mbtoc32_two (first : s[0]? = some (UInt8.ofNat (0xc0 ||| x))) (small : x < 32) :
    utf8Mbtoc32 s (n + 1) .setInit = utf8Continue s n 1 1 x 0x80 := by
  obtain ⟨value, payload⟩ := leading_masks.1 x small
  rw [utf8Mbtoc32_leading n first, value]
  rw [if_neg (by omega), if_pos (by omega), payload]

/-- The decoder at the leading byte of an encoding of three bytes. -/
theorem utf8Mbtoc32_three (first : s[0]? = some (UInt8.ofNat (0xe0 ||| x))) (small : x < 16) :
    utf8Mbtoc32 s (n + 1) .setInit = utf8Continue s n 1 2 x 0x800 := by
  obtain ⟨value, payload⟩ := leading_masks.2.1 x small
  rw [utf8Mbtoc32_leading n first, value]
  rw [if_neg (by omega), if_neg (by omega), if_pos (by omega), payload]

/-- The decoder at the leading byte of an encoding of four bytes. -/
theorem utf8Mbtoc32_four (first : s[0]? = some (UInt8.ofNat (0xf0 ||| x))) (small : x < 8) :
    utf8Mbtoc32 s (n + 1) .setInit = utf8Continue s n 1 3 x 0x10000 := by
  obtain ⟨value, payload⟩ := leading_masks.2.2 x small
  rw [utf8Mbtoc32_leading n first, value]
  rw [if_neg (by omega), if_neg (by omega), if_neg (by omega), if_pos (by omega), payload]

/-- **The decoder of UTF-8 undoes the encoder.** -/
theorem utf8_undoes (c32 : ℕ) : Undoes ctypeUtf8 c32 := by
  intro buf rest encoded
  have six : ∀ x, x &&& 0x3f = x % 64 := fun x => Nat.and_two_pow_sub_one_eq_mod x 6
  simp only [ctypeUtf8, utf8C32tomb, six, Nat.shiftRight_eq_div_pow] at encoded
  show utf8Mbtoc32 _ _ _ = _
  by_cases one : c32 ≤ 0x7f
  · rw [if_pos one] at encoded
    obtain rfl := Except.ok.inj (some.inj encoded)
    refine (utf8Mbtoc32_leading _ rfl).trans ?_
    rw [toNat_ofNat_byte (by omega)]
    exact if_pos (by omega)
  rw [if_neg one] at encoded
  by_cases two : c32 ≤ 0x7ff
  · rw [if_pos two] at encoded
    obtain rfl := Except.ok.inj (some.inj encoded)
    have whole : 64 * (c32 / 2 ^ 6) + c32 % 64 = c32 := by omega
    refine (utf8Mbtoc32_two rfl (by omega)).trans ?_
    refine (utf8Continue_last rfl (by omega) (by omega) (by omega) (by omega) (by omega)).trans ?_
    rw [whole]
    rfl
  rw [if_neg two] at encoded
  by_cases three : c32 ≤ 0xffff
  · rw [if_pos three] at encoded
    by_cases surrogate : c32 ≥ 0xd800 ∧ c32 ≤ 0xdfff
    · rw [if_pos surrogate] at encoded
      cases encoded
    rw [if_neg surrogate] at encoded
    obtain rfl := Except.ok.inj (some.inj encoded)
    have whole : 64 * (64 * (c32 / 2 ^ 12) + c32 / 2 ^ 6 % 64) + c32 % 64 = c32 := by omega
    refine (utf8Mbtoc32_three rfl (by omega)).trans ?_
    refine (utf8Continue_step rfl (by omega) (by omega) le_rfl).trans ?_
    refine (utf8Continue_last rfl (by omega) (by omega) (by omega) (by omega) (by omega)).trans ?_
    rw [whole]
    rfl
  rw [if_neg three] at encoded
  by_cases four : c32 ≤ 0x10ffff
  · rw [if_pos four] at encoded
    obtain rfl := Except.ok.inj (some.inj encoded)
    have whole : 64 * (64 * (64 * (c32 / 2 ^ 18) + c32 / 2 ^ 12 % 64) + c32 / 2 ^ 6 % 64) +
        c32 % 64 = c32 := by omega
    refine (utf8Mbtoc32_four rfl (by omega)).trans ?_
    refine (utf8Continue_step rfl (by omega) (by omega) (by omega)).trans ?_
    refine (utf8Continue_step rfl (by omega) (by omega) le_rfl).trans ?_
    refine (utf8Continue_last rfl (by omega) (by omega) (by omega) (by omega) (by omega)).trans ?_
    rw [whole]
    rfl
  · rw [if_neg four] at encoded
    cases encoded

end Cloudlibc.Locale
