import Cloudlibc.Locale.Ctype
import Cloudlibc.Locale.Gb2312Tables

/-!
# GB 2312

The encoder and the decoder of `libc/locale/ctype/gb2312.h`.

The two tables agree: a character is in the row and the column of the decoder's table that its
encoding names (`pairs_agree`), where the leading bytes 0xa1 to 0xa9 and 0xb0 to 0xf7 name the 81
rows (`layout`). The decoder takes ten rows for the first range and starts the second one at 0xb1.
So it undoes the encoder on all characters (`gb2312_undoes`) but those of the tenth row of its
table, whose leading byte 0xb0 it rejects (`gb2312_fails`).
-/

set_option autoImplicit false

namespace Cloudlibc.Locale

open Cloudlibc.PackedTable Option

/-! ## Encoder and decoder -/

/-- The part of `gb2312_mbtoc32()` behind the leading byte. `sb` is the offset of the second
byte. -/
def gb2312Second (s : List UInt8) (n sb bytesleft partialC32 : ℕ) : Option Mbtoc32Result := do
  if n < 1 then
    return .incomplete (.setMultibyte bytesleft partialC32 0)
  else
    let b := (← s[sb]?).toNat
    if b < 0xa1 ∨ b ≥ 0xa1 + 94 then
      return .error .EILSEQ
    else
      let c16 ← Gb2312.table.get? ((partialC32 * 94 + b - 0xa1) % 2 ^ 32)
      if c16 = 0 then
        return .error .EILSEQ
      else
        return .character c16 (sb + 1) .setInit

/-- `gb2312_mbtoc32()`. -/
def gb2312Mbtoc32 (s : List UInt8) (n : ℕ) (ps : Mbstate) : Option Mbtoc32Result := do
  if ps.bytesleft = 0 then
    if n < 1 then
      return .incomplete ps
    else
      let b := (← s[0]?).toNat
      if b < 0x80 then
        return .character b 1 .setInit
      else if b ≥ 0xa1 ∧ b < 0xa1 + 10 then
        gb2312Second s (n - 1) 1 1 (b - 0xa1)
      else if b ≥ 0xa1 + 16 ∧ b ≤ 0xa1 + 87 then
        gb2312Second s (n - 1) 1 1 (b - (0xa1 + 16) + 10)
      else
        return .error .EILSEQ
  else
    gb2312Second s n 0 ps.bytesleft ps.partialC32

/-- The character of entry `i` of `pairs`. -/
def Gb2312.pairC16 (i : ℕ) : Option ℕ :=
  (Gb2312.pairs.get? i).map (· / 2 ^ 16)

/-- `gb2312_c32tomb()`. -/
def gb2312C32tomb (c32 : ℕ) : Option (Except Errno (List UInt8)) := do
  if c32 < 0x80 then
    return .ok [.ofNat c32]
  else
    let min ← lastNotAbove Gb2312.pairC16 7445 c32
    let pair ← Gb2312.pairs.get? min
    if c32 ≠ pair / 2 ^ 16 then
      return .error .EILSEQ
    else
      return .ok [.ofNat (pair / 2 ^ 8 % 2 ^ 8), .ofNat (pair % 2 ^ 8)]

/-- `ctype_gb2312`. -/
def ctypeGb2312 : LcCtype where
  codeset := "GB2312"
  mbtoc32 := gb2312Mbtoc32
  c32tombMax := 2
  c32tomb := gb2312C32tomb

/-! ## The tables -/

/-- The row of the decoder's table that a leading byte stands for: the rows 1 to 9 and 16 to 87 of
GB 2312, one after the other. -/
def Gb2312.layout (b : ℕ) : Option ℕ :=
  if 0xa1 ≤ b ∧ b ≤ 0xa9 then some (b - 0xa1)
  else if 0xb0 ≤ b ∧ b ≤ 0xf7 then some (b - 0xb0 + 9)
  else none

/-- The pair is unused, or the decoder's table has its character where its bytes say. -/
@[reducible]
def Gb2312.PairAgrees (pair : ℕ) : Prop :=
  pair = 0 ∨ (0xa1 ≤ pair % 2 ^ 8 ∧ pair % 2 ^ 8 < 0xa1 + 94 ∧
    ((layout (pair / 2 ^ 8 % 2 ^ 8)).bind fun row =>
      table.get? (row * 94 + (pair % 2 ^ 8 - 0xa1))) = some (pair / 2 ^ 16))

theorem Gb2312.pairs_agree :
    ∀ block ∈ pairs.blocks, ∀ word ∈ block, ∀ i < 8, PairAgrees (field 32 8 word i) := by
  decide +kernel

/-- The encoder writes the leading byte 0xb0 for the characters of the tenth row. -/
theorem Gb2312.tenthRow_encodes : ∀ i < 94, (table.get? (9 * 94 + i)).bind gb2312C32tomb =
    some (.ok [0xb0, .ofNat (0xa1 + i)]) := by
  decide +kernel

/-- The character is in the tenth row of the decoder's table, which is row 16 of GB 2312. -/
def Gb2312.InTenthRow (c32 : ℕ) : Prop :=
  ∃ i < 94, table.get? (9 * 94 + i) = some c32

instance : DecidablePred Gb2312.InTenthRow := fun c32 =>
  inferInstanceAs (Decidable (∃ i < 94, Gb2312.table.get? (9 * 94 + i) = some c32))

/-! ## Round trip -/

theorem gb2312Second_mapped {s : List UInt8} {n sb bytesleft row b c32 : ℕ}
    (second : s[sb]? = some (.ofNat b)) (low : 0xa1 ≤ b) (high : b < 0xa1 + 94)
    (mapped : Gb2312.table.get? (row * 94 + (b - 0xa1)) = some c32) (nonnull : c32 ≠ 0) :
    gb2312Second s (n + 1) sb bytesleft row = some (.character c32 (sb + 1) .setInit) := by
  have value := toNat_ofNat_byte (show b < 256 by omega)
  have inside : row * 94 + (b - 0xa1) < 81 * 94 := (Table.get?_bounds mapped).1
  have index : (row * 94 + b - 0xa1) % 2 ^ 32 = row * 94 + (b - 0xa1) := by omega
  simp only [gb2312Second, second, value, bind_eq_bind, bind_some, index, mapped, nonnull, if_false]
  rw [if_neg (by omega), if_neg (by omega)]
  rfl

/-- The decoder at the leading byte of a row, unless that is 0xb0. -/
theorem gb2312Mbtoc32_leading {s : List UInt8} {n b row : ℕ} (first : s[0]? = some (.ofNat b))
    (layout : Gb2312.layout b = some row) (accepted : b ≠ 0xb0) :
    gb2312Mbtoc32 s (n + 1) .setInit = gb2312Second s n 1 1 row := by
  have byte : b < 256 := by
    rw [Gb2312.layout] at layout
    split_ifs at layout <;> omega
  have value := toNat_ofNat_byte byte
  have initial : Mbstate.setInit.bytesleft = 0 := rfl
  simp only [gb2312Mbtoc32, initial, if_true, first, value, bind_eq_bind, bind_some,
    Nat.add_sub_cancel]
  rw [if_neg (by omega)]
  rw [Gb2312.layout] at layout
  split_ifs at layout with lower upper
  · obtain rfl := some.inj layout
    rw [if_neg (by omega), if_pos (by omega)]
  · obtain rfl := some.inj layout
    have same : b - (0xa1 + 16) + 10 = b - 0xb0 + 9 := by omega
    rw [if_neg (by omega), if_neg (by omega), if_pos (by omega), same]

theorem gb2312C32tomb_cases {c32 : ℕ} {buf : List UInt8}
    (encoded : gb2312C32tomb c32 = some (.ok buf)) :
    c32 < 0x80 ∧ buf = [.ofNat c32] ∨
      ∃ b row b', buf = [.ofNat b, .ofNat b'] ∧ Gb2312.layout b = some row ∧ 0xa1 ≤ b' ∧
        b' < 0xa1 + 94 ∧ Gb2312.table.get? (row * 94 + (b' - 0xa1)) = some c32 ∧ c32 ≠ 0 := by
  rw [gb2312C32tomb] at encoded
  by_cases low : c32 < 0x80
  · rw [if_pos low] at encoded
    obtain rfl := Except.ok.inj (some.inj encoded)
    exact .inl ⟨low, rfl⟩
  · rw [if_neg low] at encoded
    obtain ⟨min, -, encoded⟩ := bind_eq_some_iff.mp encoded
    obtain ⟨pair, searched, encoded⟩ := bind_eq_some_iff.mp encoded
    by_cases found : c32 = pair / 2 ^ 16
    · rw [if_neg (not_not.mpr found)] at encoded
      obtain rfl := Except.ok.inj (some.inj encoded)
      have agrees : Gb2312.PairAgrees pair :=
        Table.forall_get? (by decide) Gb2312.pairs_agree searched
      have used : pair ≠ 0 := fun zero => low (by rw [found, zero]; decide)
      obtain ⟨low', high', mapped⟩ := agrees.resolve_left used
      obtain ⟨row, layout, mapped⟩ := bind_eq_some_iff.mp mapped
      rw [← found] at mapped
      exact .inr ⟨_, row, _, rfl, layout, low', high', mapped, by omega⟩
    · rw [if_pos found] at encoded
      cases encoded

/-- **The decoder undoes the encoder on all rows but the tenth.** -/
theorem gb2312_undoes (c32 : ℕ) (other : ¬ Gb2312.InTenthRow c32) : Undoes ctypeGb2312 c32 := by
  intro buf rest encoded
  obtain ⟨low, rfl⟩ | ⟨b, row, b', rfl, layout, low', high', mapped, nonnull⟩ :=
    gb2312C32tomb_cases encoded
  · have value := toNat_ofNat_byte (show c32 < 256 by omega)
    simp [ctypeGb2312, gb2312Mbtoc32, Mbstate.setInit, value, low]
  · have accepted : b ≠ 0xb0 := by
      rintro rfl
      obtain rfl := some.inj layout
      exact other ⟨b' - 0xa1, by omega, mapped⟩
    refine (gb2312Mbtoc32_leading rfl layout accepted).trans ?_
    exact gb2312Second_mapped rfl low' high' mapped nonnull

/-- **The decoder rejects the encodings of the tenth row.** -/
theorem gb2312_fails (c32 : ℕ) (tenth : Gb2312.InTenthRow c32) : Fails ctypeGb2312 c32 := by
  intro buf rest encoded
  obtain ⟨i, inside, mapped⟩ := tenth
  have leading := Gb2312.tenthRow_encodes i inside
  rw [mapped, bind_some] at leading
  obtain rfl := Except.ok.inj (some.inj (encoded.symm.trans leading))
  exact .inr ⟨.EILSEQ, by simp [ctypeGb2312, gb2312Mbtoc32, Mbstate.setInit]⟩

end Cloudlibc.Locale
