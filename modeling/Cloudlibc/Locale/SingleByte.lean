import Cloudlibc.Foundations.PackedTable
import Cloudlibc.Locale.Ctype

/-!
# Single byte character sets

US-ASCII, ISO-8859-1, ISO-8859-15 and IBM037, from `us_ascii.c`, `iso_8859_1.h`, `iso_8859_15.h` and
`ibm037.h` in `libc/locale/ctype`.

The decoders of US-ASCII, ISO-8859-1 and IBM037 undo the encoders. The decoder of ISO-8859-15 looks
up every byte in a table that only has the bytes 0xa4 to 0xbe: the two bounds in its test are
joined by "or". It undoes the encoder on the characters of the table (`iso8859_15_undoes`), and
reads outside the table for every other character (`iso8859_15_fails`).
-/

set_option autoImplicit false

namespace Cloudlibc.Locale

open Cloudlibc.PackedTable List Option

/-! ## US-ASCII -/

/-- `us_ascii_mbtoc32()`. -/
def usAsciiMbtoc32 (s : List UInt8) (n : ℕ) (ps : Mbstate) : Option Mbtoc32Result := do
  if n < 1 then
    return .incomplete ps
  else
    let b := (← s[0]?).toNat
    if b > 127 then
      return .error .EILSEQ
    else
      return .character b 1 .setInit

/-- `us_ascii_c32tomb()`. -/
def usAsciiC32tomb (c32 : ℕ) : Option (Except Errno (List UInt8)) :=
  if c32 > 127 then
    some (.error .EILSEQ)
  else
    some (.ok [.ofNat c32])

/-- `__ctype_us_ascii`. -/
def ctypeUsAscii : LcCtype where
  codeset := "US-ASCII"
  mbtoc32 := usAsciiMbtoc32
  c32tombMax := 1
  c32tomb := usAsciiC32tomb

theorem usAscii_undoes (c32 : ℕ) : Undoes ctypeUsAscii c32 := by
  intro buf rest encoded
  simp only [ctypeUsAscii, usAsciiC32tomb] at encoded ⊢
  split_ifs at encoded with high
  · cases encoded
  · obtain rfl := Except.ok.inj (some.inj encoded)
    simp [usAsciiMbtoc32, toNat_ofNat_byte (show c32 < 256 by omega), high]

/-! ## ISO-8859-1 -/

/-- `iso_8859_1_mbtoc32()`. -/
def iso8859_1Mbtoc32 (s : List UInt8) (n : ℕ) (ps : Mbstate) : Option Mbtoc32Result := do
  if n < 1 then
    return .incomplete ps
  else
    return .character (← s[0]?).toNat 1 .setInit

/-- `iso_8859_1_c32tomb()`. -/
def iso8859_1C32tomb (c32 : ℕ) : Option (Except Errno (List UInt8)) :=
  if c32 > 255 then
    some (.error .EILSEQ)
  else
    some (.ok [.ofNat c32])

/-- `ctype_iso_8859_1`. -/
def ctypeIso8859_1 : LcCtype where
  codeset := "ISO-8859-1"
  mbtoc32 := iso8859_1Mbtoc32
  c32tombMax := 1
  c32tomb := iso8859_1C32tomb

theorem iso8859_1_undoes (c32 : ℕ) : Undoes ctypeIso8859_1 c32 := by
  intro buf rest encoded
  simp only [ctypeIso8859_1, iso8859_1C32tomb] at encoded ⊢
  split_ifs at encoded with high
  · cases encoded
  · obtain rfl := Except.ok.inj (some.inj encoded)
    simp [iso8859_1Mbtoc32, toNat_ofNat_byte (show c32 < 256 by omega)]

/-! ## IBM037 -/

/-- The table of `ibm037_mbtoc32()`. -/
def ibm037Decode : Table := ⟨8, 16, 16, 256, [[
    0x00_01_02_03_9c_09_86_7f_97_8d_8e_0b_0c_0d_0e_0f,
    0x10_11_12_13_9d_85_08_87_18_19_92_8f_1c_1d_1e_1f,
    0x80_81_82_83_84_0a_17_1b_88_89_8a_8b_8c_05_06_07,
    0x90_91_16_93_94_95_96_04_98_99_9a_9b_14_15_9e_1a,
    0x20_a0_e2_e4_e0_e1_e3_e5_e7_f1_a2_2e_3c_28_2b_7c,
    0x26_e9_ea_eb_e8_ed_ee_ef_ec_df_21_24_2a_29_3b_ac,
    0x2d_2f_c2_c4_c0_c1_c3_c5_c7_d1_a6_2c_25_5f_3e_3f,
    0xf8_c9_ca_cb_c8_cd_ce_cf_cc_60_3a_23_40_27_3d_22,
    0xd8_61_62_63_64_65_66_67_68_69_ab_bb_f0_fd_fe_b1,
    0xb0_6a_6b_6c_6d_6e_6f_70_71_72_aa_ba_e6_b8_c6_a4,
    0xb5_7e_73_74_75_76_77_78_79_7a_a1_bf_d0_dd_de_ae,
    0x5e_a3_a5_b7_a9_a7_b6_bc_bd_be_5b_5d_af_a8_b4_d7,
    0x7b_41_42_43_44_45_46_47_48_49_ad_f4_f6_f2_f3_f5,
    0x7d_4a_4b_4c_4d_4e_4f_50_51_52_b9_fb_fc_f9_fa_ff,
    0x5c_f7_53_54_55_56_57_58_59_5a_b2_d4_d6_d2_d3_d5,
    0x30_31_32_33_34_35_36_37_38_39_b3_db_dc_d9_da_9f]]⟩

/-- The table of `ibm037_c32tomb()`. -/
def ibm037Encode : Table := ⟨8, 16, 16, 256, [[
    0x00_01_02_03_37_2d_2e_2f_16_05_25_0b_0c_0d_0e_0f,
    0x10_11_12_13_3c_3d_32_26_18_19_3f_27_1c_1d_1e_1f,
    0x40_5a_7f_7b_5b_6c_50_7d_4d_5d_5c_4e_6b_60_4b_61,
    0xf0_f1_f2_f3_f4_f5_f6_f7_f8_f9_7a_5e_4c_7e_6e_6f,
    0x7c_c1_c2_c3_c4_c5_c6_c7_c8_c9_d1_d2_d3_d4_d5_d6,
    0xd7_d8_d9_e2_e3_e4_e5_e6_e7_e8_e9_ba_e0_bb_b0_6d,
    0x79_81_82_83_84_85_86_87_88_89_91_92_93_94_95_96,
    0x97_98_99_a2_a3_a4_a5_a6_a7_a8_a9_c0_4f_d0_a1_07,
    0x20_21_22_23_24_15_06_17_28_29_2a_2b_2c_09_0a_1b,
    0x30_31_1a_33_34_35_36_08_38_39_3a_3b_04_14_3e_ff,
    0x41_aa_4a_b1_9f_b2_6a_b5_bd_b4_9a_8a_5f_ca_af_bc,
    0x90_8f_ea_fa_be_a0_b6_b3_9d_da_9b_8b_b7_b8_b9_ab,
    0x64_65_62_66_63_67_9e_68_74_71_72_73_78_75_76_77,
    0xac_69_ed_ee_eb_ef_ec_bf_80_fd_fe_fb_fc_ad_ae_59,
    0x44_45_42_46_43_47_9c_48_54_51_52_53_58_55_56_57,
    0x8c_49_cd_ce_cb_cf_cc_e1_70_dd_de_db_dc_8d_8e_df]]⟩

/-- `ibm037_mbtoc32()`. -/
def ibm037Mbtoc32 (s : List UInt8) (n : ℕ) (ps : Mbstate) : Option Mbtoc32Result := do
  if n < 1 then
    return .incomplete ps
  else
    return .character (← ibm037Decode.get? (← s[0]?).toNat) 1 .setInit

/-- `ibm037_c32tomb()`. -/
def ibm037C32tomb (c32 : ℕ) : Option (Except Errno (List UInt8)) := do
  if c32 > 255 then
    return .error .EILSEQ
  else
    return .ok [.ofNat (← ibm037Encode.get? c32)]

/-- `ctype_ibm037`. -/
def ctypeIbm037 : LcCtype where
  codeset := "IBM037"
  mbtoc32 := ibm037Mbtoc32
  c32tombMax := 1
  c32tomb := ibm037C32tomb

/-- The two tables of IBM037 are inverse to each other. -/
theorem ibm037Tables_agree :
    ∀ c32 < 256, ((ibm037Encode.get? c32).bind fun b => ibm037Decode.get? b) = some c32 := by
  decide +kernel

theorem ibm037_undoes (c32 : ℕ) : Undoes ctypeIbm037 c32 := by
  intro buf rest encoded
  simp only [ctypeIbm037, ibm037C32tomb] at encoded ⊢
  split_ifs at encoded with high
  · cases encoded
  · obtain ⟨b, searched, encoded⟩ := bind_eq_some_iff.mp encoded
    obtain rfl := Except.ok.inj (some.inj encoded)
    have agree := ibm037Tables_agree c32 (by omega)
    rw [searched, bind_some] at agree
    have byte : b < 256 := (Table.get?_bounds searched).2
    simp [ibm037Mbtoc32, toNat_ofNat_byte byte, agree]

/-! ## ISO-8859-15 -/

/-- `iso_8859_15_replacements`. -/
def iso8859_15Replacements : List ℕ :=
  [0x20ac, 0xa5, 0x160, 0xa7, 0x161, 0xa9, 0xaa, 0xab, 0xac,
    0xad, 0xae, 0xaf, 0xb0, 0xb1, 0xb2, 0xb3, 0x17d, 0xb5,
    0xb6, 0xb7, 0x17e, 0xb9, 0xba, 0xbb, 0x152, 0x153, 0x178]

/-- `iso_8859_15_mbtoc32()`. The index into the table may be negative. -/
def iso8859_15Mbtoc32 (s : List UInt8) (n : ℕ) (ps : Mbstate) : Option Mbtoc32Result := do
  if n < 1 then
    return .incomplete ps
  else
    let ch := (← s[0]?).toNat
    if ch ≥ 0xa4 ∨ ch < 0xa4 + iso8859_15Replacements.length then
      if ch < 0xa4 then
        failure
      else
        return .character (← iso8859_15Replacements[ch - 0xa4]?) 1 .setInit
    else
      return .character ch 1 .setInit

/-- `iso_8859_15_c32tomb()`. -/
def iso8859_15C32tomb (c32 : ℕ) : Option (Except Errno (List UInt8)) :=
  if c32 < 0xa4 ∨ c32 ≤ 255 ∧ (c32 ≥ 0xa4 + iso8859_15Replacements.length ∨
      iso8859_15Replacements[c32 - 0xa4]? = some c32) then
    some (.ok [.ofNat c32])
  else
    match iso8859_15Replacements.findIdx? (· == c32) with
    | some i => some (.ok [.ofNat (i + 0xa4)])
    | none => some (.error .EILSEQ)

/-- `ctype_iso_8859_15`. -/
def ctypeIso8859_15 : LcCtype where
  codeset := "ISO-8859-15"
  mbtoc32 := iso8859_15Mbtoc32
  c32tombMax := 1
  c32tomb := iso8859_15C32tomb

theorem iso8859_15Mbtoc32_inside {b c32 : ℕ} (above : 0xa4 ≤ b)
    (mapped : iso8859_15Replacements[b - 0xa4]? = some c32) (rest : List UInt8) :
    iso8859_15Mbtoc32 (.ofNat b :: rest) (rest.length + 1) .setInit =
      some (.character c32 1 .setInit) := by
  have inside : b - 0xa4 < 27 := (List.getElem?_eq_some_iff.mp mapped).1
  have always : b ≥ 0xa4 ∨ b < 0xa4 + iso8859_15Replacements.length := .inl above
  simp only [iso8859_15Mbtoc32, toNat_ofNat_byte (show b < 256 by omega), getElem?_cons_zero,
    bind_eq_bind, bind_some, always, if_true]
  rw [if_neg (by omega), if_neg (by omega), mapped]
  rfl

theorem iso8859_15Mbtoc32_outside {b : ℕ} (byte : b < 256) (outside : b < 0xa4 ∨ 0xa4 + 27 ≤ b)
    (rest : List UInt8) :
    iso8859_15Mbtoc32 (.ofNat b :: rest) (rest.length + 1) .setInit = none := by
  have length : iso8859_15Replacements.length = 27 := rfl
  have always : b ≥ 0xa4 ∨ b < 0xa4 + iso8859_15Replacements.length := by omega
  simp only [iso8859_15Mbtoc32, toNat_ofNat_byte byte, getElem?_cons_zero, bind_eq_bind,
    bind_some, always, if_true]
  rw [if_neg (by omega)]
  rcases outside with below | above
  · rw [if_pos below]
    rfl
  · rw [if_neg (by omega), getElem?_eq_none (by omega)]
    rfl

/-- The encoder writes a byte of the table for the characters of the table, and another byte for
all the other characters. -/
theorem iso8859_15C32tomb_cases {c32 : ℕ} {buf : List UInt8}
    (encoded : iso8859_15C32tomb c32 = some (.ok buf)) : ∃ b < 256, buf = [.ofNat b] ∧
      (c32 ∈ iso8859_15Replacements ∧ 0xa4 ≤ b ∧ iso8859_15Replacements[b - 0xa4]? = some c32 ∨
        c32 ∉ iso8859_15Replacements ∧ (b < 0xa4 ∨ 0xa4 + 27 ≤ b)) := by
  have entries : ∀ r ∈ iso8859_15Replacements, 0xa4 < r ∧ (r < 0xa4 + 27 ∨ 255 < r) := by decide
  have length : iso8859_15Replacements.length = 27 := rfl
  rw [iso8859_15C32tomb] at encoded
  split_ifs at encoded with direct
  · obtain rfl := Except.ok.inj (some.inj encoded)
    refine ⟨c32, by omega, rfl, ?_⟩
    by_cases low : c32 < 0xa4
    · exact .inr ⟨fun member => by have := entries c32 member; omega, .inl low⟩
    · obtain ⟨byte, high | same⟩ := direct.resolve_left low
      · exact .inr ⟨fun member => by have := entries c32 member; omega, .inr (by omega)⟩
      · exact .inl ⟨mem_of_getElem? same, by omega, same⟩
  · split at encoded
    · rename_i i found
      obtain rfl := Except.ok.inj (some.inj encoded)
      obtain ⟨inside, equal, -⟩ := findIdx?_eq_some_iff_getElem.mp found
      have lookup : iso8859_15Replacements[i]? = some c32 := by
        rw [getElem?_eq_getElem inside, eq_of_beq equal]
      exact ⟨i + 0xa4, by omega, rfl,
        .inl ⟨mem_of_getElem? lookup, by omega, by rwa [Nat.add_sub_cancel]⟩⟩
    · cases encoded

/-- On the characters of its table the decoder of ISO-8859-15 undoes the encoder. -/
theorem iso8859_15_undoes (c32 : ℕ) (replaced : c32 ∈ iso8859_15Replacements) :
    Undoes ctypeIso8859_15 c32 := by
  intro buf rest encoded
  obtain ⟨b, -, rfl, ⟨-, above, mapped⟩ | ⟨direct, -⟩⟩ := iso8859_15C32tomb_cases encoded
  · exact iso8859_15Mbtoc32_inside above mapped rest
  · exact absurd replaced direct

/-- On all other characters it reads outside the table. -/
theorem iso8859_15_fails (c32 : ℕ) (direct : c32 ∉ iso8859_15Replacements) :
    Fails ctypeIso8859_15 c32 := by
  intro buf rest encoded
  obtain ⟨b, byte, rfl, ⟨replaced, -⟩ | ⟨-, outside⟩⟩ := iso8859_15C32tomb_cases encoded
  · exact absurd replaced direct
  · exact .inl (iso8859_15Mbtoc32_outside byte outside rest)

end Cloudlibc.Locale
