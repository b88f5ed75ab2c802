import Cloudlibc.Locale.Asciiplus
import Cloudlibc.Locale.Gb2312
import Cloudlibc.Locale.SingleByte
import Cloudlibc.Locale.Utf8

/-!
# Round trips through all the character sets

For each character set that `__lookup_ctype()` knows, decoding what the encoder has written gives
the characters back, unless one of them is one that the decoder of the set cannot read
(`mbstoc32s_c32stombs_iff`). There are two sets with such characters. In GB 2312 they are the 94
characters of row 16 (`gb2312_row16_fails`), in ISO-8859-15 all that are not in its table of
replacements.
-/

set_option autoImplicit false

namespace Cloudlibc.Locale

/-- The character sets of the library. -/
inductive Codeset
  | usAscii
  | utf8
  | gb2312
  | ibm037
  | iso8859_1
  | iso8859_15
  | asciiplus (set : AsciiplusSet)
  deriving DecidableEq, Repr

/-- The `lc_ctype` of a character set. -/
def Codeset.ctype : Codeset → LcCtype
  | .usAscii => ctypeUsAscii
  | .utf8 => ctypeUtf8
  | .gb2312 => ctypeGb2312
  | .ibm037 => ctypeIbm037
  | .iso8859_1 => ctypeIso8859_1
  | .iso8859_15 => ctypeIso8859_15
  | .asciiplus set => ctypeAsciiplus set

/-- The characters that the decoder of a set reads back. -/
def Codeset.Decodes : Codeset → ℕ → Prop
  | .gb2312, c32 => ¬ Gb2312.InTenthRow c32
  | .iso8859_15, c32 => c32 ∈ iso8859_15Replacements
  | _, _ => True

/-- At the end of a string the decoders stay in the initial state. -/
theorem Codeset.mbtoc32_nil (codeset : Codeset) :
    codeset.ctype.mbtoc32 [] 0 .setInit = some (.incomplete .setInit) := by
  cases codeset <;> rfl

theorem Codeset.undoes (codeset : Codeset) (c32 : ℕ) (decodes : codeset.Decodes c32) :
    Undoes codeset.ctype c32 := by
  cases codeset with
  | usAscii => exact usAscii_undoes c32
  | utf8 => exact utf8_undoes c32
  | gb2312 => exact gb2312_undoes c32 decodes
  | ibm037 => exact ibm037_undoes c32
  | iso8859_1 => exact iso8859_1_undoes c32
  | iso8859_15 => exact iso8859_15_undoes c32 decodes
  | asciiplus set => exact asciiplus_undoes set c32

theorem Codeset.fails (codeset : Codeset) (c32 : ℕ) (undecodable : ¬ codeset.Decodes c32) :
    Fails codeset.ctype c32 := by
  cases codeset with
  | gb2312 => exact gb2312_fails c32 (not_not.mp undecodable)
  | iso8859_15 => exact iso8859_15_fails c32 undecodable
  | usAscii | utf8 | ibm037 | iso8859_1 | asciiplus set => exact absurd trivial undecodable

/-- **Round trips.** `mbtoc32()` undoes `c32tomb()` on a character, and `mbstoc32s()` undoes
`c32stombs()` on a string, if and only if the decoder of the character set reads these characters
back. -/
theorem mbstoc32s_c32stombs_iff (codeset : Codeset) :
    (∀ c32 buf, codeset.ctype.c32tomb c32 = some (.ok buf) →
      (codeset.ctype.mbtoc32 buf buf.length .setInit =
          some (.character c32 buf.length .setInit) ↔ codeset.Decodes c32)) ∧
    ∀ s n len ret dst src len' allowNull,
      c32stombs codeset.ctype (some len) s n = some ⟨.ok ret, dst, src⟩ →
      (converted s src).length ≤ len' →
      (mbstoc32s codeset.ctype (some len') (dst.take ret) ret .setInit allowNull =
          some ⟨.ok (converted s src).length, converted s src, some ret, .setInit⟩ ↔
        ∀ c32 ∈ converted s src, codeset.Decodes c32) := by
  constructor
  · intro c32 buf encoded
    constructor
    · intro decoded
      by_contra undecodable
      have fails := codeset.fails c32 undecodable buf [] encoded
      rw [List.append_nil, decoded] at fails
      simp at fails
    · intro decodes
      have undone := codeset.undoes c32 decodes buf [] encoded
      rwa [List.append_nil] at undone
  · intro s n len ret dst src len' allowNull ran room
    obtain ⟨encodes, nonnull, length⟩ := c32stombs_encodes ran
    have decoded := mbstoc32s_encoding_iff codeset.mbtoc32_nil codeset.undoes codeset.fails encodes
      nonnull room allowNull
    rwa [← length] at decoded

/-- An ideographic full stop goes through GB 2312. -/
theorem mbstoc32s_c32stombs_fullStop :
    mbstoc32s Codeset.gb2312.ctype (some 1) [0xa1, 0xa3] 2 .setInit false =
        some ⟨.ok 1, [0x3002], some 2, .setInit⟩ ↔
      ∀ c32 ∈ [0x3002], Codeset.gb2312.Decodes c32 :=
  (mbstoc32s_c32stombs_iff .gb2312).2 [0x3002] 1 2 2 [0xa1, 0xa3] (some 1) 1 false
    (by decide +kernel) (by decide)

/-- The first character of row 16 of GB 2312 is encoded, and its encoding is rejected. -/
theorem gb2312_row16_fails :
    c32stombs Codeset.gb2312.ctype (some 2) [0x554a] 1 = some ⟨.ok 2, [0xb0, 0xa1], some 1⟩ ∧
      mbstoc32s Codeset.gb2312.ctype (some 1) [0xb0, 0xa1] 2 .setInit false =
        some ⟨.error .EILSEQ, [], some 0, .setInit⟩ := by
  decide +kernel

end Cloudlibc.Locale
