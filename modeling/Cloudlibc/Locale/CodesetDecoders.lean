import Cloudlibc.Locale.CodesetRoundTrip
import Cloudlibc.Locale.Utf8Decoding

/-!
# Laws of all the decoders

For each character set that `__lookup_ctype()` knows, the decoder is resumable
(`Resumable`), a character takes at least one byte, and the only error of the decoder and of the
encoder is `EILSEQ` (`Codeset.laws`, `Codeset.c32tomb_error`). No encoder reads outside its tables
(`Codeset.c32tomb_isSome`).
-/

set_option autoImplicit false

namespace Cloudlibc.Locale

open Cloudlibc.PackedTable List Option

/-- A result with one of the errors of a decoder, or with a character of at least one byte. -/
def Mbtoc32Result.Lawful : Mbtoc32Result → Prop
  | .error errno => errno = .EILSEQ
  | .incomplete _ => True
  | .character _ length _ => 0 < length

/-- What the users of a decoder rely on. -/
structure DecoderLaws (ctype : LcCtype) : Prop where
  resumable : Resumable ctype
  lawful : ∀ {s : List UInt8} {n : ℕ} {ps : Mbstate} {result : Mbtoc32Result},
    ctype.mbtoc32 s n ps = some result → result.Lawful

/-! ## Single byte character sets -/

/-- The result of a decoder that looks at one byte. -/
def singleByteResult : Option ℕ → Mbtoc32Result
  | none => .error .EILSEQ
  | some c32 => .character c32 1 .setInit

/-- The decoder looks at one byte. -/
def SingleByte (ctype : LcCtype) : Prop :=
  ∃ decode : UInt8 → Option (Option ℕ), ∀ s n ps, ctype.mbtoc32 s n ps =
    if n < 1 then some (.incomplete ps)
    else s[0]?.bind fun byte => (decode byte).map singleByteResult

theorem singleByteResult_lawful (c32 : Option ℕ) : (singleByteResult c32).Lawful := by
  cases c32 with
  | none => rfl
  | some c32 => exact Nat.one_pos

theorem SingleByte.laws {ctype : LcCtype} (single : SingleByte ctype) : DecoderLaws ctype := by
  obtain ⟨decode, mbtoc32⟩ := single
  constructor
  · intro a b ps
    simp only [mbtoc32]
    cases a with
    | nil => simp [Mbtoc32Result.resume]
    | cons byte bytes =>
      simp only [cons_append, length_cons, Nat.not_lt.mpr (Nat.succ_pos _), if_false,
        getElem?_cons_zero, bind_some, Nat.lt_one_iff]
      rcases decode byte with _ | _ | c32 <;> rfl
  · intro s n ps result called
    rw [mbtoc32] at called
    split_ifs at called
    · cases called
      trivial
    · obtain ⟨byte, -, called⟩ := bind_eq_some_iff.mp called
      obtain ⟨c32, -, rfl⟩ := map_eq_some_iff.mp called
      exact singleByteResult_lawful c32

theorem usAscii_singleByte : SingleByte ctypeUsAscii := by
  refine ⟨fun byte => some (if byte.toNat > 127 then none else some byte.toNat), ?_⟩
  intro s n ps
  show usAsciiMbtoc32 s n ps = _
  rw [usAsciiMbtoc32]
  split_ifs
  · rfl
  · cases s[0]? with
    | none => rfl
    | some byte =>
      simp only [bind_eq_bind, bind_some]
      split_ifs <;> rfl

theorem iso8859_1_singleByte : SingleByte ctypeIso8859_1 := by
  refine ⟨fun byte => some (some byte.toNat), ?_⟩
  intro s n ps
  show iso8859_1Mbtoc32 s n ps = _
  rw [iso8859_1Mbtoc32]
  split_ifs
  · rfl
  · cases s[0]? <;> rfl

theorem ibm037_singleByte : SingleByte ctypeIbm037 := by
  refine ⟨fun byte => (ibm037Decode.get? byte.toNat).map some, ?_⟩
  intro s n ps
  show ibm037Mbtoc32 s n ps = _
  rw [ibm037Mbtoc32]
  split_ifs
  · rfl
  · cases s[0]? with
    | none => rfl
    | some byte =>
      simp only [bind_eq_bind, bind_some]
      cases ibm037Decode.get? byte.toNat <;> rfl

theorem iso8859_15_singleByte : SingleByte ctypeIso8859_15 := by
  refine ⟨fun byte =>
    if byte.toNat ≥ 0xa4 ∨ byte.toNat < 0xa4 + iso8859_15Replacements.length then
      if byte.toNat < 0xa4 then none
      else (iso8859_15Replacements[byte.toNat - 0xa4]?).map some
    else some (some byte.toNat), ?_⟩
  intro s n ps
  show iso8859_15Mbtoc32 s n ps = _
  rw [iso8859_15Mbtoc32]
  split_ifs
  · rfl
  · cases s[0]? with
    | none => rfl
    | some byte =>
      simp only [bind_eq_bind, bind_some]
      split_ifs
      · rfl
      · cases iso8859_15Replacements[byte.toNat - 0xa4]? <;> rfl
      · rfl

theorem asciiplus_singleByte (set : AsciiplusSet) : SingleByte (ctypeAsciiplus set) := by
  refine ⟨fun byte =>
    if byte.toNat < 128 then some (some byte.toNat)
    else (set.tables.mbtoc16.get? (byte.toNat - 128)).map fun c16 =>
      if c16 = 0 then none else some c16, ?_⟩
  intro s n ps
  show asciiplusMbtoc32 set.tables s n ps = _
  rw [asciiplusMbtoc32]
  split_ifs
  · rfl
  · cases s[0]? with
    | none => rfl
    | some byte =>
      simp only [bind_eq_bind, bind_some]
      split_ifs
      · rfl
      · cases set.tables.mbtoc16.get? (byte.toNat - 128) with
        | none => rfl
        | some c16 =>
          simp only [bind_some, map_some]
          split_ifs <;> rfl

/-! ## GB 2312 -/

theorem gb2312Second_lawful {s : List UInt8} {n sb bytesleft partialC32 : ℕ}
    {result : Mbtoc32Result} (called : gb2312Second s n sb bytesleft partialC32 = some result) :
    result.Lawful := by
  rw [gb2312Second] at called
  split_ifs at called
  · cases called
    trivial
  · obtain ⟨byte, -, called⟩ := bind_eq_some_iff.mp called
    dsimp only at called
    split_ifs at called
    · cases called
      rfl
    · obtain ⟨c16, -, called⟩ := bind_eq_some_iff.mp called
      split_ifs at called
      · cases called
        rfl
      · cases called
        exact Nat.succ_pos sb

theorem gb2312Second_append (a b : List UInt8) (n sb bytesleft partialC32 : ℕ) :
    gb2312Second (a ++ b) n (a.length + sb) bytesleft partialC32 =
      (gb2312Second b n sb bytesleft partialC32).map (.shift a.length) := by
  rw [gb2312Second, gb2312Second, getElem?_append_right (Nat.le_add_right _ _),
    Nat.add_sub_cancel_left]
  split_ifs
  · rfl
  · cases b[sb]? with
    | none => rfl
    | some byte =>
      simp only [bind_eq_bind, bind_some]
      split_ifs
      · rfl
      · cases Gb2312.table.get? ((partialC32 * 94 + byte.toNat - 0xa1) % 2 ^ 32) with
        | none => rfl
        | some c16 =>
          simp only [bind_some]
          split_ifs <;> rfl

theorem gb2312Second_resume (a b : List UInt8) {n sb bytesleft partialC32 : ℕ}
    (whole : sb + n = a.length) (more : bytesleft ≠ 0) :
    gb2312Second (a ++ b) (n + b.length) sb bytesleft partialC32 =
      (gb2312Second a n sb bytesleft partialC32).bind fun result =>
        result.resume a.length fun ps => gb2312Mbtoc32 b b.length ps := by
  cases n with
  | zero =>
    obtain rfl : sb = a.length := whole
    have continued := gb2312Second_append a b b.length 0 bytesleft partialC32
    rw [zero_add]
    refine continued.trans ?_
    rw [gb2312Second.eq_def a, if_pos Nat.one_pos]
    show _ = (gb2312Mbtoc32 b b.length _).map _
    rw [gb2312Mbtoc32, if_neg (show ¬ (Mbstate.setMultibyte _ _ 0).bytesleft = 0 from more)]
    rfl
  | succ n =>
    have same : gb2312Second (a ++ b) (n + 1 + b.length) sb bytesleft partialC32 =
        gb2312Second a (n + 1) sb bytesleft partialC32 := by
      rw [gb2312Second, gb2312Second, getElem?_append_left (by omega), if_neg (by omega),
        if_neg (by omega)]
    rw [same, gb2312Second, if_neg (by omega)]
    cases a[sb]? with
    | none => rfl
    | some byte =>
      simp only [bind_eq_bind, bind_some]
      split_ifs
      · rfl
      · cases Gb2312.table.get? ((partialC32 * 94 + byte.toNat - 0xa1) % 2 ^ 32) with
        | none => rfl
        | some c16 =>
          simp only [bind_some]
          split_ifs <;> rfl

theorem gb2312_resumable : Resumable ctypeGb2312 := by
  intro a b ps
  show gb2312Mbtoc32 _ _ _ = (gb2312Mbtoc32 a a.length ps).bind fun result =>
    result.resume a.length fun ps => gb2312Mbtoc32 b b.length ps
  by_cases initial : ps.bytesleft = 0
  · cases a with
    | nil => simp [gb2312Mbtoc32, initial, Mbtoc32Result.resume]
    | cons byte bytes =>
      have second : ∀ {partialC32}, gb2312Second (byte :: (bytes ++ b))
          (bytes.length + b.length) 1 1 partialC32 = (gb2312Second (byte :: bytes) bytes.length 1
            1 partialC32).bind fun result => result.resume (byte :: bytes).length fun ps =>
              gb2312Mbtoc32 b b.length ps :=
        gb2312Second_resume (byte :: bytes) b (Nat.add_comm _ _) one_ne_zero
      rw [gb2312Mbtoc32, gb2312Mbtoc32, if_pos initial, if_pos initial]
      simp only [cons_append, length_cons, length_append, Nat.lt_one_iff, Nat.succ_ne_zero,
        if_false, getElem?_cons_zero, bind_eq_bind, bind_some, Nat.add_sub_cancel]
      split_ifs
      · rfl
      · exact second
      · exact second
      · rfl
  · rw [gb2312Mbtoc32, gb2312Mbtoc32, if_neg initial, if_neg initial, length_append]
    exact gb2312Second_resume a b (Nat.zero_add _) initial

theorem gb2312_laws : DecoderLaws ctypeGb2312 where
  resumable := gb2312_resumable
  lawful := by
    intro s n ps result called
    change gb2312Mbtoc32 s n ps = some result at called
    rw [gb2312Mbtoc32] at called
    split_ifs at called
    · cases called
      trivial
    · obtain ⟨byte, -, called⟩ := bind_eq_some_iff.mp called
      dsimp only at called
      split_ifs at called
      · cases called
        exact Nat.one_pos
      · exact gb2312Second_lawful called
      · exact gb2312Second_lawful called
      · cases called
        rfl
    · exact gb2312Second_lawful called

/-! ## UTF-8 -/

theorem utf8_laws : DecoderLaws ctypeUtf8 where
  resumable := utf8_resumable
  lawful := by
    intro s n ps result called
    obtain rfl | ⟨rfl, -⟩ | ⟨_, _, _, -, rfl⟩ | ⟨_, _, positive, rfl⟩ := utf8Mbtoc32_cases called
    exacts [rfl, trivial, trivial, positive]

/-! ## All character sets -/

theorem Codeset.laws (codeset : Codeset) : DecoderLaws codeset.ctype := by
  cases codeset with
  | usAscii => exact usAscii_singleByte.laws
  | utf8 => exact utf8_laws
  | gb2312 => exact gb2312_laws
  | ibm037 => exact ibm037_singleByte.laws
  | iso8859_1 => exact iso8859_1_singleByte.laws
  | iso8859_15 => exact iso8859_15_singleByte.laws
  | asciiplus set => exact (asciiplus_singleByte set).laws

/-! ## Encoders -/

/-- The error of an encoder, or at most four bytes. -/
def LawfulEncoding : Except Errno (List UInt8) → Prop
  | .error errno => errno = .EILSEQ
  | .ok bytes => bytes.length ≤ 4

/-- The encoder reads nothing outside its tables. -/
def Encoder (c32tomb : Option (Except Errno (List UInt8))) : Prop :=
  ∃ result, c32tomb = some result ∧ LawfulEncoding result

theorem Encoder.error : Encoder (some (.error .EILSEQ)) := ⟨_, rfl, rfl⟩

theorem Encoder.ok {bytes : List UInt8} (short : bytes.length ≤ 4) : Encoder (some (.ok bytes)) :=
  ⟨_, rfl, short⟩

theorem asciiplusTables_total (set : AsciiplusSet) :
    (∀ i < 128, (set.tables.c16tombC16.get? i).isSome) ∧
      ∀ i < 128, (set.tables.c16tombB.get? i).isSome := by
  cases set <;> decide +kernel

theorem asciiplusC32tomb_encoder (set : AsciiplusSet) (c32 : ℕ) :
    Encoder (asciiplusC32tomb set.tables c32) := by
  obtain ⟨total, bytes⟩ := asciiplusTables_total set
  obtain ⟨min, searched, inside⟩ := lastNotAbove_spec c32 (show 2 ≤ 128 by decide) total
  obtain ⟨c16, found⟩ := isSome_iff_exists.mp (total min inside)
  obtain ⟨b, byte⟩ := isSome_iff_exists.mp (bytes min inside)
  rw [asciiplusC32tomb, searched]
  simp only [found, byte, bind_eq_bind, bind_some]
  split_ifs
  exacts [.ok (by simp), .error, .ok (by simp)]

theorem Gb2312.pairs_total {i : ℕ} (inside : i < 7445) : (pairs.get? i).isSome :=
  Table.get?_isSome (by decide +kernel) (by decide) inside

theorem gb2312C32tomb_encoder (c32 : ℕ) : Encoder (gb2312C32tomb c32) := by
  have total : ∀ i < 7445, (Gb2312.pairC16 i).isSome := by
    intro i inside
    rw [Gb2312.pairC16, isSome_map]
    exact Gb2312.pairs_total inside
  obtain ⟨min, searched, inside⟩ := lastNotAbove_spec c32 (show 2 ≤ 7445 by decide) total
  obtain ⟨pair, found⟩ := isSome_iff_exists.mp (Gb2312.pairs_total inside)
  rw [gb2312C32tomb, searched]
  simp only [found, bind_eq_bind, bind_some]
  split_ifs
  exacts [.ok (by simp), .error, .ok (by simp)]

theorem Codeset.encoder (codeset : Codeset) (c32 : ℕ) : Encoder (codeset.ctype.c32tomb c32) := by
  cases codeset with
  | usAscii =>
    show Encoder (usAsciiC32tomb c32)
    rw [usAsciiC32tomb]
    split_ifs
    exacts [.error, .ok (by simp)]
  | utf8 =>
    show Encoder (utf8C32tomb c32)
    rw [utf8C32tomb]
    split_ifs
    exacts [.ok (by simp), .ok (by simp), .error, .ok (by simp), .ok (by simp), .error]
  | gb2312 => exact gb2312C32tomb_encoder c32
  | ibm037 =>
    show Encoder (ibm037C32tomb c32)
    rw [ibm037C32tomb]
    split_ifs with high
    · exact .error
    · obtain ⟨b, found, -⟩ := bind_eq_some_iff.mp (ibm037Tables_agree c32 (by omega))
      rw [found]
      exact .ok (by simp)
  | iso8859_1 =>
    show Encoder (iso8859_1C32tomb c32)
    rw [iso8859_1C32tomb]
    split_ifs
    exacts [.error, .ok (by simp)]
  | iso8859_15 =>
    show Encoder (iso8859_15C32tomb c32)
    rw [iso8859_15C32tomb]
    split_ifs
    · exact .ok (by simp)
    · split
      exacts [.ok (by simp), .error]
  | asciiplus set => exact asciiplusC32tomb_encoder set c32

/-- No encoder reads outside its tables. -/
theorem Codeset.c32tomb_isSome (codeset : Codeset) (c32 : ℕ) :
    (codeset.ctype.c32tomb c32).isSome := by
  obtain ⟨result, encoded, -⟩ := codeset.encoder c32
  exact isSome_iff_exists.mpr ⟨result, encoded⟩

theorem Codeset.c32tomb_lawful {codeset : Codeset} {c32 : ℕ} {result : Except Errno (List UInt8)}
    (encoded : codeset.ctype.c32tomb c32 = some result) : LawfulEncoding result := by
  obtain ⟨result', encoded', lawful⟩ := codeset.encoder c32
  rwa [some.inj (encoded.symm.trans encoded')]

/-- The only error of an encoder. -/
theorem Codeset.c32tomb_error {codeset : Codeset} {c32 : ℕ} {errno : Errno}
    (failed : codeset.ctype.c32tomb c32 = some (.error errno)) : errno = .EILSEQ :=
  c32tomb_lawful failed

/-- An encoded character has at most four bytes. -/
theorem Codeset.length_c32tomb_le {codeset : Codeset} {c32 : ℕ} {bytes : List UInt8}
    (encoded : codeset.ctype.c32tomb c32 = some (.ok bytes)) : bytes.length ≤ 4 :=
  c32tomb_lawful encoded

end Cloudlibc.Locale
