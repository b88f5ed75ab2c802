import Cloudlibc.Locale.Resumption
import Cloudlibc.Locale.Utf8

/-!
# UTF-8 in chunks

The decoder of UTF-8 reads the bytes of a character in any number of calls, and it accepts the
well-formed encodings only: it looks for overlong forms, surrogates and values above U+10FFFF at the
last byte of a character, in the partial value that the `mbstate_t` keeps.

Well-formed UTF-8 is what `String.utf8EncodeChar` writes for the Unicode scalar values, that is, for
the values of `Char`. The main result (`utf8_feedChunks`) is that feeding a byte string in chunks
succeeds if and only if it is well-formed.
-/

set_option autoImplicit false

namespace Cloudlibc.Locale

open List Option

/-! ## Resumption -/

theorem utf8Continue_append (a b : List UInt8) (n : ℕ) :
    ∀ (sb bytesleft partialC32 lowerbound : ℕ),
      utf8Continue (a ++ b) n (a.length + sb) bytesleft partialC32 lowerbound =
        (utf8Continue b n sb bytesleft partialC32 lowerbound).map (.shift a.length) := by
  induction n with
  | zero =>
    intro sb bytesleft partialC32 lowerbound
    rfl
  | succ n ih =>
    intro sb bytesleft partialC32 lowerbound
    rw [utf8Continue, utf8Continue, getElem?_append_right (Nat.le_add_right _ _),
      Nat.add_sub_cancel_left]
    cases b[sb]? with
    | none => rfl
    | some byte =>
      simp only [bind_eq_bind, bind_some]
      split_ifs with lead last bad
      · rfl
      · rfl
      · rfl
      · rw [add_assoc, ih]

theorem utf8Mbtoc32_continue (s : List UInt8) (ps : Mbstate) (started : ps.bytesleft ≠ 0)
    (nonempty : s ≠ []) :
    utf8Mbtoc32 s s.length ps =
      utf8Continue s s.length 0 ps.bytesleft ps.partialC32 ps.lowerbound := by
  have some : ¬ s.length < 1 := Nat.not_lt.mpr (length_pos_iff.mpr nonempty)
  rw [utf8Mbtoc32, if_neg some, if_neg started]

/-- The loop over the bytes of `a` and `b` is the loop over those of `a`, and then the one over
those of `b`. -/
theorem utf8Continue_resume (a b : List UInt8) (n : ℕ) :
    ∀ (sb bytesleft partialC32 lowerbound : ℕ), sb + n = a.length → bytesleft ≠ 0 →
      utf8Continue (a ++ b) (n + b.length) sb bytesleft partialC32 lowerbound =
        (utf8Continue a n sb bytesleft partialC32 lowerbound).bind fun result =>
          result.resume a.length fun ps => utf8Mbtoc32 b b.length ps := by
  induction n with
  | zero =>
    intro sb bytesleft partialC32 lowerbound whole more
    obtain rfl : sb = a.length := whole
    rw [utf8Continue, bind_some, Mbtoc32Result.resume, zero_add]
    by_cases nonempty : b = []
    · subst nonempty
      rfl
    · rw [utf8Mbtoc32_continue b _ more nonempty]
      exact utf8Continue_append a b b.length 0 bytesleft partialC32 lowerbound
  | succ n ih =>
    intro sb bytesleft partialC32 lowerbound whole more
    have inside : sb < a.length := by omega
    rw [Nat.succ_add, utf8Continue, utf8Continue, getElem?_append_left inside]
    cases a[sb]? with
    | none => rfl
    | some byte =>
      simp only [bind_eq_bind, bind_some]
      split_ifs with lead last bad
      · rfl
      · rfl
      · rfl
      · exact ih (sb + 1) (bytesleft - 1) _ lowerbound (by omega) last

theorem utf8_resumable : Resumable ctypeUtf8 := by
  intro a b ps
  show utf8Mbtoc32 _ _ _ = (utf8Mbtoc32 a a.length ps).bind fun result =>
    result.resume a.length fun ps => utf8Mbtoc32 b b.length ps
  cases a with
  | nil => simp [utf8Mbtoc32, Mbtoc32Result.resume]
  | cons byte bytes =>
    have continued := utf8Continue_resume (byte :: bytes) b
    have length : (byte :: bytes ++ b).length = bytes.length + b.length + 1 := by
      simp
    by_cases started : ps.bytesleft = 0
    · have some : ¬ bytes.length + b.length + 1 < 1 := by omega
      have some' : ¬ (byte :: bytes).length < 1 := by simp
      rw [length, utf8Mbtoc32, if_neg some, if_pos started, utf8Mbtoc32, if_neg some',
        if_pos started]
      simp only [cons_append, getElem?_cons_zero, bind_eq_bind, bind_some]
      split_ifs with one two three four
      · rfl
      · exact continued bytes.length 1 1 _ _ (Nat.add_comm _ _) one_ne_zero
      · exact continued bytes.length 1 2 _ _ (Nat.add_comm _ _) two_ne_zero
      · exact continued bytes.length 1 3 _ _ (Nat.add_comm _ _) three_ne_zero
      · rfl
    · rw [utf8Mbtoc32_continue (byte :: bytes) ps started (cons_ne_nil _ _),
        utf8Mbtoc32_continue (byte :: bytes ++ b) ps started (cons_ne_nil _ _), length_append]
      exact continued (byte :: bytes).length 0 _ _ _ (Nat.zero_add _) started

/-! ## Decoded bytes are encodings -/

theorem continuation_payload : ∀ b < 256, b &&& 0xc0 = 0x80 →
    b &&& 0x3f < 64 ∧ 0x80 ||| b &&& 0x3f = b := by
  decide +kernel

theorem leading_payload : ∀ b < 256,
    (0xc0 ≤ b → b < 0xe0 → b &&& 0x1f < 32 ∧ 0xc0 ||| b &&& 0x1f = b) ∧
    (0xe0 ≤ b → b < 0xf0 → b &&& 0xf < 16 ∧ 0xe0 ||| b &&& 0xf = b) ∧
    (0xf0 ≤ b → b < 0xf8 → b &&& 0x7 < 8 ∧ 0xf0 ||| b &&& 0x7 = b) := by
  decide +kernel

variable {n c32 : ℕ} {s : List UInt8}

/-- The loop has decoded a character: what it has done with the next byte. -/
theorem utf8Continue_character {sb bytesleft high lowerbound length : ℕ} {ps : Mbstate}
    (small : high < 2 ^ 26)
    (decoded : utf8Continue s n sb bytesleft high lowerbound = some (.character c32 length ps)) :
    ∃ x < 64, s[sb]? = some (.ofNat (0x80 ||| x)) ∧
      if bytesleft - 1 = 0 then
        c32 = 64 * high + x ∧ length = sb + 1 ∧ ps = .setInit ∧ lowerbound ≤ c32 ∧
          ¬ (c32 ≥ 0xd800 ∧ c32 ≤ 0xdfff) ∧ c32 ≤ 0x10ffff
      else
        ∃ n, utf8Continue s n (sb + 1) (bytesleft - 1) (64 * high + x) lowerbound =
          some (.character c32 length ps) := by
  cases n with
  | zero => cases decoded
  | succ n =>
    obtain ⟨byte, lookup, decoded⟩ := bind_eq_some_iff.mp decoded
    by_cases lead : byte.toNat &&& 0xc0 = 0x80
    · obtain ⟨six, value⟩ := continuation_payload byte.toNat byte.toNat_lt lead
      refine ⟨byte.toNat &&& 0x3f, six, by rw [lookup, value, UInt8.ofNat_toNat], ?_⟩
      simp only [ne_eq, not_true_eq_false, if_false, shift_or high _ small six] at decoded
      split_ifs at decoded ⊢ with last bad
      · cases decoded
      · cases decoded
        exact ⟨rfl, rfl, rfl, by omega⟩
      · exact ⟨n, decoded⟩
    · rw [if_pos lead] at decoded
      cases decoded

variable {y x : ℕ}

theorem shift_six (six : y < 64) : (64 * x + y) >>> 6 = x := by
  omega

theorem low_six (six : y < 64) : (64 * x + y) &&& 0x3f = y := by
  rw [Nat.and_two_pow_sub_one_eq_mod _ 6]
  omega

theorem utf8C32tomb_two (lead : x < 32) (six : y < 64) (shortest : 0x80 ≤ 64 * x + y) :
    utf8C32tomb (64 * x + y) = some (.ok [.ofNat (0xc0 ||| x), .ofNat (0x80 ||| y)]) := by
  rw [utf8C32tomb, if_neg (by omega), if_pos (by omega), shift_six six, low_six six]

theorem utf8C32tomb_three {z : ℕ} (lead : x < 16) (six : y < 64) (six' : z < 64)
    (shortest : 0x800 ≤ 64 * (64 * x + y) + z)
    (scalar : ¬ (64 * (64 * x + y) + z ≥ 0xd800 ∧ 64 * (64 * x + y) + z ≤ 0xdfff)) :
    utf8C32tomb (64 * (64 * x + y) + z) =
      some (.ok [.ofNat (0xe0 ||| x), .ofNat (0x80 ||| y), .ofNat (0x80 ||| z)]) := by
  rw [utf8C32tomb, if_neg (by omega), if_neg (by omega), if_pos (by omega), if_neg scalar,
    Nat.shiftRight_add _ 6 6, shift_six six', shift_six six, low_six six, low_six six']

theorem utf8C32tomb_four {w z : ℕ} (six : x < 64) (six' : y < 64) (six'' : z < 64)
    (shortest : 0x10000 ≤ 64 * (64 * (64 * w + x) + y) + z)
    (inRange : 64 * (64 * (64 * w + x) + y) + z ≤ 0x10ffff) :
    utf8C32tomb (64 * (64 * (64 * w + x) + y) + z) =
      some (.ok [.ofNat (0xf0 ||| w), .ofNat (0x80 ||| x), .ofNat (0x80 ||| y),
        .ofNat (0x80 ||| z)]) := by
  rw [utf8C32tomb, if_neg (by omega), if_neg (by omega), if_neg (by omega), if_pos inRange,
    Nat.shiftRight_add _ 12 6, Nat.shiftRight_add _ 6 6, shift_six six'', shift_six six',
    shift_six six, low_six six, low_six six', low_six six'']

theorem drop_eq_cons {i : ℕ} {byte : UInt8} (lookup : s[i]? = some byte) :
    s.drop i = byte :: s.drop (i + 1) := by
  obtain ⟨inside, rfl⟩ := List.getElem?_eq_some_iff.mp lookup
  exact drop_eq_getElem_cons inside

/-- What the decoder takes for a character is the encoding of the character. -/
theorem utf8Mbtoc32_encoding {length : ℕ} {ps : Mbstate}
    (decoded : utf8Mbtoc32 s s.length .setInit = some (.character c32 length ps)) :
    ps = .setInit ∧ ∃ buf rest, utf8C32tomb c32 = some (.ok buf) ∧ s = buf ++ rest ∧
      length = buf.length := by
  cases s with
  | nil => cases decoded
  | cons byte bytes =>
    obtain ⟨leadTwo, leadThree, leadFour⟩ := leading_payload byte.toNat byte.toNat_lt
    rw [length_cons, utf8Mbtoc32_leading _ rfl] at decoded
    dsimp only at decoded
    split_ifs at decoded with one two three four
    · obtain ⟨rfl, rfl, rfl⟩ : byte.toNat = c32 ∧ 1 = length ∧ .setInit = ps := by
        simpa using decoded
      refine ⟨rfl, [byte], bytes, ?_, rfl, rfl⟩
      rw [utf8C32tomb, if_pos (by omega), UInt8.ofNat_toNat]
    · obtain ⟨lead, value⟩ := leadTwo two.1 two.2
      obtain ⟨x, six, second, rfl, rfl, rfl, shortest, -⟩ :=
        utf8Continue_character (by omega) decoded
      have encoded := utf8C32tomb_two lead six shortest
      rw [value, UInt8.ofNat_toNat] at encoded
      exact ⟨rfl, _, _, encoded, congrArg (byte :: ·) (drop_eq_cons second), rfl⟩
    · obtain ⟨lead, value⟩ := leadThree three.1 three.2
      obtain ⟨x, six, second, n, decoded⟩ := utf8Continue_character (by omega) decoded
      obtain ⟨y, six', third, rfl, rfl, rfl, shortest, scalar, -⟩ :=
        utf8Continue_character (by omega) decoded
      have encoded := utf8C32tomb_three lead six six' shortest scalar
      rw [value, UInt8.ofNat_toNat] at encoded
      have tail : bytes = _ :: (byte :: bytes).drop 2 := drop_eq_cons second
      have tail' : (byte :: bytes).drop 2 = _ :: (byte :: bytes).drop 3 := drop_eq_cons third
      refine ⟨rfl, _, (byte :: bytes).drop 3, encoded, ?_, rfl⟩
      exact congrArg (byte :: ·) (tail.trans (congrArg (_ :: ·) tail'))
    · obtain ⟨lead, value⟩ := leadFour four.1 four.2
      obtain ⟨x, six, second, n, decoded⟩ := utf8Continue_character (by omega) decoded
      obtain ⟨y, six', third, n, decoded⟩ := utf8Continue_character (by omega) decoded
      obtain ⟨z, six'', fourth, rfl, rfl, rfl, shortest, -, inRange⟩ :=
        utf8Continue_character (by omega) decoded
      have encoded := utf8C32tomb_four six six' six'' shortest inRange
      rw [value, UInt8.ofNat_toNat] at encoded
      have tail : bytes = _ :: (byte :: bytes).drop 2 := drop_eq_cons second
      have tail' : (byte :: bytes).drop 2 = _ :: (byte :: bytes).drop 3 := drop_eq_cons third
      have tail'' : (byte :: bytes).drop 3 = _ :: (byte :: bytes).drop 4 := drop_eq_cons fourth
      refine ⟨rfl, _, (byte :: bytes).drop 4, encoded, ?_, rfl⟩
      exact congrArg (byte :: ·)
        (tail.trans (congrArg (_ :: ·) (tail'.trans (congrArg (_ :: ·) tail''))))
    · cases decoded

/-! ## Incomplete characters -/

/-- The results of the loop over the continuation bytes. -/
theorem utf8Continue_cases {result : Mbtoc32Result} :
    ∀ {sb bytesleft partialC32 lowerbound : ℕ}, bytesleft ≠ 0 →
      utf8Continue s n sb bytesleft partialC32 lowerbound = some result →
      result = .error .EILSEQ ∨
        (∃ left c32 bound, left ≠ 0 ∧ result = .incomplete (.setMultibyte left c32 bound)) ∨
        ∃ c32 length, 0 < length ∧ result = .character c32 length .setInit := by
  induction n with
  | zero =>
    rintro sb bytesleft partialC32 lowerbound more ⟨⟩
    exact .inr (.inl ⟨_, _, _, more, rfl⟩)
  | succ n ih =>
    intro sb bytesleft partialC32 lowerbound more read
    rw [utf8Continue] at read
    obtain ⟨byte, -, read⟩ := bind_eq_some_iff.mp read
    dsimp only at read
    split_ifs at read with lead last bad
    · exact .inl (some.inj read).symm
    · exact .inl (some.inj read).symm
    · exact .inr (.inr ⟨_, sb + 1, Nat.succ_pos _, (some.inj read).symm⟩)
    · exact ih last read

/-- The results of the decoder. -/
theorem utf8Mbtoc32_cases {result : Mbtoc32Result} {ps : Mbstate}
    (read : utf8Mbtoc32 s n ps = some result) :
    result = .error .EILSEQ ∨ (result = .incomplete ps ∧ n = 0) ∨
      (∃ left c32 bound, left ≠ 0 ∧ result = .incomplete (.setMultibyte left c32 bound)) ∨
      ∃ c32 length, 0 < length ∧ result = .character c32 length .setInit := by
  rw [utf8Mbtoc32] at read
  split_ifs at read with empty initial
  · exact .inr (.inl ⟨(some.inj read).symm, Nat.lt_one_iff.mp empty⟩)
  · obtain ⟨byte, -, read⟩ := bind_eq_some_iff.mp read
    dsimp only at read
    split_ifs at read
    · exact .inr (.inr (.inr ⟨_, 1, Nat.one_pos, (some.inj read).symm⟩))
    · exact (utf8Continue_cases one_ne_zero read).imp_right .inr
    · exact (utf8Continue_cases two_ne_zero read).imp_right .inr
    · exact (utf8Continue_cases three_ne_zero read).imp_right .inr
    · exact .inl (some.inj read).symm
  · exact (utf8Continue_cases initial read).imp_right .inr

theorem utf8Continue_isSome :
    ∀ {sb bytesleft partialC32 lowerbound : ℕ}, sb + n ≤ s.length →
      (utf8Continue s n sb bytesleft partialC32 lowerbound).isSome := by
  induction n with
  | zero =>
    intro sb bytesleft partialC32 lowerbound inside
    rfl
  | succ n ih =>
    intro sb bytesleft partialC32 lowerbound inside
    rw [utf8Continue, getElem?_eq_getElem (show sb < s.length by omega)]
    simp only [bind_eq_bind, bind_some]
    split_ifs with lead last bad
    · rfl
    · rfl
    · rfl
    · exact ih (by omega)

theorem utf8_incomplete (s : List UInt8) :
    utf8Mbtoc32 s s.length .setInit = some (.incomplete .setInit) ↔ s = [] := by
  constructor
  · intro read
    rcases utf8Mbtoc32_cases read with same | ⟨-, empty⟩ | ⟨_, _, _, more, same⟩ | ⟨_, _, -, same⟩
    · cases same
    · exact length_eq_zero_iff.mp empty
    · exact absurd (congrArg Mbstate.bytesleft (Mbtoc32Result.incomplete.inj same)).symm more
    · cases same
  · rintro rfl
    rfl

theorem utf8_isSome (s : List UInt8) : (utf8Mbtoc32 s s.length .setInit).isSome := by
  cases s with
  | nil => rfl
  | cons byte bytes =>
    have inside : 1 + bytes.length ≤ (byte :: bytes).length := (Nat.add_comm _ _).le
    rw [length_cons, utf8Mbtoc32_leading _ rfl]
    dsimp only
    split_ifs
    · rfl
    · exact utf8Continue_isSome inside
    · exact utf8Continue_isSome inside
    · exact utf8Continue_isSome inside
    · rfl

/-- The decoder of UTF-8 decodes exactly the encodings. -/
theorem utf8_exact : Exact ctypeUtf8 where
  resumable := utf8_resumable
  undoes := utf8_undoes
  encoding := utf8Mbtoc32_encoding
  incomplete := utf8_incomplete
  defined := utf8_isSome

/-! ## Well-formed UTF-8 -/

/-- The bits of the markers and of the payloads do not overlap. -/
theorem marker_or : (∀ x < 64, 0x80 ||| x = x + 128) ∧ (∀ x < 32, 0xc0 ||| x = x % 32 + 192) ∧
    (∀ x < 16, 0xe0 ||| x = x % 16 + 224) ∧ ∀ x < 8, 0xf0 ||| x = x % 8 + 240 := by
  decide +kernel

/-- The encoder writes the well-formed encodings of the Unicode scalar values. -/
theorem utf8C32tomb_toNat (char : Char) :
    utf8C32tomb char.toNat = some (.ok (String.utf8EncodeChar char)) := by
  obtain ⟨continuation, two, three, four⟩ := marker_or
  have valid : char.toNat < 0xd800 ∨ 0xdfff < char.toNat ∧ char.toNat < 0x110000 := char.valid
  have six : ∀ x, 0x80 ||| x &&& 0x3f = x % 64 + 128 := by
    intro x
    rw [Nat.and_two_pow_sub_one_eq_mod x 6]
    exact continuation _ (Nat.mod_lt _ (by decide))
  rw [utf8C32tomb, String.utf8EncodeChar]
  simp only [six, Nat.shiftRight_eq_div_pow]
  show _ = some (Except.ok (if char.toNat ≤ 127 then [UInt8.ofNat char.toNat] else _))
  by_cases one : char.toNat ≤ 0x7f
  · rw [if_pos one, if_pos one]
  rw [if_neg one, if_neg one]
  by_cases short : char.toNat ≤ 0x7ff
  · rw [if_pos short, two _ (by omega)]
    exact congrArg (some ∘ Except.ok) (if_pos short).symm
  rw [if_neg short]
  by_cases middle : char.toNat ≤ 0xffff
  · rw [if_pos middle, if_neg (by omega), three _ (by omega)]
    exact congrArg (some ∘ Except.ok) ((if_neg short).trans (if_pos middle)).symm
  rw [if_neg middle, if_pos (by omega), four _ (by omega)]
  exact congrArg (some ∘ Except.ok) ((if_neg short).trans (if_neg middle)).symm

theorem exists_char_of_utf8C32tomb {buf : List UInt8} (encoded : utf8C32tomb c32 = some (.ok buf)) :
    ∃ char : Char, char.toNat = c32 := by
  have valid : c32.isValidChar := by
    rw [utf8C32tomb] at encoded
    by_contra invalid
    rw [not_or, not_and] at invalid
    split_ifs at encoded with one two three surrogate four
    · omega
    · omega
    · cases encoded
    · omega
    · omega
    · cases encoded
  exact ⟨Char.ofNatAux c32 valid, rfl⟩

theorem utf8_encodes_iff (c32s : List ℕ) (bytes : List UInt8) :
    Encodes ctypeUtf8 c32s bytes ↔ ∃ chars : List Char,
      chars.map Char.toNat = c32s ∧ chars.flatMap String.utf8EncodeChar = bytes := by
  constructor
  · intro encodes
    induction encodes with
    | nil => exact ⟨[], rfl, rfl⟩
    | @cons c32 c32s buf bytes first rest ih =>
      obtain ⟨chars, rfl, rfl⟩ := ih
      obtain ⟨char, rfl⟩ := exists_char_of_utf8C32tomb first
      obtain rfl : String.utf8EncodeChar char = buf := by
        simpa [ctypeUtf8, utf8C32tomb_toNat] using first
      exact ⟨char :: chars, rfl, rfl⟩
  · rintro ⟨chars, rfl, rfl⟩
    induction chars with
    | nil => exact .nil
    | cons char chars ih => exact .cons (utf8C32tomb_toNat char) ih

/-- **UTF-8 in chunks.** Feeding the chunks of a byte string to the decoder ends without error in
the initial state with some characters if and only if the byte string is the well-formed encoding
of these characters. The calls then return the numbers of bytes of the characters in the last of
their chunks. -/
theorem utf8_feedChunks (chunks : List (List UInt8)) :
    ∃ result, feedChunks ctypeUtf8 chunks = some result ∧ ∀ c32s,
      ((∃ returns, result = .ok ⟨c32s, returns, .setInit⟩) ↔ ∃ chars : List Char,
        chars.map Char.toNat = c32s ∧ chars.flatMap String.utf8EncodeChar = chunks.flatten) ∧
      ∀ returns, result = .ok ⟨c32s, returns, .setInit⟩ →
        returns = returnValues ctypeUtf8 chunks 0 c32s := by
  obtain ⟨result, fed, sound, complete⟩ := feedChunks_meets utf8_exact chunks
  refine ⟨result, fed, fun c32s => ⟨?_, ?_⟩⟩
  · rw [← utf8_encodes_iff]
    constructor
    · rintro ⟨returns, rfl⟩
      exact sound _ rfl rfl
    · intro encodes
      exact ⟨_, complete c32s encodes⟩
  · rintro returns rfl
    have encodes := sound _ rfl rfl
    have same := complete c32s encodes
    simpa using same

/-- An e with acute accent, in two chunks and in one. -/
example : feedChunks ctypeUtf8 [[0x41, 0xc3], [0xa9]] =
      some (.ok ⟨[0x41, 0xe9], [1, 1], .setInit⟩) ∧
    feedChunks ctypeUtf8 [[0x41, 0xc3, 0xa9]] = some (.ok ⟨[0x41, 0xe9], [1, 2], .setInit⟩) := by
  decide +kernel

end Cloudlibc.Locale
