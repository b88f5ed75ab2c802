import Cloudlibc.Locale.Utf8Decoding

/-!
# UTF-16

`mbrtoc16_l()` and `c16rtomb_l()` of `libc/uchar` convert between multibyte characters and UTF-16,
one code unit in each call. Both keep one half of a surrogate pair in the `mbstate_t` in which the
decoder of the character set keeps a partial character, and every function that stores into it
overwrites the whole object.

The two uses never meet in one object, whatever the calls are (`callsState_separate`). A text in
UTF-8 that is fed in any chunks is delivered in UTF-16 (`feed16_deliveries`), and the code units
give the bytes back (`encode16_utf16`). In both directions the state is the initial one behind each
character (`utf8_utf16`).
-/

set_option autoImplicit false

namespace Cloudlibc.Uchar

open Cloudlibc.Locale List Option

/-! ## The state -/

/-- `mbstate_get_surrogate()`. -/
def getSurrogate (ps : Mbstate) : Option ℕ :=
  if ps.surrogate < 0xd800 ∨ ps.surrogate > 0xdfff then none else some ps.surrogate

/-- `mbstate_set_surrogate()`. The assertion fails for other code units. -/
def setSurrogate (surrogate : ℕ) : Option Mbstate :=
  if surrogate ≥ 0xd800 ∧ surrogate ≤ 0xdfff then some ⟨surrogate, 0, 0, 0⟩ else none

/-! ## The functions -/

/-- What `mbrtoc16_l()` returns and stores. -/
structure Mbrtoc16Result where
  ret : ℤ
  pc16 : Option ℕ
  ps : Mbstate
  errno : Option Errno
  deriving DecidableEq

/-- The code unit that `mbrtoc16_l()` stores for a character, and the state: the lead surrogate of a
pair is returned and the trail surrogate is kept. -/
def splitCharacter (c32 : ℕ) (ps : Mbstate) : Option (ℕ × Mbstate) :=
  if c32 < 0x10000 then
    some (c32, ps)
  else do
    let c32 := c32 - 0x10000
    let c16 := (0xd800 ||| c32 >>> 10) % 2 ^ 16
    return (c16, ← setSurrogate (0xdc00 ||| c32 &&& 0x3ff))

/-- `mbrtoc16_l()`. A null pointer as the input is `none`. -/
def mbrtoc16L (ctype : LcCtype) (s : Option (List UInt8)) (n : ℕ) (ps : Mbstate) :
    Option Mbrtoc16Result :=
  let (bytes, n) := match s with
    | none => ([0], 1)
    | some bytes => (bytes, n)
  match getSurrogate ps with
  | some c16 => some ⟨-3, some c16, .setInit, none⟩
  | none => do
      match ← ctype.mbtoc32 bytes n ps with
      | .error errno => return ⟨-1, none, ps, some errno⟩
      | .incomplete ps => return ⟨-2, none, ps, none⟩
      | .character c32 length ps =>
        let (c16, ps) ← splitCharacter c32 ps
        return ⟨if c16 = 0 then 0 else length, some c16, ps, none⟩

/-- What `c16rtomb_l()` returns and stores. -/
structure C16rtombResult where
  ret : ℤ
  s : List UInt8
  ps : Mbstate
  errno : Option Errno
  deriving DecidableEq

/-- The part of `c16rtomb_l()` that converts a whole character. -/
def c32rtomb (ctype : LcCtype) (c32 : ℕ) (ps : Mbstate) : Option C16rtombResult := do
  match ← ctype.c32tomb c32 with
  | .error errno => return ⟨-1, [], ps, some errno⟩
  | .ok bytes => return ⟨bytes.length, bytes, .setInit, none⟩

/-- `c16rtomb_l()`, with or without an output buffer. -/
def c16rtombL (ctype : LcCtype) (buffer : Bool) (c16 : ℕ) (ps : Mbstate) : Option C16rtombResult :=
  let c16 := if buffer then c16 else 0
  match getSurrogate ps with
  | some c16lead =>
    if c16 < 0xdc00 ∨ c16 > 0xdfff then
      some ⟨-1, [], ps, some .EILSEQ⟩
    else
      c32rtomb ctype (0x10000 + ((c16lead &&& 0x3ff) <<< 10 ||| c16 &&& 0x3ff)) ps
  | none =>
    if c16 ≥ 0xd800 ∧ c16 ≤ 0xdbff then do
      return ⟨0, [], ← setSurrogate c16, none⟩
    else
      c32rtomb ctype c16 ps

/-! ## One object for two purposes -/

/-- The object does not hold half of a surrogate pair and a partial character at once. -/
def Separate (ps : Mbstate) : Prop := getSurrogate ps = none ∨ ps.bytesleft = 0

variable {ps : Mbstate}

theorem getSurrogate_of_zero (zero : ps.surrogate = 0) : getSurrogate ps = none := by
  rw [getSurrogate, zero, if_pos (by omega)]

@[simp]
theorem getSurrogate_setInit : getSurrogate .setInit = none := rfl

variable {surrogate : ℕ}

theorem setSurrogate_bytesleft (stored : setSurrogate surrogate = some ps) : ps.bytesleft = 0 := by
  unfold setSurrogate at stored
  split_ifs at stored
  cases stored
  rfl

/-- The state in a result of a decoder, if the call stores one. -/
def storedState : Mbtoc32Result → Option Mbstate
  | .error _ => none
  | .incomplete ps => some ps
  | .character _ _ ps => some ps

variable {n : ℕ}

/-- The decoder of UTF-8 stores no surrogate, and leaves the state alone if there is no input. -/
theorem utf8Mbtoc32_surrogate {s : List UInt8} {before : Mbstate} {result : Mbtoc32Result}
    (ran : utf8Mbtoc32 s n before = some result) (stored : storedState result = some ps) :
    ps.surrogate = 0 ∨ ps = before := by
  obtain rfl | ⟨rfl, -⟩ | ⟨_, _, _, -, rfl⟩ | ⟨_, _, -, rfl⟩ := utf8Mbtoc32_cases ran <;> cases stored
  exacts [.inr rfl, .inl rfl, .inl rfl]

/-- A call of `mbrtoc16_l()` keeps the two uses apart. -/
theorem mbrtoc16L_separate {s : Option (List UInt8)} {result : Mbrtoc16Result}
    (ran : mbrtoc16L ctypeUtf8 s n ps = some result) (separate : Separate ps) :
    Separate result.ps := by
  simp only [mbrtoc16L] at ran
  split at ran
  · cases ran
    exact .inl rfl
  · obtain ⟨decoded, called, ran⟩ := bind_eq_some_iff.mp ran
    have keeps : ∀ {ps' : Mbstate}, storedState decoded = some ps' → Separate ps' := by
      intro ps' stored
      rcases utf8Mbtoc32_surrogate called stored with zero | rfl
      · exact .inl (getSurrogate_of_zero zero)
      · exact separate
    cases decoded with
    | error errno =>
      cases ran
      exact separate
    | incomplete ps' =>
      cases ran
      exact keeps rfl
    | character c32 length ps' =>
      obtain ⟨⟨c16, next⟩, split, ran⟩ := bind_eq_some_iff.mp ran
      cases ran
      unfold splitCharacter at split
      split_ifs at split with small
      · cases split
        exact keeps rfl
      · obtain ⟨stored, set, split⟩ := bind_eq_some_iff.mp split
        cases split
        exact .inr (setSurrogate_bytesleft set)

variable {result : C16rtombResult}

theorem c32rtomb_separate {c32 : ℕ} (ran : c32rtomb ctypeUtf8 c32 ps = some result)
    (separate : Separate ps) : Separate result.ps := by
  obtain ⟨encoded, -, ran⟩ := bind_eq_some_iff.mp ran
  cases encoded with
  | error errno =>
    cases ran
    exact separate
  | ok bytes =>
    cases ran
    exact .inl rfl

/-- A call of `c16rtomb_l()` keeps the two uses apart. -/
theorem c16rtombL_separate {buffer : Bool} {c16 : ℕ}
    (ran : c16rtombL ctypeUtf8 buffer c16 ps = some result) (separate : Separate ps) :
    Separate result.ps := by
  simp only [c16rtombL] at ran
  generalize (if buffer = true then c16 else 0) = unit at ran
  split at ran
  · split_ifs at ran
    · cases ran
      exact separate
    · exact c32rtomb_separate ran separate
  · split_ifs at ran
    · obtain ⟨stored, set, ran⟩ := bind_eq_some_iff.mp ran
      cases ran
      exact .inr (setSurrogate_bytesleft set)
    · exact c32rtomb_separate ran separate

/-- A call of one of the two functions. -/
inductive Call16
  | mbrtoc16 (s : Option (List UInt8)) (n : ℕ)
  | c16rtomb (buffer : Bool) (c16 : ℕ)
  deriving DecidableEq, Repr

/-- The state after a call. -/
def Call16.state (call : Call16) (ps : Mbstate) : Option Mbstate :=
  match call with
  | .mbrtoc16 s n => (mbrtoc16L ctypeUtf8 s n ps).map (·.ps)
  | .c16rtomb buffer c16 => (c16rtombL ctypeUtf8 buffer c16 ps).map (·.ps)

/-- The state after a sequence of calls. -/
def callsState : List Call16 → Mbstate → Option Mbstate
  | [], ps => some ps
  | call :: calls, ps => (call.state ps).bind (callsState calls)

/-- **The two uses of the object never meet**, in any sequence of calls. -/
theorem callsState_separate (calls : List Call16) : ∀ {ps ps' : Mbstate}, Separate ps →
    callsState calls ps = some ps' → Separate ps' := by
  induction calls with
  | nil =>
    intro ps ps' separate ran
    cases ran
    exact separate
  | cons call calls ih =>
    intro ps ps' separate ran
    obtain ⟨next, called, ran⟩ := bind_eq_some_iff.mp ran
    refine ih ?_ ran
    cases call with
    | mbrtoc16 s n =>
      obtain ⟨result, ranCall, rfl⟩ := map_eq_some_iff.mp called
      exact mbrtoc16L_separate ranCall separate
    | c16rtomb buffer c16 =>
      obtain ⟨result, ranCall, rfl⟩ := map_eq_some_iff.mp called
      exact c16rtombL_separate ranCall separate

/-! ## UTF-16 -/

/-- The lead surrogate of a character outside of the basic plane. -/
def leadSurrogate (char : Char) : ℕ := 0xd800 + (char.toNat - 0x10000) / 0x400

/-- The trail surrogate of a character outside of the basic plane. -/
def trailSurrogate (char : Char) : ℕ := 0xdc00 + (char.toNat - 0x10000) % 0x400

/-- The code units of a character. -/
def utf16 (char : Char) : List ℕ :=
  if char.toNat < 0x10000 then [char.toNat] else [leadSurrogate char, trailSurrogate char]

/-- The state that holds half of a pair. -/
def holding (surrogate : ℕ) : Mbstate := ⟨surrogate, 0, 0, 0⟩

theorem getSurrogate_holding (low : 0xd800 ≤ surrogate) (high : surrogate ≤ 0xdfff) :
    getSurrogate (holding surrogate) = some surrogate := by
  rw [getSurrogate, holding, if_neg (by dsimp only; omega)]

theorem setSurrogate_eq (low : 0xd800 ≤ surrogate) (high : surrogate ≤ 0xdfff) :
    setSurrogate surrogate = some (holding surrogate) := by
  rw [setSurrogate, if_pos ⟨low, high⟩, holding]

theorem toNat_lt (char : Char) : char.toNat < 0x110000 := by
  have valid : char.toNat < 0xd800 ∨ 0xdfff < char.toNat ∧ char.toNat < 0x110000 := char.valid
  omega

theorem leadSurrogate_range (char : Char) :
    0xd800 ≤ leadSurrogate char ∧ leadSurrogate char ≤ 0xdbff := by
  have bound := toNat_lt char
  unfold leadSurrogate
  omega

theorem trailSurrogate_range (char : Char) :
    0xdc00 ≤ trailSurrogate char ∧ trailSurrogate char ≤ 0xdfff := by
  unfold trailSurrogate
  omega

theorem marker_add (marker x : ℕ) (small : x < 0x400) : 0x400 * marker ||| x = 0x400 * marker + x :=
  (Nat.two_pow_add_eq_or_of_lt (show x < 2 ^ 10 from small) marker).symm

variable {char : Char}

/-- A character outside of the basic plane is split in its two surrogates. -/
theorem splitCharacter_pair (outside : ¬ char.toNat < 0x10000) (ps : Mbstate) :
    splitCharacter char.toNat ps = some (leadSurrogate char, holding (trailSurrogate char)) := by
  have bound := toNat_lt char
  obtain ⟨trailLow, trailHigh⟩ := trailSurrogate_range char
  have lead : (0xd800 ||| (char.toNat - 0x10000) >>> 10) % 2 ^ 16 = leadSurrogate char := by
    have marked := marker_add 54 ((char.toNat - 0x10000) / 2 ^ 10) (by omega)
    rw [Nat.shiftRight_eq_div_pow, show 0xd800 = 0x400 * 54 from rfl, marked, leadSurrogate]
    omega
  have trail : 0xdc00 ||| char.toNat - 0x10000 &&& 0x3ff = trailSurrogate char := by
    have marked := marker_add 55 ((char.toNat - 0x10000) % 0x400) (by omega)
    rw [Nat.and_two_pow_sub_one_eq_mod _ 10]
    exact marked
  simp only [splitCharacter, if_neg outside, lead, trail,
    setSurrogate_eq (show 0xd800 ≤ trailSurrogate char by omega) trailHigh]
  rfl

theorem joinSurrogates (outside : ¬ char.toNat < 0x10000) :
    0x10000 + ((leadSurrogate char &&& 0x3ff) <<< 10 ||| trailSurrogate char &&& 0x3ff) =
      char.toNat := by
  have bound := toNat_lt char
  have joined := marker_add (leadSurrogate char % 0x400) (trailSurrogate char % 0x400)
    (Nat.mod_lt _ (by decide))
  have masks := Nat.and_two_pow_sub_one_eq_mod
  rw [show 0x3ff = 2 ^ 10 - 1 from rfl, masks, masks, Nat.shiftLeft_eq, Nat.mul_comm, joined,
    leadSurrogate, trailSurrogate]
  omega

/-! ## Decoding -/

/-- A code unit that a call delivers, whether the call returned -3, and the state it left. -/
structure Delivery where
  c16 : ℕ
  kept : Bool
  ps : Mbstate
  deriving DecidableEq

/-- Feed chunks to `mbrtoc16_l()`, with one call for each unit of fuel. After a code unit the rest
of the chunk is fed, after -3 the same chunk, and after -2 the next one. -/
def feed16 (ctype : LcCtype) :
    (fuel : ℕ) → List (List UInt8) → Mbstate → Option (Except Errno (List Delivery × Mbstate))
  | _, [], ps => some (.ok ([], ps))
  | 0, _ :: _, _ => none
  | fuel + 1, chunk :: chunks, ps => do
      let result ← mbrtoc16L ctype (some chunk) chunk.length ps
      match result.errno, result.pc16 with
      | some errno, _ => return .error errno
      | none, none => feed16 ctype fuel chunks result.ps
      | none, some c16 =>
        let rest := if result.ret = -3 then chunk else chunk.drop result.ret.toNat
        return (← feed16 ctype fuel (rest :: chunks) result.ps).map fun (deliveries, ps) =>
          (⟨c16, result.ret = -3, result.ps⟩ :: deliveries, ps)

/-- Feed chunks to `mbrtoc16_l()` in the initial state. -/
def feedChunks16 (ctype : LcCtype) (chunks : List (List UInt8)) :
    Option (Except Errno (List Delivery × Mbstate)) :=
  feed16 ctype (2 * chunks.flatten.length + chunks.length) chunks .setInit

/-- The deliveries of a character: its code unit, or the lead surrogate and then the trail surrogate
with -3. The last one leaves the initial state. -/
def deliveries (char : Char) : List Delivery :=
  if char.toNat < 0x10000 then
    [⟨char.toNat, false, .setInit⟩]
  else
    [⟨leadSurrogate char, false, holding (trailSurrogate char)⟩,
      ⟨trailSurrogate char, true, .setInit⟩]

/-- In the middle of a text, a call of the decoder takes all of the chunk or finishes the next
character. -/
theorem decode_next {before chunk rest : List UInt8} {chars : List Char}
    (read : ctypeUtf8.mbtoc32 before before.length .setInit = some (.incomplete ps))
    (text : before ++ (chunk ++ rest) = chars.flatMap String.utf8EncodeChar) :
    (∃ ps', ctypeUtf8.mbtoc32 chunk chunk.length ps = some (.incomplete ps') ∧
      ctypeUtf8.mbtoc32 (before ++ chunk) (before ++ chunk).length .setInit =
        some (.incomplete ps')) ∨
    ∃ char chars' length, chars = char :: chars' ∧
      ctypeUtf8.mbtoc32 chunk chunk.length ps = some (.character char.toNat length .setInit) ∧
        0 < length ∧ length ≤ chunk.length ∧
          chunk.drop length ++ rest = chars'.flatMap String.utf8EncodeChar := by
  have resumed := utf8_exact.resumable.decode chunk read
  cases chars with
  | nil =>
    obtain ⟨rfl, rfl, -⟩ : before = [] ∧ chunk = [] ∧ rest = [] := by simpa using text
    have initial := read
    rw [(utf8_exact.incomplete []).mpr rfl, some.injEq, Mbtoc32Result.incomplete.injEq]
      at initial
    subst initial
    exact .inl ⟨.setInit, read, read⟩
  | cons char chars =>
    have encoded : ctypeUtf8.c32tomb char.toNat = some (.ok (String.utf8EncodeChar char)) :=
      utf8C32tomb_toNat char
    rw [flatMap_cons] at text
    rcases utf8_exact.decode_start encoded ((append_assoc _ _ _).trans text) with
      ⟨fits, decoded⟩ | ⟨-, ps', decoded⟩
    · right
      rw [resumed, map_eq_some_iff] at decoded
      obtain ⟨result, called, shifted⟩ := decoded
      obtain ⟨length, rfl, total⟩ : ∃ length, result = .character char.toNat length .setInit ∧
          before.length + length = (String.utf8EncodeChar char).length := by
        cases result with
        | error errno => cases shifted
        | incomplete ps' => cases shifted
        | character c32 length ps' =>
          rw [Mbtoc32Result.shift, Mbtoc32Result.character.injEq] at shifted
          obtain ⟨rfl, total, rfl⟩ := shifted
          exact ⟨length, rfl, total⟩
      rw [length_append] at fits
      refine ⟨char, chars, length, rfl, called, ?_, by omega, ?_⟩
      · -- What has been read before is less than the character.
        rcases utf8_exact.decode_start encoded text with ⟨-, decoded⟩ | ⟨shorter, -⟩
        · rw [read] at decoded
          cases decoded
        · omega
      · have cut := congrArg (drop (String.utf8EncodeChar char).length) text
        rw [drop_left, ← total, drop_append,
          drop_eq_nil_of_le (Nat.le_add_right _ _), nil_append, Nat.add_sub_cancel_left,
          drop_append_of_le_length (by omega)] at cut
        exact cut
    · left
      rw [resumed, map_eq_some_iff] at decoded
      obtain ⟨result, called, shifted⟩ := decoded
      cases result with
      | error errno => cases shifted
      | incomplete ps'' =>
        cases shifted
        exact ⟨ps', called, by rw [resumed, called]; rfl⟩
      | character c32 length ps'' => cases shifted

theorem getSurrogate_of_read {before : List UInt8}
    (read : ctypeUtf8.mbtoc32 before before.length .setInit = some (.incomplete ps)) :
    getSurrogate ps = none := by
  rcases utf8Mbtoc32_surrogate read rfl with zero | rfl
  · exact getSurrogate_of_zero zero
  · rfl

section Feeding

variable {fuel : ℕ} {chunk : List UInt8} {chunks : List (List UInt8)} {ps : Mbstate}

theorem feed16_incomplete {ps' : Mbstate} (noSurrogate : getSurrogate ps = none)
    (called : ctypeUtf8.mbtoc32 chunk chunk.length ps = some (.incomplete ps')) :
    feed16 ctypeUtf8 (fuel + 1) (chunk :: chunks) ps = feed16 ctypeUtf8 fuel chunks ps' := by
  simp [feed16, mbrtoc16L, noSurrogate, called]

theorem feed16_trail {surrogate : ℕ} {rest : List Delivery × Mbstate}
    (held : getSurrogate ps = some surrogate)
    (fed : feed16 ctypeUtf8 fuel (chunk :: chunks) .setInit = some (.ok rest)) :
    feed16 ctypeUtf8 (fuel + 1) (chunk :: chunks) ps =
      some (.ok (⟨surrogate, true, .setInit⟩ :: rest.1, rest.2)) := by
  simp [feed16, mbrtoc16L, held, fed, Except.map]

/-- A call that finishes a character delivers its first code unit. -/
theorem feed16_character {c32 length c16 : ℕ} {ps' : Mbstate} {rest : List Delivery × Mbstate}
    (noSurrogate : getSurrogate ps = none)
    (called : ctypeUtf8.mbtoc32 chunk chunk.length ps = some (.character c32 length .setInit))
    (split : splitCharacter c32 .setInit = some (c16, ps')) (nonzero : c16 ≠ 0)
    (fed : feed16 ctypeUtf8 fuel (chunk.drop length :: chunks) ps' = some (.ok rest)) :
    feed16 ctypeUtf8 (fuel + 1) (chunk :: chunks) ps =
      some (.ok (⟨c16, false, ps'⟩ :: rest.1, rest.2)) := by
  have positive : ((length : ℕ) : ℤ) ≠ -3 := by omega
  simp [feed16, mbrtoc16L, noSurrogate, called, split, nonzero, positive, fed, Except.map]

/-- **A text that is fed in chunks is delivered in UTF-16.** -/
theorem feed16_deliveries (fuel : ℕ) : ∀ {chars : List Char} {chunks : List (List UInt8)}
    {before : List UInt8} {ps : Mbstate}, (∀ char ∈ chars, char.toNat ≠ 0) →
      ctypeUtf8.mbtoc32 before before.length .setInit = some (.incomplete ps) →
        before ++ chunks.flatten = chars.flatMap String.utf8EncodeChar →
          2 * chunks.flatten.length + chunks.length ≤ fuel →
            feed16 ctypeUtf8 fuel chunks ps =
              some (.ok (chars.flatMap deliveries, .setInit)) := by
  -- A pair takes two calls, so the induction is on all smaller amounts of fuel.
  induction fuel using Nat.strong_induction_on with
  | _ fuel ih =>
    intro chars chunks before ps nonzero read text enough
    have noSurrogate := getSurrogate_of_read read
    have initial : ctypeUtf8.mbtoc32 [] ([] : List UInt8).length .setInit =
        some (.incomplete .setInit) := (utf8_exact.incomplete []).mpr rfl
    cases chunks with
    | nil =>
      rw [flatten_nil, append_nil] at text
      cases chars with
      | nil =>
        obtain rfl : before = [] := text
        rw [initial] at read
        cases read
        simp [feed16]
      | cons char chars =>
        rw [flatMap_cons, ← append_nil before] at text
        rcases utf8_exact.decode_start (utf8C32tomb_toNat char) text with
          ⟨-, decoded⟩ | ⟨shorter, -⟩
        · rw [read] at decoded
          cases decoded
        · have lengths := congrArg length text
          simp only [length_append, length_nil] at lengths
          omega
    | cons chunk chunks =>
      rw [flatten_cons] at text enough
      rw [length_append, length_cons] at enough
      obtain ⟨fuel, rfl⟩ := Nat.exists_eq_succ_of_ne_zero (show fuel ≠ 0 by omega)
      rcases decode_next read text with
        ⟨ps', called, whole⟩ | ⟨char, chars, length, rfl, called, positive, short, rest⟩
      · rw [feed16_incomplete noSurrogate called]
        exact ih fuel (Nat.lt_succ_self fuel) nonzero whole
          (by rw [append_assoc]; exact text) (by omega)
      · have present := nonzero char mem_cons_self
        have others : ∀ char ∈ chars, char.toNat ≠ 0 :=
          fun char member => nonzero char (mem_cons_of_mem _ member)
        have left : (chunk.drop length :: chunks).flatten.length + length =
            chunk.length + chunks.flatten.length := by
          rw [flatten_cons, length_append, length_drop]
          omega
        rw [flatMap_cons, deliveries]
        by_cases inside : char.toNat < 0x10000
        · have fed := @ih fuel (Nat.lt_succ_self fuel) chars (chunk.drop length :: chunks) []
            .setInit others initial rest (by rw [length_cons]; omega)
          rw [if_pos inside]
          exact feed16_character noSurrogate called (by rw [splitCharacter, if_pos inside])
            present fed
        · obtain ⟨fuel, rfl⟩ := Nat.exists_eq_succ_of_ne_zero (show fuel ≠ 0 by omega)
          obtain ⟨low, high⟩ := trailSurrogate_range char
          have fed := @ih fuel (by omega) chars (chunk.drop length :: chunks) [] .setInit others
            initial rest (by rw [length_cons]; omega)
          have trail := feed16_trail (getSurrogate_holding
            (show 0xd800 ≤ trailSurrogate char by omega) high) fed
          have leadNonzero : leadSurrogate char ≠ 0 := by
            have := leadSurrogate_range char
            omega
          rw [if_neg inside]
          exact feed16_character noSurrogate called (splitCharacter_pair inside _) leadNonzero
            trail

end Feeding

/-! ## Encoding -/

/-- Feed code units to `c16rtomb_l()`: for each of them the bytes and the state. -/
def encode16 (ctype : LcCtype) :
    List ℕ → Mbstate → Option (Except Errno (List (List UInt8 × Mbstate)))
  | [], _ => some (.ok [])
  | c16 :: units, ps => do
      let result ← c16rtombL ctype true c16 ps
      match result.errno with
      | some errno => return .error errno
      | none => return (← encode16 ctype units result.ps).map ((result.s, result.ps) :: ·)

/-- What the code units of a character give: all bytes with the last one, which leaves the initial
state. -/
def encodings (char : Char) : List (List UInt8 × Mbstate) :=
  if char.toNat < 0x10000 then
    [(String.utf8EncodeChar char, .setInit)]
  else
    [([], holding (leadSurrogate char)), (String.utf8EncodeChar char, .setInit)]

/-- A character that is whole is written, and the state is the initial one. -/
theorem c32rtomb_utf8 (char : Char) (ps : Mbstate) :
    c32rtomb ctypeUtf8 char.toNat ps =
      some ⟨(String.utf8EncodeChar char).length, String.utf8EncodeChar char, .setInit, none⟩ := by
  have bytes : ctypeUtf8.c32tomb char.toNat = some (.ok (String.utf8EncodeChar char)) :=
    utf8C32tomb_toNat char
  rw [c32rtomb, bytes]
  rfl

theorem c16rtombL_single (inside : char.toNat < 0x10000) :
    c16rtombL ctypeUtf8 true char.toNat .setInit =
      some ⟨(String.utf8EncodeChar char).length, String.utf8EncodeChar char, .setInit, none⟩ := by
  have valid : char.toNat < 0xd800 ∨ 0xdfff < char.toNat ∧ char.toNat < 0x110000 := char.valid
  rw [c16rtombL, getSurrogate_setInit, if_pos rfl]
  exact (if_neg (by omega)).trans (c32rtomb_utf8 char _)

theorem c16rtombL_lead (char : Char) :
    c16rtombL ctypeUtf8 true (leadSurrogate char) .setInit =
      some ⟨0, [], holding (leadSurrogate char), none⟩ := by
  obtain ⟨low, high⟩ := leadSurrogate_range char
  rw [c16rtombL, getSurrogate_setInit, if_pos rfl]
  refine (if_pos ⟨low, high⟩).trans ?_
  rw [setSurrogate_eq low (by omega)]
  rfl

theorem c16rtombL_trail (outside : ¬ char.toNat < 0x10000) :
    c16rtombL ctypeUtf8 true (trailSurrogate char) (holding (leadSurrogate char)) =
      some ⟨(String.utf8EncodeChar char).length, String.utf8EncodeChar char, .setInit, none⟩ := by
  obtain ⟨leadLow, leadHigh⟩ := leadSurrogate_range char
  obtain ⟨trailLow, trailHigh⟩ := trailSurrogate_range char
  rw [c16rtombL, getSurrogate_holding leadLow (by omega), if_pos rfl]
  refine (if_neg (by omega)).trans ?_
  rw [joinSurrogates outside]
  exact c32rtomb_utf8 char _

theorem encode16_cons {c16 : ℕ} {units : List ℕ} {rest : List (List UInt8 × Mbstate)}
    (called : c16rtombL ctypeUtf8 true c16 ps = some result) (noError : result.errno = none)
    (encoded : encode16 ctypeUtf8 units result.ps = some (.ok rest)) :
    encode16 ctypeUtf8 (c16 :: units) ps = some (.ok ((result.s, result.ps) :: rest)) := by
  simp only [encode16, called, noError, encoded, Option.bind_eq_bind, Option.bind_some,
    Option.pure_def, Except.map]

/-- The code units of one character, fed to `c16rtomb_l()` in the initial state. -/
theorem encode16_append (char : Char) {units : List ℕ} {rest : List (List UInt8 × Mbstate)}
    (encoded : encode16 ctypeUtf8 units .setInit = some (.ok rest)) :
    encode16 ctypeUtf8 (utf16 char ++ units) .setInit = some (.ok (encodings char ++ rest)) := by
  rw [utf16, encodings]
  by_cases inside : char.toNat < 0x10000
  · rw [if_pos inside, if_pos inside]
    exact encode16_cons (c16rtombL_single inside) rfl encoded
  · rw [if_neg inside, if_neg inside]
    exact encode16_cons (c16rtombL_lead char) rfl (encode16_cons (c16rtombL_trail inside) rfl encoded)

/-- **UTF-16 is converted to UTF-8.** -/
theorem encode16_utf16 (chars : List Char) :
    encode16 ctypeUtf8 (chars.flatMap utf16) .setInit = some (.ok (chars.flatMap encodings)) := by
  induction chars with
  | nil => rfl
  | cons char chars ih => exact encode16_append char ih

/-! ## Both directions -/

theorem map_deliveries (char : Char) : (deliveries char).map (·.c16) = utf16 char := by
  unfold deliveries utf16
  split_ifs <;> rfl

theorem flatMap_encodings (char : Char) :
    (encodings char).flatMap (·.1) = String.utf8EncodeChar char := by
  unfold encodings
  split_ifs <;> simp

/-- **UTF-8 to UTF-16 and back.** The encoding of a text without null characters is delivered in
UTF-16, however it is cut in chunks, and the code units give the encoding back. A character ends
with the initial state in both directions, and in no sequence of calls does the state hold half of a
pair and a partial character at once. -/
theorem utf8_utf16 :
    (∀ chars : List Char, (∀ char ∈ chars, char.toNat ≠ 0) → ∀ chunks : List (List UInt8),
      chunks.flatten = chars.flatMap String.utf8EncodeChar →
        feedChunks16 ctypeUtf8 chunks = some (.ok (chars.flatMap deliveries, .setInit)) ∧
          (chars.flatMap deliveries).map (·.c16) = chars.flatMap utf16) ∧
    (∀ chars : List Char,
      encode16 ctypeUtf8 (chars.flatMap utf16) .setInit = some (.ok (chars.flatMap encodings)) ∧
        (chars.flatMap encodings).flatMap (·.1) = chars.flatMap String.utf8EncodeChar) ∧
    (∀ char : Char, ((deliveries char).getLast?.map (·.ps)) = some .setInit ∧
      ((encodings char).getLast?.map (·.2)) = some .setInit) ∧
    ∀ calls ps, callsState calls .setInit = some ps →
      ¬ ((getSurrogate ps).isSome ∧ ps.bytesleft ≠ 0) := by
  refine ⟨fun chars nonzero chunks text => ⟨?_, ?_⟩, fun chars => ⟨encode16_utf16 chars, ?_⟩,
    fun char => ⟨?_, ?_⟩, fun calls ps ran => ?_⟩
  · exact feed16_deliveries _ nonzero ((utf8_exact.incomplete []).mpr rfl) text le_rfl
  · simp [map_flatMap, map_deliveries]
  · simp [flatMap_assoc, flatMap_encodings]
  · unfold deliveries
    split_ifs <;> rfl
  · unfold encodings
    split_ifs <;> rfl
  · rintro ⟨held, left⟩
    rcases callsState_separate calls (.inl rfl) ran with none | done
    · rw [none] at held
      cases held
    · exact left done

/-- A smiling face in two chunks, with an A behind it. -/
theorem utf8_utf16_smile :
    feedChunks16 ctypeUtf8 [[0xf0, 0x9f], [], [0x98, 0x80, 0x41]] =
      some (.ok ([⟨0xd83d, false, holding 0xde00⟩, ⟨0xde00, true, .setInit⟩,
        ⟨0x41, false, .setInit⟩], .setInit)) :=
  (utf8_utf16.1 [Char.ofNat 0x1f600, 'A'] (forall_iff_forall_mem.mp (by decide)) _
    (by decide +kernel)).1

end Cloudlibc.Uchar
