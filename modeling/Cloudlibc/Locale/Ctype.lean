import Cloudlibc.Errno
import Cloudlibc.Foundations.Loop

/-!
# Character sets

The character set of a locale is an `lc_ctype` of `common/locale.h`: a function `mbtoc32()` that
decodes the first character of a byte string, a function `c32tomb()` that encodes one character,
and two functions on strings that the macros `GENERATE_MBSTOC32S` and `GENERATE_C32STOMBS` build
from them. A decoder keeps a partial character in an `mbstate_t` of `common/mbstate.h`.

Characters are the values of `char32_t`. A read outside a string or a table makes the model fail.

What `c32stombs()` writes is the concatenation of the encodings of the characters it converts
(`c32stombs_encodes`). Decoding it gives these characters back if and only if the decoder undoes
the encoder on each of them (`mbstoc32s_encoding_iff`).
-/

set_option autoImplicit false

namespace Cloudlibc.Locale

open Cloudlibc.Loop List Option

/-! ## Conversion states -/

/-- `mbstate_t`. -/
structure Mbstate where
  surrogate : ℕ
  bytesleft : ℕ
  partialC32 : ℕ
  lowerbound : ℕ
  deriving DecidableEq, Repr

/-- The state that `mbstate_set_init()` stores. -/
def Mbstate.setInit : Mbstate := ⟨0, 0, 0, 0⟩

/-- The state that `mbstate_set_multibyte()` stores. -/
def Mbstate.setMultibyte (bytesleft partialC32 lowerbound : ℕ) : Mbstate :=
  ⟨0, bytesleft, partialC32, lowerbound⟩

/-! ## Character sets -/

/-- What a call of `mbtoc32()` returns: -1 with an error, -2 with the state of a partial
character, or a character and the number of bytes it took. -/
inductive Mbtoc32Result
  | error (errno : Errno)
  | incomplete (ps : Mbstate)
  | character (c32 length : ℕ) (ps : Mbstate)
  deriving DecidableEq, Repr

/-- `struct lc_ctype`. The string conversions are the same for all character sets. -/
structure LcCtype where
  codeset : String
  mbtoc32 : (s : List UInt8) → (n : ℕ) → (ps : Mbstate) → Option Mbtoc32Result
  c32tombMax : ℕ
  c32tomb : (c32 : ℕ) → Option (Except Errno (List UInt8))

/-- The value of a byte. -/
theorem toNat_ofNat_byte {b : ℕ} (byte : b < 256) : (UInt8.ofNat b).toNat = b := by
  rw [UInt8.toNat_ofNat', Nat.mod_eq_of_lt byte]

/-! ## Decoding of strings -/

/-- What `mbstoc32s()` returns and stores: the return value, the characters stored in `dst`, the
new offset of `*src`, where `none` is a null pointer, and the conversion state. -/
structure Mbstoc32sResult where
  ret : Except Errno ℕ
  dst : List ℕ
  src : Option ℕ
  ps : Mbstate
  deriving DecidableEq

/-- One pass of the loop of `mbstoc32s()` without an output buffer. The state is the number of
characters, the offset in the string and the conversion state. -/
def countPass (ctype : LcCtype) (s : List UInt8) (n : ℕ) (allowNull : Bool)
    (state : ℕ × ℕ × Mbstate) :
    Option (Pass (ℕ × ℕ × Mbstate) Mbstoc32sResult) := do
  let (ret, sb, ps) := state
  match ← ctype.mbtoc32 (s.drop sb) (n - sb) ps with
  | .error errno => return .leave ⟨.error errno, [], some 0, ps⟩
  | .incomplete ps => return .leave ⟨.ok ret, [], some 0, ps⟩
  | .character c32 length ps =>
    if c32 = 0 ∧ allowNull = false then
      return .leave ⟨.ok ret, [], some 0, ps⟩
    else
      return .again (ret + 1, sb + length, ps)

/-- The loop of `mbstoc32s()` with an output buffer that has room for `len` more characters. -/
def storeCharacters (ctype : LcCtype) (s : List UInt8) (n : ℕ) (allowNull : Bool) :
    (len : ℕ) → (db : List ℕ) → (sb : ℕ) → (ps : Mbstate) → Option Mbstoc32sResult
  | 0, db, sb, ps => some ⟨.ok db.length, db, some sb, ps⟩
  | len + 1, db, sb, ps => do
      match ← ctype.mbtoc32 (s.drop sb) (n - sb) ps with
      | .error errno => return ⟨.error errno, db, some sb, ps⟩
      | .incomplete ps => return ⟨.ok db.length, db, some n, ps⟩
      | .character c32 length ps =>
        if c32 = 0 ∧ allowNull = false then
          return ⟨.ok db.length, db ++ [c32], none, ps⟩
        else
          storeCharacters ctype s n allowNull len (db ++ [c32]) (sb + length) ps

/-- `mbstoc32s()`. There is no output buffer if `len` is `none`. -/
def mbstoc32s (ctype : LcCtype) (len : Option ℕ) (s : List UInt8) (n : ℕ) (ps : Mbstate)
    (allowNull : Bool) : Option Mbstoc32sResult :=
  match len with
  | none => run (countPass ctype s n allowNull) (n + 1) (0, 0, ps)
  | some len => storeCharacters ctype s n allowNull len [] 0 ps

/-! ## Encoding of strings -/

/-- What `c32stombs()` returns and stores: the return value, the bytes stored in `dst` and the
new offset of `*src`, where `none` is a null pointer. -/
structure C32stombsResult where
  ret : Except Errno ℕ
  dst : List UInt8
  src : Option ℕ
  deriving DecidableEq

/-- The loop of `c32stombs()` without an output buffer. -/
def countBytes (ctype : LcCtype) (s : List ℕ) :
    (n : ℕ) → (ret sb : ℕ) → Option C32stombsResult
  | 0, ret, _ => some ⟨.ok ret, [], some 0⟩
  | n + 1, ret, sb => do
      let c32 ← s[sb]?
      match ← ctype.c32tomb c32 with
      | .error errno => return ⟨.error errno, [], some 0⟩
      | .ok buf =>
        if c32 = 0 then
          return ⟨.ok (ret + buf.length - 1), [], some 0⟩
        else
          countBytes ctype s n (ret + buf.length) (sb + 1)

/-- The loop of `c32stombs()` with an output buffer that has room for `len` more bytes. -/
def storeBytes (ctype : LcCtype) (s : List ℕ) :
    (n : ℕ) → (len : ℕ) → (db : List UInt8) → (sb : ℕ) → Option C32stombsResult
  | 0, _, db, sb => some ⟨.ok db.length, db, some sb⟩
  | n + 1, len, db, sb => do
      if len > 0 then
        let c32 ← s[sb]?
        match ← ctype.c32tomb c32 with
        | .error errno => return ⟨.error errno, db, some sb⟩
        | .ok buf =>
          if buf.length > len then
            return ⟨.ok db.length, db, some sb⟩
          else if c32 = 0 then
            return ⟨.ok db.length, db ++ buf, none⟩
          else
            storeBytes ctype s n (len - buf.length) (db ++ buf) (sb + 1)
      else
        return ⟨.ok db.length, db, some sb⟩

/-- `c32stombs()`. There is no output buffer if `len` is `none`. -/
def c32stombs (ctype : LcCtype) (len : Option ℕ) (s : List ℕ) (n : ℕ) : Option C32stombsResult :=
  match len with
  | none => countBytes ctype s n 0 0
  | some len => storeBytes ctype s n len [] 0

/-! ## Round trips -/

/-- The bytes are the encodings of the characters, one after the other. -/
inductive Encodes (ctype : LcCtype) : List ℕ → List UInt8 → Prop
  | nil : Encodes ctype [] []
  | cons {c32 : ℕ} {c32s : List ℕ} {buf bytes : List UInt8}
      (first : ctype.c32tomb c32 = some (.ok buf)) (rest : Encodes ctype c32s bytes) :
      Encodes ctype (c32 :: c32s) (buf ++ bytes)

/-- The characters that `c32stombs()` has converted, from the offset that it stores in `*src`.
A null pointer says that it has reached the null character. -/
def converted (s : List ℕ) : Option ℕ → List ℕ
  | some sb => s.take sb
  | none => s.takeWhile (· ≠ 0)

/-- The loop of `c32stombs()` stores the encodings of the characters it converts. -/
theorem storeBytes_encodes {ctype : LcCtype} {s : List ℕ} (n : ℕ) :
    ∀ {len : ℕ} {db : List UInt8} {sb : ℕ} {result : C32stombsResult} {ret : ℕ},
      storeBytes ctype s n len db sb = some result → result.ret = .ok ret →
      ∃ c32s bytes, Encodes ctype c32s bytes ∧ (∀ c32 ∈ c32s, c32 ≠ 0) ∧
        result.dst.take ret = db ++ bytes ∧ ret = (db ++ bytes).length ∧
        match result.src with
        | some sb' => sb' = sb + c32s.length ∧ s.drop sb = c32s ++ s.drop sb'
        | none => ∃ rest, s.drop sb = c32s ++ 0 :: rest := by
  have stop : ∀ (db : List UInt8) (sb : ℕ), ∃ c32s bytes, Encodes ctype c32s bytes ∧
      (∀ c32 ∈ c32s, c32 ≠ 0) ∧ db.take db.length = db ++ bytes ∧ db.length = (db ++ bytes).length ∧
        sb = sb + c32s.length ∧ s.drop sb = c32s ++ s.drop sb := fun db sb =>
    ⟨[], [], .nil, by simp, by simp, by simp, by simp, by simp⟩
  induction n with
  | zero =>
    intro len db sb result ret ran ok
    obtain rfl := (some.inj ran).symm
    obtain rfl := Except.ok.inj ok
    exact stop db sb
  | succ n ih =>
    intro len db sb result ret ran ok
    rw [storeBytes] at ran
    by_cases room : len > 0
    · simp only [room, if_true, bind_eq_bind] at ran
      obtain ⟨c32, lookup, ran⟩ := bind_eq_some_iff.mp ran
      obtain ⟨outcome, encoded, ran⟩ := bind_eq_some_iff.mp ran
      have split := drop_eq_getElem?_toList_append (l := s) (i := sb)
      rw [lookup, toList_some, singleton_append] at split
      cases outcome with
      | error errno =>
        obtain rfl := (some.inj ran).symm
        cases ok
      | ok buf =>
        simp only at ran
        by_cases large : buf.length > len
        · rw [if_pos large] at ran
          obtain rfl := (some.inj ran).symm
          obtain rfl := Except.ok.inj ok
          exact stop db sb
        · rw [if_neg large] at ran
          by_cases null : c32 = 0
          · rw [if_pos null] at ran
            obtain rfl := (some.inj ran).symm
            obtain rfl := Except.ok.inj ok
            refine ⟨[], [], .nil, by simp, by simp, by simp, s.drop (sb + 1), ?_⟩
            rw [split, null, nil_append]
          · rw [if_neg null] at ran
            obtain ⟨c32s, bytes, encodes, nonnull, stored, length, position⟩ := ih ran ok
            refine ⟨c32 :: c32s, buf ++ bytes, .cons encoded encodes, ?_, ?_, ?_, ?_⟩
            · rintro c (_ | ⟨_, member⟩)
              · exact null
              · exact nonnull c member
            · rw [stored, append_assoc]
            · rw [length, append_assoc]
            · cases place : result.src with
              | none =>
                rw [place] at position
                obtain ⟨rest, remaining⟩ := position
                exact ⟨rest, by rw [split, remaining, cons_append]⟩
              | some sb' =>
                rw [place] at position
                obtain ⟨rfl, remaining⟩ := position
                refine ⟨by rw [length_cons]; omega, ?_⟩
                rw [split, remaining, cons_append]
    · simp only [room, if_false] at ran
      obtain rfl := (some.inj ran).symm
      obtain rfl := Except.ok.inj ok
      exact stop db sb

/-- **Encoding.** What `c32stombs()` has written is the encoding of what it has converted. -/
theorem c32stombs_encodes {ctype : LcCtype} {s : List ℕ} {n len ret : ℕ} {dst : List UInt8}
    {src : Option ℕ} (ran : c32stombs ctype (some len) s n = some ⟨.ok ret, dst, src⟩) :
    Encodes ctype (converted s src) (dst.take ret) ∧ (∀ c32 ∈ converted s src, c32 ≠ 0) ∧
      ret = (dst.take ret).length := by
  obtain ⟨c32s, bytes, encodes, nonnull, stored, length, position⟩ := storeBytes_encodes n ran rfl
  have same : converted s src = c32s := by
    cases src with
    | none =>
      obtain ⟨rest, whole⟩ := position
      rw [drop_zero] at whole
      rw [converted, whole, takeWhile_append_of_pos (by simpa using nonnull)]
      simp
    | some sb =>
      obtain ⟨rfl, whole⟩ := position
      rw [drop_zero] at whole
      rw [converted, whole, Nat.zero_add, take_left']
      rfl
  rw [same, stored]
  exact ⟨encodes, nonnull, length⟩

/-- The decoder undoes the encoder on a character. -/
def Undoes (ctype : LcCtype) (c32 : ℕ) : Prop :=
  ∀ buf rest, ctype.c32tomb c32 = some (.ok buf) →
    ctype.mbtoc32 (buf ++ rest) (buf ++ rest).length .setInit =
      some (.character c32 buf.length .setInit)

/-- The decoder fails on the encoding of a character, or reads outside a table. -/
def Fails (ctype : LcCtype) (c32 : ℕ) : Prop :=
  ∀ buf rest, ctype.c32tomb c32 = some (.ok buf) →
    ctype.mbtoc32 (buf ++ rest) (buf ++ rest).length .setInit = none ∨
      ∃ errno, ctype.mbtoc32 (buf ++ rest) (buf ++ rest).length .setInit = some (.error errno)

section Decoding

variable {ctype : LcCtype} {s : List UInt8} {c32s : List ℕ} {bytes : List UInt8}

/-- The loop of `mbstoc32s()` gives the characters back. -/
theorem storeCharacters_encoding
    (ends : ctype.mbtoc32 [] 0 .setInit = some (.incomplete .setInit)) (allowNull : Bool)
    (encodes : Encodes ctype c32s bytes) :
    ∀ {len : ℕ} {db : List ℕ} {sb : ℕ}, (∀ c32 ∈ c32s, c32 ≠ 0 ∧ Undoes ctype c32) →
      sb ≤ s.length → s.drop sb = bytes → c32s.length ≤ len →
      storeCharacters ctype s s.length allowNull len db sb .setInit =
        some ⟨.ok (db.length + c32s.length), db ++ c32s, some s.length, .setInit⟩ := by
  induction encodes with
  | nil =>
    intro len db sb undoes inside remaining room
    have all : sb = s.length := le_antisymm inside (drop_eq_nil_iff.mp remaining)
    cases len with
    | zero => simp [storeCharacters, all]
    | succ len => simp [storeCharacters, all, ends]
  | @cons c32 c32s buf bytes first rest ih =>
    intro len db sb undoes inside remaining room
    obtain ⟨len, rfl⟩ := Nat.exists_eq_succ_of_ne_zero (by simp at room; omega : len ≠ 0)
    obtain ⟨nonnull, undo⟩ := undoes c32 mem_cons_self
    have length : s.length - sb = (buf ++ bytes).length := by
      rw [← remaining, length_drop]
    rw [storeCharacters, remaining, length, undo buf bytes first]
    simp only [bind_eq_bind, bind_some, nonnull, false_and, if_false]
    rw [length_append] at length
    rw [ih (fun c member => undoes c (mem_cons_of_mem _ member)) (by omega) ?_
      (by simpa using room)]
    · simp only [length_append, length_cons, length_nil, append_assoc, singleton_append]
      congr 3
      omega
    · rw [← drop_drop, remaining, drop_left]

/-- The loop of `mbstoc32s()` does not get past a character that the decoder fails on. -/
theorem storeCharacters_fails (allowNull : Bool) {Good : ℕ → Prop}
    (good : ∀ c32, Good c32 → Undoes ctype c32) (bad : ∀ c32, ¬ Good c32 → Fails ctype c32)
    (encodes : Encodes ctype c32s bytes) :
    ∀ {len : ℕ} {db : List ℕ} {sb : ℕ} {result : Mbstoc32sResult}, (∀ c32 ∈ c32s, c32 ≠ 0) →
      (∃ c32 ∈ c32s, ¬ Good c32) → sb ≤ s.length → s.drop sb = bytes → c32s.length ≤ len →
      storeCharacters ctype s s.length allowNull len db sb .setInit = some result →
      ∃ errno, result.ret = .error errno := by
  induction encodes with
  | nil =>
    rintro len db sb result nonnull ⟨_, impossible, _⟩
    cases impossible
  | @cons c32 c32s buf bytes first rest ih =>
    intro len db sb result nonnull occurs inside remaining room ran
    obtain ⟨len, rfl⟩ := Nat.exists_eq_succ_of_ne_zero (by simp at room; omega : len ≠ 0)
    have length : s.length - sb = (buf ++ bytes).length := by
      rw [← remaining, length_drop]
    rw [storeCharacters, remaining, length] at ran
    by_cases undo : Good c32
    · rw [good c32 undo buf bytes first] at ran
      simp only [bind_eq_bind, bind_some, nonnull c32 mem_cons_self, false_and, if_false] at ran
      rw [length_append] at length
      refine ih (fun c member => nonnull c (mem_cons_of_mem _ member)) ?_ (by omega) ?_
        (by simpa using room) ran
      · obtain ⟨c, member, failing⟩ := occurs
        rcases mem_cons.mp member with rfl | later
        · exact absurd undo failing
        · exact ⟨c, later, failing⟩
      · rw [← drop_drop, remaining, drop_left]
    · rcases bad c32 undo buf bytes first with undefined | ⟨errno, fails⟩
      · rw [undefined] at ran
        cases ran
      · rw [fails] at ran
        obtain rfl := (some.inj ran).symm
        exact ⟨errno, rfl⟩

/-- **Round trips.** Where the decoder either undoes the encoder or fails, decoding an encoding
gives the characters back if and only if none of them is one that the decoder fails on. -/
theorem mbstoc32s_encoding_iff {Good : ℕ → Prop}
    (ends : ctype.mbtoc32 [] 0 .setInit = some (.incomplete .setInit))
    (good : ∀ c32, Good c32 → Undoes ctype c32) (bad : ∀ c32, ¬ Good c32 → Fails ctype c32)
    (encodes : Encodes ctype c32s bytes) (nonnull : ∀ c32 ∈ c32s, c32 ≠ 0) {len : ℕ}
    (room : c32s.length ≤ len) (allowNull : Bool) :
    mbstoc32s ctype (some len) bytes bytes.length .setInit allowNull =
        some ⟨.ok c32s.length, c32s, some bytes.length, .setInit⟩ ↔
      ∀ c32 ∈ c32s, Good c32 := by
  constructor
  · intro decoded
    by_contra failing
    simp only [not_forall] at failing
    obtain ⟨c32, member, failing⟩ := failing
    obtain ⟨errno, impossible⟩ := storeCharacters_fails allowNull good bad encodes nonnull
      ⟨c32, member, failing⟩ (Nat.zero_le _) drop_zero room decoded
    cases impossible
  · intro all
    have stored : storeCharacters ctype bytes bytes.length allowNull len [] 0 .setInit = _ :=
      storeCharacters_encoding ends allowNull encodes
        (fun c member => ⟨nonnull c member, good c (all c member)⟩) (Nat.zero_le _) drop_zero room
    rw [length_nil, Nat.zero_add, nil_append] at stored
    exact stored

end Decoding

end Cloudlibc.Locale
