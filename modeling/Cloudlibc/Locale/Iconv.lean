import Cloudlibc.Locale.CodesetDecoders

/-!
# `iconv()`

A conversion descriptor decodes the input with one character set and encodes the characters with
another. When the output buffer has no room for the next character, `iconv()` returns `E2BIG` and
stores where it has stopped, and the caller calls it again with another buffer.

Without `//IGNORE` the calls together do what one call with enough room does, whatever the sizes of
the buffers are (`iconv_resumes`). Each call converts whole characters only (`Converts`).
-/

set_option autoImplicit false

namespace Cloudlibc.Locale

open List Option

/-! ## The function -/

/-- `struct __iconv`. -/
structure Iconv where
  fromCtype : LcCtype
  toCtype : LcCtype
  fromState : Mbstate
  ignore : Bool

/-- What a call returns and stores: the return value, the state of the descriptor, the input from
`*inbuf` on, and the bytes written to the output buffer. -/
structure IconvResult where
  ret : Except Errno Unit
  fromState : Mbstate
  inbuf : List UInt8
  outbuf : List UInt8
  deriving DecidableEq

/-- Bytes written before those of a result. -/
def IconvResult.after (buf : List UInt8) (result : IconvResult) : IconvResult :=
  { result with outbuf := buf ++ result.outbuf }

/-- The loop of `iconv()`, with a bound on the number of passes. -/
def iconvLoop (source target : LcCtype) (ignore : Bool) : (fuel : ℕ) → (fromState : Mbstate) → (inbuf : List UInt8) →
    (outbytesleft : ℕ) → (haveIlseq : Bool) → Option IconvResult
  | _, fromState, [], _, haveIlseq =>
    some ⟨if haveIlseq then .error .EILSEQ else .ok (), fromState, [], []⟩
  | 0, _, _ :: _, _, _ => none
  | fuel + 1, fromState, byte :: bytes, outbytesleft, haveIlseq => do
      let inbuf := byte :: bytes
      match ← source.mbtoc32 inbuf inbuf.length fromState with
      | .error errno =>
        if ignore then
          -- The offending byte is skipped.
          iconvLoop source target ignore fuel .setInit bytes outbytesleft true
        else
          return ⟨.error errno, fromState, inbuf, []⟩
      | .incomplete _ => return ⟨.error .EINVAL, fromState, inbuf, []⟩
      | .character c32 inlen newState =>
        match ← target.c32tomb c32 with
        | .error errno =>
          if ignore then
            iconvLoop source target ignore fuel newState (inbuf.drop inlen) outbytesleft true
          else
            return ⟨.error errno, fromState, inbuf, []⟩
        | .ok buf =>
          if buf.length > outbytesleft then
            return ⟨.error .E2BIG, fromState, inbuf, []⟩
          else
            return (← iconvLoop source target ignore fuel newState (inbuf.drop inlen)
              (outbytesleft - buf.length) haveIlseq).after buf

/-- `iconv()`. A pass takes at least one byte, so there are no more passes than bytes. -/
def iconv (cd : Iconv) (inbuf : Option (List UInt8)) (outbytesleft : ℕ) : Option IconvResult :=
  match inbuf with
  | none => some ⟨.ok (), .setInit, [], []⟩
  | some inbuf => iconvLoop cd.fromCtype cd.toCtype cd.ignore inbuf.length cd.fromState inbuf outbytesleft
      false

/-- Calls with output buffers of the given sizes, for as long as they return `E2BIG`. -/
def iconvCalls (cd : Iconv) (inbuf : List UInt8) : (sizes : List ℕ) → Option IconvResult
  | [] => some ⟨.error .E2BIG, cd.fromState, inbuf, []⟩
  | size :: sizes => do
      let result ← iconv cd (some inbuf) size
      if result.ret = .error .E2BIG then
        return (← iconvCalls { cd with fromState := result.fromState } result.inbuf sizes).after
          result.outbuf
      else
        return result

/-! ## Whole characters -/

/-- The output is the encoding of the characters of the input up to `rest`. -/
inductive Converts (source target : LcCtype) :
    Mbstate → List UInt8 → List UInt8 → Mbstate → List UInt8 → Prop
  | stop (ps : Mbstate) (inbuf : List UInt8) : Converts source target ps inbuf [] ps inbuf
  | character {ps ps' final : Mbstate} {inbuf buf outbuf rest : List UInt8} {c32 inlen : ℕ}
      (decoded : source.mbtoc32 inbuf inbuf.length ps = some (.character c32 inlen ps'))
      (encoded : target.c32tomb c32 = some (.ok buf))
      (others : Converts source target ps' (inbuf.drop inlen) outbuf final rest) :
      Converts source target ps inbuf (buf ++ outbuf) final rest

/-- The conversion of the next character: the bytes of its encoding, the number of bytes it takes
in the input and the new state. -/
def convertNext (source target : LcCtype) (ps : Mbstate) (inbuf : List UInt8) :
    Option (Except Errno (List UInt8 × ℕ × Mbstate)) := do
  match ← source.mbtoc32 inbuf inbuf.length ps with
  | .error errno => return .error errno
  | .incomplete _ => return .error .EINVAL
  | .character c32 inlen ps' => return (← target.c32tomb c32).map (·, inlen, ps')

/-- One call without a bound on the output. -/
def convertLoop (source target : LcCtype) : (fuel : ℕ) → Mbstate → List UInt8 → Option IconvResult
  | _, ps, [] => some ⟨.ok (), ps, [], []⟩
  | 0, _, _ :: _ => none
  | fuel + 1, ps, byte :: bytes => do
      match ← convertNext source target ps (byte :: bytes) with
      | .error errno => return ⟨.error errno, ps, byte :: bytes, []⟩
      | .ok (buf, inlen, ps') =>
        return (← convertLoop source target fuel ps' ((byte :: bytes).drop inlen)).after buf

/-- One call without a bound on the output. -/
def convert (source target : LcCtype) (ps : Mbstate) (inbuf : List UInt8) : Option IconvResult :=
  convertLoop source target inbuf.length ps inbuf

section Calls

variable {source target : LcCtype} {ps ps' : Mbstate} {inbuf buf : List UInt8} {inlen : ℕ}

/-- The source advances with every character, and no conversion fails with `E2BIG`. -/
structure IconvLaws (source target : LcCtype) : Prop where
  decoder : DecoderLaws source
  encoder : ∀ {c32 errno}, target.c32tomb c32 = some (.error errno) → errno = .EILSEQ

theorem convertNext_ok (next : convertNext source target ps inbuf = some (.ok (buf, inlen, ps'))) :
    ∃ c32, source.mbtoc32 inbuf inbuf.length ps = some (.character c32 inlen ps') ∧
      target.c32tomb c32 = some (.ok buf) := by
  obtain ⟨result, decoded, next⟩ := bind_eq_some_iff.mp next
  cases result with
  | error errno => cases next
  | incomplete ps' => cases next
  | character c32 inlen' ps'' =>
    obtain ⟨outcome, encoded, next⟩ := bind_eq_some_iff.mp next
    cases outcome with
    | error errno => cases next
    | ok buf' =>
      cases next
      exact ⟨c32, decoded, encoded⟩

theorem IconvLaws.inlen_pos (laws : IconvLaws source target)
    (next : convertNext source target ps inbuf = some (.ok (buf, inlen, ps'))) : 0 < inlen := by
  obtain ⟨c32, decoded, -⟩ := convertNext_ok next
  exact laws.decoder.lawful decoded

theorem IconvLaws.next_error (laws : IconvLaws source target) {errno : Errno}
    (next : convertNext source target ps inbuf = some (.error errno)) : errno = .EILSEQ ∨ errno = .EINVAL := by
  obtain ⟨result, decoded, next⟩ := bind_eq_some_iff.mp next
  cases result with
  | error errno =>
    cases next
    exact .inl (laws.decoder.lawful decoded)
  | incomplete ps' =>
    cases next
    exact .inr rfl
  | character c32 inlen' ps'' =>
    obtain ⟨outcome, encoded, next⟩ := bind_eq_some_iff.mp next
    cases outcome with
    | error errno =>
      cases next
      exact .inl (laws.encoder encoded)
    | ok buf' => cases next

/-- A pass of the loop, without `//IGNORE`. -/
theorem iconvLoop_cons (fuel : ℕ) (ps : Mbstate) (byte : UInt8)
    (bytes : List UInt8) (outbytesleft : ℕ) (haveIlseq : Bool) :
    iconvLoop source target false (fuel + 1) ps (byte :: bytes) outbytesleft haveIlseq =
      (convertNext source target ps (byte :: bytes)).bind fun next =>
        match next with
        | .error errno => some ⟨.error errno, ps, byte :: bytes, []⟩
        | .ok (buf, inlen, ps') =>
          if buf.length > outbytesleft then some ⟨.error .E2BIG, ps, byte :: bytes, []⟩
          else (iconvLoop source target false fuel ps' ((byte :: bytes).drop inlen) (outbytesleft - buf.length)
            haveIlseq).map (.after buf) := by
  rw [iconvLoop, convertNext]
  cases source.mbtoc32 (byte :: bytes) (byte :: bytes).length ps with
  | none => rfl
  | some result =>
    cases result with
    | error errno => simp
    | incomplete ps' => rfl
    | character c32 inlen ps' =>
      simp only [bind_eq_bind, bind_some]
      cases target.c32tomb c32 with
      | none => rfl
      | some outcome =>
        cases outcome with
        | error errno => simp [Except.map]
        | ok buf =>
          simp only [Option.pure_def, Option.bind_some, Except.map]
          split_ifs
          · rfl
          · cases iconvLoop source target false fuel ps' ((byte :: bytes).drop inlen) _ haveIlseq <;> rfl

theorem convertLoop_eq (laws : IconvLaws source target) (fuel : ℕ) :
    ∀ {ps : Mbstate} {inbuf : List UInt8}, inbuf.length ≤ fuel →
      convertLoop source target fuel ps inbuf = convert source target ps inbuf := by
  induction fuel using Nat.strong_induction_on with
  | _ fuel ih =>
    intro ps inbuf enough
    cases inbuf with
    | nil =>
      cases fuel <;> rfl
    | cons byte bytes =>
      cases fuel with
      | zero => cases enough
      | succ fuel =>
        rw [length_cons] at enough
        rw [convert, length_cons, convertLoop, convertLoop]
        cases next : convertNext source target ps (byte :: bytes) with
        | none => rfl
        | some outcome =>
          rcases outcome with errno | ⟨buf, inlen, ps'⟩
          · rfl
          · have advance := laws.inlen_pos next
            have shorter : ((byte :: bytes).drop inlen).length ≤ bytes.length := by
              simp only [length_drop, length_cons]
              omega
            simp only [bind_eq_bind, bind_some]
            rw [ih fuel (by omega) (by omega), ih bytes.length (by omega) shorter]

theorem convert_cons (laws : IconvLaws source target) (ps : Mbstate) (byte : UInt8) (bytes : List UInt8) :
    convert source target ps (byte :: bytes) = (convertNext source target ps (byte :: bytes)).bind fun next =>
      match next with
      | .error errno => some ⟨.error errno, ps, byte :: bytes, []⟩
      | .ok (buf, inlen, ps') =>
        (convert source target ps' ((byte :: bytes).drop inlen)).map (.after buf) := by
  rw [convert, length_cons, convertLoop]
  cases next : convertNext source target ps (byte :: bytes) with
  | none => rfl
  | some outcome =>
    rcases outcome with errno | ⟨buf, inlen, ps'⟩
    · rfl
    · have advance := laws.inlen_pos next
      have shorter : ((byte :: bytes).drop inlen).length ≤ bytes.length := by
        simp only [length_drop, length_cons]
        omega
      simp only [bind_eq_bind, bind_some, convertLoop_eq laws _ shorter]
      cases convert source target ps' ((byte :: bytes).drop inlen) <;> rfl

/-- What a call with little room has to do with one that has enough: they agree, or the rest of the
second one starts where the first one stops. -/
def Stops (source target : LcCtype) (ps : Mbstate) (inbuf : List UInt8) (result : IconvResult) : Prop :=
  if result.ret = .error .E2BIG then
    convert source target ps inbuf = (convert source target result.fromState result.inbuf).map (.after result.outbuf)
  else
    convert source target ps inbuf = some result

theorem IconvResult.after_after (buf buf' : List UInt8) (result : IconvResult) :
    (result.after buf').after buf = result.after (buf ++ buf') := by
  simp [IconvResult.after]

variable {result : IconvResult}

theorem Stops.of_eq {ps' : Mbstate} {rest : List UInt8}
    (whole : convert source target ps inbuf = (convert source target ps' rest).map (.after buf))
    (stops : Stops source target ps' rest result) :
    Stops source target ps inbuf (result.after buf) := by
  rw [Stops] at stops ⊢
  rw [whole]
  by_cases full : result.ret = .error .E2BIG
  · rw [if_pos full] at stops
    rw [if_pos (show (result.after buf).ret = .error .E2BIG from full), stops, Option.map_map]
    congr 1
    funext rest
    exact rest.after_after buf result.outbuf
  · rw [if_neg full] at stops
    rw [if_neg (show (result.after buf).ret ≠ .error .E2BIG from full), stops]
    rfl

/-- Nothing is done. -/
theorem Stops.refl (ps : Mbstate) (inbuf : List UInt8) :
    Stops source target ps inbuf ⟨.error .E2BIG, ps, inbuf, []⟩ := by
  rw [Stops, if_pos rfl]
  cases convert source target ps inbuf <;> rfl

section

variable (laws : IconvLaws source target)

include laws

/-- A call stops between two characters, and what it has not done is what is left to do. -/
theorem iconvLoop_stops (fuel : ℕ) :
    ∀ {ps : Mbstate} {inbuf : List UInt8} {outbytesleft : ℕ}, inbuf.length ≤ fuel →
      (iconvLoop source target false fuel ps inbuf outbytesleft false = none → convert source target ps inbuf = none) ∧
      ∀ result, iconvLoop source target false fuel ps inbuf outbytesleft false = some result →
        Converts source target ps inbuf result.outbuf result.fromState result.inbuf ∧
          result.inbuf.length ≤ inbuf.length ∧ Stops source target ps inbuf result := by
  induction fuel with
  | zero =>
    intro ps inbuf outbytesleft enough
    obtain rfl : inbuf = [] := eq_nil_of_length_eq_zero (Nat.le_zero.mp enough)
    refine ⟨by rintro ⟨⟩, ?_⟩
    rintro result ⟨⟩
    exact ⟨.stop ps [], le_rfl, rfl⟩
  | succ fuel ih =>
    intro ps inbuf outbytesleft enough
    cases inbuf with
    | nil =>
      refine ⟨by rintro ⟨⟩, ?_⟩
      rintro result ⟨⟩
      exact ⟨.stop ps [], le_rfl, rfl⟩
    | cons byte bytes =>
      rw [iconvLoop_cons]
      cases next : convertNext source target ps (byte :: bytes) with
      | none =>
        refine ⟨fun _ => by rw [convert_cons laws, next]; rfl, ?_⟩
        rintro result ⟨⟩
      | some outcome =>
        rcases outcome with errno | ⟨buf, inlen, ps'⟩
        · refine ⟨by rintro ⟨⟩, ?_⟩
          rintro result ⟨⟩
          refine ⟨.stop ps _, le_rfl, ?_⟩
          have other : errno ≠ .E2BIG := by
            rcases laws.next_error next with rfl | rfl <;> decide
          rw [Stops, if_neg (by simpa using other), convert_cons laws, next]
          rfl
        · rw [bind_some]
          dsimp only
          split_ifs with full
          · refine ⟨by rintro ⟨⟩, ?_⟩
            rintro result ⟨⟩
            exact ⟨.stop ps _, le_rfl, .refl ps _⟩
          · have advance := laws.inlen_pos next
            have shorter : ((byte :: bytes).drop inlen).length ≤ fuel := by
              simp only [length_drop]
              omega
            obtain ⟨undefined, defined⟩ := @ih ps' _ (outbytesleft - buf.length) shorter
            constructor
            · intro failed
              rw [map_eq_none_iff] at failed
              rw [convert_cons laws, next, bind_some]
              dsimp only
              rw [undefined failed, map_none]
            · intro result returned
              obtain ⟨rest, looped, rfl⟩ := map_eq_some_iff.mp returned
              obtain ⟨converts, length, stops⟩ := defined rest looped
              obtain ⟨c32, decoded, encoded⟩ := convertNext_ok next
              refine ⟨.character decoded encoded converts, length.trans (by simp), ?_⟩
              refine .of_eq ?_ stops
              rw [convert_cons laws, next]
              rfl

theorem iconvCalls_stops (sizes : List ℕ) :
    ∀ {ps : Mbstate} {inbuf : List UInt8} {result : IconvResult},
      iconvCalls ⟨source, target, ps, false⟩ inbuf sizes = some result →
      Stops source target ps inbuf result := by
  induction sizes with
  | nil =>
    rintro ps inbuf result ⟨⟩
    exact .refl ps inbuf
  | cons size sizes ih =>
    intro ps inbuf result returned
    obtain ⟨first, called, returned⟩ := bind_eq_some_iff.mp returned
    obtain ⟨-, -, stops⟩ := (iconvLoop_stops laws _ le_rfl).2 first called
    split_ifs at returned with full
    · obtain ⟨rest, others, returned⟩ := bind_eq_some_iff.mp returned
      cases returned
      rw [Stops, if_pos full] at stops
      exact .of_eq stops (ih others)
    · cases returned
      exact stops

theorem iconvLoop_enough (fuel : ℕ) :
    ∀ {ps : Mbstate} {inbuf : List UInt8}, inbuf.length ≤ fuel →
      ∃ bound, ∀ outbytesleft ≥ bound,
        iconvLoop source target false fuel ps inbuf outbytesleft false = convert source target ps inbuf := by
  induction fuel with
  | zero =>
    intro ps inbuf enough
    obtain rfl : inbuf = [] := eq_nil_of_length_eq_zero (Nat.le_zero.mp enough)
    exact ⟨0, fun _ _ => rfl⟩
  | succ fuel ih =>
    intro ps inbuf enough
    cases inbuf with
    | nil => exact ⟨0, fun _ _ => rfl⟩
    | cons byte bytes =>
      simp only [iconvLoop_cons, convert_cons laws]
      cases next : convertNext source target ps (byte :: bytes) with
      | none => exact ⟨0, fun _ _ => rfl⟩
      | some outcome =>
        rcases outcome with errno | ⟨buf, inlen, ps'⟩
        · exact ⟨0, fun _ _ => rfl⟩
        · have advance := laws.inlen_pos next
          have shorter : ((byte :: bytes).drop inlen).length ≤ fuel := by
            simp only [length_drop]
            omega
          obtain ⟨bound, rest⟩ := @ih ps' _ shorter
          refine ⟨bound + buf.length, ?_⟩
          intro outbytesleft room
          have fits : ¬ buf.length > outbytesleft := by omega
          simp [if_neg fits, rest (outbytesleft - buf.length) (Nat.le_sub_of_add_le room)]

/-- With enough room no call returns `E2BIG`. -/
theorem convert_ret
    (converted : convert source target ps inbuf = some result) : result.ret ≠ .error .E2BIG := by
  induction length : inbuf.length using Nat.strong_induction_on generalizing ps inbuf result with
  | _ n ih =>
    cases inbuf with
    | nil =>
      cases converted
      rintro ⟨⟩
    | cons byte bytes =>
      rw [convert_cons laws] at converted
      obtain ⟨outcome, next, converted⟩ := bind_eq_some_iff.mp converted
      rcases outcome with errno | ⟨buf, inlen, ps'⟩
      · cases converted
        rcases laws.next_error next with rfl | rfl <;> rintro ⟨⟩
      · obtain ⟨rest, rest', rfl⟩ := map_eq_some_iff.mp converted
        have advance := laws.inlen_pos next
        show rest.ret ≠ .error .E2BIG
        refine ih _ ?_ rest' rfl
        rw [← length, length_drop]
        exact Nat.sub_lt (Nat.succ_pos _) advance

/-- The conversion is defined if the decoder and the encoder are. -/
theorem convert_isSome (decodes : ∀ s ps, (source.mbtoc32 s s.length ps).isSome)
    (encodes : ∀ c32, (target.c32tomb c32).isSome) (ps : Mbstate) (inbuf : List UInt8) :
    (convert source target ps inbuf).isSome := by
  induction length : inbuf.length using Nat.strong_induction_on generalizing ps inbuf with
  | _ n ih =>
    cases inbuf with
    | nil => rfl
    | cons byte bytes =>
      rw [convert_cons laws]
      obtain ⟨outcome, next⟩ : ∃ outcome, convertNext source target ps (byte :: bytes) = some outcome := by
        obtain ⟨result, decoded⟩ :=
          isSome_iff_exists.mp (decodes (byte :: bytes) ps)
        rw [convertNext, decoded]
        cases result with
        | error errno => exact ⟨_, rfl⟩
        | incomplete ps' => exact ⟨_, rfl⟩
        | character c32 inlen ps' =>
          obtain ⟨outcome, encoded⟩ := isSome_iff_exists.mp (encodes c32)
          exact ⟨outcome.map (·, inlen, ps'), by simp [encoded]⟩
      rcases outcome with errno | ⟨buf, inlen, ps'⟩
      · rw [next]
        rfl
      · have advance := laws.inlen_pos next
        rw [next, bind_some, isSome_map]
        refine ih _ ?_ ps' _ rfl
        rw [← length, length_drop]
        exact Nat.sub_lt (Nat.succ_pos _) advance

theorem iconvLoop_progress {outbytesleft : ℕ}
    (roomy : ∀ c32 buf, target.c32tomb c32 = some (.ok buf) → buf.length ≤ outbytesleft)
    (returned : iconvLoop source target false inbuf.length ps inbuf outbytesleft false = some result)
    (full : result.ret = .error .E2BIG) : result.inbuf.length < inbuf.length := by
  cases inbuf with
  | nil =>
    cases returned
    cases full
  | cons byte bytes =>
    rw [length_cons, iconvLoop_cons] at returned
    obtain ⟨outcome, next, returned⟩ := bind_eq_some_iff.mp returned
    rcases outcome with errno | ⟨buf, inlen, ps'⟩
    · cases returned
      rcases laws.next_error next with rfl | rfl <;> cases full
    · obtain ⟨c32, -, encoded⟩ := convertNext_ok next
      have fits : ¬ buf.length > outbytesleft := Nat.not_lt.mpr (roomy c32 buf encoded)
      dsimp only at returned
      rw [if_neg fits] at returned
      obtain ⟨rest, looped, rfl⟩ := map_eq_some_iff.mp returned
      have advance := laws.inlen_pos next
      have shorter : ((byte :: bytes).drop inlen).length ≤ bytes.length := by
        simp only [length_drop, length_cons]
        omega
      obtain ⟨-, length, -⟩ := (iconvLoop_stops laws _ shorter).2 rest looped
      exact Nat.lt_succ_of_le (length.trans shorter)

theorem iconvCalls_eq (sizes : List ℕ)
    (roomy : ∀ size ∈ sizes, ∀ c32 buf, target.c32tomb c32 = some (.ok buf) →
      buf.length ≤ size) :
    ∀ (ps : Mbstate) (inbuf : List UInt8), inbuf.length < sizes.length →
      iconvCalls ⟨source, target, ps, false⟩ inbuf sizes = convert source target ps inbuf := by
  induction sizes with
  | nil =>
    intro ps inbuf enough
    cases enough
  | cons size sizes ih =>
    intro ps inbuf enough
    obtain ⟨undefined, defined⟩ :=
      @iconvLoop_stops source target laws inbuf.length ps inbuf size le_rfl
    rw [iconvCalls, iconv]
    dsimp only
    cases returned : iconvLoop source target false inbuf.length ps inbuf size false with
    | none =>
      rw [undefined returned]
      rfl
    | some result =>
      obtain ⟨-, -, stops⟩ := defined result returned
      rw [Stops] at stops
      simp only [bind_eq_bind, bind_some]
      split_ifs at stops ⊢ with full
      · have shorter := iconvLoop_progress laws (roomy size mem_cons_self) returned full
        have rest := ih (fun size member => roomy size (mem_cons_of_mem _ member))
          result.fromState result.inbuf (by rw [length_cons] at enough; omega)
        rw [rest, stops]
        cases convert source target result.fromState result.inbuf <;> rfl
      · rw [stops]
        rfl

end

end Calls

/-! ## All character sets -/

theorem Codeset.iconvLaws (source target : Codeset) : IconvLaws source.ctype target.ctype :=
  ⟨source.laws, Codeset.c32tomb_error⟩

/-- **Resumption.** For a descriptor without `//IGNORE` and an input there is a result that every
call with enough room returns. It is not `E2BIG`, and it is defined if the decoder is. Calls with
output buffers that have room for any character return the same result in total, after no more calls
than there are bytes in the input and one, and so do calls with buffers of any sizes if the last one
does not return `E2BIG`. Each call with a buffer of any size converts whole characters. -/
theorem iconv_resumes (source target : Codeset) (fromState : Mbstate) (inbuf : List UInt8) :
    let cd : Iconv := ⟨source.ctype, target.ctype, fromState, false⟩
    ∃ (whole : Option IconvResult) (bound : ℕ),
      (∀ outbytesleft ≥ bound, iconv cd (some inbuf) outbytesleft = whole) ∧
      (∀ result, whole = some result → result.ret ≠ .error .E2BIG) ∧
      ((∀ s ps, (source.ctype.mbtoc32 s s.length ps).isSome) → whole.isSome) ∧
      (∀ sizes : List ℕ, (∀ size ∈ sizes, ∀ c32 buf, target.ctype.c32tomb c32 = some (.ok buf) →
        buf.length ≤ size) → inbuf.length < sizes.length → iconvCalls cd inbuf sizes = whole) ∧
      (∀ sizes result, iconvCalls cd inbuf sizes = some result → result.ret ≠ .error .E2BIG →
        whole = some result) ∧
      ∀ outbytesleft result, iconv cd (some inbuf) outbytesleft = some result →
        Converts source.ctype target.ctype fromState inbuf result.outbuf result.fromState
          result.inbuf := by
  have laws := Codeset.iconvLaws source target
  obtain ⟨bound, enough⟩ := @iconvLoop_enough _ _ laws inbuf.length fromState inbuf le_rfl
  refine ⟨convert source.ctype target.ctype fromState inbuf, bound, enough, ?_, ?_, ?_, ?_, ?_⟩
  · intro result converted
    exact convert_ret laws converted
  · intro decodes
    exact convert_isSome laws decodes target.c32tomb_isSome fromState inbuf
  · intro sizes roomy calls
    exact iconvCalls_eq laws sizes roomy fromState inbuf calls
  · intro sizes result returned ends
    have stops := iconvCalls_stops laws sizes returned
    rwa [Stops, if_neg ends] at stops
  · intro outbytesleft result returned
    exact ((iconvLoop_stops laws _ le_rfl).2 result returned).1

end Cloudlibc.Locale
