import Cloudlibc.Locale.Ctype

/-!
# Decoding in chunks

A decoder that gets the bytes of a character in several calls keeps what it has read in its
`mbstate_t`. It is resumable (`Resumable`) if a call on some bytes and a call on those that follow
give what one call on all of them gives.

For a resumable decoder that decodes exactly the encodings of its encoder (`Exact`), a byte string
that is fed in chunks (`feed`) is accepted if and only if it is an encoding. The characters do not
depend on the chunks, and each call returns the number of bytes of its character that are in the
last chunk (`feedChunks_meets`).
-/

set_option autoImplicit false

namespace Cloudlibc.Locale

open List Option

/-! ## Resumable decoders -/

/-- The result of a call that starts with some bytes of earlier calls. -/
def Mbtoc32Result.shift (read : ℕ) : Mbtoc32Result → Mbtoc32Result
  | .character c32 length ps => .character c32 (read + length) ps
  | result => result

@[simp]
theorem Mbtoc32Result.shift_zero : shift 0 = id := by
  funext result
  cases result with
  | character c32 length ps => exact congrArg (character c32 · ps) (Nat.zero_add length)
  | _ => rfl

/-- What a decoder makes of further bytes after a call that has read some. -/
def Mbtoc32Result.resume (result : Mbtoc32Result) (read : ℕ)
    (next : Mbstate → Option Mbtoc32Result) : Option Mbtoc32Result :=
  match result with
  | .incomplete ps => (next ps).map (shift read)
  | result => some result

/-- A call on two byte strings is a call on the first, and then one on the second if the first is
incomplete. -/
def Resumable (ctype : LcCtype) : Prop :=
  ∀ (a b : List UInt8) (ps : Mbstate), ctype.mbtoc32 (a ++ b) (a ++ b).length ps =
    (ctype.mbtoc32 a a.length ps).bind fun result =>
      result.resume a.length fun ps => ctype.mbtoc32 b b.length ps

/-- The decoder decodes the encodings, and nothing else. -/
structure Exact (ctype : LcCtype) : Prop where
  resumable : Resumable ctype
  undoes : ∀ c32, Undoes ctype c32
  encoding : ∀ {s : List UInt8} {c32 length : ℕ} {ps : Mbstate},
    ctype.mbtoc32 s s.length .setInit = some (.character c32 length ps) →
      ps = .setInit ∧ ∃ buf rest, ctype.c32tomb c32 = some (.ok buf) ∧ s = buf ++ rest ∧
        length = buf.length
  incomplete : ∀ s : List UInt8,
    ctype.mbtoc32 s s.length .setInit = some (.incomplete .setInit) ↔ s = []
  defined : ∀ s : List UInt8, (ctype.mbtoc32 s s.length .setInit).isSome

section Resumption

variable {ctype : LcCtype} {ps : Mbstate} {before chunk : List UInt8}

/-- A call with the state of a partial character is one on all of its bytes. -/
theorem Resumable.decode (resumable : Resumable ctype) (chunk : List UInt8)
    (read : ctype.mbtoc32 before before.length .setInit = some (.incomplete ps)) :
    ctype.mbtoc32 (before ++ chunk) (before ++ chunk).length .setInit =
      (ctype.mbtoc32 chunk chunk.length ps).map (.shift before.length) := by
  rw [resumable before chunk, read]
  rfl

theorem Exact.length_pos (exact : Exact ctype) {c32 : ℕ} {buf : List UInt8}
    (encoded : ctype.c32tomb c32 = some (.ok buf)) : 0 < buf.length := by
  refine length_pos_iff.mpr ?_
  rintro rfl
  have decoded := exact.undoes c32 [] [] encoded
  rw [append_nil, (exact.incomplete []).mpr rfl] at decoded
  cases decoded

/-- At the start of an encoding the decoder finds the first character, or part of it. -/
theorem Exact.decode_start (exact : Exact ctype) {c32 : ℕ} {buf a b tail : List UInt8}
    (encoded : ctype.c32tomb c32 = some (.ok buf)) (split : a ++ b = buf ++ tail) :
    (buf.length ≤ a.length ∧
      ctype.mbtoc32 a a.length .setInit = some (.character c32 buf.length .setInit)) ∨
    (a.length < buf.length ∧ ∃ ps, ctype.mbtoc32 a a.length .setInit = some (.incomplete ps)) := by
  rcases append_eq_append_iff.mp split with ⟨rest, rfl, -⟩ | ⟨rest, rfl, -⟩
  · cases rest with
    | nil =>
      rw [append_nil] at encoded ⊢
      have decoded := exact.undoes c32 a [] encoded
      rw [append_nil] at decoded
      exact .inl ⟨le_rfl, decoded⟩
    | cons byte rest =>
      have longer : a.length < (a ++ byte :: rest).length := by simp
      have decoded := exact.undoes c32 _ [] encoded
      rw [append_nil, exact.resumable a] at decoded
      obtain ⟨result, start, resumed⟩ := bind_eq_some_iff.mp decoded
      refine .inr ⟨longer, ?_⟩
      cases result with
      | error errno => cases resumed
      | incomplete ps => exact ⟨ps, start⟩
      | character c32' length ps =>
        -- A character that ends within `a` is not longer than `a`.
        obtain ⟨-, buf', rest', -, rfl, rfl⟩ := exact.encoding start
        simp [Mbtoc32Result.resume] at resumed
  · exact .inl ⟨by simp, exact.undoes c32 buf rest encoded⟩

end Resumption

/-! ## Chunks -/

/-- What is known after some calls without an error: the characters, the numbers that the calls
returned for them, and the state. -/
structure Fed where
  c32s : List ℕ
  returns : List ℕ
  ps : Mbstate
  deriving DecidableEq

/-- Add a character in front. -/
def Fed.push (c32 length : ℕ) (fed : Fed) : Fed :=
  ⟨c32 :: fed.c32s, length :: fed.returns, fed.ps⟩

/-- Feed chunks to a decoder, with one call of `mbtoc32()` for each unit of fuel. After a character
the rest of the chunk is fed, and after -2 the next chunk. -/
def feed (ctype : LcCtype) :
    (fuel : ℕ) → List (List UInt8) → Mbstate → Option (Except Errno Fed)
  | _, [], ps => some (.ok ⟨[], [], ps⟩)
  | 0, _ :: _, _ => none
  | fuel + 1, [] :: chunks, ps => feed ctype fuel chunks ps
  | fuel + 1, (byte :: bytes) :: chunks, ps => do
      match ← ctype.mbtoc32 (byte :: bytes) (byte :: bytes).length ps with
      | .error errno => return .error errno
      | .incomplete ps => feed ctype fuel chunks ps
      | .character c32 length ps =>
        return (← feed ctype fuel ((byte :: bytes).drop length :: chunks) ps).map
          (Fed.push c32 length)

/-- Feed chunks to a decoder in the initial state. -/
def feedChunks (ctype : LcCtype) (chunks : List (List UInt8)) : Option (Except Errno Fed) :=
  feed ctype (chunks.flatten.length + chunks.length) chunks .setInit

/-- Of the first bytes of the chunks, the number of those in the last chunk that has any. -/
def finalBytes : List (List UInt8) → ℕ → ℕ
  | [], size => size
  | chunk :: chunks, size =>
    if size ≤ chunk.length then size else finalBytes chunks (size - chunk.length)

/-- The chunks without their first bytes. -/
def dropBytes : List (List UInt8) → ℕ → List (List UInt8)
  | [], _ => []
  | chunk :: chunks, size =>
    if size ≤ chunk.length then chunk.drop size :: chunks
    else dropBytes chunks (size - chunk.length)

/-- The number of bytes of an encoding. -/
def encodedLength (ctype : LcCtype) (c32 : ℕ) : ℕ :=
  match ctype.c32tomb c32 with
  | some (.ok buf) => buf.length
  | _ => 0

/-- For each character the number of its bytes that are in the last of its chunks, if `seen` bytes
of the first one are in earlier chunks. -/
def returnValues (ctype : LcCtype) : List (List UInt8) → (seen : ℕ) → List ℕ → List ℕ
  | _, _, [] => []
  | chunks, seen, c32 :: c32s =>
    finalBytes chunks (encodedLength ctype c32 - seen) ::
      returnValues ctype (dropBytes chunks (encodedLength ctype c32 - seen)) 0 c32s

/-! ## Decoding of chunks -/

section Feeding

variable {ctype : LcCtype} {ps : Mbstate} {before chunk : List UInt8} {chunks : List (List UInt8)}
  {result : Except Errno Fed}

/-- The result says whether the bytes are an encoding, when those of `before` have been read. -/
def Meets (ctype : LcCtype) (chunks : List (List UInt8)) (before : List UInt8)
    (result : Except Errno Fed) : Prop :=
  (∀ fed, result = .ok fed → fed.ps = .setInit →
    Encodes ctype fed.c32s (before ++ chunks.flatten)) ∧
  ∀ c32s, Encodes ctype c32s (before ++ chunks.flatten) →
    result = .ok ⟨c32s, returnValues ctype chunks before.length c32s, .setInit⟩

theorem Meets.nil (exact : Exact ctype)
    (read : ctype.mbtoc32 before before.length .setInit = some (.incomplete ps)) :
    Meets ctype [] before (.ok ⟨[], [], ps⟩) := by
  constructor
  · rintro fed ⟨⟩ rfl
    obtain rfl := (exact.incomplete before).mp read
    exact .nil
  · intro c32s encodes
    cases c32s with
    | nil =>
      obtain rfl : before = [] := by
        generalize same : before ++ [].flatten = bytes at encodes
        cases encodes
        simpa using same
      rw [(exact.incomplete []).mpr rfl] at read
      cases read
      rfl
    | cons c32 c32s =>
      generalize same : before ++ [].flatten = bytes at encodes
      cases encodes with
      | cons first rest =>
        rcases exact.decode_start first same with ⟨-, decoded⟩ | ⟨shorter, -⟩
        · rw [read] at decoded
          cases decoded
        · have := congrArg length same
          simp at this
          omega

/-- What is left of the first character when a chunk ends within it. -/
theorem returnValues_next {c32 : ℕ} (c32s : List ℕ) {seen : ℕ}
    (longer : seen + chunk.length < encodedLength ctype c32) :
    returnValues ctype (chunk :: chunks) seen (c32 :: c32s) =
      returnValues ctype chunks (seen + chunk.length) (c32 :: c32s) := by
  have more : ¬ encodedLength ctype c32 - seen ≤ chunk.length := by omega
  rw [returnValues, finalBytes, dropBytes, if_neg more, if_neg more, Nat.sub_sub, returnValues]

theorem encodedLength_eq {c32 : ℕ} {buf : List UInt8}
    (encoded : ctype.c32tomb c32 = some (.ok buf)) : encodedLength ctype c32 = buf.length := by
  rw [encodedLength, encoded]

section

variable (exact : Exact ctype)

include exact

/-- A chunk that ends within a character. -/
theorem Meets.incomplete {ps' : Mbstate}
    (read : ctype.mbtoc32 (before ++ chunk) (before ++ chunk).length .setInit =
      some (.incomplete ps')) (meets : Meets ctype chunks (before ++ chunk) result) :
    Meets ctype (chunk :: chunks) before result := by
  have same : before ++ (chunk :: chunks).flatten = before ++ chunk ++ chunks.flatten := by
    rw [flatten_cons, append_assoc]
  rw [Meets, same]
  refine ⟨meets.1, ?_⟩
  intro c32s encodes
  rw [meets.2 c32s encodes]
  generalize split : before ++ chunk ++ chunks.flatten = bytes at encodes
  cases encodes with
  | nil => rfl
  | cons first rest =>
    rcases exact.decode_start first split with ⟨-, decoded⟩ | ⟨shorter, -⟩
    · rw [read] at decoded
      cases decoded
    · rw [length_append] at shorter ⊢
      rw [returnValues_next _ (by rwa [encodedLength_eq first])]

/-- A chunk with an error. -/
theorem Meets.error {errno : Errno} (nonempty : chunk ≠ [])
    (read : ctype.mbtoc32 (before ++ chunk) (before ++ chunk).length .setInit =
      some (.error errno)) : Meets ctype (chunk :: chunks) before (.error errno) := by
  constructor
  · rintro fed ⟨⟩
  · intro c32s encodes
    rw [flatten_cons, ← append_assoc] at encodes
    generalize split : before ++ chunk ++ chunks.flatten = bytes at encodes
    cases encodes with
    | nil => simp [nonempty] at split
    | cons first rest =>
      rcases exact.decode_start first split with ⟨-, decoded⟩ | ⟨-, ps', decoded⟩
      · rw [read] at decoded
        cases decoded
      · rw [read] at decoded
        cases decoded

/-- A chunk in which a character ends. -/
theorem Meets.character {c32 length : ℕ} {buf rest : List UInt8}
    (encoded : ctype.c32tomb c32 = some (.ok buf)) (split : before ++ chunk = buf ++ rest)
    (ends : buf.length = before.length + length) (inside : length ≤ chunk.length)
    (meets : Meets ctype (chunk.drop length :: chunks) [] result) :
    Meets ctype (chunk :: chunks) before (result.map (Fed.push c32 length)) := by
  have tail : rest = chunk.drop length := by
    have dropped := congrArg (drop buf.length) split
    rwa [drop_left, ends, drop_length_add_append, eq_comm] at dropped
  have same : before ++ (chunk :: chunks).flatten =
      buf ++ ([] ++ (chunk.drop length :: chunks).flatten) := by
    rw [flatten_cons, ← append_assoc, split, tail, append_assoc]
    rfl
  rw [Meets, same]
  constructor
  · intro fed ok initial
    cases result with
    | error errno => cases ok
    | ok fed' =>
      cases ok
      exact .cons encoded (meets.1 fed' rfl initial)
  · intro c32s encodes
    have decoded : ctype.mbtoc32 (before ++ chunk) (before ++ chunk).length .setInit =
        some (.character c32 buf.length .setInit) := by
      rw [split]
      exact exact.undoes c32 buf rest encoded
    generalize whole : buf ++ ([] ++ (chunk.drop length :: chunks).flatten) = bytes at encodes
    cases encodes with
    | nil =>
      have nonempty := length_pos_iff.mp (exact.length_pos encoded)
      exact absurd (append_eq_nil_iff.mp whole).1 nonempty
    | @cons c32' c32s buf' tail' first others =>
      have split' : before ++ chunk ++ chunks.flatten = buf' ++ tail' := by
        rw [← whole, ← same, flatten_cons, append_assoc]
      -- The decoder finds one character, so the encodings start with the same one.
      rcases exact.decode_start first split' with ⟨-, decoded'⟩ | ⟨-, ps', decoded'⟩
      · rw [decoded] at decoded'
        obtain ⟨rfl, -⟩ : c32 = c32' ∧ buf.length = buf'.length := by simpa using decoded'
        obtain rfl : buf = buf' := by simpa [encoded] using first
        obtain rfl := append_cancel_left whole
        rw [meets.2 c32s others, returnValues, encodedLength_eq encoded, ends,
          Nat.add_sub_cancel_left, finalBytes, dropBytes, if_pos inside, if_pos inside]
        rfl
      · rw [decoded] at decoded'
        cases decoded'

/-- Feeding chunks takes finitely many calls, and the result says whether the bytes are an
encoding. -/
theorem feed_meets (fuel : ℕ) :
    ∀ (chunks : List (List UInt8)) (before : List UInt8) (ps : Mbstate),
      ctype.mbtoc32 before before.length .setInit = some (.incomplete ps) →
      chunks.flatten.length + chunks.length ≤ fuel →
      ∃ result, feed ctype fuel chunks ps = some result ∧ Meets ctype chunks before result := by
  induction fuel with
  | zero =>
    intro chunks before ps read enough
    obtain rfl : chunks = [] := eq_nil_of_length_eq_zero (by omega)
    exact ⟨_, rfl, .nil exact read⟩
  | succ fuel ih =>
    intro chunks before ps read enough
    cases chunks with
    | nil => exact ⟨_, rfl, .nil exact read⟩
    | cons chunk chunks =>
      rw [flatten_cons, length_append, length_cons] at enough
      cases chunk with
      | nil =>
        obtain ⟨result, fed, meets⟩ := ih chunks before ps read (by omega)
        rw [← append_nil before] at read meets
        exact ⟨result, fed, .incomplete exact read meets⟩
      | cons byte bytes =>
        rw [feed]
        generalize same : byte :: bytes = chunk at enough ⊢
        have nonempty : chunk ≠ [] := same ▸ cons_ne_nil byte bytes
        have size : 0 < chunk.length := length_pos_iff.mpr nonempty
        have decoded := exact.resumable.decode chunk read
        obtain ⟨call, called⟩ := isSome_iff_exists.mp (exact.defined (before ++ chunk))
        obtain ⟨result, returned, shifted⟩ :=
          map_eq_some_iff.mp (decoded.symm.trans called)
        rw [returned] at decoded ⊢
        cases result with
        | error errno => exact ⟨_, rfl, .error exact nonempty decoded⟩
        | incomplete ps' =>
          obtain ⟨result, fed, meets⟩ := ih chunks (before ++ chunk) ps' decoded (by omega)
          exact ⟨result, fed, .incomplete exact decoded meets⟩
        | character c32 length ps' =>
          obtain ⟨rfl, buf, rest, encoded, split, ends⟩ := exact.encoding decoded
          have inside : length ≤ chunk.length := by
            have := congrArg List.length split
            simp only [length_append] at this
            omega
          have progress : 0 < length := by
            rcases exact.decode_start encoded split with ⟨-, early⟩ | ⟨shorter, -⟩
            · rw [read] at early
              cases early
            · omega
          have initial := (exact.incomplete []).mpr rfl
          obtain ⟨result, fed, meets⟩ := ih (chunk.drop length :: chunks) [] _ initial (by
            simp only [flatten_cons, length_append, length_drop, length_cons]
            omega)
          refine ⟨_, ?_, .character exact encoded split ends.symm inside meets⟩
          simp only [bind_eq_bind, bind_some, fed]
          rfl

theorem feedChunks_meets (chunks : List (List UInt8)) :
    ∃ result, feedChunks ctype chunks = some result ∧ Meets ctype chunks [] result :=
  feed_meets exact _ chunks [] .setInit ((exact.incomplete []).mpr rfl) le_rfl

end

end Feeding

end Cloudlibc.Locale
