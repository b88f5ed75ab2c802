import Cloudlibc.Locale.CodesetRoundTrip
import Cloudlibc.Locale.Resumption

/-!
# `getwc()`

A stream delivers its bytes in the buffers that its `read_peek()` provides. `getwc()` passes the
whole buffer to the decoder of the stream, and consumes what the decoder returns. It does so for the
-2 of a partial character, too, and then fails the assertion in `fread_consume()`.

So calls of `getwc()` deliver the characters of the stream if and only if no buffer ends within a
character, and the decoder of the character set reads the characters back (`getwcs_delivers_iff`).
-/

set_option autoImplicit false

namespace Cloudlibc.Stdio

open Cloudlibc.Locale Cloudlibc.Loop List Option

/-! ## Read buffers -/

/-- The part of a `FILE` that is used for reading. `ungetc` has the bytes that are pushed back,
`readbuf` those of the read buffer, and `chunks` those that `read_peek()` will provide. -/
structure Stream where
  ungetc : List UInt8
  readbuf : List UInt8
  readstate : Mbstate
  orientation : ℤ
  eof : Bool
  error : Bool
  chunks : List (List UInt8)
  deriving DecidableEq

/-- A stream that nothing has been read from. -/
def Stream.ofChunks (chunks : List (List UInt8)) : Stream :=
  ⟨[], [], .setInit, 0, false, false, chunks⟩

/-- The bytes that are not consumed. -/
def Stream.pending (stream : Stream) : List UInt8 :=
  stream.ungetc ++ (stream.readbuf ++ stream.chunks.flatten)

/-- `fop_read_peek()`. At the end of the input the buffer is empty. -/
def fopReadPeek (stream : Stream) : Option Stream :=
  if stream.readbuf.length = 0 ∧ stream.ungetc.length = 0 then
    match stream.chunks with
    | [] => some { stream with eof := true }
    | chunk :: chunks => some { stream with
        readbuf := chunk
        chunks := chunks
        eof := stream.eof || chunk.length == 0 }
  else
    none

/-- `fread_peek()`. -/
def freadPeek (stream : Stream) : Option (List UInt8 × Stream) := do
  if stream.ungetc.length > 0 then
    return (stream.ungetc, stream)
  else
    let stream ← if stream.readbuf.length = 0 then fopReadPeek stream else pure stream
    return (stream.readbuf, stream)

/-- `fread_consume()`. The assertion fails if there is less data. -/
def freadConsume (stream : Stream) (buflen : ℕ) : Option Stream :=
  if stream.ungetc.length > 0 then
    if buflen ≤ stream.ungetc.length then
      some { stream with ungetc := stream.ungetc.drop buflen }
    else
      none
  else
    if buflen ≤ stream.readbuf.length then
      some { stream with readbuf := stream.readbuf.drop buflen }
    else
      none

/-! ## `getwc()` -/

/-- The value that a call of `mbtoc32()` returns. -/
def returnValue : Mbtoc32Result → ℤ
  | .error _ => -1
  | .incomplete _ => -2
  | .character _ length _ => length

/-- The conversion of a `ssize_t` to `size_t`. -/
def toSizeT (len : ℤ) : ℕ :=
  (len % 2 ^ 64).toNat

/-- The conversion state after a call of `mbtoc32()`. -/
def stateAfter (ps : Mbstate) : Mbtoc32Result → Mbstate
  | .error _ => ps
  | .incomplete ps => ps
  | .character _ _ ps => ps

/-- One pass of the loop of `getwc()`. The result is a character, or `none` for `WEOF`. -/
def getwcPass (ctype : LcCtype) (stream : Stream) :
    Option (Pass Stream (Option ℕ × Stream)) := do
  let (readbuf, stream) ← freadPeek stream
  if readbuf.length = 0 then
    return .leave (none, stream)
  else
    let result ← ctype.mbtoc32 readbuf readbuf.length stream.readstate
    let stream := { stream with readstate := stateAfter stream.readstate result }
    match result with
    | .error _ => return .leave (none, { stream with error := true })
    | .incomplete _ => return .again (← freadConsume stream (toSizeT (returnValue result)))
    | .character c32 _ _ =>
      return .leave (some c32, ← freadConsume stream (toSizeT (returnValue result)))

/-- `flockfile_orientation()`. -/
def flockfileOrientation (stream : Stream) (mode : ℤ) : Stream :=
  { stream with orientation := if stream.orientation = 0 then mode else stream.orientation }

/-- `getwc()`, with a bound on the passes of its loop. -/
def getwc (ctype : LcCtype) (fuel : ℕ) (stream : Stream) : Option (Option ℕ × Stream) :=
  run (getwcPass ctype) fuel (flockfileOrientation stream 1)

/-- Calls of `getwc()` up to `WEOF`: each character, with the bytes that are left behind it, and the
stream in the end. -/
def getwcs (ctype : LcCtype) : (fuel : ℕ) → Stream → Option (List (ℕ × List UInt8) × Stream)
  | 0, _ => none
  | fuel + 1, stream => do
      match ← getwc ctype (fuel + 1) stream with
      | (none, stream) => return ([], stream)
      | (some c32, stream) =>
        let (c32s, final) ← getwcs ctype fuel stream
        return ((c32, stream.pending) :: c32s, final)

/-- What the calls should deliver: the characters, with the bytes that are left. -/
def delivered (ctype : LcCtype) : List ℕ → List UInt8 → List (ℕ × List UInt8)
  | [], _ => []
  | c32 :: c32s, bytes =>
    let rest := bytes.drop (encodedLength ctype c32)
    (c32, rest) :: delivered ctype c32s rest

/-! ## One call -/

/-- The stream with a buffer that is not empty, unless there is no more input. -/
def Stream.refill (stream : Stream) : Stream :=
  if stream.readbuf = [] then
    match stream.chunks with
    | [] => { stream with eof := true }
    | chunk :: chunks => { stream with
        readbuf := chunk
        chunks := chunks
        eof := stream.eof || chunk.length == 0 }
  else
    stream

variable {stream : Stream}

theorem freadPeek_eq (noUngetc : stream.ungetc = []) :
    freadPeek stream = some (stream.refill.readbuf, stream.refill) := by
  rw [freadPeek, noUngetc, length_nil, if_neg (Nat.lt_irrefl 0), Stream.refill]
  by_cases empty : stream.readbuf = []
  · rw [if_pos (length_eq_zero_iff.mpr empty), fopReadPeek, empty, noUngetc, if_pos ⟨rfl, rfl⟩]
    cases stream.chunks <;> rfl
  · rw [if_neg empty, if_neg (mt length_eq_zero_iff.mp empty)]
    rfl

theorem Stream.refill_ungetc (stream : Stream) : stream.refill.ungetc = stream.ungetc := by
  rw [refill]
  split_ifs
  · split <;> rfl
  · rfl

theorem Stream.refill_readstate (stream : Stream) :
    stream.refill.readstate = stream.readstate := by
  rw [refill]
  split_ifs
  · split <;> rfl
  · rfl

theorem Stream.refill_pending (stream : Stream) : stream.refill.pending = stream.pending := by
  rw [refill]
  split_ifs with empty
  · cases more : stream.chunks with
    | nil => simp [pending, more]
    | cons chunk chunks => simp [pending, empty, more]
  · rfl

variable {ctype : LcCtype}

theorem getwcPass_eq (noUngetc : stream.ungetc = []) :
    getwcPass ctype stream =
      let filled := stream.refill
      if filled.readbuf.length = 0 then
        some (.leave (none, filled))
      else
        (ctype.mbtoc32 filled.readbuf filled.readbuf.length filled.readstate).bind fun result =>
          let next := { filled with readstate := stateAfter filled.readstate result }
          match result with
          | .error _ => some (.leave (none, { next with error := true }))
          | .incomplete _ =>
            (freadConsume next (toSizeT (returnValue result))).map .again
          | .character c32 _ _ =>
            (freadConsume next (toSizeT (returnValue result))).map fun next =>
              .leave (some c32, next) := by
  rw [getwcPass, freadPeek_eq noUngetc]
  simp only [bind_eq_bind, bind_some]
  split_ifs
  · rfl
  · cases ctype.mbtoc32 stream.refill.readbuf stream.refill.readbuf.length
      stream.refill.readstate with
    | none => rfl
    | some result =>
      cases result with
      | error errno => rfl
      | incomplete ps => simp only [bind_some]; cases freadConsume _ _ <;> rfl
      | character c32 length ps => simp only [bind_some]; cases freadConsume _ _ <;> rfl

theorem freadConsume_eq (noUngetc : stream.ungetc = []) (buflen : ℕ) :
    freadConsume stream buflen =
      if buflen ≤ stream.readbuf.length then
        some { stream with readbuf := stream.readbuf.drop buflen }
      else none := by
  rw [freadConsume, noUngetc, length_nil, if_neg (Nat.lt_irrefl 0)]

theorem toSizeT_natCast {length : ℕ} (small : length < 2 ^ 64) : toSizeT length = length := by
  rw [toSizeT]
  omega

/-- A call that finds the encoding of a character at the front of the buffer. -/
theorem getwc_character {filled : Stream} {c32 : ℕ} {buf rest : List UInt8}
    (noUngetc : stream.ungetc = []) (initial : stream.readstate = .setInit)
    (refilled : (flockfileOrientation stream 1).refill = filled) (undoes : Undoes ctype c32)
    (encoded : ctype.c32tomb c32 = some (.ok buf)) (nonempty : buf ≠ [])
    (small : buf.length < 2 ^ 64) (front : filled.readbuf = buf ++ rest) (fuel : ℕ) :
    getwc ctype (fuel + 1) stream = some (some c32, { filled with readbuf := rest }) := by
  have noUngetc' : (flockfileOrientation stream 1).ungetc = [] := noUngetc
  have filledUngetc : filled.ungetc = [] := by
    rw [← refilled, Stream.refill_ungetc]
    exact noUngetc
  have filledState : filled.readstate = .setInit := by
    rw [← refilled, Stream.refill_readstate]
    exact initial
  obtain ⟨ungetc, readbuf, readstate, orientation, eof, error, chunks⟩ := filled
  subst filledUngetc filledState front
  have size : ¬ (buf ++ rest).length = 0 := by simp [nonempty]
  have inside : buf.length ≤ (buf ++ rest).length := by simp
  rw [getwc, run, getwcPass_eq noUngetc', refilled]
  simp only [if_neg size, undoes buf rest encoded, bind_some, stateAfter, returnValue,
    toSizeT_natCast small, freadConsume_eq, if_pos inside, map_some, drop_left]

/-- A call that returns a character has consumed some bytes of a buffer. -/
theorem getwc_some {filled next : Stream} {fuel c32 : ℕ} (noUngetc : stream.ungetc = [])
    (refilled : (flockfileOrientation stream 1).refill = filled)
    (short : filled.readbuf.length < 2 ^ 63)
    (returned : getwc ctype (fuel + 1) stream = some (some c32, next)) :
    ∃ length ps, ctype.mbtoc32 filled.readbuf filled.readbuf.length stream.readstate =
        some (.character c32 length ps) ∧
      toSizeT length ≤ filled.readbuf.length ∧
      next = { filled with
        readbuf := filled.readbuf.drop (toSizeT length)
        readstate := ps } := by
  have noUngetc' : (flockfileOrientation stream 1).ungetc = [] := noUngetc
  have filledUngetc : filled.ungetc = [] := by
    rw [← refilled, Stream.refill_ungetc]
    exact noUngetc
  have filledState : filled.readstate = stream.readstate := by
    rw [← refilled, Stream.refill_readstate]
    rfl
  rw [getwc, run, getwcPass_eq noUngetc', refilled] at returned
  dsimp only at returned
  rw [filledState] at returned
  by_cases empty : filled.readbuf.length = 0
  · rw [if_pos empty] at returned
    cases returned
  · rw [if_neg empty] at returned
    cases decoded : ctype.mbtoc32 filled.readbuf filled.readbuf.length stream.readstate with
    | none =>
      rw [decoded] at returned
      cases returned
    | some result =>
      rw [decoded] at returned
      cases result with
      | error errno => cases returned
      | incomplete ps =>
        -- The assertion in `fread_consume()` fails.
        have huge : ¬ toSizeT (-2) ≤ filled.readbuf.length := by
          rw [toSizeT]
          omega
        simp [returnValue, freadConsume_eq, filledUngetc, huge] at returned
      | character c32' length ps =>
        by_cases inside : toSizeT length ≤ filled.readbuf.length
        · simp only [bind_some, returnValue, stateAfter, freadConsume_eq, filledUngetc,
            inside, if_true, map_some] at returned
          cases returned
          exact ⟨length, ps, rfl, inside, by rw [filledUngetc]⟩
        · simp [returnValue, freadConsume_eq, filledUngetc, inside] at returned

/-! ## All calls -/

section Calls

variable {ctype : LcCtype} {stream : Stream} {c32s : List ℕ}

theorem getwcs_end (noUngetc : stream.ungetc = []) (noReadbuf : stream.readbuf = [])
    (noChunks : stream.chunks = []) (fuel : ℕ) :
    getwcs ctype (fuel + 1) stream =
      some ([], { flockfileOrientation stream 1 with eof := true }) := by
  have refilled : (flockfileOrientation stream 1).refill =
      { flockfileOrientation stream 1 with eof := true } := by
    rw [Stream.refill, if_pos (show (flockfileOrientation stream 1).readbuf = [] from noReadbuf)]
    simp [flockfileOrientation, noChunks]
  have empty : (flockfileOrientation stream 1).readbuf.length = 0 :=
    length_eq_zero_iff.mpr noReadbuf
  rw [getwcs, getwc, run,
    getwcPass_eq (show (flockfileOrientation stream 1).ungetc = [] from noUngetc), refilled]
  rw [if_pos empty]
  rfl

/-- A stream between two characters, whose buffers are not empty and fit into memory. -/
structure Stream.Clean (stream : Stream) : Prop where
  noUngetc : stream.ungetc = []
  initial : stream.readstate = .setInit
  notEof : stream.eof = false
  noError : stream.error = false
  nonempty : ∀ chunk ∈ stream.chunks, chunk ≠ []
  short : ∀ chunk ∈ stream.readbuf :: stream.chunks, chunk.length < 2 ^ 63

/-- The next buffer, if there are any bytes left. -/
theorem Stream.Clean.refill (clean : stream.Clean) (more : stream.pending ≠ []) :
    ∃ filled, (flockfileOrientation stream 1).refill = filled ∧ filled.Clean ∧
      filled.readbuf ≠ [] ∧ (stream.readbuf = filled.readbuf ∧ stream.chunks = filled.chunks ∨
        stream.readbuf = [] ∧ stream.chunks = filled.readbuf :: filled.chunks) := by
  obtain ⟨ungetc, readbuf, readstate, orientation, eof, error, chunks⟩ := stream
  obtain ⟨rfl, rfl, rfl, rfl, nonempty, short⟩ := clean
  rw [Stream.refill]
  by_cases empty : readbuf = []
  · subst empty
    cases chunks with
    | nil => simp [pending] at more
    | cons chunk chunks =>
      have chunkNonempty := nonempty chunk mem_cons_self
      refine ⟨_, rfl, ⟨rfl, rfl, ?_, rfl, ?_, ?_⟩, chunkNonempty, .inr ⟨rfl, rfl⟩⟩
      · simpa [flockfileOrientation] using chunkNonempty
      · exact fun other member => nonempty other (mem_cons_of_mem _ member)
      · exact fun other member => short other (mem_cons_of_mem _ member)
  · have kept : (flockfileOrientation ⟨[], readbuf, .setInit, orientation, false, false, chunks⟩
        1).readbuf ≠ [] := empty
    refine ⟨_, rfl, ?_⟩
    rw [if_neg kept]
    exact ⟨⟨rfl, rfl, rfl, rfl, nonempty, short⟩, empty, .inl ⟨rfl, rfl⟩⟩

/-- The stream behind a character. -/
theorem Stream.Clean.consume (clean : stream.Clean) {buf rest : List UInt8}
    (front : stream.readbuf = buf ++ rest) : Stream.Clean { stream with readbuf := rest } := by
  refine ⟨clean.noUngetc, clean.initial, clean.notEof, clean.noError, clean.nonempty, ?_⟩
  intro chunk member
  rcases mem_cons.mp member with rfl | member
  · have whole := clean.short stream.readbuf mem_cons_self
    rw [front, length_append] at whole
    exact lt_of_le_of_lt (Nat.le_add_left _ _) whole
  · exact clean.short chunk (mem_cons_of_mem _ member)

theorem Stream.Clean.pending_eq (clean : stream.Clean) :
    stream.pending = stream.readbuf ++ stream.chunks.flatten := by
  rw [pending, clean.noUngetc, nil_append]

theorem Stream.Clean.eq_nil (clean : stream.Clean) (none : stream.pending = []) :
    stream.readbuf = [] ∧ stream.chunks = [] := by
  rw [clean.pending_eq, append_eq_nil_iff] at none
  refine ⟨none.1, eq_nil_iff_forall_not_mem.mpr fun chunk member => ?_⟩
  exact clean.nonempty chunk member (flatten_eq_nil_iff.mp none.2 chunk member)

variable {c32 : ℕ}

theorem getwcs_cons {fuel : ℕ} {next final : Stream} {rest : List (ℕ × List UInt8)}
    (returned : getwc ctype (fuel + 1) stream = some (some c32, next))
    (others : getwcs ctype fuel next = some (rest, final)) :
    getwcs ctype (fuel + 1) stream = some ((c32, next.pending) :: rest, final) := by
  rw [getwcs, returned]
  simp only [bind_eq_bind, bind_some, others]
  rfl

theorem getwcs_eq_cons {fuel : ℕ} {final : Stream} {pending : List UInt8}
    {rest : List (ℕ × List UInt8)}
    (called : getwcs ctype (fuel + 1) stream = some ((c32, pending) :: rest, final)) :
    ∃ next, getwc ctype (fuel + 1) stream = some (some c32, next) ∧ next.pending = pending ∧
      getwcs ctype fuel next = some (rest, final) := by
  rw [getwcs] at called
  obtain ⟨⟨_ | c32', next⟩, returned, called⟩ := bind_eq_some_iff.mp called
  · cases called
  · obtain ⟨⟨rest', final'⟩, others, called⟩ := bind_eq_some_iff.mp called
    cases called
    exact ⟨next, returned, rfl, others⟩

/-- The encoding of a character that the decoder undoes is not empty. -/
theorem ne_nil_of_undoes {buf : List UInt8} (undoes : Undoes ctype c32)
    (empty : ctype.mbtoc32 [] 0 .setInit = some (.incomplete .setInit))
    (encoded : ctype.c32tomb c32 = some (.ok buf)) : buf ≠ [] := by
  rintro rfl
  have decoded := undoes [] [] encoded
  rw [append_nil, length_nil, empty] at decoded
  cases decoded

theorem getwcs_delivers (empty : ctype.mbtoc32 [] 0 .setInit = some (.incomplete .setInit))
    (fuel : ℕ) : ∀ {stream : Stream} {first : List ℕ} {groups : List (List ℕ)},
      (∀ c32 ∈ first ++ groups.flatten, Undoes ctype c32) → stream.Clean →
      Encodes ctype first stream.readbuf → List.Forall₂ (Encodes ctype) groups stream.chunks →
      (first ++ groups.flatten).length < fuel →
      ∃ final, getwcs ctype fuel stream =
          some (delivered ctype (first ++ groups.flatten) stream.pending, final) ∧
        final.eof = true ∧ final.error = false := by
  induction fuel with
  | zero =>
    intro stream first groups undoes clean buffer chunks enough
    cases enough
  | succ fuel ih =>
    -- The buffer that a call sees starts with the encoding of a character.
    have step : ∀ {stream filled : Stream} {c32 : ℕ} {first : List ℕ} {groups : List (List ℕ)}
        {buf rest : List UInt8}, (∀ c32' ∈ c32 :: first ++ groups.flatten, Undoes ctype c32') →
        stream.Clean → (flockfileOrientation stream 1).refill = filled → filled.Clean →
        ctype.c32tomb c32 = some (.ok buf) → filled.readbuf = buf ++ rest →
        Encodes ctype first rest → List.Forall₂ (Encodes ctype) groups filled.chunks →
        (c32 :: first ++ groups.flatten).length < fuel + 1 →
        ∃ final, getwcs ctype (fuel + 1) stream =
            some (delivered ctype (c32 :: first ++ groups.flatten) stream.pending, final) ∧
          final.eof = true ∧ final.error = false := by
      intro stream filled c32 first groups buf rest undoes clean refilled clean' encoded front
        buffer chunks enough
      have undone := undoes c32 mem_cons_self
      have small : buf.length < 2 ^ 64 := by
        have short := clean'.short _ mem_cons_self
        rw [front, length_append] at short
        omega
      have next := clean'.consume front
      obtain ⟨final, others, atEnd, noError⟩ := @ih _ first groups
        (fun c32' member => undoes c32' (mem_cons_of_mem _ member)) next buffer chunks
        (Nat.lt_of_succ_lt_succ enough)
      have pending : stream.pending = buf ++ (rest ++ filled.chunks.flatten) := by
        have same : (flockfileOrientation stream 1).refill.pending = stream.pending :=
          Stream.refill_pending _
        rw [← same, refilled, clean'.pending_eq, front, append_assoc]
      refine ⟨final, ?_, atEnd, noError⟩
      rw [getwcs_cons (getwc_character clean.noUngetc clean.initial refilled undone encoded
        (ne_nil_of_undoes undone empty encoded) small front fuel) others, cons_append, delivered,
        pending, encodedLength_eq encoded, drop_left, next.pending_eq]
    intro stream first groups undoes clean buffer chunks enough
    generalize bytes : stream.readbuf = readbuf at buffer
    cases buffer with
    | nil =>
      generalize left : stream.chunks = chunks' at chunks
      cases chunks with
      | nil => exact ⟨_, getwcs_end clean.noUngetc bytes left fuel, rfl, clean.noError⟩
      | @cons group chunk groups chunks' encodes others =>
        have nonempty : chunk ≠ [] := clean.nonempty chunk (left ▸ mem_cons_self)
        have more : stream.pending ≠ [] := by
          rw [clean.pending_eq, bytes, left]
          simp [nonempty]
        obtain ⟨filled, refilled, clean', full, ⟨same, -⟩ | ⟨-, same⟩⟩ := clean.refill more
        · exact absurd (same.symm.trans bytes) full
        · rw [left, cons.injEq] at same
          obtain ⟨rfl, rfl⟩ := same
          generalize front : filled.readbuf = chunk at encodes nonempty
          cases encodes with
          | nil => exact absurd rfl nonempty
          | cons encoded rest =>
            exact step undoes clean refilled clean' encoded front rest others enough
    | @cons c32 first buf bytes' encoded rest =>
      have nonempty := ne_nil_of_undoes (undoes c32 mem_cons_self) empty encoded
      have more : stream.pending ≠ [] := by
        rw [clean.pending_eq, bytes]
        simp [nonempty]
      obtain ⟨filled, refilled, clean', -, ⟨same, left⟩ | ⟨same, -⟩⟩ := clean.refill more
      · rw [left] at chunks
        exact step undoes clean refilled clean' encoded (same.symm.trans bytes) rest chunks
          enough
      · rw [bytes] at same
        exact absurd (append_eq_nil_iff.mp same).1 nonempty

/-- **What is delivered is in buffers of whole characters.** -/
theorem whole_of_getwcs {codeset : Codeset} (fuel : ℕ) :
    ∀ {stream final : Stream} {c32s : List ℕ}, stream.Clean →
      Encodes codeset.ctype c32s stream.pending →
      getwcs codeset.ctype fuel stream =
        some (delivered codeset.ctype c32s stream.pending, final) →
      ∃ first groups, c32s = first ++ groups.flatten ∧
        Encodes codeset.ctype first stream.readbuf ∧
        List.Forall₂ (Encodes codeset.ctype) groups stream.chunks ∧
        ∀ c32 ∈ c32s, codeset.Decodes c32 := by
  induction fuel with
  | zero =>
    rintro stream final c32s clean encodes ⟨⟩
  | succ fuel ih =>
    intro stream final c32s clean encodes called
    generalize bytes : stream.pending = pending at encodes called
    cases encodes with
    | nil =>
      obtain ⟨noReadbuf, noChunks⟩ := clean.eq_nil bytes
      refine ⟨[], [], rfl, ?_, ?_, by simp⟩
      · rw [noReadbuf]
        exact .nil
      · rw [noChunks]
        exact .nil
    | @cons c32 c32s buf rest encoded others =>
      rw [delivered, encodedLength_eq encoded, drop_left] at called
      have more : stream.pending ≠ [] := by
        intro none
        obtain ⟨noReadbuf, noChunks⟩ := clean.eq_nil none
        rw [getwcs_end clean.noUngetc noReadbuf noChunks] at called
        cases called
      obtain ⟨next, returned, pending', called⟩ := getwcs_eq_cons called
      obtain ⟨filled, refilled, clean', -, position⟩ := clean.refill more
      have whole : filled.readbuf ++ filled.chunks.flatten = buf ++ rest := by
        have same : (flockfileOrientation stream 1).refill.pending = stream.pending :=
          Stream.refill_pending _
        rw [← bytes, ← same, refilled, clean'.pending_eq]
      obtain ⟨length, ps, decoded, inside, rfl⟩ := getwc_some clean.noUngetc refilled
        (clean'.short _ mem_cons_self) returned
      -- The bytes that are left say how many are consumed.
      have consumed : toSizeT length = buf.length := by
        have left := congrArg List.length pending'
        have all := congrArg List.length whole
        simp only [Stream.pending, clean'.noUngetc, length_append, length_drop,
          length_nil] at left all
        omega
      have front : filled.readbuf = buf ++ filled.readbuf.drop buf.length := by
        have taken := congrArg (take buf.length) whole
        rw [take_left, take_append_of_le_length (consumed ▸ inside)] at taken
        exact (take_append_drop _ _).symm.trans (congrArg (· ++ _) taken)
      rw [consumed] at pending' called
      generalize filled.readbuf.drop buf.length = tail at front pending' called
      have decodes : codeset.Decodes c32 := by
        by_contra undecodable
        have fails := codeset.fails c32 undecodable buf tail encoded
        rw [← front, ← clean.initial, decoded] at fails
        simp at fails
      have undone := codeset.undoes c32 decodes buf tail encoded
      rw [← front, ← clean.initial, decoded] at undone
      obtain ⟨-, rfl⟩ : length = buf.length ∧ ps = filled.readstate := by
        simpa [clean.initial, clean'.initial] using undone
      obtain ⟨first, groups, rfl, buffer, chunks, all⟩ :=
        @ih { filled with readbuf := tail } final c32s (clean'.consume front)
          (pending' ▸ others) (pending' ▸ called)
      have all' : ∀ c32' ∈ c32 :: (first ++ groups.flatten), codeset.Decodes c32' := by
        intro c32' member
        rcases mem_cons.mp member with rfl | member
        · exact decodes
        · exact all c32' member
      have buffer' : Encodes codeset.ctype (c32 :: first) filled.readbuf := by
        rw [front]
        exact .cons encoded buffer
      rcases position with ⟨same, left⟩ | ⟨same, left⟩
      · refine ⟨c32 :: first, groups, rfl, ?_, ?_, all'⟩
        · rw [same]
          exact buffer'
        · rw [left]
          exact chunks
      · refine ⟨[], (c32 :: first) :: groups, rfl, ?_, ?_, all'⟩
        · rw [same]
          exact .nil
        · rw [left]
          exact .cons buffer' chunks

end Calls

/-- **Calls of `getwc()` up to `WEOF` deliver the characters of a stream, each of them with the bytes
behind it left, if and only if no buffer ends within a character and the decoder of the character
set reads the characters back.** Buffers are not empty, and smaller than half of the address
space. -/
theorem getwcs_delivers_iff (codeset : Codeset) (c32s : List ℕ) (chunks : List (List UInt8))
    (encodes : Encodes codeset.ctype c32s chunks.flatten)
    (nonempty : ∀ chunk ∈ chunks, chunk ≠ []) (short : ∀ chunk ∈ chunks, chunk.length < 2 ^ 63) :
    (∃ fuel final, getwcs codeset.ctype fuel (.ofChunks chunks) =
        some (delivered codeset.ctype c32s chunks.flatten, final) ∧
      final.eof = true ∧ final.error = false) ↔
    (∃ groups : List (List ℕ), groups.flatten = c32s ∧
      List.Forall₂ (Encodes codeset.ctype) groups chunks) ∧
    ∀ c32 ∈ c32s, codeset.Decodes c32 := by
  have clean : (Stream.ofChunks chunks).Clean := by
    refine ⟨rfl, rfl, rfl, rfl, nonempty, ?_⟩
    intro chunk member
    rcases mem_cons.mp member with rfl | member
    · exact Nat.two_pow_pos 63
    · exact short chunk member
  constructor
  · rintro ⟨fuel, final, called, -⟩
    obtain ⟨first, groups, rfl, buffer, whole, all⟩ := whole_of_getwcs fuel clean encodes called
    generalize none : (Stream.ofChunks chunks).readbuf = readbuf at buffer
    cases buffer with
    | nil => exact ⟨⟨groups, rfl, whole⟩, all⟩
    | @cons c32 first buf bytes encoded rest =>
      have undoes := codeset.undoes c32 (all c32 mem_cons_self)
      have noBuf : buf = [] := (append_eq_nil_iff.mp none.symm).1
      exact absurd noBuf (ne_nil_of_undoes undoes codeset.mbtoc32_nil encoded)
  · rintro ⟨⟨groups, rfl, whole⟩, decodes⟩
    obtain ⟨final, called, atEnd, noError⟩ :=
      @getwcs_delivers _ codeset.mbtoc32_nil (groups.flatten.length + 1) _ [] groups
        (fun c32 member => codeset.undoes c32 (decodes c32 member)) clean .nil whole
        (Nat.lt_succ_self _)
    exact ⟨_, final, called, atEnd, noError⟩

/-- An e with acute accent in one buffer. -/
theorem getwcs_delivers_wholeBuffer :
    ∃ fuel final, getwcs Codeset.utf8.ctype fuel (.ofChunks [[0xc3, 0xa9]]) =
        some ([(0xe9, [])], final) ∧ final.eof = true ∧ final.error = false := by
  have encoded : Encodes Codeset.utf8.ctype [0xe9] ([0xc3, 0xa9] ++ []) :=
    .cons (by decide +kernel) .nil
  refine (getwcs_delivers_iff .utf8 [0xe9] [[0xc3, 0xa9]] encoded ?_ ?_).mpr
    ⟨⟨[[0xe9]], rfl, .cons encoded .nil⟩, ?_⟩
  · exact forall_mem_singleton.mpr (cons_ne_nil _ _)
  · exact forall_mem_singleton.mpr (by decide)
  · exact forall_mem_singleton.mpr trivial

/-- An e with acute accent in two buffers: the first call fails the assertion. -/
theorem getwc_splitCharacter :
    Encodes Codeset.utf8.ctype [0xe9] [[0xc3], [0xa9]].flatten ∧
      ∀ fuel, getwc Codeset.utf8.ctype fuel (.ofChunks [[0xc3], [0xa9]]) = none := by
  constructor
  · show Encodes Codeset.utf8.ctype [0xe9] ([0xc3, 0xa9] ++ [])
    exact .cons (by decide +kernel) .nil
  · intro fuel
    cases fuel with
    | zero => rfl
    | succ fuel =>
      have failed : getwcPass Codeset.utf8.ctype
          (flockfileOrientation (.ofChunks [[0xc3], [0xa9]]) 1) = none :=
        isNone_iff_eq_none.mp (by decide +kernel)
      rw [getwc, run, failed]

end Cloudlibc.Stdio
