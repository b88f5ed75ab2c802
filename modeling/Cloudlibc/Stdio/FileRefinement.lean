import Cloudlibc.Stdio.File

/-!
# Streams as arrays of bytes

What a seekable stream is for: an array of bytes with an offset and a stack of bytes that have been
pushed back (`ByteStream`). Whatever provides the buffers of a stream says for which array and
which offset the stream stands (`View`), and keeps some laws about its buffers (`Provider`). The
functions that read, write and position a stream then do what is said about the array.
-/

set_option autoImplicit false

namespace Cloudlibc.Stdio

open Cloudlibc.SparseArray List Option

/-! ## The abstract stream -/

/-- An array of bytes with an offset, and the bytes that have been pushed back, the last one
first. -/
structure ByteStream where
  bytes : List UInt8
  offset : ℕ
  pushback : List UInt8
  deriving DecidableEq, Repr

namespace ByteStream

/-- The bytes that will be read. -/
def pending (stream : ByteStream) : List UInt8 := stream.pushback ++ stream.bytes.drop stream.offset

/-- The stream behind a number of bytes that are read. -/
def advance (stream : ByteStream) (n : ℕ) : ByteStream :=
  { stream with
    offset := stream.offset +
      min (n - stream.pushback.length) (stream.bytes.length - stream.offset)
    pushback := stream.pushback.drop n }

/-- The stream with bytes written at its offset. -/
def write (stream : ByteStream) (bytes : List UInt8) : ByteStream :=
  { stream with
    bytes := splice 0 stream.bytes stream.offset bytes
    offset := stream.offset + bytes.length }

/-- The offset that `ftello()` returns. -/
def tell (stream : ByteStream) : ℤ := stream.offset - stream.pushback.length

/-- The offset that `fseeko()` is asked for. -/
def target (stream : ByteStream) (offset : ℤ) : File.Whence → ℤ
  | .seekSet => offset
  | .seekCur => offset + stream.tell
  | .seekEnd => offset + stream.bytes.length

/-- The stream at another offset. -/
def moveTo (stream : ByteStream) (offset : ℕ) : ByteStream :=
  { stream with offset := offset, pushback := [] }

end ByteStream

/-! ## Providers -/

variable {Data : Type}

/-- The buffers are the same, and the rest of the stream does not matter. -/
def File.SameBuffers (file file' : File Data) : Prop :=
  file'.offset = file.offset ∧ file'.readbuf = file.readbuf ∧ file'.readbuflen = file.readbuflen ∧
    file'.writebuf = file.writebuf ∧ file'.writebuflen = file.writebuflen ∧ file'.buf = file.buf ∧
    file'.data = file.data

/-- An operation has not touched the flags and the bytes that have been pushed back. -/
def File.SameFront (file file' : File Data) : Prop :=
  file'.eof = file.eof ∧ file'.error = file.error ∧ file'.ungetc = file.ungetc

/-- The offset from the start of an array. -/
def absoluteOffset (bytes : List UInt8) (offset : ℤ) (seekEnd : Bool) : ℤ :=
  if seekEnd then offset + bytes.length else offset

/-- The offset that a stream is moved to. -/
theorem absoluteOffset_eq {bytes : List UInt8} {offset : ℤ} (seekEnd : Bool) (low : -2 ^ 63 ≤ offset)
    (high : absoluteOffset bytes offset seekEnd ≤ 2 ^ 62) {used : ℕ} (length : bytes.length = used) :
    (if seekEnd then File.addOverflow offset used else some offset) =
      some (absoluteOffset bytes offset seekEnd) := by
  cases seekEnd with
  | false => rfl
  | true =>
    rw [absoluteOffset, if_pos rfl] at high
    rw [if_pos rfl, File.addOverflow, ← length, if_pos (by omega)]
    rfl

/-- The physical offset of a stream that has bytes in one of its buffers at most. -/
theorem ftelloPhysical_eq {file : File Data} {position : ℕ}
    (one : file.readbuflen = 0 ∨ file.writebuflen = 0)
    (offset : file.offset = position + file.readbuflen + file.writebuflen) :
    file.ftelloPhysical = some (position : ℤ) := by
  have seekable : file.fseekable = true := decide_eq_true (by omega)
  rw [File.ftelloPhysical, if_pos ⟨seekable, one, by omega⟩]
  congr 1
  omega

/-- A seek moves a stream without buffers, unless its offset would become negative. -/
theorem seek_outcome {View : File Data → List UInt8 → ℕ → Prop} {file drained : File Data}
    {bytes : List UInt8} {position : ℕ} {target : ℤ} {refused : Prop} [Decidable refused]
    (refuses : refused ↔ target < 0) (front : file.SameFront drained)
    (stays : View drained bytes position)
    (moves : ∀ offset : ℕ, View { drained with offset := offset } bytes offset) :
    ∃ error file', (if refused then some (some Errno.EINVAL, drained)
        else some (none, { drained with offset := target })) = some (error, file') ∧
      file.SameFront file' ∧
      if 0 ≤ target then error = none ∧ View file' bytes target.toNat
      else error.isSome ∧ View file' bytes position := by
  by_cases inside : 0 ≤ target
  · obtain ⟨offset, rfl⟩ := Int.eq_ofNat_of_zero_le inside
    rw [if_neg (refuses.not.mpr inside.not_gt)]
    refine ⟨none, _, rfl, front, ?_⟩
    exact ⟨rfl, moves offset⟩
  · rw [if_pos (refuses.mpr (not_le.mp inside))]
    refine ⟨_, drained, rfl, front, ?_⟩
    rw [if_neg inside]
    exact ⟨rfl, stays⟩

/-- The laws of what provides the buffers of a seekable stream. The offsets at which something is
written are below a limit. -/
structure Provider (ops : FileOps Data) (limit : ℕ) (View : File Data → List UInt8 → ℕ → Prop) :
    Prop where
  /-- There is no overflow below the limit. -/
  limit_le : limit ≤ 2 ^ 62
  /-- The view only depends on the buffers. -/
  same : ∀ {file file' bytes position}, View file bytes position → file.SameBuffers file' →
    View file' bytes position
  /-- Only one of the buffers is in use, and the offset is the one behind the buffer. -/
  position : ∀ {file bytes position}, View file bytes position →
    (file.readbuflen = 0 ∨ file.writebuflen = 0) ∧
      file.offset = position + file.readbuflen + file.writebuflen
  /-- The read buffer has the bytes at the offset. -/
  readable : ∀ {file bytes position}, View file bytes position →
    file.readbuf + file.readbuflen ≤ file.buf.length ∧
      slice file.buf file.readbuf file.readbuflen = slice bytes position file.readbuflen
  /-- Bytes of the read buffer are consumed. -/
  consume : ∀ {file bytes position n}, View file bytes position → n ≤ file.readbuflen →
    View { file with readbuf := file.readbuf + n, readbuflen := file.readbuflen - n } bytes
      (position + n)
  /-- There is a new read buffer, unless the end of the array has been reached. -/
  readPeek : ∀ {file bytes position}, View file bytes position → file.readbuflen = 0 →
    ∃ file', ops.readPeek file = some (none, file') ∧ View file' bytes position ∧
      file.SameFront file' ∧ file'.writebuflen = 0 ∧
      (file'.readbuflen = 0 → bytes.length ≤ position)
  /-- Bytes are put into the write buffer. -/
  produce : ∀ {file bytes position values}, View file bytes position → values ≠ [] →
    values.length ≤ file.writebuflen →
    ∃ file', file.fwriteProduce values = some file' ∧ file.SameFront file' ∧
      View file' (splice 0 bytes position values) (position + values.length)
  /-- There is a new write buffer. -/
  writePeek : ∀ {file bytes position}, View file bytes position → file.writebuflen = 0 →
    position < limit →
    ∃ file', ops.writePeek file = some (none, file') ∧ View file' bytes position ∧
      file.SameFront file' ∧ file'.readbuflen = 0 ∧ 0 < file'.writebuflen
  /-- The offset is changed, or it would become negative. -/
  seek : ∀ {file bytes position} (offset : ℤ) (seekEnd : Bool), View file bytes position →
    -2 ^ 63 ≤ offset → absoluteOffset bytes offset seekEnd ≤ limit →
    ∃ error file', ops.seek file offset seekEnd = some (error, file') ∧ file.SameFront file' ∧
      if 0 ≤ absoluteOffset bytes offset seekEnd then
        error = none ∧ View file' bytes (absoluteOffset bytes offset seekEnd).toNat
      else
        error.isSome ∧ View file' bytes position
  /-- A flush does not change the array or the offset. -/
  flush : ∀ {file bytes position}, View file bytes position →
    ∃ file', ops.flush file = some (none, file') ∧ View file' bytes position ∧ file.SameFront file'

/-- The laws of a stream that may only be written. -/
structure Writer (ops : FileOps Data) (limit : ℕ) (View : File Data → List UInt8 → ℕ → Prop) :
    Prop where
  limit_le : limit ≤ 2 ^ 62
  same : ∀ {file file' bytes position}, View file bytes position → file.SameBuffers file' →
    View file' bytes position
  position : ∀ {file bytes position}, View file bytes position →
    (file.readbuflen = 0 ∨ file.writebuflen = 0) ∧
      file.offset = position + file.readbuflen + file.writebuflen
  produce : ∀ {file bytes position values}, View file bytes position → values ≠ [] →
    values.length ≤ file.writebuflen →
    ∃ file', file.fwriteProduce values = some file' ∧ file.SameFront file' ∧
      View file' (splice 0 bytes position values) (position + values.length)
  writePeek : ∀ {file bytes position}, View file bytes position → file.writebuflen = 0 →
    position < limit →
    ∃ file', ops.writePeek file = some (none, file') ∧ View file' bytes position ∧
      file.SameFront file' ∧ file'.readbuflen = 0 ∧ 0 < file'.writebuflen
  seek : ∀ {file bytes position} (offset : ℤ) (seekEnd : Bool), View file bytes position →
    -2 ^ 63 ≤ offset → absoluteOffset bytes offset seekEnd ≤ limit →
    ∃ error file', ops.seek file offset seekEnd = some (error, file') ∧ file.SameFront file' ∧
      if 0 ≤ absoluteOffset bytes offset seekEnd then
        error = none ∧ View file' bytes (absoluteOffset bytes offset seekEnd).toNat
      else
        error.isSome ∧ View file' bytes position
  flush : ∀ {file bytes position}, View file bytes position →
    ∃ file', ops.flush file = some (none, file') ∧ View file' bytes position ∧ file.SameFront file'

/-- A provider also keeps the laws of writing. -/
theorem Provider.writer {ops : FileOps Data} {limit : ℕ}
    {View : File Data → List UInt8 → ℕ → Prop} (provider : Provider ops limit View) :
    Writer ops limit View where
  limit_le := provider.limit_le
  same := provider.same
  position := provider.position
  produce := provider.produce
  writePeek := provider.writePeek
  seek := provider.seek
  flush := provider.flush

/-! ## Operations on the abstract stream -/

namespace ByteStream

theorem pending_advance (stream : ByteStream) (n : ℕ) :
    (stream.advance n).pending = stream.pending.drop n := by
  simp only [pending, advance, drop_append]
  congr 1
  rcases Nat.le_total (n - stream.pushback.length) (stream.bytes.length - stream.offset) with
    inside | beyond
  · rw [Nat.min_eq_left inside, drop_drop]
  · rw [drop_eq_nil_of_le (by omega), drop_drop, drop_eq_nil_of_le (by omega)]

theorem advance_advance (stream : ByteStream) (m n : ℕ) :
    (stream.advance m).advance n = stream.advance (m + n) := by
  simp only [advance, drop_drop, length_drop, mk.injEq, true_and, and_true]
  omega

theorem length_pending (stream : ByteStream) :
    stream.pending.length = stream.pushback.length + (stream.bytes.length - stream.offset) := by
  rw [pending, length_append, length_drop]

theorem advance_of_pending_nil {stream : ByteStream} (nothing : stream.pending = []) (n : ℕ) :
    stream.advance n = stream := by
  have length := stream.length_pending
  rw [nothing, length_nil] at length
  obtain ⟨bytes, offset, pushback⟩ := stream
  dsimp only at length
  obtain rfl : pushback = [] := length_eq_zero_iff.mp (by omega)
  simp only [advance, drop_nil, mk.injEq, true_and, and_true]
  omega

theorem write_write (stream : ByteStream) (first second : List UInt8) :
    (stream.write first).write second = stream.write (first ++ second) := by
  simp only [write, splice_append, length_append, Nat.add_assoc]

end ByteStream

/-! ## What the functions do -/

/-- A stream stands for an array of bytes, an offset, and bytes that have been pushed back. -/
def Stands (View : File Data → List UInt8 → ℕ → Prop) (file : File Data) (stream : ByteStream) :
    Prop :=
  View file stream.bytes stream.offset ∧ file.ungetc = stream.pushback

section Writing

variable {ops : FileOps Data} {limit : ℕ} {View : File Data → List UInt8 → ℕ → Prop}
  (writer : Writer ops limit View) {file : File Data} {stream : ByteStream}

include writer

section

variable (stands : Stands View file stream)

include stands

/-- The flags do not matter. -/
theorem Writer.stands_flags (eof error : Bool) :
    Stands View { file with eof := eof, error := error } stream :=
  ⟨writer.same stands.1 ⟨rfl, rfl, rfl, rfl, rfl, rfl, rfl⟩, stands.2⟩

theorem Writer.fseekable : file.fseekable = true := by
  obtain ⟨-, offset⟩ := writer.position stands.1
  exact decide_eq_true (by omega)

/-- `ftello()` returns the offset without the bytes that have been pushed back. -/
theorem Writer.ftello : file.ftello = some stream.tell := by
  obtain ⟨one, offset⟩ := writer.position stands.1
  have seekable := writer.fseekable stands
  rw [File.ftello, File.ftelloLogical, File.ftelloPhysical, if_pos ⟨seekable, one, by omega⟩,
    map_some, ByteStream.tell, stands.2, offset]
  congr 1
  omega

/-- There is room in the write buffer. -/
theorem Writer.fwritePeek (room : stream.offset < limit) :
    ∃ file', File.fwritePeek ops file = some (none, file') ∧ Stands View file' stream ∧
      0 < file'.writebuflen := by
  rw [File.fwritePeek]
  by_cases full : file.writebuflen = 0
  · obtain ⟨file', peeked, view, ⟨-, -, front⟩, unread, some_room⟩ :=
      writer.writePeek stands.1 full room
    refine ⟨file', ?_, ⟨view, front.trans stands.2⟩, some_room⟩
    rw [if_pos full, File.fopWritePeek, peeked]
    simp only [bind_eq_bind, bind_some]
    rw [if_pos ⟨some_room, Or.inr unread⟩]
    rfl
  · rw [if_neg full]
    exact ⟨file, rfl, stands, Nat.pos_of_ne_zero full⟩

/-- Bytes that fit into the write buffer are written. -/
theorem Writer.fwriteProduce {values : List UInt8}
    (some_values : values ≠ []) (fits : values.length ≤ file.writebuflen) :
    ∃ file', file.fwriteProduce values = some file' ∧ Stands View file' (stream.write values) := by
  obtain ⟨file', produced, ⟨-, -, front⟩, view⟩ := writer.produce stands.1 some_values fits
  exact ⟨file', produced, view, front.trans stands.2⟩

end

/-- `fwrite_put()` writes all bytes. -/
theorem Writer.fwritePut (fuel : ℕ) :
    ∀ {file : File Data} {stream : ByteStream} {inbuf : List UInt8},
      Stands View file stream → inbuf ≠ [] → stream.offset + inbuf.length ≤ limit →
      inbuf.length < fuel →
      ∃ file', File.fwritePut ops fuel file inbuf = some (inbuf.length, file') ∧
        Stands View file' (stream.write inbuf) := by
  induction fuel with
  | zero => exact fun _ _ _ less => absurd less (Nat.not_lt_zero _)
  | succ fuel ih =>
    intro file stream inbuf stands some_bytes room enough
    have length := length_pos_iff.mpr some_bytes
    obtain ⟨file', peeked, stands', some_room⟩ := writer.fwritePeek stands (by omega)
    simp only [File.fwritePut, peeked, bind_eq_bind, bind_some, isSome_none,
      Bool.false_eq_true, if_false]
    by_cases more : inbuf.length > file'.writebuflen
    · have taken : (inbuf.take file'.writebuflen).length = file'.writebuflen := by
        rw [length_take]
        omega
      obtain ⟨file'', produced, stands''⟩ := writer.fwriteProduce stands'
        (show inbuf.take file'.writebuflen ≠ [] by
          rw [← length_pos_iff]
          omega) taken.le
      obtain ⟨file₃, looped, stands₃⟩ := @ih file'' _ (inbuf.drop file'.writebuflen) stands''
        (by
          rw [← length_pos_iff, length_drop]
          omega)
        (by
          rw [ByteStream.write, taken, length_drop]
          dsimp only
          omega)
        (by
          rw [length_drop]
          omega)
      rw [if_pos more, produced, bind_some, looped]
      refine ⟨file₃, ?_, ?_⟩
      · simp only [Option.bind_some, Option.pure_def, List.length_drop, Option.some.injEq,
          Prod.mk.injEq, and_true]
        omega
      · rw [ByteStream.write_write, List.take_append_drop] at stands₃
        exact stands₃
    · obtain ⟨file'', produced, stands''⟩ := writer.fwriteProduce stands' some_bytes (by omega)
      rw [if_neg more, produced]
      exact ⟨file'', rfl, stands''⟩

section

variable (stands : Stands View file stream)

include stands

/-- **`fwrite()` writes all bytes.** -/
theorem Writer.fwrite {bytes : List UInt8} {size nitems : ℕ}
    (length : bytes.length = size * nitems) (small : size * nitems < File.sizeLimit)
    (room : stream.offset + size * nitems ≤ limit) :
    ∃ file', File.fwrite ops file bytes size nitems = some (bytes.length / size, file') ∧
      Stands View file' (stream.write bytes) := by
  rw [File.fwrite, if_neg (Nat.not_le.mpr small)]
  by_cases nothing : size * nitems = 0
  · obtain rfl : bytes = [] := length_eq_zero_iff.mp (length.trans nothing)
    rw [if_pos nothing]
    simpa [ByteStream.write] using stands
  · have some_bytes : bytes ≠ [] := by
      rintro rfl
      exact nothing length.symm
    obtain ⟨file', put, stands'⟩ := writer.fwritePut (size * nitems + 1) stands some_bytes
      (by omega) (by omega)
    refine ⟨file', ?_, stands'⟩
    rw [if_neg nothing, take_of_length_le length.le, put]
    rfl

/-- `putc()` writes a byte. -/
theorem Writer.putc (c : UInt8) (room : stream.offset < limit) :
    ∃ file', File.putc ops file c = some (some c, file') ∧
      Stands View file' (stream.write [c]) := by
  obtain ⟨file', peeked, stands', some_room⟩ := writer.fwritePeek stands room
  obtain ⟨file'', produced, stands''⟩ :=
    writer.fwriteProduce stands' (cons_ne_nil c []) some_room
  refine ⟨file'', ?_, stands''⟩
  rw [File.putc, peeked]
  simp only [bind_eq_bind, bind_some, produced]
  rfl

/-- `ungetc()` pushes a byte back. -/
theorem Writer.pushBack (c : UInt8) :
    if File.ungetcSize ≤ stream.pushback.length then
      file.pushBack c = (some .ENOSPC, file)
    else
      ∃ file', file.pushBack c = (none, file') ∧
        Stands View file' { stream with pushback := c :: stream.pushback } := by
  rw [File.pushBack, stands.2]
  split_ifs with full
  · rfl
  · exact ⟨_, rfl, writer.same stands.1 ⟨rfl, rfl, rfl, rfl, rfl, rfl, rfl⟩, rfl⟩

/-- `fflush()` discards the bytes that have been pushed back. -/
theorem Writer.fflush :
    ∃ file', File.fflush ops file = some (none, file') ∧
      Stands View file' { stream with pushback := [] } := by
  obtain ⟨file', flushed, view, -⟩ := writer.flush stands.1
  refine ⟨{ file' with ungetc := [] }, ?_, ?_, rfl⟩
  · rw [File.fflush, File.fopFlush, flushed]
    rfl
  · exact writer.same view ⟨rfl, rfl, rfl, rfl, rfl, rfl, rfl⟩

/-- **`fseeko()` moves to another offset, or the offset would become negative.** -/
theorem Writer.fseeko {offset : ℤ} {whence : File.Whence}
    (low : -2 ^ 63 ≤ offset) (sum : whence = .seekCur → -2 ^ 63 ≤ offset + stream.tell)
    (high : stream.target offset whence ≤ limit) :
    ∃ error file', File.fseeko ops file offset whence = some (error, file') ∧
      if 0 ≤ stream.target offset whence then
        error = none ∧ Stands View file' (stream.moveTo (stream.target offset whence).toNat)
      else
        error.isSome ∧ Stands View file' stream := by
  have limit_le := writer.limit_le
  have tell := writer.ftello stands
  have overflow : whence = .seekCur → File.addOverflow offset stream.tell =
      some (offset + stream.tell) := by
    rintro rfl
    rw [ByteStream.target] at high
    rw [File.addOverflow, if_pos ⟨sum rfl, by omega⟩]
  -- Each value of the third argument leads to a call of the operation of the writer.
  obtain ⟨offset', seekEnd, called, target, low'⟩ : ∃ (offset' : ℤ) (seekEnd : Bool),
      File.fseeko ops file offset whence =
        (File.fopSeek ops file offset' seekEnd).map File.afterSeek ∧
      stream.target offset whence = absoluteOffset stream.bytes offset' seekEnd ∧
      -2 ^ 63 ≤ offset' := by
    cases whence with
    | seekSet => exact ⟨offset, false, rfl, rfl, low⟩
    | seekEnd => exact ⟨offset, true, rfl, rfl, low⟩
    | seekCur =>
      refine ⟨offset + stream.tell, false, ?_, rfl, sum rfl⟩
      rw [File.ftello] at tell
      simp [File.fseeko, tell, overflow rfl]
  rw [target] at high ⊢
  obtain ⟨error, file', sought, ⟨-, -, front⟩, moved⟩ :=
    writer.seek offset' seekEnd stands.1 low' high
  rw [called, File.fopSeek, if_pos (writer.fseekable stands), sought, map_some]
  by_cases inside : 0 ≤ absoluteOffset stream.bytes offset' seekEnd
  · rw [if_pos inside] at moved
    obtain ⟨rfl, view⟩ := moved
    refine ⟨none, _, rfl, ?_⟩
    rw [if_pos inside]
    exact ⟨rfl, writer.same view ⟨rfl, rfl, rfl, rfl, rfl, rfl, rfl⟩, rfl⟩
  · rw [if_neg inside] at moved
    obtain ⟨failed, view⟩ := moved
    obtain ⟨errno, rfl⟩ := isSome_iff_exists.mp failed
    refine ⟨some errno, file', rfl, ?_⟩
    rw [if_neg inside]
    exact ⟨rfl, view, front.trans stands.2⟩

end

end Writing

section Reading

variable {ops : FileOps Data} {limit : ℕ} {View : File Data → List UInt8 → ℕ → Prop}
  (provider : Provider ops limit View) {file : File Data} {stream : ByteStream}

include provider

/-- `fop_read_peek()` provides a buffer. -/
theorem Provider.fopReadPeek (stands : Stands View file stream) (empty : file.readbuflen = 0)
    (nothing : file.ungetc = []) :
    ∃ file', File.fopReadPeek ops file = some (none, file') ∧ Stands View file' stream ∧
      (file'.readbuflen = 0 → stream.bytes.length ≤ stream.offset) := by
  obtain ⟨file', peeked, view, ⟨-, -, front⟩, unwritten, eof⟩ := provider.readPeek stands.1 empty
  have stands' : Stands View file' stream := ⟨view, front.trans stands.2⟩
  refine ⟨{ file' with eof := file'.eof || file'.readbuflen == 0 }, ?_,
    provider.writer.stands_flags stands' _ _, eof⟩
  rw [File.fopReadPeek, if_pos ⟨empty, by rw [nothing, length_nil]⟩, peeked]
  simp only [Option.bind_eq_bind, Option.bind_some, Option.pure_def]
  rw [if_pos (Or.inr unwritten)]

/-- There are bytes in the read buffer, unless the end of the array has been reached. -/
theorem Provider.refill (stands : Stands View file stream) (nothing : file.ungetc = []) :
    ∃ file', File.refill ops file = some (none, file') ∧ Stands View file' stream ∧
      (file'.readbuflen = 0 → stream.bytes.length ≤ stream.offset) := by
  rw [File.refill]
  by_cases empty : file.readbuflen = 0
  · rw [if_pos empty]
    exact provider.fopReadPeek stands empty nothing
  · rw [if_neg empty]
    exact ⟨file, rfl, stands, fun zero => absurd zero empty⟩

/-- **`fread_peek()` shows the next bytes, and `fread_consume()` takes some of them.** -/
theorem Provider.freadPeek (stands : Stands View file stream) :
    ∃ readbuf file', File.freadPeek ops file = some (none, readbuf, file') ∧
      Stands View file' stream ∧ readbuf <+: stream.pending ∧
      (readbuf = [] → stream.pending = []) ∧
      ∀ n ≤ readbuf.length, ∃ file'', file'.freadConsume n = some file'' ∧
        Stands View file'' (stream.advance n) := by
  by_cases pushed : file.ungetc.length > 0
  · refine ⟨file.ungetc, file, ?_, stands, ?_, ?_, ?_⟩
    · rw [File.freadPeek, if_pos pushed]
      rfl
    · rw [stands.2]
      exact prefix_append _ _
    · intro nothing
      rw [nothing] at pushed
      exact absurd pushed (by simp)
    · intro n enough
      refine ⟨{ file with ungetc := file.ungetc.drop n }, ?_, ?_, ?_⟩
      · rw [File.freadConsume, if_pos pushed, if_pos enough]
      · have same : (stream.advance n).offset = stream.offset := by
          rw [ByteStream.advance, ← stands.2]
          dsimp only
          omega
        rw [same]
        exact provider.same stands.1 ⟨rfl, rfl, rfl, rfl, rfl, rfl, rfl⟩
      · rw [ByteStream.advance, ← stands.2]
  · have nothing : file.ungetc = [] := length_eq_zero_iff.mp (by omega)
    have none_pushed : stream.pushback = [] := stands.2.symm.trans nothing
    have pending : stream.pending = stream.bytes.drop stream.offset := by
      rw [ByteStream.pending, none_pushed, nil_append]
    obtain ⟨file', refilled, stands', eof⟩ := provider.refill stands nothing
    obtain ⟨inside, shown⟩ := provider.readable stands'.1
    refine ⟨slice stream.bytes stream.offset file'.readbuflen, file', ?_, stands', ?_, ?_, ?_⟩
    · rw [File.freadPeek, if_neg pushed, refilled]
      simp [File.readBytes, if_pos inside, shown]
    · rw [pending]
      exact take_prefix _ _
    · intro none_shown
      rw [pending]
      have length := length_slice stream.bytes stream.offset file'.readbuflen
      rw [none_shown, length_nil] at length
      by_cases zero : file'.readbuflen = 0
      · exact drop_eq_nil_of_le (eof zero)
      · exact drop_eq_nil_of_le (by omega)
    · intro n enough
      rw [length_slice] at enough
      have none_pushed' : ¬ file'.ungetc.length > 0 := by
        rw [stands'.2, none_pushed]
        simp
      refine ⟨{ file' with
        readbuf := file'.readbuf + n, readbuflen := file'.readbuflen - n }, ?_, ?_, ?_⟩
      · rw [File.freadConsume, if_neg none_pushed', if_pos (by omega)]
      · have moved : (stream.advance n).offset = stream.offset + n := by
          rw [ByteStream.advance, none_pushed]
          dsimp only
          rw [length_nil]
          omega
        rw [moved]
        exact provider.consume stands'.1 (by omega)
      · rw [ByteStream.advance, none_pushed, drop_nil]
        exact stands'.2.trans none_pushed

/-- The loop of `fread()` stores the next bytes. -/
theorem Provider.freadLoop (fuel : ℕ) : ∀ {file : File Data} {stream : ByteStream} {outbuflen : ℕ},
    Stands View file stream → outbuflen < fuel →
    ∃ file', File.freadLoop ops fuel file outbuflen =
        some (stream.pending.take outbuflen, file') ∧
      Stands View file' (stream.advance outbuflen) := by
  induction fuel with
  | zero => exact fun _ less => absurd less (Nat.not_lt_zero _)
  | succ fuel ih =>
    intro file stream outbuflen stands enough
    obtain ⟨readbuf, file', peeked, stands', ⟨rest, shown⟩, eof, consumed⟩ :=
      provider.freadPeek stands
    simp only [File.freadLoop, peeked, bind_eq_bind, bind_some, isSome_none,
      Bool.false_eq_true, false_or]
    by_cases nothing : readbuf.length = 0
    · have none_pending := eof (length_eq_zero_iff.mp nothing)
      rw [if_pos nothing, none_pending, take_nil, ByteStream.advance_of_pending_nil none_pending]
      exact ⟨file', rfl, stands'⟩
    · rw [if_neg nothing]
      by_cases last : outbuflen ≤ readbuf.length
      · obtain ⟨file'', taken, stands''⟩ := consumed outbuflen last
        rw [if_pos last, taken, ← shown, take_append_of_le_length last]
        exact ⟨file'', rfl, stands''⟩
      · obtain ⟨file'', taken, stands''⟩ := consumed readbuf.length le_rfl
        obtain ⟨file₃, looped, stands₃⟩ :=
          @ih file'' _ (outbuflen - readbuf.length) stands'' (by omega)
        rw [if_neg last, taken, bind_some, looped]
        refine ⟨file₃, ?_, ?_⟩
        · have split : stream.pending.take outbuflen = readbuf ++
              (stream.advance readbuf.length).pending.take (outbuflen - readbuf.length) := by
            rw [ByteStream.pending_advance, ← shown, drop_left, take_append,
              take_of_length_le (by omega)]
          rw [split]
          rfl
        · rw [ByteStream.advance_advance, Nat.add_sub_cancel' (by omega)] at stands₃
          exact stands₃

/-- **`fread()` reads the next bytes.** -/
theorem Provider.fread (stands : Stands View file stream) {size nitems : ℕ}
    (small : size * nitems < File.sizeLimit) :
    ∃ file', File.fread ops file size nitems =
        some (stream.pending.take (size * nitems),
          (stream.pending.take (size * nitems)).length / size, file') ∧
      Stands View file' (stream.advance (size * nitems)) := by
  rw [File.fread, if_neg (Nat.not_le.mpr small)]
  by_cases nothing : size * nitems = 0
  · rw [nothing, take_zero]
    refine ⟨file, by simp, ?_⟩
    have same : stream.advance 0 = stream := by
      simp [ByteStream.advance]
    rwa [same]
  · obtain ⟨file', looped, stands'⟩ := provider.freadLoop (size * nitems + 1) stands
      (Nat.lt_succ_self (size * nitems))
    refine ⟨file', ?_, stands'⟩
    have positive : 0 < size := Nat.pos_of_ne_zero fun zero => nothing (by rw [zero, Nat.zero_mul])
    rw [looped]
    simp only [Option.bind_eq_bind, Option.bind_some, Option.pure_def, Option.some.injEq,
      Prod.mk.injEq, true_and, and_true]
    split_ifs with all
    · rw [all, Nat.mul_div_cancel_left _ positive]
    · rfl

/-- `getc()` reads the next byte. -/
theorem Provider.getc (stands : Stands View file stream) :
    ∃ file', File.getc ops file = some (stream.pending.head?, file') ∧
      Stands View file' (stream.advance 1) := by
  obtain ⟨readbuf, file', peeked, stands', ⟨rest, shown⟩, eof, consumed⟩ :=
    provider.freadPeek stands
  rw [File.getc, peeked]
  cases readbuf with
  | nil =>
    rw [eof rfl, ByteStream.advance_of_pending_nil (eof rfl)]
    exact ⟨file', rfl, stands'⟩
  | cons ch readbuf =>
    obtain ⟨file'', taken, stands''⟩ := consumed 1 (Nat.succ_pos _)
    refine ⟨file'', ?_, stands''⟩
    simp only [bind_eq_bind, bind_some, taken, ← shown]
    rfl

end Reading

end Cloudlibc.Stdio
