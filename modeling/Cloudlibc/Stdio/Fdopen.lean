import Cloudlibc.Stdio.FileRefinement

/-!
# Streams on files

The streams of `fdopen()` on a regular file that is not opened for appending. The bytes of the file
are an array, and `pread()` and `pwrite()` may return less than what they are asked for, but at
least one byte unless the file has ended. What has been written to the stream is in its buffer
until the buffer is drained, so the array that the stream stands for is the contents of the file
with the buffer spliced in (`FileView`). The laws of a provider hold (`fileProvider`).
-/

set_option autoImplicit false

namespace Cloudlibc.Stdio

open Cloudlibc.SparseArray List Option

/-! ## The file -/

/-- The contents of a file, and by how much the calls of `pread()` and `pwrite()` fall short. -/
structure Disk where
  contents : List UInt8
  counts : ℕ → ℕ
  calls : ℕ

/-- The number of bytes that a call returns if there are some. -/
def Disk.count (disk : Disk) (n : ℕ) : ℕ := if n = 0 then 0 else 1 + disk.counts disk.calls % n

/-- `pread()`. -/
def Disk.pread (disk : Disk) (n offset : ℕ) : List UInt8 × Disk :=
  (slice disk.contents offset (disk.count (min n (disk.contents.length - offset))),
    { disk with calls := disk.calls + 1 })

/-- `pwrite()`, with the number of bytes that are written. -/
def Disk.pwrite (disk : Disk) (bytes : List UInt8) (offset : ℕ) : ℕ × Disk :=
  (disk.count bytes.length, { disk with
    contents := splice 0 disk.contents offset (bytes.take (disk.count bytes.length))
    calls := disk.calls + 1 })

theorem Disk.count_pos (disk : Disk) {n : ℕ} (positive : 0 < n) :
    0 < disk.count n ∧ disk.count n ≤ n := by
  rw [count, if_neg (by omega)]
  have less := Nat.mod_lt (disk.counts disk.calls) positive
  omega

/-! ## The operations -/

/-- The part of `file` in a `FILE`, with the file itself. -/
structure FileBuffer where
  written : Option ℕ
  bufsize : ℕ
  disk : Disk

/-- The loop of `file_drain()`. -/
def fileDrainLoop (buf : List UInt8) (offset : ℤ) (writebuf : ℕ) :
    (fuel : ℕ) → (written : ℕ) → Disk → Option Disk
  | 0, _, _ => none
  | fuel + 1, written, disk =>
    if written < writebuf then
      let buflen := writebuf - written
      if 0 ≤ offset - buflen ∧ writebuf ≤ buf.length then
        let (ret, disk) := disk.pwrite (slice buf written buflen) (offset - buflen).toNat
        fileDrainLoop buf offset writebuf fuel (written + ret) disk
      else
        none
    else
      some disk

/-- The bytes of the write buffer are written to the file. -/
def fileDrainWrites (file : File FileBuffer) (offset : ℤ) : Option Disk :=
  match file.data.written, file.writebuf with
  | some written, some writebuf =>
    fileDrainLoop file.buf offset writebuf (writebuf - written + 1) written file.data.disk
  | _, _ => some file.data.disk

/-- `file_drain()`. -/
def fileDrain (file : File FileBuffer) : Option (File FileBuffer) := do
  let offset ← file.ftelloPhysical
  let disk ← fileDrainWrites file offset
  return { file with
    offset := offset
    readbuf := 0
    readbuflen := 0
    writebuf := none
    writebuflen := 0
    data := { file.data with written := none, disk := disk } }

/-- `file_read_peek()`. -/
def fileReadPeek (file : File FileBuffer) : Option (Outcome FileBuffer) := do
  let file ← fileDrain file
  let (bytes, disk) := file.data.disk.pread file.data.bufsize file.offset.toNat
  if bytes.length ≤ file.buf.length then
    return (none, { file with
      buf := patch file.buf 0 bytes
      readbuf := 0
      readbuflen := bytes.length
      offset := file.offset + bytes.length
      data := { file.data with disk := disk } })
  else
    none

/-- `file_write_peek()`. -/
def fileWritePeek (file : File FileBuffer) : Option (Outcome FileBuffer) := do
  let file ← fileDrain file
  return (none, { file with
    writebuf := some 0
    writebuflen := file.data.bufsize
    offset := file.offset + file.data.bufsize
    data := { file.data with written := some 0 } })

/-- `file_seek()`. -/
def fileSeek (file : File FileBuffer) (offset : ℤ) (seekEnd : Bool) :
    Option (Outcome FileBuffer) := do
  let file ← fileDrain file
  match
    if seekEnd then File.addOverflow offset file.data.disk.contents.length else some offset with
  | none => return (some .EOVERFLOW, file)
  | some offset =>
    if offset < 0 then
      return (some .EINVAL, file)
    else
      return (none, { file with offset := offset })

/-- `file_flush()`. The offset of the file descriptor is not used by the stream. -/
def fileFlush (file : File FileBuffer) : Option (Outcome FileBuffer) := do
  return (none, ← fileDrain file)

/-- The operations of a stream on a file that is opened for reading and writing. -/
def fileOps : FileOps FileBuffer where
  readPeek := fileReadPeek
  writePeek := fileWritePeek
  seek := fileSeek
  flush := fileFlush

/-! ## The array that a stream stands for -/

/-- The array of bytes and the offset that a stream on a file stands for. -/
inductive FileView (file : File FileBuffer) (bytes : List UInt8) (position : ℕ) : Prop
  /-- There is nothing to be written to the file. -/
  | reading :
      file.buf.length = file.data.bufsize → 0 < file.data.bufsize →
      file.writebuf = none → file.data.written = none → file.writebuflen = 0 →
      file.offset = position + file.readbuflen →
      file.readbuf + file.readbuflen ≤ file.data.bufsize →
      slice file.buf file.readbuf file.readbuflen = slice bytes position file.readbuflen →
      file.data.disk.contents = bytes → FileView file bytes position
  /-- The bytes in front of the write buffer are not in the file yet. -/
  | writing (writebuf : ℕ) :
      file.buf.length = file.data.bufsize → 0 < file.data.bufsize →
      file.readbuf = 0 → file.readbuflen = 0 →
      file.data.written = some 0 → file.writebuf = some writebuf → writebuf ≤ position →
      writebuf + file.writebuflen = file.data.bufsize →
      file.offset = position + file.writebuflen →
      splice 0 file.data.disk.contents (position - writebuf) (slice file.buf 0 writebuf) = bytes →
        FileView file bytes position

/-- A stream without buffers. -/
structure FileDrained (file : File FileBuffer) (bytes : List UInt8) (position : ℕ) : Prop where
  length : file.buf.length = file.data.bufsize
  bufsize_pos : 0 < file.data.bufsize
  offset : file.offset = position
  readbuf : file.readbuf = 0
  readbuflen : file.readbuflen = 0
  writebuf : file.writebuf = none
  writebuflen : file.writebuflen = 0
  written : file.data.written = none
  contents : file.data.disk.contents = bytes

variable {file file' : File FileBuffer} {bytes : List UInt8} {position : ℕ}

theorem FileDrained.view (drained : FileDrained file bytes position) :
    FileView file bytes position := by
  refine .reading drained.length drained.bufsize_pos drained.writebuf drained.written
    drained.writebuflen ?_ ?_ ?_ drained.contents
  · rw [drained.offset, drained.readbuflen, Nat.cast_zero, add_zero]
  · rw [drained.readbuf, drained.readbuflen]
    exact Nat.zero_le _
  · rw [drained.readbuflen, slice, slice, take_zero, take_zero]

theorem FileView.position_eq (view : FileView file bytes position) :
    (file.readbuflen = 0 ∨ file.writebuflen = 0) ∧
      file.offset = position + file.readbuflen + file.writebuflen := by
  cases view with
  | reading _ _ _ _ unwritten offset _ _ _ =>
    exact ⟨Or.inr unwritten, by rw [offset, unwritten, Nat.cast_zero, add_zero]⟩
  | writing _ _ _ _ unread _ _ _ _ offset _ =>
    exact ⟨Or.inl unread, by rw [offset, unread, Nat.cast_zero, add_zero]⟩

/-- However short the calls of `pwrite()` fall, all bytes are written. -/
theorem fileDrainLoop_splice {buf : List UInt8} {writebuf : ℕ} (inside : writebuf ≤ buf.length)
    (before : writebuf ≤ position) (fuel : ℕ) : ∀ {written : ℕ} {disk : Disk},
      written ≤ writebuf → writebuf - written < fuel →
      ∃ disk', fileDrainLoop buf position writebuf fuel written disk = some disk' ∧
        disk'.contents = splice 0 disk.contents (position - (writebuf - written))
          (slice buf written (writebuf - written)) := by
  induction fuel with
  | zero => exact fun _ less => absurd less (Nat.not_lt_zero _)
  | succ fuel ih =>
    intro written disk order enough
    rw [fileDrainLoop]
    by_cases more : written < writebuf
    · have length : (slice buf written (writebuf - written)).length = writebuf - written := by
        rw [length_slice]
        omega
      obtain ⟨positive, short⟩ := disk.count_pos (show 0 < writebuf - written by omega)
      have offset : ((position : ℤ) - ((writebuf - written : ℕ) : ℤ)).toNat =
          position - (writebuf - written) := by omega
      rw [if_pos more]
      rw [if_pos ⟨by omega, inside⟩, Disk.pwrite, length, offset]
      generalize disk.count (writebuf - written) = count at positive short ⊢
      obtain ⟨disk', looped, contents⟩ := @ih (written + count)
        ⟨splice 0 disk.contents (position - (writebuf - written))
          ((slice buf written (writebuf - written)).take count), disk.counts, disk.calls + 1⟩
        (by omega) (by omega)
      refine ⟨disk', looped, ?_⟩
      have first : (slice buf written (writebuf - written)).take count =
          slice buf written (written + count - written) := by
        rw [slice, take_take]
        congr 1
        omega
      have firstLength : (slice buf written (written + count - written)).length = count := by
        rw [length_slice]
        omega
      have joined := splice_append (0 : UInt8) disk.contents (position - (writebuf - written))
        (slice buf written (written + count - written))
        (slice buf (written + count) (writebuf - (written + count)))
      rw [firstLength, slice_append buf (by omega) (by omega)] at joined
      have next : position - (writebuf - written) + count =
          position - (writebuf - (written + count)) := by omega
      rw [next] at joined
      rw [contents, first, joined]
    · have done : writebuf - written = 0 := by omega
      rw [if_neg more, done, slice, take_zero, splice_nil]
      exact ⟨disk, rfl, rfl⟩

section

variable (view : FileView file bytes position)

include view

/-- **Draining a stream makes the array that it stands for the contents of the file.** -/
theorem fileDrain_view :
    ∃ file', fileDrain file = some file' ∧ FileDrained file' bytes position ∧
      file.SameFront file' := by
  have physical := ftelloPhysical_eq view.position_eq.1 view.position_eq.2
  simp only [fileDrain, physical, bind_eq_bind, bind_some]
  cases view with
  | reading length positive noWrites notWritten _ _ _ _ contents =>
    have nothing : fileDrainWrites file position = some file.data.disk := by
      rw [fileDrainWrites, notWritten]
    rw [nothing]
    exact ⟨_, rfl, ⟨length, positive, rfl, rfl, rfl, rfl, rfl, rfl, contents⟩, rfl, rfl, rfl⟩
  | writing writebuf length positive _ _ isWritten isWritebuf before room _ contents =>
    obtain ⟨disk, looped, written⟩ := @fileDrainLoop_splice position file.buf writebuf (by omega)
      before (writebuf - 0 + 1) 0 file.data.disk (Nat.zero_le _) (Nat.lt_succ_self _)
    have drained : fileDrainWrites file position = some disk := by
      rw [fileDrainWrites, isWritten, isWritebuf]
      exact looped
    rw [drained]
    refine ⟨_, rfl, ⟨length, positive, rfl, rfl, rfl, rfl, rfl, rfl, ?_⟩, rfl, rfl, rfl⟩
    rw [written, Nat.sub_zero, contents]

/-! ## The laws -/

/-- The view only depends on the buffers. -/
theorem FileView.same (same : file.SameBuffers file') :
    FileView file' bytes position := by
  obtain ⟨eof, error, offset, ungetc, readbuf, readbuflen, writebuf, writebuflen, buf, data⟩ := file
  obtain ⟨rfl, rfl, rfl, rfl, rfl, rfl, rfl⟩ := same
  cases view with
  | reading length positive noWrites notWritten unwritten offset inside shown contents =>
    exact .reading length positive noWrites notWritten unwritten offset inside shown contents
  | writing writebuf length positive readbuf unread isWritten isWritebuf before room offset
        contents =>
      exact .writing writebuf length positive readbuf unread isWritten isWritebuf before room offset
        contents

/-- The read buffer has the bytes at the offset. -/
theorem FileView.readable :
    file.readbuf + file.readbuflen ≤ file.buf.length ∧
      slice file.buf file.readbuf file.readbuflen = slice bytes position file.readbuflen := by
  cases view with
  | reading length _ _ _ _ _ inside shown _ => exact ⟨by omega, shown⟩
  | writing _ _ _ readbuf unread _ _ _ _ _ _ =>
    rw [readbuf, unread, slice, slice, take_zero, take_zero]
    exact ⟨Nat.zero_le _, rfl⟩

/-- Bytes of the read buffer are consumed. -/
theorem FileView.consume {n : ℕ} (enough : n ≤ file.readbuflen) :
    FileView { file with readbuf := file.readbuf + n, readbuflen := file.readbuflen - n } bytes
      (position + n) := by
  cases view with
  | reading length positive noWrites notWritten unwritten offset inside shown contents =>
    refine .reading length positive noWrites notWritten unwritten ?_ ?_ ?_ contents
    · dsimp only
      omega
    · dsimp only
      omega
    · rw [← drop_slice, ← drop_slice, shown]
  | writing writebuf length positive readbuf unread isWritten isWritebuf before room offset
        contents =>
      obtain rfl : n = 0 := by omega
      exact .writing writebuf length positive readbuf unread isWritten isWritebuf before room offset
        contents

/-- Bytes are put into the write buffer. -/
theorem FileView.produce {values : List UInt8}
    (some_values : values ≠ []) (fits : values.length ≤ file.writebuflen) :
    ∃ file', file.fwriteProduce values = some file' ∧ file.SameFront file' ∧
      FileView file' (splice 0 bytes position values) (position + values.length) := by
  have positive := length_pos_iff.mpr some_values
  cases view with
  | reading _ _ _ _ unwritten _ _ _ _ => omega
  | writing writebuf length some_size readbuf unread isWritten isWritebuf before room offset
        contents =>
      have inside : writebuf + values.length ≤ file.buf.length := by omega
      refine ⟨{ file with
        buf := patch file.buf writebuf values
        writebuf := some (writebuf + values.length)
        writebuflen := file.writebuflen - values.length }, ?_, ⟨rfl, rfl, rfl⟩,
        .writing (writebuf + values.length) ?_ some_size readbuf unread isWritten rfl (by omega) ?_
          ?_ ?_⟩
      · rw [File.fwriteProduce, isWritebuf, bind_eq_bind, bind_some, if_pos ⟨fits, inside⟩]
      · rw [← length]
        exact length_patch inside
      · dsimp only
        omega
      · dsimp only
        omega
      · have front : (slice file.buf 0 writebuf).length = writebuf := by
          rw [length_slice]
          omega
        have joined := splice_append (0 : UInt8) file.data.disk.contents (position - writebuf)
          (slice file.buf 0 writebuf) values
        rw [front, Nat.sub_add_cancel before, contents] at joined
        have patched := slice_patch (Nat.zero_le writebuf) inside
        rw [Nat.sub_zero, Nat.sub_zero] at patched
        rw [Nat.add_sub_add_right, patched, joined]

/-- There is a new read buffer, unless the end of the file has been reached. -/
theorem fileReadPeek_view :
    ∃ file', fileReadPeek file = some (none, file') ∧ FileView file' bytes position ∧
      file.SameFront file' ∧ file'.writebuflen = 0 ∧
      (file'.readbuflen = 0 → bytes.length ≤ position) := by
  obtain ⟨file', drained, state, front⟩ := fileDrain_view view
  have length := state.length
  have offset : file'.offset.toNat = position := by rw [state.offset, Int.toNat_natCast]
  simp only [fileReadPeek, drained, bind_eq_bind, bind_some, offset, Disk.pread, state.contents]
  have count : file'.data.disk.count (min file'.data.bufsize (bytes.length - position)) ≤
      min file'.data.bufsize (bytes.length - position) := by
    rcases Nat.eq_zero_or_pos (min file'.data.bufsize (bytes.length - position)) with zero | some_bytes
    · rw [zero, Disk.count, if_pos rfl]
    · exact (file'.data.disk.count_pos some_bytes).2
  have none_left : file'.data.disk.count (min file'.data.bufsize (bytes.length - position)) = 0 →
      bytes.length ≤ position := by
    intro zero
    by_contra more
    have some_bytes := (file'.data.disk.count_pos (n := min file'.data.bufsize
      (bytes.length - position)) (by have := state.bufsize_pos; omega)).1
    omega
  generalize file'.data.disk.count (min file'.data.bufsize (bytes.length - position)) = n
    at count none_left ⊢
  have read : (slice bytes position n).length = n := by
    rw [length_slice]
    omega
  rw [if_pos (by omega)]
  refine ⟨_, rfl, .reading ?_ state.bufsize_pos state.writebuf state.written state.writebuflen ?_ ?_
    ?_ rfl, front, state.writebuflen, ?_⟩
  · dsimp only
    rw [length_patch (by omega), length]
  · dsimp only
    rw [state.offset]
  · dsimp only
    omega
  · dsimp only
    have patched := slice_patch (Nat.zero_le 0)
      (show 0 + (slice bytes position n).length ≤ file'.buf.length by omega)
    rw [Nat.zero_add, Nat.sub_zero, read] at patched
    rw [read, patched]
    rfl
  · intro zero
    dsimp only at zero
    exact none_left (read.symm.trans zero)

theorem fileWritePeek_view :
    ∃ file', fileWritePeek file = some (none, file') ∧ FileView file' bytes position ∧
      file.SameFront file' ∧ file'.readbuflen = 0 ∧ 0 < file'.writebuflen := by
  obtain ⟨file', drained, state, front⟩ := fileDrain_view view
  simp only [fileWritePeek, drained, bind_eq_bind, bind_some]
  refine ⟨_, rfl, .writing 0 state.length state.bufsize_pos state.readbuf state.readbuflen rfl rfl
    (Nat.zero_le _) (Nat.zero_add _) ?_ ?_, front, state.readbuflen, state.bufsize_pos⟩
  · dsimp only
    rw [state.offset]
  · dsimp only
    rw [slice, take_zero, splice_nil, state.contents]

end

/-- A stream without buffers is moved. -/
theorem FileDrained.moveTo {offset : ℕ} (state : FileDrained file bytes position) :
    FileView { file with offset := offset } bytes offset :=
  FileDrained.view ⟨state.length, state.bufsize_pos, rfl, state.readbuf, state.readbuflen,
    state.writebuf, state.writebuflen, state.written, state.contents⟩

theorem fileSeek_view (view : FileView file bytes position) {offset : ℤ} (seekEnd : Bool)
    (low : -2 ^ 63 ≤ offset) (high : absoluteOffset bytes offset seekEnd ≤ 2 ^ 62) :
    ∃ error file', fileSeek file offset seekEnd = some (error, file') ∧ file.SameFront file' ∧
      if 0 ≤ absoluteOffset bytes offset seekEnd then
        error = none ∧ FileView file' bytes (absoluteOffset bytes offset seekEnd).toNat
      else
        error.isSome ∧ FileView file' bytes position := by
  obtain ⟨file', drained, state, front⟩ := fileDrain_view view
  simp only [fileSeek, drained, bind_eq_bind, bind_some, state.contents,
    absoluteOffset_eq seekEnd low high rfl]
  exact seek_outcome Iff.rfl front state.view fun _ => state.moveTo

/-- **A stream on a file keeps the laws.** -/
theorem fileProvider : Provider fileOps (2 ^ 62) FileView where
  limit_le := le_rfl
  same := fun view same => view.same same
  position := fun view => view.position_eq
  readable := fun view => view.readable
  consume := fun view enough => view.consume enough
  readPeek := fun view _ => fileReadPeek_view view
  produce := fun view some_values fits => view.produce some_values fits
  writePeek := fun view _ _ => fileWritePeek_view view
  seek := fun offset seekEnd view low high =>
    fileSeek_view view seekEnd low (by exact_mod_cast high)
  flush := fun view => by
    obtain ⟨file', drained, state, front⟩ := fileDrain_view view
    refine ⟨file', ?_, state.view, front⟩
    show fileFlush _ = _
    rw [fileFlush, drained]
    rfl

/-! ## Opening a file -/

/-- `BUFSIZ`. -/
def bufsiz : ℕ := 4096

/-- `file_open()`. Nothing is known about the bytes of the buffer that `malloc()` returns. -/
def fileOpen (fresh : ℕ → UInt8) (disk : Disk) (offset : ℕ) : File FileBuffer where
  eof := false
  error := false
  offset := offset
  ungetc := []
  readbuf := 0
  readbuflen := 0
  writebuf := none
  writebuflen := 0
  buf := (List.range bufsiz).map fresh
  data := { written := none, bufsize := bufsiz, disk := disk }

/-- A new stream stands for the file. -/
theorem fileOpen_stands (fresh : ℕ → UInt8) (disk : Disk) (offset : ℕ) :
    Stands FileView (fileOpen fresh disk offset) ⟨disk.contents, offset, []⟩ :=
  ⟨FileDrained.view ⟨by simp [fileOpen], show 0 < bufsiz by decide, rfl, rfl, rfl, rfl, rfl, rfl, rfl⟩, rfl⟩

end Cloudlibc.Stdio
