import Cloudlibc.Stdio.StreamRuns

/-!
# Streams of `open_memstream()`

The stream of `libc/stdio/open_memstream_l.c` is written into a block that grows. The block has one
byte more than the stream uses, so that a null byte always fits behind the contents. A flush stores
the null byte, the address of the block and the size where the program asked for them.

Without the last byte of its block, such a stream is a stream in memory (`exposed`), and its
operations are those of `tmpfile()` there (`msDrain_exposed`, `msWritePeek_view`). So it stands for
an array of bytes along every run of writes (`memstreamWriter`), and each flush exposes the array
(`openMemstream_flushed`).

The stream is given all the memory it asks for, in blocks of less than two to the 63rd bytes. A byte
at an offset of two to the 62nd less one would need a larger block, and the computation of its size
overflows (`openMemstream_overflow`).
-/

set_option autoImplicit false

namespace Cloudlibc.Stdio

open Cloudlibc.SparseArray List Option

/-! ## The operations -/

/-- The part of `memstream` in a `FILE` that changes, with the address of the block and with what
is stored through `bufp` and `sizep`. -/
structure Memstream where
  owritebuf : Option ℕ
  used : ℕ
  size : ℕ
  address : ℕ
  bufp : Option ℕ
  sizep : Option ℕ
  deriving DecidableEq, Repr

/-- What `malloc()` and `realloc()` return: the address of a block, or a null pointer, and bytes that
nothing is known about. -/
structure BlockHeap where
  realloc : ℕ → Option ℕ
  fresh : ℕ → UInt8

/-- `ms_drain()`. -/
def msDrain (file : File Memstream) : Option (File Memstream) := do
  let offset ← file.ftelloPhysical
  let drained := { file with offset := offset, writebuf := none, writebuflen := 0 }
  if file.writebuf ≠ file.data.owritebuf ∧ file.data.used < offset then
    return { drained with
      buf := ← zeroSparse file.buf file.data.used file.data.owritebuf
      data := { file.data with owritebuf := none, used := offset.toNat } }
  else
    return { drained with data := { file.data with owritebuf := none } }

/-- Double the size of the block until the offset is inside. `(off_t)new_size - 1` overflows for two
to the 63rd. -/
def msGrow (offset : ℤ) : (fuel : ℕ) → (newSize : ℕ) → Option ℕ
  | 0, _ => none
  | fuel + 1, newSize =>
    if 2 ^ 63 ≤ newSize then none
    else if offset ≥ (newSize : ℤ) - 1 then msGrow offset fuel (newSize * 2)
    else some newSize

/-- Expose the write buffer. -/
def msExpose (file : File Memstream) : File Memstream :=
  { file with
    writebuf := some file.offset.toNat
    writebuflen := file.data.size - file.offset.toNat
    offset := file.data.size
    data := { file.data with owritebuf := some file.offset.toNat } }

/-- `ms_write_peek()`. -/
def msWritePeek (heap : BlockHeap) (file : File Memstream) : Option (Outcome Memstream) := do
  let file ← msDrain file
  if file.offset ≥ file.data.size then
    let newSize ← msGrow file.offset 64 (file.data.size + 1)
    match heap.realloc newSize with
    | none => return (some .ENOMEM, file)
    | some address =>
      return (none, msExpose { file with
        buf := file.buf ++
          (List.range' file.buf.length (newSize - file.buf.length)).map heap.fresh
        data := { file.data with address := address, size := newSize - 1 } })
  else
    return (none, msExpose file)

/-- `ms_seek()`. -/
def msSeek (file : File Memstream) (offset : ℤ) (seekEnd : Bool) : Option (Outcome Memstream) := do
  let file ← msDrain file
  match if seekEnd then File.addOverflow offset file.data.used else some offset with
  | none => return (some .EOVERFLOW, file)
  | some offset =>
    if offset < 0 then
      return (some .EINVAL, file)
    else
      return (none, { file with offset := offset })

/-- `ms_flush()`. -/
def msFlush (file : File Memstream) : Option (Outcome Memstream) := do
  let file ← msDrain file
  if file.data.used < file.buf.length then
    return (none, { file with
      buf := patch file.buf file.data.used [0]
      data := { file.data with
        bufp := some file.data.address
        sizep := some (if file.data.used < file.offset then file.data.used else file.offset.toNat) } })
  else
    none

/-- The operations of a stream of `open_memstream()`. -/
def msOps (heap : BlockHeap) : FileOps Memstream where
  readPeek := fun file => some (ebadf file)
  writePeek := msWritePeek heap
  seek := msSeek
  flush := msFlush

/-- `DEFAULT_BUFFER_SIZE`. -/
def defaultBufferSize : ℕ := 16

/-- `open_memstream_l()`. -/
def openMemstreamL (heap : BlockHeap) : Option (File Memstream) := do
  let address ← heap.realloc defaultBufferSize
  return {
    eof := false
    error := false
    offset := 0
    ungetc := []
    readbuf := 0
    readbuflen := 0
    writebuf := none
    writebuflen := 0
    buf := (List.range defaultBufferSize).map heap.fresh
    data := ⟨none, 0, defaultBufferSize - 1, address, none, none⟩ }

/-! ## The stream without the last byte -/

/-- The stream without the last byte of its block. -/
def exposed (file : File Memstream) : File MemBuffer where
  eof := file.eof
  error := file.error
  offset := file.offset
  ungetc := file.ungetc
  readbuf := file.readbuf
  readbuflen := file.readbuflen
  writebuf := file.writebuf
  writebuflen := file.writebuflen
  buf := file.buf.take file.data.size
  data := ⟨file.data.owritebuf, file.data.used, file.data.size⟩

/-- The block has one byte more than the stream uses, and nothing is read. -/
structure Sized (file : File Memstream) : Prop where
  length : file.buf.length = file.data.size + 1
  readbuf : file.readbuf = 0
  readbuflen : file.readbuflen = 0

/-- The array of bytes and the offset that a stream of `open_memstream()` stands for. -/
structure MemstreamView (file : File Memstream) (bytes : List UInt8) (position : ℕ) : Prop where
  sized : Sized file
  view : MemView (exposed file) bytes position

theorem zeroSparse_take {buf filled : List UInt8} {used size : ℕ} {owritebuf : Option ℕ}
    (inside : size ≤ buf.length)
    (zeroed : zeroSparse (buf.take size) used owritebuf = some filled) :
    ∃ whole, zeroSparse buf used owritebuf = some whole ∧ whole.take size = filled ∧
      whole.length = buf.length := by
  cases owritebuf with
  | none =>
    cases zeroed
    exact ⟨buf, rfl, rfl, rfl⟩
  | some owritebuf =>
    rw [zeroSparse] at zeroed ⊢
    by_cases gap : used < owritebuf
    · rw [if_pos gap] at zeroed ⊢
      by_cases fits : owritebuf ≤ (buf.take size).length
      · rw [if_pos fits] at zeroed
        cases zeroed
        rw [length_take] at fits
        rw [if_pos (by omega)]
        refine ⟨_, rfl, take_patch (by rw [length_replicate]; omega) inside, ?_⟩
        exact length_patch (by rw [length_replicate]; omega)
      · rw [if_neg fits] at zeroed
        cases zeroed
    · rw [if_neg gap] at zeroed ⊢
      cases zeroed
      exact ⟨buf, rfl, rfl, rfl⟩

variable {file : File Memstream} {bytes : List UInt8} {position : ℕ}

/-- `ms_drain()` is `mem_drain()` on the stream without the last byte. -/
theorem msDrain_exposed {drained : File MemBuffer} (sized : Sized file)
    (ran : memDrain (exposed file) = some drained) :
    ∃ file', msDrain file = some file' ∧ exposed file' = drained ∧ Sized file' ∧
      file'.data.bufp = file.data.bufp ∧ file'.data.sizep = file.data.sizep := by
  rw [memDrain, show (exposed file).ftelloPhysical = file.ftelloPhysical from rfl] at ran
  obtain ⟨offset, physical, ran⟩ := bind_eq_some_iff.mp ran
  simp only [msDrain, physical, bind_eq_bind, bind_some]
  by_cases grown : file.writebuf ≠ file.data.owritebuf ∧ (file.data.used : ℤ) < offset
  · rw [if_pos grown]
    rw [if_pos (show (exposed file).writebuf ≠ (exposed file).data.owritebuf ∧
      ((exposed file).data.used : ℤ) < offset from grown)] at ran
    obtain ⟨filled, zeroed, ran⟩ := bind_eq_some_iff.mp ran
    cases ran
    obtain ⟨whole, zeroedWhole, front, length⟩ :=
      @zeroSparse_take file.buf filled file.data.used file.data.size file.data.owritebuf
        (by rw [sized.length]; omega) zeroed
    rw [zeroedWhole]
    refine ⟨_, rfl, ?_, ⟨length.trans sized.length, sized.readbuf, sized.readbuflen⟩, rfl, rfl⟩
    simp [exposed, front, sized.readbuf, sized.readbuflen]
  · rw [if_neg grown]
    rw [if_neg (show ¬ ((exposed file).writebuf ≠ (exposed file).data.owritebuf ∧
      ((exposed file).data.used : ℤ) < offset) from grown)] at ran
    cases ran
    refine ⟨_, rfl, ?_, ⟨sized.length, sized.readbuf, sized.readbuflen⟩, rfl, rfl⟩
    simp [exposed, sized.readbuf, sized.readbuflen]

/-- **Draining a stream makes the array that it stands for its contents.** -/
theorem msDrain_view (view : MemstreamView file bytes position) :
    ∃ file', msDrain file = some file' ∧ Drained (exposed file') bytes position ∧ Sized file' ∧
      file.SameFront file' := by
  obtain ⟨drained, ran, state, front, -⟩ := memDrain_view view.view
  obtain ⟨file', ran', rfl, sized, -⟩ := msDrain_exposed view.sized ran
  exact ⟨file', ran', state, sized, front⟩

/-! ## The laws -/

/-- Bytes are put into the write buffer. -/
theorem MemstreamView.produce {values : List UInt8} (view : MemstreamView file bytes position)
    (some_values : values ≠ []) (fits : values.length ≤ file.writebuflen) :
    ∃ file', file.fwriteProduce values = some file' ∧ file.SameFront file' ∧
      MemstreamView file' (splice 0 bytes position values) (position + values.length) := by
  have length := view.sized.length
  obtain ⟨drained, produced, front, -, view'⟩ := view.view.produce some_values fits
  obtain ⟨writebuf, isWritebuf, produced⟩ := bind_eq_some_iff.mp produced
  change file.writebuf = some writebuf at isWritebuf
  split_ifs at produced with inside
  change values.length ≤ file.writebuflen ∧
    writebuf + values.length ≤ (file.buf.take file.data.size).length at inside
  rw [length_take] at inside
  cases produced
  refine ⟨{ file with
    buf := patch file.buf writebuf values
    writebuf := some (writebuf + values.length)
    writebuflen := file.writebuflen - values.length }, ?_, ⟨rfl, rfl, rfl⟩, ⟨?_, ?_⟩⟩
  · rw [File.fwriteProduce, isWritebuf, bind_eq_bind, bind_some,
      if_pos ⟨inside.1, by omega⟩]
  · refine ⟨?_, view.sized.readbuf, view.sized.readbuflen⟩
    rw [← length]
    exact length_patch (by omega)
  · rw [exposed]
    dsimp only
    rw [take_patch (by omega) (by omega)]
    exact view'

/-- The size is doubled until the offset is inside. -/
theorem msGrow_some {offset : ℤ} (small : offset < 2 ^ 62 - 1) (fuel : ℕ) :
    ∀ {newSize : ℕ}, 0 < newSize → newSize < 2 ^ 63 → offset < newSize * 2 ^ fuel - 1 →
      ∃ size, msGrow offset (fuel + 1) newSize = some size ∧ offset < (size : ℤ) - 1 ∧
        newSize ≤ size ∧ size < 2 ^ 63 := by
  induction fuel with
  | zero =>
    intro newSize _ bound inside
    rw [pow_zero, mul_one] at inside
    exact ⟨newSize, by rw [msGrow, if_neg (by omega), if_neg (by omega)], inside, le_rfl, bound⟩
  | succ fuel ih =>
    intro newSize positive bound inside
    rw [msGrow, if_neg (by omega)]
    by_cases more : offset ≥ (newSize : ℤ) - 1
    · rw [if_pos more]
      obtain ⟨size, grown, beyond, larger, bounded⟩ := @ih (newSize * 2) (by omega) (by omega) (by
        rw [Nat.cast_mul, mul_assoc, Nat.cast_ofNat, ← pow_succ']
        exact inside)
      exact ⟨size, grown, beyond, by omega, bounded⟩
    · rw [if_neg more]
      exact ⟨newSize, rfl, by omega, le_rfl, bound⟩

/-- The heap gives all blocks that are smaller than two to the 63rd bytes. -/
def BlockHeap.Succeeds (heap : BlockHeap) : Prop := ∀ size < 2 ^ 63, (heap.realloc size).isSome

variable {heap : BlockHeap}

theorem msWritePeek_view (succeeds : heap.Succeeds) (view : MemstreamView file bytes position)
    (room : position < 2 ^ 62 - 1) :
    ∃ file', msWritePeek heap file = some (none, file') ∧ MemstreamView file' bytes position ∧
      file.SameFront file' ∧ file'.readbuflen = 0 ∧ 0 < file'.writebuflen := by
  obtain ⟨drained, isDrained, state, sized, front⟩ := msDrain_view view
  have offset : drained.offset = position := state.offset
  have length := sized.length
  simp only [msWritePeek, isDrained, bind_eq_bind, bind_some]
  by_cases full : drained.offset ≥ drained.data.size
  · obtain ⟨size, grown, beyond, larger, bounded⟩ :=
      @msGrow_some drained.offset (by omega) 63 (drained.data.size + 1) (by omega) (by omega)
        (by omega)
    obtain ⟨address, allocated⟩ := isSome_iff_exists.mp (succeeds size bounded)
    have kept : (drained.buf ++ (range' drained.buf.length
        (size - drained.buf.length)).map heap.fresh).length = size - 1 + 1 := by
      simp only [length_append, length_map, length_range']
      omega
    have used_le : drained.data.used ≤ drained.data.size := state.used_le
    have contents : (drained.buf.take drained.data.size).take drained.data.used = bytes :=
      state.bytes
    rw [take_take, Nat.min_eq_left used_le] at contents
    have state' : Drained (exposed { drained with
        buf := drained.buf ++
          (range' drained.buf.length (size - drained.buf.length)).map heap.fresh
        data := { drained.data with address := address, size := size - 1 } }) bytes position := by
      refine ⟨?_, ?_, state.offset, state.readbuf, state.readbuflen, state.writebuf,
        state.writebuflen, state.owritebuf, ?_⟩
      · simp only [exposed, length_take, kept]
        omega
      · simp only [exposed]
        omega
      · simp only [exposed]
        rw [take_take, Nat.min_eq_left (by omega), take_append_of_le_length (by omega),
          contents]
    obtain ⟨view', unread, some_room⟩ :=
      exposeWriteBuffer_view state' (by simp only [exposed]; omega)
    rw [if_pos full, grown]
    simp only [allocated, bind_some]
    exact ⟨_, rfl, ⟨⟨kept, sized.readbuf, sized.readbuflen⟩, view'⟩, front, unread, some_room⟩
  · obtain ⟨view', unread, some_room⟩ :=
      exposeWriteBuffer_view state (by simp only [exposed]; omega)
    rw [if_neg full]
    exact ⟨_, rfl, ⟨⟨length, sized.readbuf, sized.readbuflen⟩, view'⟩, front, unread, some_room⟩

theorem msSeek_view (view : MemstreamView file bytes position) {offset : ℤ} (seekEnd : Bool)
    (low : -2 ^ 63 ≤ offset) (high : absoluteOffset bytes offset seekEnd ≤ 2 ^ 62) :
    ∃ error file', msSeek file offset seekEnd = some (error, file') ∧ file.SameFront file' ∧
      if 0 ≤ absoluteOffset bytes offset seekEnd then
        error = none ∧ MemstreamView file' bytes (absoluteOffset bytes offset seekEnd).toNat
      else
        error.isSome ∧ MemstreamView file' bytes position := by
  obtain ⟨file', drained, state, sized, front⟩ := msDrain_view view
  have length : bytes.length = file'.data.used := state.length_bytes
  simp only [msSeek, drained, bind_eq_bind, bind_some, absoluteOffset_eq seekEnd low high length]
  exact seek_outcome Iff.rfl front ⟨sized, state.view⟩ fun _ =>
    ⟨⟨sized.length, sized.readbuf, sized.readbuflen⟩, state.moveTo⟩

/-- What a program finds when it looks where `bufp` and `sizep` point to: the array followed by a null
byte, and the smaller one of its length and the offset. -/
structure Exposes (file : File Memstream) (bytes : List UInt8) (position : ℕ) : Prop where
  bufp : file.data.bufp = some file.data.address
  contents : bytes ++ [0] <+: file.buf
  sizep : file.data.sizep = some (min bytes.length position)

theorem msFlush_view (view : MemstreamView file bytes position) :
    ∃ file', msFlush file = some (none, file') ∧ MemstreamView file' bytes position ∧
      file.SameFront file' ∧ Exposes file' bytes position := by
  obtain ⟨drained, isDrained, state, sized, front⟩ := msDrain_view view
  have offset : drained.offset = position := state.offset
  have length := sized.length
  have used_le : drained.data.used ≤ drained.data.size := state.used_le
  have isUsed : bytes.length = drained.data.used := state.length_bytes
  have contents : (drained.buf.take drained.data.size).take drained.data.used = bytes := state.bytes
  rw [take_take, Nat.min_eq_left used_le] at contents
  have patched : patch drained.buf drained.data.used [0] =
      bytes ++ [0] ++ drained.buf.drop (drained.data.used + 1) := by
    rw [patch, contents]
    rfl
  simp only [msFlush, isDrained, bind_eq_bind, bind_some]
  rw [if_pos (by omega)]
  refine ⟨_, rfl, ⟨⟨?_, sized.readbuf, sized.readbuflen⟩, Drained.view ?_⟩, front, rfl, ?_, ?_⟩
  · exact (length_patch (by simp; omega)).trans length
  · refine ⟨?_, used_le, state.offset, state.readbuf, state.readbuflen, state.writebuf,
      state.writebuflen, state.owritebuf, ?_⟩
    · simp only [exposed, length_take, length_patch (show drained.data.used + [(0 : UInt8)].length ≤
        drained.buf.length by simp; omega)]
      omega
    · simp only [exposed]
      rw [take_take, Nat.min_eq_left used_le, patched, append_assoc,
        take_append_of_le_length (by omega), take_of_length_le (by omega)]
  · dsimp only
    rw [patched]
    exact prefix_append _ _
  · dsimp only
    congr 1
    split_ifs <;> omega

/-- **A stream of `open_memstream()` keeps the laws of writing.** -/
theorem memstreamWriter (succeeds : heap.Succeeds) :
    Writer (msOps heap) (2 ^ 62 - 1) MemstreamView where
  limit_le := by omega
  same := by
    rintro file file' bytes position ⟨sized, view⟩ ⟨offset, readbuf, readbuflen, writebuf,
      writebuflen, buf, data⟩
    refine ⟨⟨by rw [buf, data]; exact sized.length, readbuf.trans sized.readbuf,
      readbuflen.trans sized.readbuflen⟩, view.same ?_⟩
    simp [exposed, File.SameBuffers, offset, readbuf, readbuflen, writebuf, writebuflen, buf, data]
  position := fun view => view.view.position_eq
  produce := fun view some_values fits => view.produce some_values fits
  writePeek := fun view _ room => msWritePeek_view succeeds view room
  seek := fun offset seekEnd view low high =>
    msSeek_view view seekEnd low (high.trans (by norm_num))
  flush := fun view => by
    obtain ⟨file', flushed, view', front, -⟩ := msFlush_view view
    exact ⟨file', flushed, view', front⟩

/-! ## Runs -/

/-- An operation that writes below an offset of two to the 62nd less one, seeks below two to the
62nd, or flushes. What `fwrite()` is given are the bytes of its items. -/
def ByteStream.WritesBelow (stream : ByteStream) : StreamOp → Prop
  | .fwrite bytes size nitems =>
    size * nitems < File.sizeLimit →
      bytes.length = size * nitems ∧ stream.offset + size * nitems ≤ 2 ^ 62 - 1
  | .putc _ => stream.offset < 2 ^ 62 - 1
  | .fseeko offset whence => -2 ^ 63 ≤ offset ∧ stream.target offset whence < 2 ^ 62
  | .ftello => True
  | .fflush => True
  | _ => False

/-- All operations of a run are of this kind. -/
def ByteStream.WritesBelowAll (stream : ByteStream) : List StreamOp → Prop
  | [] => True
  | op :: rest => stream.WritesBelow op ∧ (stream.perform op).2.WritesBelowAll rest

/-- Without bytes that are pushed back, the operation stays below the limit. -/
theorem ByteStream.WritesBelow.writable {stream : ByteStream} {op : StreamOp}
    (below : stream.WritesBelow op) (none : stream.pushback = []) :
    stream.Writable (2 ^ 62 - 1) op ∧ (stream.perform op).2.pushback = [] := by
  cases op with
  | fread size nitems => exact below.elim
  | getc => exact below.elim
  | ungetc c => exact below.elim
  | fwrite bytes size nitems =>
    refine ⟨below, ?_⟩
    rw [ByteStream.perform]
    split_ifs <;> exact none
  | putc c => exact ⟨below, none⟩
  | fseeko offset whence =>
    obtain ⟨low, high⟩ := below
    refine ⟨⟨low, fun _ => ?_, by push_cast; omega⟩, ?_⟩
    · rw [ByteStream.tell, none, length_nil]
      omega
    · rw [ByteStream.perform]
      split_ifs
      · rfl
      · exact none
  | ftello => exact ⟨trivial, none⟩
  | fflush => exact ⟨trivial, rfl⟩

/-- A stream stands for its array of bytes along a run of writes. -/
theorem memstream_performAll (succeeds : heap.Succeeds) (run : List StreamOp) :
    ∀ {file : File Memstream} {stream : ByteStream}, Stands MemstreamView file stream →
      stream.pushback = [] → stream.WritesBelowAll run →
      ∃ file', file.performAll (msOps heap) run = some ((stream.performAll run).1, file') ∧
        Stands MemstreamView file' (stream.performAll run).2 := by
  induction run with
  | nil => exact fun {file} _ stands _ _ => ⟨file, rfl, stands⟩
  | cons op rest ih =>
    rintro file stream stands none ⟨below, others⟩
    obtain ⟨writable, none'⟩ := below.writable none
    obtain ⟨file', performed, stands'⟩ := (memstreamWriter succeeds).perform stands writable
    obtain ⟨file'', performedRest, stands''⟩ := ih stands' none' others
    refine ⟨file'', ?_, stands''⟩
    rw [File.performAll, performed]
    simp only [bind_eq_bind, bind_some, performedRest]
    rfl

theorem openMemstreamL_stands (succeeds : heap.Succeeds) :
    ∃ file, openMemstreamL heap = some file ∧ Stands MemstreamView file ⟨[], 0, []⟩ := by
  obtain ⟨address, allocated⟩ :=
    isSome_iff_exists.mp (succeeds defaultBufferSize (by decide))
  refine ⟨_, by rw [openMemstreamL, allocated]; rfl, ⟨⟨?_, rfl, rfl⟩, Drained.view ?_⟩, rfl⟩
  · simp [defaultBufferSize]
  · exact ⟨by simp [exposed, defaultBufferSize], Nat.zero_le _, rfl, rfl, rfl, rfl, rfl, rfl, rfl⟩

/-- **A flush exposes what has been written.** After any writes, seeks and flushes, the block has one
byte more than the stream uses, the contents fit, and the next flush stores the address of the block,
which holds the array of bytes followed by a null byte, and the smaller one of its length and the
offset. -/
theorem openMemstream_flushed (heap : BlockHeap) (succeeds : heap.Succeeds) (run : List StreamOp)
    (below : ByteStream.WritesBelowAll ⟨[], 0, []⟩ run) :
    ∃ opened file flushed, openMemstreamL heap = some opened ∧
      opened.performAll (msOps heap) run =
        some ((ByteStream.performAll ⟨[], 0, []⟩ run).1, file) ∧
      file.data.size + 1 ≤ file.buf.length ∧ file.data.used ≤ file.data.size ∧
      file.fflush (msOps heap) = some (none, flushed) ∧
      Exposes flushed (ByteStream.performAll ⟨[], 0, []⟩ run).2.bytes
        (ByteStream.performAll ⟨[], 0, []⟩ run).2.offset := by
  obtain ⟨opened, isOpened, stands⟩ := openMemstreamL_stands succeeds
  obtain ⟨file, performed, view, -⟩ := memstream_performAll succeeds run stands rfl below
  obtain ⟨flushed, ran, -, -, exposes⟩ := msFlush_view view
  refine ⟨opened, file, { flushed with ungetc := [] }, isOpened, performed,
    view.sized.length.ge, ?_, ?_, ⟨exposes.bufp, exposes.contents, exposes.sizep⟩⟩
  · cases view.view with
    | reading _ used_le => exact used_le
    | writing _ _ used_le => exact used_le
  · rw [File.fflush, File.fopFlush, show (msOps heap).flush file = msFlush file from rfl, ran]
    rfl

/-- A heap that never fails. -/
def plentifulHeap : BlockHeap := ⟨fun size => some size, fun _ => 0xaa⟩

/-- A byte behind a gap of two bytes, and a seek back to the first byte. -/
theorem openMemstream_flushed_gap :
    ∃ opened file flushed, openMemstreamL plentifulHeap = some opened ∧
      opened.performAll (msOps plentifulHeap)
          [.fseeko 2 .seekSet, .putc 0x61, .fseeko 1 .seekSet] =
        some ([.success true, .char (some 0x61), .success true], file) ∧
      file.data.size + 1 ≤ file.buf.length ∧ file.data.used ≤ file.data.size ∧
      file.fflush (msOps plentifulHeap) = some (none, flushed) ∧ Exposes flushed [0, 0, 0x61] 1 :=
  openMemstream_flushed plentifulHeap (fun _ _ => rfl)
    [.fseeko 2 .seekSet, .putc 0x61, .fseeko 1 .seekSet]
    ⟨(by decide : (-2 ^ 63 : ℤ) ≤ 2 ∧ (2 : ℤ) < 2 ^ 62), (by decide : 2 < 2 ^ 62 - 1),
      (by decide : (-2 ^ 63 : ℤ) ≤ 1 ∧ (1 : ℤ) < 2 ^ 62), trivial⟩

/-- The overflow: a byte cannot be written at an offset of two to the 62nd less one, although all
blocks that are asked for before are there. -/
theorem openMemstream_overflow :
    ∃ opened, openMemstreamL plentifulHeap = some opened ∧
      opened.performAll (msOps plentifulHeap) [.fseeko (2 ^ 62 - 1) .seekSet] =
        some ([.success true], { opened with offset := 2 ^ 62 - 1 }) ∧
      opened.performAll (msOps plentifulHeap) [.fseeko (2 ^ 62 - 1) .seekSet, .putc 0x61] = none := by
  refine ⟨_, rfl, ?_, ?_⟩
  · decide +kernel
  · decide +kernel

end Cloudlibc.Stdio
