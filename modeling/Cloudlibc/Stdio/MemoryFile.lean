import Cloudlibc.Stdio.FileRefinement

/-!
# Streams in memory

The streams of `fmemopen()` and `tmpfile()`. Their read buffer and their write buffer are parts of
the block that holds the contents, so what is written takes effect at once. The length of the
contents is only updated when a buffer is given up (`memDrain`), and it is then that a gap in front
of the bytes that have been written is filled with zeroes.

So the array that such a stream stands for is the contents with the bytes between the start and the
current position of the write buffer spliced in (`MemView`). Draining a stream makes this the
contents (`memDrain_view`). Both kinds of streams keep the laws of a provider (`memProvider`,
`tmpProvider`).
-/

set_option autoImplicit false

namespace Cloudlibc.Stdio

open Cloudlibc.SparseArray List Option

/-! ## The operations of `fmemopen()` -/

/-- The part of `fmemopen` and `tmpfile` in a `FILE` that changes. -/
structure MemBuffer where
  owritebuf : Option ℕ
  used : ℕ
  size : ℕ
  deriving DecidableEq, Repr

/-- Zero out the sparse region between the end of the contents and the write buffer. -/
def zeroSparse (buf : List UInt8) (used : ℕ) : Option ℕ → Option (List UInt8)
  | none => some buf
  | some owritebuf =>
    if used < owritebuf then
      if owritebuf ≤ buf.length then
        some (patch buf used (List.replicate (owritebuf - used) 0))
      else
        none
    else
      some buf

/-- `mem_drain()`. -/
def memDrain (file : File MemBuffer) : Option (File MemBuffer) := do
  let offset ← file.ftelloPhysical
  let drained := { file with
    offset := offset, readbuf := 0, readbuflen := 0, writebuf := none, writebuflen := 0 }
  if file.writebuf ≠ file.data.owritebuf ∧ file.data.used < offset then
    return { drained with
      buf := ← zeroSparse file.buf file.data.used file.data.owritebuf
      data := { file.data with owritebuf := none, used := offset.toNat } }
  else
    return { drained with data := { file.data with owritebuf := none } }

/-- `mem_read_peek()`. -/
def memReadPeek (file : File MemBuffer) : Option (Outcome MemBuffer) := do
  let file ← memDrain file
  if file.offset < file.data.used then
    return (none, { file with
      readbuf := file.offset.toNat
      readbuflen := file.data.used - file.offset.toNat
      offset := file.data.used })
  else
    return (none, file)

/-- Expose the write buffer. -/
def exposeWriteBuffer (file : File MemBuffer) : File MemBuffer :=
  { file with
    writebuf := some file.offset.toNat
    writebuflen := file.data.size - file.offset.toNat
    offset := file.data.size
    data := { file.data with owritebuf := some file.offset.toNat } }

/-- `mem_write_peek()`. -/
def memWritePeek (append : Bool) (file : File MemBuffer) : Option (Outcome MemBuffer) := do
  let drained ← memDrain file
  let file := if append then { drained with offset := drained.data.used } else drained
  if file.offset ≥ file.data.size then
    return (some .ENOSPC, file)
  else
    return (none, exposeWriteBuffer file)

/-- `mem_seek()`. -/
def memSeek (file : File MemBuffer) (offset : ℤ) (seekEnd : Bool) : Option (Outcome MemBuffer) := do
  let file ← memDrain file
  match if seekEnd then File.addOverflow offset file.data.used else some offset with
  | none => return (some .EOVERFLOW, file)
  | some offset =>
    if offset < 0 ∨ offset > file.data.size then
      return (some .EINVAL, file)
    else
      return (none, { file with offset := offset })

/-- `mem_flush()`. -/
def memFlush (file : File MemBuffer) : Option (Outcome MemBuffer) := do
  return (none, ← memDrain file)

/-- The operations of a stream of `fmemopen()` for its access mode. -/
def memOps (readable writable append : Bool) : FileOps MemBuffer where
  readPeek := if readable then memReadPeek else fun file => some (ebadf file)
  writePeek := if writable then memWritePeek append else fun file => some (ebadf file)
  seek := memSeek
  flush := memFlush

/-! ## The operations of `tmpfile()` -/

/-- `tmp_drain()`, which is the same as `mem_drain()`. -/
def tmpDrain (file : File MemBuffer) : Option (File MemBuffer) := memDrain file

/-- `tmp_read_peek()`, which is the same as `mem_read_peek()`. -/
def tmpReadPeek (file : File MemBuffer) : Option (Outcome MemBuffer) := memReadPeek file

/-- Double the size of the buffer until it extends beyond an offset. -/
def growSize (offset : ℤ) : (fuel : ℕ) → (newSize : ℕ) → Option ℕ
  | 0, _ => none
  | fuel + 1, newSize => if offset ≥ newSize then growSize offset fuel (newSize * 2) else some newSize

/-- `tmp_write_peek()`. Nothing is known about the bytes that `realloc()` adds to the buffer. -/
def tmpWritePeek (fresh : ℕ → UInt8) (file : File MemBuffer) : Option (Outcome MemBuffer) := do
  let file ← tmpDrain file
  if file.offset ≥ file.data.size then
    let newSize ← growSize file.offset 64 (max file.data.size 16)
    return (none, exposeWriteBuffer { file with
      buf := file.buf ++ (List.range' file.data.size (newSize - file.data.size)).map fresh
      data := { file.data with size := newSize } })
  else
    return (none, exposeWriteBuffer file)

/-- `tmp_seek()`. -/
def tmpSeek (file : File MemBuffer) (offset : ℤ) (seekEnd : Bool) : Option (Outcome MemBuffer) := do
  let file ← tmpDrain file
  match if seekEnd then File.addOverflow offset file.data.used else some offset with
  | none => return (some .EOVERFLOW, file)
  | some offset =>
    if offset < 0 then
      return (some .EINVAL, file)
    else
      return (none, { file with offset := offset })

/-- `tmp_flush()`. -/
def tmpFlush (file : File MemBuffer) : Option (Outcome MemBuffer) := some (none, file)

/-- The operations of a stream of `tmpfile()`. -/
def tmpOps (fresh : ℕ → UInt8) : FileOps MemBuffer where
  readPeek := tmpReadPeek
  writePeek := tmpWritePeek fresh
  seek := tmpSeek
  flush := tmpFlush

/-! ## The array that a stream stands for -/

/-- The array of bytes and the offset that a stream in memory stands for. -/
inductive MemView (file : File MemBuffer) (bytes : List UInt8) (position : ℕ) : Prop
  /-- Nothing has been written since the last drain. -/
  | reading :
      file.buf.length = file.data.size → file.data.used ≤ file.data.size →
      file.writebuflen = 0 → file.offset = position + file.readbuflen →
      file.readbuf + file.readbuflen ≤ file.data.used →
      (file.readbuflen ≠ 0 → file.readbuf = position) →
      (file.writebuf = file.data.owritebuf ∨ position ≤ file.data.used) →
      file.buf.take file.data.used = bytes → MemView file bytes position
  /-- The bytes of the write buffer up to the position have been written. -/
  | writing (owritebuf : ℕ) :
      file.buf.length = file.data.size → file.data.used ≤ file.data.size →
      file.readbuf = 0 → file.readbuflen = 0 → file.data.owritebuf = some owritebuf →
      file.writebuf = some position → owritebuf ≤ position →
      position + file.writebuflen = file.data.size → file.offset = file.data.size →
      splice 0 (file.buf.take file.data.used) owritebuf
        (slice file.buf owritebuf (position - owritebuf)) = bytes → MemView file bytes position

/-- A stream without buffers. -/
structure Drained (file : File MemBuffer) (bytes : List UInt8) (position : ℕ) : Prop where
  length : file.buf.length = file.data.size
  used_le : file.data.used ≤ file.data.size
  offset : file.offset = position
  readbuf : file.readbuf = 0
  readbuflen : file.readbuflen = 0
  writebuf : file.writebuf = none
  writebuflen : file.writebuflen = 0
  owritebuf : file.data.owritebuf = none
  bytes : file.buf.take file.data.used = bytes

variable {file file' : File MemBuffer} {bytes : List UInt8} {position : ℕ}

theorem Drained.view (drained : Drained file bytes position) : MemView file bytes position := by
  refine .reading drained.length drained.used_le drained.writebuflen ?_ ?_ ?_ ?_ drained.bytes
  · rw [drained.offset, drained.readbuflen, Nat.cast_zero, add_zero]
  · rw [drained.readbuf, drained.readbuflen]
    exact Nat.zero_le _
  · exact fun some_bytes => absurd drained.readbuflen some_bytes
  · exact Or.inl (drained.writebuf.trans drained.owritebuf.symm)

theorem Drained.length_bytes (drained : Drained file bytes position) :
    bytes.length = file.data.used := by
  rw [← drained.bytes, length_take, drained.length]
  exact Nat.min_eq_left drained.used_le

section

variable (view : MemView file bytes position)

include view

/-- The offset of a stream in memory. -/
theorem MemView.position_eq :
    (file.readbuflen = 0 ∨ file.writebuflen = 0) ∧
      file.offset = position + file.readbuflen + file.writebuflen := by
  cases view with
  | reading _ _ unwritten offset _ _ _ _ =>
    exact ⟨Or.inr unwritten, by rw [offset, unwritten, Nat.cast_zero, add_zero]⟩
  | writing _ _ _ _ unread _ _ _ room offset _ =>
    exact ⟨Or.inl unread, by omega⟩

/-- **Draining a stream makes the array that it stands for its contents.** -/
theorem memDrain_view :
    ∃ file', memDrain file = some file' ∧ Drained file' bytes position ∧ file.SameFront file' ∧
      file'.data.size = file.data.size := by
  have physical := ftelloPhysical_eq view.position_eq.1 view.position_eq.2
  cases view with
  | reading length used_le unwritten offset _ _ clean contents =>
    have kept : ¬ (file.writebuf ≠ file.data.owritebuf ∧ (file.data.used : ℤ) < position) := by
      rcases clean with same | inside
      · exact fun grown => grown.1 same
      · omega
    refine ⟨{ file with
      offset := position, readbuf := 0, readbuflen := 0, writebuf := none, writebuflen := 0
      data := { file.data with owritebuf := none } }, ?_,
      ⟨length, used_le, rfl, rfl, rfl, rfl, rfl, rfl, contents⟩, ⟨rfl, rfl, rfl⟩, rfl⟩
    simp only [memDrain, physical, bind_eq_bind, bind_some]
    rw [if_neg kept]
    rfl
  | writing owritebuf length used_le _ _ isStart isPosition order room offset contents =>
    simp only [memDrain, physical, bind_eq_bind, bind_some, isStart, isPosition]
    by_cases grown : some position ≠ some owritebuf ∧ (file.data.used : ℤ) < position
    · -- The contents end at the position, and the gap in front of what was written is filled.
      have before : owritebuf < position := by
        refine Nat.lt_of_le_of_ne order fun same => grown.1 ?_
        rw [same]
      have filled : zeroSparse file.buf file.data.used (some owritebuf) =
          some (if file.data.used < owritebuf
            then patch file.buf file.data.used (replicate (owritebuf - file.data.used) 0)
            else file.buf) := by
        rw [zeroSparse]
        split_ifs
        · rfl
        · omega
        · rfl
      have kept : (if file.data.used < owritebuf
          then patch file.buf file.data.used (replicate (owritebuf - file.data.used) 0)
          else file.buf).length = file.data.size := by
        split_ifs with gap
        · rw [length_patch (by rw [length_replicate]; omega), length]
        · exact length
      rw [if_pos grown, filled]
      refine ⟨_, rfl, ⟨kept, ?_, rfl, rfl, rfl, rfl, rfl, rfl, ?_⟩, ⟨rfl, rfl, rfl⟩, rfl⟩
      · dsimp only
        omega
      · rw [Int.toNat_natCast, take_fill 0 before (by omega) (by omega), contents]
    · rw [if_neg grown]
      refine ⟨_, rfl, ⟨length, used_le, rfl, rfl, rfl, rfl, rfl, rfl, ?_⟩, ⟨rfl, rfl, rfl⟩, rfl⟩
      dsimp only
      rw [← contents]
      by_cases nothing : position = owritebuf
      · rw [nothing, Nat.sub_self, slice, take_zero, splice_nil]
      · refine (splice_slice 0 order ?_ (by omega)).symm
        have same : some position ≠ some owritebuf := fun same => nothing (some.inj same)
        have inside : ¬ (file.data.used : ℤ) < position := fun less => grown ⟨same, less⟩
        omega

/-! ## The laws -/

/-- The view only depends on the buffers. -/
theorem MemView.same (same : file.SameBuffers file') :
    MemView file' bytes position := by
  obtain ⟨eof, error, offset, ungetc, readbuf, readbuflen, writebuf, writebuflen, buf, data⟩ := file
  obtain ⟨rfl, rfl, rfl, rfl, rfl, rfl, rfl⟩ := same
  cases view with
  | reading length used_le unwritten offset inside start clean contents =>
    exact .reading length used_le unwritten offset inside start clean contents
  | writing owritebuf length used_le readbuf unread isStart isPosition order room offset contents =>
    exact .writing owritebuf length used_le readbuf unread isStart isPosition order room offset
      contents

/-- The read buffer has the bytes at the offset. -/
theorem MemView.readable :
    file.readbuf + file.readbuflen ≤ file.buf.length ∧
      slice file.buf file.readbuf file.readbuflen = slice bytes position file.readbuflen := by
  cases view with
  | reading length used_le _ _ inside start _ contents =>
    refine ⟨by omega, ?_⟩
    by_cases nothing : file.readbuflen = 0
    · rw [nothing, slice, slice, take_zero, take_zero]
    · rw [start nothing, ← contents, slice, slice, drop_take, take_take,
        Nat.min_eq_left (by omega)]
  | writing _ length _ readbuf unread _ _ _ _ _ _ =>
    rw [readbuf, unread, slice, slice, take_zero, take_zero]
    exact ⟨Nat.zero_le _, rfl⟩

/-- Bytes of the read buffer are consumed. -/
theorem MemView.consume {n : ℕ} (enough : n ≤ file.readbuflen) :
    MemView { file with readbuf := file.readbuf + n, readbuflen := file.readbuflen - n } bytes
      (position + n) := by
  cases view with
  | reading length used_le unwritten offset inside start clean contents =>
    refine .reading length used_le unwritten ?_ ?_ ?_ ?_ contents
    · dsimp only
      omega
    · dsimp only
      omega
    · intro some_bytes
      dsimp only at some_bytes ⊢
      rw [start (by omega)]
    · refine clean.imp_right fun before => ?_
      dsimp only
      by_cases nothing : file.readbuflen = 0
      · omega
      · omega
  | writing owritebuf length used_le readbuf unread isStart isPosition order room offset contents =>
    obtain rfl : n = 0 := by omega
    exact .writing owritebuf length used_le readbuf unread isStart isPosition order room offset
      contents

/-- Bytes are put into the write buffer. -/
theorem MemView.produce {values : List UInt8}
    (some_values : values ≠ []) (fits : values.length ≤ file.writebuflen) :
    ∃ file', file.fwriteProduce values = some file' ∧ file.SameFront file' ∧
      file'.data = file.data ∧
      MemView file' (splice 0 bytes position values) (position + values.length) := by
  have positive := length_pos_iff.mpr some_values
  cases view with
  | reading _ _ unwritten _ _ _ _ _ => omega
  | writing owritebuf length used_le readbuf unread isStart isPosition order room offset contents =>
    have inside : position + values.length ≤ file.buf.length := by omega
    refine ⟨{ file with
      buf := patch file.buf position values
      writebuf := some (position + values.length)
      writebuflen := file.writebuflen - values.length }, ?_, ⟨rfl, rfl, rfl⟩, rfl,
      .writing owritebuf ?_ used_le readbuf unread isStart rfl (by omega) ?_ offset ?_⟩
    · rw [File.fwriteProduce, isPosition, bind_eq_bind, bind_some, if_pos ⟨fits, inside⟩]
    · rw [← length]
      exact length_patch inside
    · dsimp only
      omega
    · have written : (slice file.buf owritebuf (position - owritebuf)).length =
          position - owritebuf := by
        rw [length_slice]
        omega
      have joined := splice_append (0 : UInt8) (file.buf.take file.data.used) owritebuf
        (slice file.buf owritebuf (position - owritebuf)) values
      rw [written, Nat.add_sub_cancel' order, contents] at joined
      rw [slice_patch order inside, splice_patch 0 order inside, joined]

/-- There is a new read buffer, unless the end of the contents has been reached. -/
theorem memReadPeek_view :
    ∃ file', memReadPeek file = some (none, file') ∧ MemView file' bytes position ∧
      file.SameFront file' ∧ file'.data.size = file.data.size ∧ file'.writebuflen = 0 ∧
      (file'.readbuflen = 0 → bytes.length ≤ position) := by
  obtain ⟨file', drained, state, front, size⟩ := memDrain_view view
  have length := state.length_bytes
  have offset := state.offset
  simp only [memReadPeek, drained, bind_eq_bind, bind_some]
  by_cases more : file'.offset < file'.data.used
  · rw [if_pos more]
    refine ⟨_, rfl, .reading state.length state.used_le state.writebuflen ?_ ?_ ?_ ?_ state.bytes,
      front, size, state.writebuflen, ?_⟩
    · dsimp only
      omega
    · dsimp only
      omega
    · dsimp only
      omega
    · exact Or.inl (state.writebuf.trans state.owritebuf.symm)
    · intro nothing
      dsimp only at nothing
      omega
  · rw [if_neg more]
    exact ⟨file', rfl, state.view, front, size, state.writebuflen, fun _ => by omega⟩

end

/-- The write buffer is exposed. -/
theorem exposeWriteBuffer_view (state : Drained file bytes position)
    (room : position < file.data.size) :
    MemView (exposeWriteBuffer file) bytes position ∧
      (exposeWriteBuffer file).readbuflen = 0 ∧ 0 < (exposeWriteBuffer file).writebuflen := by
  have offset : file.offset.toNat = position := by
    rw [state.offset, Int.toNat_natCast]
  simp only [exposeWriteBuffer, offset]
  refine ⟨.writing position state.length state.used_le state.readbuf state.readbuflen rfl rfl le_rfl
    ?_ rfl ?_, state.readbuflen, ?_⟩
  · dsimp only
    omega
  · rw [Nat.sub_self, slice, take_zero, splice_nil, state.bytes]
  · omega

theorem memWritePeek_view (view : MemView file bytes position) (room : position < file.data.size) :
    ∃ file', memWritePeek false file = some (none, file') ∧ MemView file' bytes position ∧
      file.SameFront file' ∧ file'.data.size = file.data.size ∧ file'.readbuflen = 0 ∧
      0 < file'.writebuflen := by
  obtain ⟨file', drained, state, front, size⟩ := memDrain_view view
  have offset := state.offset
  obtain ⟨view', unread, some_room⟩ := exposeWriteBuffer_view state (by omega)
  refine ⟨exposeWriteBuffer file', ?_, view', front, size, unread, some_room⟩
  simp only [memWritePeek, drained, bind_eq_bind, bind_some, Bool.false_eq_true, if_false]
  rw [if_neg (by omega)]
  rfl

/-- A stream without buffers is moved. -/
theorem Drained.moveTo {offset : ℕ} (state : Drained file bytes position) :
    MemView { file with offset := offset } bytes offset :=
  Drained.view ⟨state.length, state.used_le, rfl, state.readbuf, state.readbuflen, state.writebuf,
    state.writebuflen, state.owritebuf, state.bytes⟩

/-- The view of a stream of `fmemopen()`, whose size does not change. -/
def FmemopenView (size : ℕ) (file : File MemBuffer) (bytes : List UInt8) (position : ℕ) : Prop :=
  MemView file bytes position ∧ file.data.size = size

theorem memSeek_view {size : ℕ} (view : FmemopenView size file bytes position) {offset : ℤ}
    (seekEnd : Bool) (low : -2 ^ 63 ≤ offset) (small : absoluteOffset bytes offset seekEnd ≤ 2 ^ 62)
    (high : absoluteOffset bytes offset seekEnd ≤ size) :
    ∃ error file', memSeek file offset seekEnd = some (error, file') ∧ file.SameFront file' ∧
      if 0 ≤ absoluteOffset bytes offset seekEnd then
        error = none ∧ FmemopenView size file' bytes (absoluteOffset bytes offset seekEnd).toNat
      else
        error.isSome ∧ FmemopenView size file' bytes position := by
  obtain ⟨file', drained, state, front, kept⟩ := memDrain_view view.1
  have size := kept.trans view.2
  simp only [memSeek, drained, bind_eq_bind, bind_some,
    absoluteOffset_eq seekEnd low small state.length_bytes]
  exact seek_outcome (by omega) front ⟨state.view, size⟩ fun _ => ⟨state.moveTo, size⟩

/-- **A stream of `fmemopen()` keeps the laws.** Nothing is written to it, or it is opened for
reading and writing. -/
theorem memProvider {size limit : ℕ} (inside : limit ≤ size) (small : limit ≤ 2 ^ 62)
    (writable append : Bool) (mode : limit = 0 ∨ writable = true ∧ append = false) :
    Provider (memOps true writable append) limit (FmemopenView size) where
  limit_le := small
  same := fun view same => ⟨view.1.same same, by rw [same.2.2.2.2.2.2, view.2]⟩
  position := fun view => view.1.position_eq
  readable := fun view => view.1.readable
  consume := fun view enough => ⟨view.1.consume enough, view.2⟩
  readPeek := fun view _ => by
    obtain ⟨file', peeked, view', front, kept, unwritten, eof⟩ := memReadPeek_view view.1
    exact ⟨file', peeked, ⟨view', kept.trans view.2⟩, front, unwritten, eof⟩
  produce := fun view some_values fits => by
    obtain ⟨file', produced, front, data, view'⟩ := view.1.produce some_values fits
    exact ⟨file', produced, front, view', by rw [data, view.2]⟩
  writePeek := fun view _ room => by
    rcases mode with none | ⟨rfl, rfl⟩
    · omega
    · obtain ⟨file', peeked, view', front, kept, unread, some_room⟩ :=
        memWritePeek_view view.1 (by rw [view.2]; omega)
      exact ⟨file', peeked, ⟨view', kept.trans view.2⟩, front, unread, some_room⟩
  seek := fun offset seekEnd view low high =>
    memSeek_view view seekEnd low (by omega) (by omega)
  flush := fun view => by
    obtain ⟨file', drained, state, front, kept⟩ := memDrain_view view.1
    refine ⟨file', ?_, ⟨state.view, kept.trans view.2⟩, front⟩
    show memFlush _ = _
    rw [memFlush, drained]
    rfl

/-! ## `tmpfile()` -/

theorem growSize_some {offset : ℤ} (fuel : ℕ) :
    ∀ {newSize : ℕ}, 0 < newSize → offset < newSize * 2 ^ fuel →
      ∃ size, growSize offset (fuel + 1) newSize = some size ∧ offset < size ∧ newSize ≤ size := by
  induction fuel with
  | zero =>
    intro newSize _ small
    rw [pow_zero, mul_one] at small
    exact ⟨newSize, by rw [growSize, if_neg (by omega)], small, le_rfl⟩
  | succ fuel ih =>
    intro newSize positive small
    rw [growSize]
    by_cases more : offset ≥ newSize
    · rw [if_pos more]
      obtain ⟨size, grown, beyond, larger⟩ := @ih (newSize * 2) (by omega) (by
        rw [Nat.cast_mul, mul_assoc, Nat.cast_ofNat, ← pow_succ']
        exact small)
      exact ⟨size, grown, beyond, by omega⟩
    · rw [if_neg more]
      exact ⟨newSize, rfl, by omega, le_rfl⟩

theorem tmpWritePeek_view (fresh : ℕ → UInt8) (view : MemView file bytes position)
    (room : position < 2 ^ 62) :
    ∃ file', tmpWritePeek fresh file = some (none, file') ∧ MemView file' bytes position ∧
      file.SameFront file' ∧ file'.readbuflen = 0 ∧ 0 < file'.writebuflen := by
  obtain ⟨drained, isDrained, state, front, -⟩ := memDrain_view view
  have offset := state.offset
  have length := state.length
  have used_le := state.used_le
  simp only [tmpWritePeek, tmpDrain, isDrained, bind_eq_bind, bind_some]
  by_cases full : drained.offset ≥ drained.data.size
  · obtain ⟨size, grown, beyond, larger⟩ :=
      @growSize_some drained.offset 63 (max drained.data.size 16) (by omega) (by omega)
    have state' : Drained { drained with
        buf := drained.buf ++
          (range' drained.data.size (size - drained.data.size)).map fresh
        data := { drained.data with size := size } } bytes position := by
      refine ⟨?_, ?_, offset, state.readbuf, state.readbuflen, state.writebuf, state.writebuflen,
        state.owritebuf, ?_⟩
      · simp only [length_append, length_map, length_range']
        omega
      · dsimp only
        omega
      · dsimp only
        rw [take_append_of_le_length (by omega), state.bytes]
    obtain ⟨view', unread, some_room⟩ := exposeWriteBuffer_view state' (by dsimp only; omega)
    rw [if_pos full, grown]
    exact ⟨_, rfl, view', front, unread, some_room⟩
  · obtain ⟨view', unread, some_room⟩ := exposeWriteBuffer_view state (by omega)
    rw [if_neg full]
    exact ⟨_, rfl, view', front, unread, some_room⟩

theorem tmpSeek_view (view : MemView file bytes position) {offset : ℤ} (seekEnd : Bool)
    (low : -2 ^ 63 ≤ offset) (high : absoluteOffset bytes offset seekEnd ≤ 2 ^ 62) :
    ∃ error file', tmpSeek file offset seekEnd = some (error, file') ∧ file.SameFront file' ∧
      if 0 ≤ absoluteOffset bytes offset seekEnd then
        error = none ∧ MemView file' bytes (absoluteOffset bytes offset seekEnd).toNat
      else
        error.isSome ∧ MemView file' bytes position := by
  obtain ⟨file', drained, state, front, -⟩ := memDrain_view view
  simp only [tmpSeek, tmpDrain, drained, bind_eq_bind, bind_some,
    absoluteOffset_eq seekEnd low high state.length_bytes]
  exact seek_outcome Iff.rfl front state.view fun _ => state.moveTo

/-- **A stream of `tmpfile()` keeps the laws.** -/
theorem tmpProvider (fresh : ℕ → UInt8) : Provider (tmpOps fresh) (2 ^ 62) MemView where
  limit_le := le_rfl
  same := fun view same => view.same same
  position := fun view => view.position_eq
  readable := fun view => view.readable
  consume := fun view enough => view.consume enough
  readPeek := fun view _ => by
    obtain ⟨file', peeked, view', front, -, unwritten, eof⟩ := memReadPeek_view view
    exact ⟨file', peeked, view', front, unwritten, eof⟩
  produce := fun view some_values fits => by
    obtain ⟨file', produced, front, -, view'⟩ := view.produce some_values fits
    exact ⟨file', produced, front, view'⟩
  writePeek := fun view _ room => tmpWritePeek_view fresh view room
  seek := fun offset seekEnd view low high => tmpSeek_view view seekEnd low (by exact_mod_cast high)
  flush := fun view => ⟨_, rfl, view, rfl, rfl, rfl⟩

end Cloudlibc.Stdio
