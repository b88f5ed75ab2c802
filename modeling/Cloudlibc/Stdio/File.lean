import Cloudlibc.Errno
import Cloudlibc.Foundations.SparseArray

/-!
# Streams

The functions of `common/stdio.h` and `libc/stdio` that read, write and position a stream, for
whatever provides its buffers. A stream has a block of memory that its read buffer or its write
buffer lies in. A buffer is given by the index of its first byte in the block.

A function yields no result if one of its assertions fails, or if it accesses bytes outside the
block. The locks, the orientation and the type of buffering are left out: the streams are fully
buffered, so `funlockfile()` never flushes.
-/

set_option autoImplicit false

namespace Cloudlibc.Stdio

open Cloudlibc.SparseArray

/-! ## Streams and their operations -/

/-- A `FILE`, with the data of whatever provides its buffers. The first byte of `ungetc` is the one
that has been pushed back last. -/
structure File (Data : Type) where
  eof : Bool
  error : Bool
  offset : ℤ
  ungetc : List UInt8
  readbuf : ℕ
  readbuflen : ℕ
  writebuf : Option ℕ
  writebuflen : ℕ
  buf : List UInt8
  data : Data
  deriving DecidableEq, Repr

/-- What an operation returns: the error, and the stream behind the operation. -/
abbrev Outcome (Data : Type) := Option Errno × File Data

/-- `struct fileops`. -/
structure FileOps (Data : Type) where
  readPeek : File Data → Option (Outcome Data)
  writePeek : File Data → Option (Outcome Data)
  seek : File Data → (offset : ℤ) → (seekEnd : Bool) → Option (Outcome Data)
  flush : File Data → Option (Outcome Data)

variable {Data : Type}

/-- `ebadf()`. -/
def ebadf (file : File Data) : Outcome Data := (some .EBADF, file)

namespace File

/-- `fseekable()`. -/
def fseekable (file : File Data) : Bool := 0 ≤ file.offset

/-- `ftello_physical()`. -/
def ftelloPhysical (file : File Data) : Option ℤ :=
  if file.fseekable ∧ (file.readbuflen = 0 ∨ file.writebuflen = 0) ∧
      0 ≤ file.offset - file.readbuflen - file.writebuflen then
    some (file.offset - file.readbuflen - file.writebuflen)
  else
    none

/-- `ftello_logical()`. -/
def ftelloLogical (file : File Data) : Option ℤ :=
  file.ftelloPhysical.map fun result => result - file.ungetc.length

variable (ops : FileOps Data)

/-- `fop_read_peek()`. -/
def fopReadPeek (file : File Data) : Option (Outcome Data) :=
  if file.readbuflen = 0 ∧ file.ungetc.length = 0 then do
    match ← ops.readPeek file with
    | (none, file) =>
      if file.fseekable = false ∨ file.writebuflen = 0 then
        return (none, { file with eof := file.eof || file.readbuflen == 0 })
      else
        none
    | (some errno, file) => return (some errno, { file with error := true })
  else
    none

/-- `fop_write_peek()`. -/
def fopWritePeek (file : File Data) : Option (Outcome Data) := do
  match ← ops.writePeek file with
  | (none, file) =>
    if 0 < file.writebuflen ∧ (file.fseekable = false ∨ file.readbuflen = 0) then
      return (none, file)
    else
      none
  | (some errno, file) => return (some errno, { file with error := true })

/-- `fop_seek()`. -/
def fopSeek (file : File Data) (offset : ℤ) (seekEnd : Bool) : Option (Outcome Data) :=
  if file.fseekable then ops.seek file offset seekEnd else none

/-- `fop_flush()`. -/
def fopFlush (file : File Data) : Option (Outcome Data) := do
  match ← ops.flush file with
  | (none, file) => return (none, file)
  | (some errno, file) => return (some errno, { file with error := true })

/-! ## Reading -/

/-- The bytes of the read buffer. -/
def readBytes (file : File Data) : Option (List UInt8) :=
  if file.readbuf + file.readbuflen ≤ file.buf.length then
    some (slice file.buf file.readbuf file.readbuflen)
  else
    none

/-- Refill the read buffer if it is empty. -/
def refill (file : File Data) : Option (Outcome Data) :=
  if file.readbuflen = 0 then fopReadPeek ops file else some (none, file)

/-- `fread_peek()`, with the bytes of the buffer. -/
def freadPeek (file : File Data) : Option (Option Errno × List UInt8 × File Data) := do
  if file.ungetc.length > 0 then
    return (none, file.ungetc, file)
  else
    match ← refill ops file with
    | (some errno, file) => return (some errno, [], file)
    | (none, file) => return (none, ← file.readBytes, file)

/-- `fread_consume()`. -/
def freadConsume (file : File Data) (buflen : ℕ) : Option (File Data) :=
  if file.ungetc.length > 0 then
    if buflen ≤ file.ungetc.length then
      some { file with ungetc := file.ungetc.drop buflen }
    else
      none
  else
    if buflen ≤ file.readbuflen then
      some { file with readbuf := file.readbuf + buflen, readbuflen := file.readbuflen - buflen }
    else
      none

/-- The loop of `fread()`, with the bytes that are stored. -/
def freadLoop : (fuel : ℕ) → (file : File Data) → (outbuflen : ℕ) → Option (List UInt8 × File Data)
  | 0, _, _ => none
  | fuel + 1, file, outbuflen => do
      let (error, readbuf, file) ← freadPeek ops file
      if error.isSome ∨ readbuf.length = 0 then
        return ([], file)
      else if outbuflen ≤ readbuf.length then
        return (readbuf.take outbuflen, ← file.freadConsume outbuflen)
      else
        let (rest, file) ←
          freadLoop fuel (← file.freadConsume readbuf.length) (outbuflen - readbuf.length)
        return (readbuf ++ rest, file)

/-- The number of values of a `size_t`. -/
def sizeLimit : ℕ := 2 ^ 64

/-- `fread()`: the bytes that are stored, the value that is returned, and the stream. -/
def fread (file : File Data) (size nitems : ℕ) : Option (List UInt8 × ℕ × File Data) :=
  if sizeLimit ≤ size * nitems then
    some ([], 0, { file with error := true })
  else if size * nitems = 0 then
    some ([], 0, file)
  else do
    let (bytes, file) ← freadLoop ops (size * nitems + 1) file (size * nitems)
    return (bytes, if bytes.length = size * nitems then nitems else bytes.length / size, file)

/-- `getc()`. -/
def getc (file : File Data) : Option (Option UInt8 × File Data) := do
  let (error, readbuf, file) ← freadPeek ops file
  match error, readbuf with
  | none, ch :: _ => return (some ch, ← file.freadConsume 1)
  | _, _ => return (none, file)

/-! ## Writing -/

/-- `memcpy()` to the write buffer and `fwrite_produce()`. -/
def fwriteProduce (file : File Data) (bytes : List UInt8) : Option (File Data) := do
  let writebuf ← file.writebuf
  if bytes.length ≤ file.writebuflen ∧ writebuf + bytes.length ≤ file.buf.length then
    some { file with
      buf := patch file.buf writebuf bytes
      writebuf := some (writebuf + bytes.length)
      writebuflen := file.writebuflen - bytes.length }
  else
    none

/-- `fwrite_peek()`. -/
def fwritePeek (file : File Data) : Option (Outcome Data) :=
  if file.writebuflen = 0 then fopWritePeek ops file else some (none, file)

/-- `fwrite_put()`, with the number of bytes that are written. -/
def fwritePut : (fuel : ℕ) → (file : File Data) → (inbuf : List UInt8) → Option (ℕ × File Data)
  | 0, _, _ => none
  | fuel + 1, file, inbuf => do
      let (error, file) ← fwritePeek ops file
      if error.isSome then
        return (0, file)
      else if inbuf.length > file.writebuflen then
        let written := file.writebuflen
        let (rest, file) ←
          fwritePut fuel (← file.fwriteProduce (inbuf.take written)) (inbuf.drop written)
        return (written + rest, file)
      else
        return (inbuf.length, ← file.fwriteProduce inbuf)

/-- `fwrite()` of items with some bytes. -/
def fwrite (file : File Data) (bytes : List UInt8) (size nitems : ℕ) : Option (ℕ × File Data) :=
  if sizeLimit ≤ size * nitems then
    some (0, { file with error := true })
  else if size * nitems = 0 then
    some (0, file)
  else do
    let (len, file) ← fwritePut ops (size * nitems + 1) file (bytes.take (size * nitems))
    return (len / size, file)

/-- `putc()`. -/
def putc (file : File Data) (c : UInt8) : Option (Option UInt8 × File Data) := do
  match ← fwritePeek ops file with
  | (none, file) => return (some c, ← file.fwriteProduce [c])
  | (some _, file) => return (none, file)

/-! ## Positioning -/

/-- The third argument of `fseeko()`. -/
inductive Whence
  | seekSet
  | seekCur
  | seekEnd
  deriving DecidableEq, Repr

/-- `add_overflow()` for `off_t`: the sum, unless it overflows. -/
def addOverflow (x y : ℤ) : Option ℤ := if -2 ^ 63 ≤ x + y ∧ x + y < 2 ^ 63 then some (x + y) else none

/-- What `fseeko()` does behind the operation of the provider. -/
def afterSeek : Outcome Data → Outcome Data
  | (some errno, file) => (some errno, file)
  | (none, file) => (none, { file with eof := false, ungetc := [] })

/-- `fseeko()`, for a stream that is seekable. -/
def fseeko (file : File Data) (offset : ℤ) (whence : Whence) : Option (Outcome Data) :=
  match whence with
  | .seekCur => do
      match addOverflow offset (← file.ftelloLogical) with
      | none => return (some .EOVERFLOW, file)
      | some offset => (fopSeek ops file offset false).map afterSeek
  | .seekEnd => (fopSeek ops file offset true).map afterSeek
  | .seekSet => (fopSeek ops file offset false).map afterSeek

/-- `ftello()`, for a stream that is seekable. -/
def ftello (file : File Data) : Option ℤ := file.ftelloLogical

/-- The size of the `ungetc` buffer. -/
def ungetcSize : ℕ := 16

/-- `ungetc()` of a byte. -/
def pushBack (file : File Data) (c : UInt8) : Option Errno × File Data :=
  if file.ungetc.length ≥ ungetcSize then
    (some .ENOSPC, file)
  else
    (none, { file with ungetc := c :: file.ungetc, eof := false })

/-- `fflush()`. -/
def fflush (file : File Data) : Option (Outcome Data) := do
  match ← fopFlush ops file with
  | (none, file) => return (none, { file with ungetc := [] })
  | (some errno, file) => return (some errno, file)

end File

end Cloudlibc.Stdio
