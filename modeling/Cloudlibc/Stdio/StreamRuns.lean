import Cloudlibc.Stdio.Fdopen
import Cloudlibc.Stdio.Fmemopen

/-!
# Runs of a stream

A program applies operations to a stream in any order (`StreamOp`). The stream of a provider and the
array of bytes that it stands for return the same results along the whole run, and no assertion of
the stream fails (`Provider.performAll`). The three kinds of streams that can be read, written and
moved are instances: the file of `tmpfile()`, the buffer of `fmemopen()` and a file on disk whose
calls may transfer less than they are asked to (`streams_are_byteArrays`).
-/

set_option autoImplicit false

namespace Cloudlibc.Stdio

open Cloudlibc.SparseArray

/-! ## Operations and their results -/

/-- An operation that a program applies to a stream. -/
inductive StreamOp
  | fread (size nitems : ℕ)
  | getc
  | fwrite (bytes : List UInt8) (size nitems : ℕ)
  | putc (c : UInt8)
  | fseeko (offset : ℤ) (whence : File.Whence)
  | ftello
  | ungetc (c : UInt8)
  | fflush
  deriving DecidableEq, Repr

/-- What an operation returns. -/
inductive StreamResult
  /-- Bytes that have been read and the number of items. -/
  | read (bytes : List UInt8) (nitems : ℕ)
  /-- The number of items that have been written. -/
  | written (nitems : ℕ)
  /-- A character or `EOF`. -/
  | char (c : Option UInt8)
  | offset (offset : ℤ)
  | success (success : Bool)
  deriving DecidableEq, Repr

variable {Data : Type}

/-- An operation on a stream. There is no result if an assertion fails. -/
def File.perform (ops : FileOps Data) (file : File Data) :
    StreamOp → Option (StreamResult × File Data)
  | .fread size nitems =>
    (file.fread ops size nitems).map fun (bytes, nitems, file) => (.read bytes nitems, file)
  | .getc => (file.getc ops).map fun (c, file) => (.char c, file)
  | .fwrite bytes size nitems =>
    (file.fwrite ops bytes size nitems).map fun (nitems, file) => (.written nitems, file)
  | .putc c => (file.putc ops c).map fun (c, file) => (.char c, file)
  | .fseeko offset whence =>
    (file.fseeko ops offset whence).map fun (error, file) => (.success error.isNone, file)
  | .ftello => file.ftello.map fun offset => (.offset offset, file)
  | .ungetc c =>
    let (error, file) := file.pushBack c
    some (.success error.isNone, file)
  | .fflush => (file.fflush ops).map fun (error, file) => (.success error.isNone, file)

/-- Operations on a stream, one after the other. -/
def File.performAll (ops : FileOps Data) (file : File Data) :
    List StreamOp → Option (List StreamResult × File Data)
  | [] => some ([], file)
  | op :: rest => do
      let (result, file) ← file.perform ops op
      let (results, file) ← file.performAll ops rest
      return (result :: results, file)

namespace ByteStream

/-- What an operation does to an array of bytes with an offset and bytes that are pushed back. -/
def perform (stream : ByteStream) : StreamOp → StreamResult × ByteStream
  | .fread size nitems =>
    if File.sizeLimit ≤ size * nitems then
      (.read [] 0, stream)
    else
      let bytes := stream.pending.take (size * nitems)
      (.read bytes (bytes.length / size), stream.advance (size * nitems))
  | .getc => (.char stream.pending.head?, stream.advance 1)
  | .fwrite bytes size nitems =>
    if File.sizeLimit ≤ size * nitems then
      (.written 0, stream)
    else
      (.written (bytes.length / size), stream.write bytes)
  | .putc c => (.char (some c), stream.write [c])
  | .fseeko offset whence =>
    if 0 ≤ stream.target offset whence then
      (.success true, stream.moveTo (stream.target offset whence).toNat)
    else
      (.success false, stream)
  | .ftello => (.offset stream.tell, stream)
  | .ungetc c =>
    if File.ungetcSize ≤ stream.pushback.length then
      (.success false, stream)
    else
      (.success true, { stream with pushback := c :: stream.pushback })
  | .fflush => (.success true, { stream with pushback := [] })

/-- Operations on an array of bytes, one after the other. -/
def performAll (stream : ByteStream) : List StreamOp → List StreamResult × ByteStream
  | [] => ([], stream)
  | op :: rest =>
    let (result, stream) := stream.perform op
    let (results, stream) := stream.performAll rest
    (result :: results, stream)

/-- An operation stays below the limit of the offsets. What `fwrite()` is given are the bytes of its
items. -/
def Admits (limit : ℕ) (stream : ByteStream) : StreamOp → Prop
  | .fwrite bytes size nitems =>
    size * nitems < File.sizeLimit →
      bytes.length = size * nitems ∧ stream.offset + size * nitems ≤ limit
  | .putc _ => stream.offset < limit
  | .fseeko offset whence => -2 ^ 62 ≤ offset ∧ stream.target offset whence ≤ limit
  | _ => True

/-- All operations of a run stay below the limit of the offsets. -/
def AdmitsAll (limit : ℕ) (stream : ByteStream) : List StreamOp → Prop
  | [] => True
  | op :: rest => stream.Admits limit op ∧ (stream.perform op).2.AdmitsAll limit rest

theorem perform_pushback {stream : ByteStream} (op : StreamOp)
    (few : stream.pushback.length ≤ File.ungetcSize) :
    (stream.perform op).2.pushback.length ≤ File.ungetcSize := by
  have dropped : ∀ n, (stream.advance n).pushback.length ≤ File.ungetcSize := by
    intro n
    rw [advance, List.length_drop]
    omega
  cases op with
  | fread size nitems =>
    rw [perform]
    split_ifs
    · exact few
    · exact dropped _
  | getc => exact dropped 1
  | fwrite bytes size nitems =>
    rw [perform]
    split_ifs <;> exact few
  | putc c => exact few
  | fseeko offset whence =>
    rw [perform]
    split_ifs
    · exact Nat.zero_le _
    · exact few
  | ftello => exact few
  | ungetc c =>
    rw [perform]
    split_ifs with full
    · exact few
    · exact Nat.lt_of_not_le full
  | fflush => exact Nat.zero_le _

end ByteStream

/-! ## A stream and its array -/

/-- An operation that does not read stays below the limit of the offsets. -/
def ByteStream.Writable (limit : ℕ) (stream : ByteStream) : StreamOp → Prop
  | .fread _ _ => False
  | .getc => False
  | .fseeko offset whence =>
    -2 ^ 63 ≤ offset ∧ (whence = .seekCur → -2 ^ 63 ≤ offset + stream.tell) ∧
      stream.target offset whence ≤ limit
  | op => stream.Admits limit op

/-- A stream keeps standing for its array of bytes when an operation that does not read is
performed. -/
theorem Writer.perform {ops : FileOps Data} {limit : ℕ} {View : File Data → List UInt8 → ℕ → Prop}
    (writer : Writer ops limit View) {file : File Data} {stream : ByteStream}
    (stands : Stands View file stream) {op : StreamOp} (writable : stream.Writable limit op) :
    ∃ file', file.perform ops op = some ((stream.perform op).1, file') ∧
      Stands View file' (stream.perform op).2 := by
  cases op with
  | fread size nitems => exact writable.elim
  | getc => exact writable.elim
  | fwrite bytes size nitems =>
    rw [File.perform, ByteStream.perform]
    split_ifs with large
    · rw [File.fwrite, if_pos large]
      exact ⟨_, rfl, writer.stands_flags stands file.eof true⟩
    · have small := Nat.lt_of_not_le large
      obtain ⟨length, room⟩ := writable small
      obtain ⟨file', written, stands'⟩ := writer.fwrite stands length small room
      exact ⟨file', by rw [written]; rfl, stands'⟩
  | putc c =>
    obtain ⟨file', written, stands'⟩ := writer.putc stands c writable
    exact ⟨file', by rw [File.perform, written]; rfl, stands'⟩
  | fseeko offset whence =>
    obtain ⟨low, sum, high⟩ := writable
    obtain ⟨error, file', sought, moved⟩ := writer.fseeko stands low sum high
    refine ⟨file', ?_⟩
    rw [File.perform, sought, ByteStream.perform]
    split_ifs at moved ⊢
    · obtain ⟨rfl, stands'⟩ := moved
      exact ⟨rfl, stands'⟩
    · obtain ⟨failed, stands'⟩ := moved
      obtain ⟨errno, rfl⟩ := Option.isSome_iff_exists.mp failed
      exact ⟨rfl, stands'⟩
  | ftello => exact ⟨file, by rw [File.perform, writer.ftello stands]; rfl, stands⟩
  | ungetc c =>
    have pushed := writer.pushBack stands c
    rw [File.perform, ByteStream.perform]
    split_ifs at pushed ⊢
    · exact ⟨file, by rw [pushed]; rfl, stands⟩
    · obtain ⟨file', pushed, stands'⟩ := pushed
      exact ⟨file', by rw [pushed]; rfl, stands'⟩
  | fflush =>
    obtain ⟨file', flushed, stands'⟩ := writer.fflush stands
    exact ⟨file', by rw [File.perform, flushed]; rfl, stands'⟩

section

variable {ops : FileOps Data} {limit : ℕ} {View : File Data → List UInt8 → ℕ → Prop}
  (provider : Provider ops limit View) {file : File Data} {stream : ByteStream}

include provider

/-- A stream keeps standing for its array of bytes when an operation is performed. -/
theorem Provider.perform (stands : Stands View file stream)
    (few : stream.pushback.length ≤ File.ungetcSize) {op : StreamOp}
    (admitted : stream.Admits limit op) :
    ∃ file', file.perform ops op = some ((stream.perform op).1, file') ∧
      Stands View file' (stream.perform op).2 := by
  cases op with
  | fread size nitems =>
    rw [File.perform, ByteStream.perform]
    split_ifs with large
    · rw [File.fread, if_pos large]
      exact ⟨_, rfl, provider.writer.stands_flags stands file.eof true⟩
    · obtain ⟨file', read, stands'⟩ := provider.fread stands (Nat.lt_of_not_le large)
      exact ⟨file', by rw [read]; rfl, stands'⟩
  | getc =>
    obtain ⟨file', read, stands'⟩ := provider.getc stands
    exact ⟨file', by rw [File.perform, read]; rfl, stands'⟩
  | fseeko offset whence =>
    obtain ⟨low, high⟩ := admitted
    refine provider.writer.perform stands ⟨by omega, fun _ => ?_, high⟩
    rw [File.ungetcSize] at few
    rw [ByteStream.tell]
    omega
  | fwrite bytes size nitems => exact provider.writer.perform stands admitted
  | putc c => exact provider.writer.perform stands admitted
  | ftello => exact provider.writer.perform stands trivial
  | ungetc c => exact provider.writer.perform stands trivial
  | fflush => exact provider.writer.perform stands trivial

/-- **A stream and its array of bytes return the same results along a run.** -/
theorem Provider.performAll (run : List StreamOp) :
    ∀ {file : File Data} {stream : ByteStream}, Stands View file stream →
      stream.pushback.length ≤ File.ungetcSize → stream.AdmitsAll limit run →
      ∃ file', file.performAll ops run = some ((stream.performAll run).1, file') ∧
        Stands View file' (stream.performAll run).2 := by
  induction run with
  | nil => exact fun {file} _ stands _ _ => ⟨file, rfl, stands⟩
  | cons op rest ih =>
    rintro file stream stands few ⟨admitted, others⟩
    obtain ⟨file', performed, stands'⟩ := provider.perform stands few admitted
    obtain ⟨file'', performedRest, stands''⟩ :=
      ih stands' (ByteStream.perform_pushback op few) others
    refine ⟨file'', ?_, stands''⟩
    rw [File.performAll, performed]
    simp only [Option.bind_eq_bind, Option.bind_some, performedRest]
    rfl

end

/-! ## The three kinds of streams -/

/-- A stream returns the results of an array of bytes along every run that stays below a limit, and
no assertion fails. -/
def ActsAs (ops : FileOps Data) (limit : ℕ) (file : File Data) (stream : ByteStream) : Prop :=
  ∀ run : List StreamOp, stream.AdmitsAll limit run →
    ∃ file', file.performAll ops run = some ((stream.performAll run).1, file')

theorem Provider.actsAs {ops : FileOps Data} {limit : ℕ}
    {View : File Data → List UInt8 → ℕ → Prop} (provider : Provider ops limit View)
    {file : File Data} {bytes : List UInt8} {offset : ℕ}
    (stands : Stands View file ⟨bytes, offset, []⟩) :
    ActsAs ops limit file ⟨bytes, offset, []⟩ := by
  intro run admitted
  obtain ⟨file', performed, -⟩ := provider.performAll run stands (Nat.zero_le _) admitted
  exact ⟨file', performed⟩

/-- `tmpfile_l()`. All fields of the stream are zero. -/
def tmpfileL : File MemBuffer where
  eof := false
  error := false
  offset := 0
  ungetc := []
  readbuf := 0
  readbuflen := 0
  writebuf := none
  writebuflen := 0
  buf := []
  data := { owritebuf := none, used := 0, size := 0 }

/-- A new temporary file stands for no bytes. -/
theorem tmpfileL_stands : Stands MemView tmpfileL ⟨[], 0, []⟩ :=
  ⟨Drained.view ⟨rfl, le_rfl, rfl, rfl, rfl, rfl, rfl, rfl, rfl⟩, rfl⟩

/-- The text of the mode `w+`. -/
def updateMode : List UInt8 := [byteOf 'w', byteOf '+']

/-- `fmemopen()` with the mode `w+` stands for no bytes. -/
theorem fmemopenL_stands {buf : List UInt8} (some_bytes : buf ≠ []) (external : Bool) :
    ∃ file, fmemopenL external buf updateMode = .ok (memOps true true false, file) ∧
      Stands (FmemopenView buf.length) file ⟨[], 0, []⟩ := by
  have nonempty : ¬ buf.length = 0 := fun zero => some_bytes (List.length_eq_zero_iff.mp zero)
  have contents : initialContents external (getOflagsFromString updateMode) buf = (0, 0) := by
    cases external <;> rfl
  have valid : getOflagsFromString updateMode ≠ 0 := by decide
  refine ⟨{ tmpfileL with
    writebuf := some 0
    buf := buf
    data := { owritebuf := none, used := 0, size := buf.length } }, ?_, ⟨?_, rfl⟩, rfl⟩
  · rw [fmemopenL, if_neg (not_or.mpr ⟨valid, nonempty⟩), contents]
    rfl
  · exact .reading rfl (Nat.zero_le _) rfl rfl le_rfl (fun unread => absurd rfl unread)
      (Or.inr le_rfl) rfl

/-- **Streams act as arrays of bytes.** This holds for the stream of `tmpfile()`, for the stream of
`fmemopen()` with the mode `w+` as long as the offsets are inside the buffer, and for the stream of
`fdopen()` on a file from any offset on. -/
theorem streams_are_byteArrays :
    (∀ fresh, ActsAs (tmpOps fresh) (2 ^ 62) tmpfileL ⟨[], 0, []⟩) ∧
    (∀ external buf, buf ≠ [] →
      ∃ ops file, fmemopenL external buf updateMode = .ok (ops, file) ∧
        ActsAs ops (min buf.length (2 ^ 62)) file ⟨[], 0, []⟩) ∧
    ∀ fresh disk offset,
      ActsAs fileOps (2 ^ 62) (fileOpen fresh disk offset) ⟨disk.contents, offset, []⟩ := by
  refine ⟨fun fresh => (tmpProvider fresh).actsAs tmpfileL_stands, ?_, ?_⟩
  · intro external buf some_bytes
    obtain ⟨file, opened, stands⟩ := fmemopenL_stands some_bytes external
    have provider := memProvider (min_le_left buf.length (2 ^ 62)) (min_le_right _ _) true false
      (Or.inr ⟨rfl, rfl⟩)
    exact ⟨_, file, opened, provider.actsAs stands⟩
  · intro fresh disk offset
    exact fileProvider.actsAs (fileOpen_stands fresh disk offset)

end Cloudlibc.Stdio
