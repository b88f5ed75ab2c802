import Cloudlibc.Stdio.MemoryFile
import Cloudlibc.Stdio.PrintScan

/-!
# `fmemopen()`

A stream on a buffer of the caller. The length of the initial contents is chosen by the flags that
`get_oflags_from_string()` finds in the mode. The mode `r+` sets the flag for reading and the one
for writing, and `fmemopen_l()` looks at the latter only. So a stream that is opened with `r+` is
empty, while for every other mode the contents and the offset are the ones that POSIX prescribes
(`fmemopen_prescribed_iff`).
-/

set_option autoImplicit false

namespace Cloudlibc.Stdio

open Cloudlibc.SparseArray List

/-! ## Modes -/

/-- `O_APPEND`. -/
def oAppend : ℕ := 0x1

/-- `O_CREAT`. -/
def oCreat : ℕ := 0x1000

/-- `O_EXCL`. -/
def oExcl : ℕ := 0x4000

/-- `O_TRUNC`. -/
def oTrunc : ℕ := 0x8000

/-- `O_RDONLY`. -/
def oRdonly : ℕ := 0x4000000

/-- `O_WRONLY`. -/
def oWronly : ℕ := 0x10000000

/-- `O_RDWR`. -/
def oRdwr : ℕ := oRdonly ||| oWronly

/-- The part of `get_oflags_from_string()` behind the first character. -/
def getOflagsRest (s : List UInt8) (oflags : ℕ) : ℕ :=
  let s := if peek s 0 = byteOf 'b' then s.drop 1 else s
  let update := peek s 0 = byteOf '+'
  let oflags := if update then oflags ||| oRdwr else oflags
  let s := if update then s.drop 1 else s
  let s := if peek s 0 = byteOf 'b' then s.drop 1 else s
  let exclusive := peek s 0 = byteOf 'x'
  let oflags := if exclusive then oflags ||| oExcl else oflags
  let s := if exclusive then s.drop 1 else s
  if peek s 0 ≠ 0 then 0 else oflags

/-- `get_oflags_from_string()`. -/
def getOflagsFromString (s : List UInt8) : ℕ :=
  if peek s 0 = byteOf 'r' then getOflagsRest (s.drop 1) oRdonly
  else if peek s 0 = byteOf 'w' then getOflagsRest (s.drop 1) (oWronly ||| oCreat ||| oTrunc)
  else if peek s 0 = byteOf 'a' then getOflagsRest (s.drop 1) (oWronly ||| oCreat ||| oAppend)
  else 0

/-! ## Opening a stream -/

/-- `GET_FILEOPS_ACCMODE()`. -/
def getFileopsAccmode (append : Bool) (oflags : ℕ) : FileOps MemBuffer :=
  if oflags &&& oWronly = 0 then memOps true false append
  else if oflags &&& oRdonly = 0 then memOps false true append
  else memOps true true append

/-- `strnlen()` of a buffer. -/
def strnlen (buf : List UInt8) : ℕ := (buf.takeWhile (· ≠ 0)).length

/-- The offset and the length of the contents of a new stream. -/
def initialContents (external : Bool) (oflags : ℕ) (buf : List UInt8) : ℕ × ℕ :=
  if external then
    if oflags &&& oAppend ≠ 0 then (strnlen buf, strnlen buf)
    else if oflags &&& oWronly = 0 then (0, buf.length)
    else (0, 0)
  else
    (0, 0)

/-- `fmemopen_l()`, for an external buffer or the one that it has allocated. The allocations are
assumed to succeed. -/
def fmemopenL (external : Bool) (buf : List UInt8) (mode : List UInt8) :
    Except Errno (FileOps MemBuffer × File MemBuffer) :=
  let oflags := getOflagsFromString mode
  if oflags = 0 ∨ buf.length = 0 then
    .error .EINVAL
  else
    let (offset, used) := initialContents external oflags buf
    .ok (getFileopsAccmode (oflags &&& oAppend ≠ 0) oflags, {
      eof := false
      error := false
      offset := offset
      ungetc := []
      readbuf := 0
      readbuflen := 0
      writebuf := some offset
      writebuflen := 0
      buf := buf
      data := { owritebuf := none, used := used, size := buf.length } })

/-! ## What POSIX prescribes -/

/-- What a mode is for. -/
inductive ModeKind
  | read
  | write
  | append
  deriving DecidableEq, Repr

/-- A mode. The characters behind the first one are optional. -/
structure Mode where
  kind : ModeKind
  binary : Bool
  update : Bool
  binary' : Bool
  exclusive : Bool
  deriving DecidableEq, Repr

/-- The first character of a mode. -/
def ModeKind.letter : ModeKind → UInt8
  | .read => byteOf 'r'
  | .write => byteOf 'w'
  | .append => byteOf 'a'

/-- The text of a mode. -/
def Mode.text (mode : Mode) : List UInt8 :=
  mode.kind.letter :: ((if mode.binary then [byteOf 'b'] else []) ++
    (if mode.update then [byteOf '+'] else []) ++ (if mode.binary' then [byteOf 'b'] else []) ++
    if mode.exclusive then [byteOf 'x'] else [])

/-- The contents of a new stream. -/
def ModeKind.contents (buf : List UInt8) : ModeKind → List UInt8
  | .read => buf
  | .write => []
  | .append => buf.takeWhile (· ≠ 0)

/-- The offset of a new stream. -/
def ModeKind.offset (buf : List UInt8) : ModeKind → ℕ
  | .append => (buf.takeWhile (· ≠ 0)).length
  | _ => 0

/-- Read some bytes with `fread()`, one number of them after the other. -/
def freads (ops : FileOps MemBuffer) (file : File MemBuffer) :
    List ℕ → Option (List UInt8 × File MemBuffer)
  | [] => some ([], file)
  | n :: ns => do
      let (bytes, _, file) ← file.fread ops 1 n
      let (rest, file) ← freads ops file ns
      return (bytes ++ rest, file)

/-- Reading the stream returns the bytes. -/
def Reads (ops : FileOps MemBuffer) (file : File MemBuffer) (bytes : List UInt8) : Prop :=
  ∀ ns : List ℕ, (∀ n ∈ ns, n < File.sizeLimit) →
    ∃ file', freads ops file ns = some (bytes.take ns.sum, file')

/-- Overwriting a part of the bytes leaves the others alone. -/
def Overwrites (ops : FileOps MemBuffer) (file : File MemBuffer) (bytes : List UInt8) : Prop :=
  ∀ (start : ℕ) (values : List UInt8), start + values.length ≤ bytes.length →
    ∃ file₁ file₂ file₃, file.fseeko ops start .seekSet = some (none, file₁) ∧
      file₁.fwrite ops values 1 values.length = some (values.length, file₂) ∧
      file₂.fseeko ops 0 .seekSet = some (none, file₃) ∧
      Reads ops file₃ (patch bytes start values)

/-- A new stream on a buffer is as POSIX prescribes. -/
def Prescribed (mode : Mode) (buf : List UInt8) : Prop :=
  ∃ ops file, fmemopenL true buf mode.text = .ok (ops, file) ∧
    file.buf.take file.data.used = mode.kind.contents buf ∧
    file.ftello = some (mode.kind.offset buf : ℤ) ∧
    (mode.kind = .read → Reads ops file buf) ∧
    (mode.kind = .read → mode.update = true → Overwrites ops file buf)

/-! ## The flags of a mode -/

theorem getOflagsFromString_text (mode : Mode) :
    getOflagsFromString mode.text ≠ 0 ∧
      (getOflagsFromString mode.text &&& oAppend ≠ 0 ↔ mode.kind = .append) ∧
      (getOflagsFromString mode.text &&& oWronly = 0 ↔
        mode.kind = .read ∧ mode.update = false) := by
  obtain ⟨kind, binary, update, binary', exclusive⟩ := mode
  cases kind <;> cases binary <;> cases update <;> cases binary' <;> cases exclusive <;> decide

/-! ## Reading and the initial contents -/

variable {buf : List UInt8} {mode : Mode}

/-- `fread()` calls read the bytes of a stream one after the other. -/
theorem freads_pending {ops : FileOps MemBuffer} {limit : ℕ}
    {View : File MemBuffer → List UInt8 → ℕ → Prop} (provider : Provider ops limit View)
    (ns : List ℕ) : ∀ {file : File MemBuffer} {stream : ByteStream}, Stands View file stream →
      (∀ n ∈ ns, n < File.sizeLimit) →
      ∃ file', freads ops file ns = some (stream.pending.take ns.sum, file') := by
  induction ns with
  | nil => exact fun {file} _ _ _ => ⟨file, rfl⟩
  | cons n ns ih =>
    intro file stream stands small
    obtain ⟨first, others⟩ := forall_mem_cons.mp small
    obtain ⟨file', read, stands'⟩ := provider.fread stands (show 1 * n < _ by rwa [Nat.one_mul])
    obtain ⟨file'', rest⟩ := ih stands' others
    refine ⟨file'', ?_⟩
    simp only [freads, read, rest, Option.bind_eq_bind, Option.bind_some, Option.pure_def,
      ByteStream.pending_advance, Nat.one_mul, sum_cons, take_add]

/-- The length of the contents of a new stream. -/
def Mode.used (mode : Mode) (buf : List UInt8) : ℕ :=
  if mode.kind = .append then strnlen buf
  else if mode.kind = .read ∧ mode.update = false then buf.length
  else 0

theorem initialContents_text (buf : List UInt8) (mode : Mode) :
    initialContents true (getOflagsFromString mode.text) buf =
      (mode.kind.offset buf, mode.used buf) := by
  obtain ⟨-, append, reading⟩ := getOflagsFromString_text mode
  simp only [initialContents, Mode.used, append, reading, if_true]
  split_ifs with isAppend
  · rw [isAppend]
    rfl
  · cases kind : mode.kind with
    | append => exact absurd kind isAppend
    | read => rfl
    | write => rfl
  · cases kind : mode.kind with
    | append => exact absurd kind isAppend
    | read => rfl
    | write => rfl

/-- A new stream on a buffer. -/
def Mode.opened (mode : Mode) (buf : List UInt8) : File MemBuffer where
  eof := false
  error := false
  offset := mode.kind.offset buf
  ungetc := []
  readbuf := 0
  readbuflen := 0
  writebuf := some (mode.kind.offset buf)
  writebuflen := 0
  buf := buf
  data := { owritebuf := none, used := mode.used buf, size := buf.length }

theorem fmemopenL_text (some_bytes : buf ≠ []) (mode : Mode) :
    ∃ ops, fmemopenL true buf mode.text = .ok (ops, mode.opened buf) ∧
      (mode.kind = .read → mode.update = false → ∃ append, ops = memOps true false append) := by
  obtain ⟨valid, -, reading⟩ := getOflagsFromString_text mode
  have nonempty : ¬ buf.length = 0 := fun zero => some_bytes (length_eq_zero_iff.mp zero)
  refine ⟨getFileopsAccmode (getOflagsFromString mode.text &&& oAppend ≠ 0)
    (getOflagsFromString mode.text), ?_, ?_⟩
  · rw [fmemopenL, if_neg (not_or.mpr ⟨valid, nonempty⟩)]
    rw [initialContents_text]
    rfl
  · intro isRead noUpdate
    rw [getFileopsAccmode, if_pos (reading.mpr ⟨isRead, noUpdate⟩)]
    exact ⟨_, rfl⟩

/-- A stream that is opened with `r+` is empty. -/
theorem not_prescribed_update (some_bytes : buf ≠ []) (isRead : mode.kind = .read)
    (isUpdate : mode.update = true) : ¬ Prescribed mode buf := by
  rintro ⟨ops', file', opened', contents, -⟩
  obtain ⟨ops, opened, -⟩ := fmemopenL_text some_bytes mode
  rw [opened] at opened'
  obtain ⟨rfl, rfl⟩ := Prod.mk.inj (Except.ok.inj opened')
  have empty : mode.used buf = 0 := by simp [Mode.used, isRead, isUpdate]
  rw [isRead, ModeKind.contents] at contents
  dsimp only [Mode.opened] at contents
  rw [empty, take_zero] at contents
  exact some_bytes contents.symm

/-- A stream that is opened with `r` stands for the buffer. -/
theorem opened_stands (isRead : mode.kind = .read) (noUpdate : mode.update = false) :
    Stands (FmemopenView buf.length) (mode.opened buf) ⟨buf, 0, []⟩ := by
  have used : mode.used buf = buf.length := by simp [Mode.used, isRead, noUpdate]
  have offset : mode.kind.offset buf = 0 := by simp [ModeKind.offset, isRead]
  refine ⟨⟨.reading rfl ?_ rfl ?_ (Nat.zero_le _) (fun some_bytes => absurd rfl some_bytes)
    (Or.inr (Nat.zero_le _)) ?_, rfl⟩, rfl⟩
  · dsimp only [Mode.opened]
    rw [used]
  · dsimp only [Mode.opened]
    rw [offset]
    rfl
  · dsimp only [Mode.opened]
    rw [used, take_length]

/-- The contents of a stream that is not opened with `r+`. -/
theorem opened_contents (other : mode.kind = .read → mode.update = false) :
    (mode.opened buf).buf.take (mode.opened buf).data.used = mode.kind.contents buf := by
  dsimp only [Mode.opened]
  cases kind : mode.kind with
  | read => simp [Mode.used, kind, other kind, ModeKind.contents]
  | write => simp [Mode.used, kind, ModeKind.contents]
  | append =>
    simp only [Mode.used, kind, if_true, ModeKind.contents, strnlen]
    exact (prefix_iff_eq_take.mp ( takeWhile_prefix _)).symm

/-- **The modes for which a new stream is as POSIX prescribes.** -/
theorem fmemopen_prescribed_iff (some_bytes : buf ≠ []) (mode : Mode) :
    Prescribed mode buf ↔ ¬ (mode.kind = .read ∧ mode.update = true) := by
  constructor
  · rintro prescribed ⟨isRead, isUpdate⟩
    exact not_prescribed_update some_bytes isRead isUpdate prescribed
  · intro other
    have noUpdate : mode.kind = .read → mode.update = false := fun isRead =>
      Bool.eq_false_of_not_eq_true fun isUpdate => other ⟨isRead, isUpdate⟩
    obtain ⟨ops, opened, reader⟩ := fmemopenL_text some_bytes mode
    refine ⟨ops, mode.opened buf, opened, opened_contents noUpdate, ?_, ?_, ?_⟩
    · simp [Mode.opened, File.ftello, File.ftelloLogical, File.ftelloPhysical, File.fseekable]
    · intro isRead ns small
      obtain ⟨append, rfl⟩ := reader isRead (noUpdate isRead)
      have provider := @memProvider buf.length 0 (Nat.zero_le _) (Nat.zero_le _) false append
        (Or.inl rfl)
      exact freads_pending provider ns (opened_stands isRead (noUpdate isRead)) small
    · exact fun isRead isUpdate => absurd ⟨isRead, isUpdate⟩ other

/-- A stream that is opened with `rb` has the contents of the buffer. -/
theorem fmemopen_prescribed_rb : Prescribed ⟨.read, true, false, false, false⟩ [0x61, 0, 0x62] :=
  (fmemopen_prescribed_iff (by decide) _).mpr (by decide)

/-- A stream that is opened with `r+` has no bytes to be read, and what is written to it replaces
the bytes in front by zeroes. -/
theorem fmemopen_update_empty :
    (∃ ops file, fmemopenL true [0x61, 0x62] [byteOf 'r', byteOf '+'] = .ok (ops, file) ∧
      (file.fread ops 1 2).map (fun result => (result.1, result.2.1)) = some ([], 0) ∧
      ((file.fseeko ops 1 .seekSet).bind fun outcome =>
        (outcome.2.fwrite ops [0x7a] 1 1).bind fun written =>
          (written.2.fseeko ops 0 .seekSet).bind fun outcome =>
            (outcome.2.fread ops 1 2).map (·.1)) = some [0, 0x7a]) ∧
      ¬ Prescribed ⟨.read, false, true, false, false⟩ [0x61, 0x62] :=
  ⟨⟨_, _, rfl, by decide, by decide⟩, not_prescribed_update (by decide) rfl rfl⟩

end Cloudlibc.Stdio
