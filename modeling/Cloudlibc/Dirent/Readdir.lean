import Cloudlibc.Foundations.Loop
import Cloudlibc.Foundations.SparseArray

/-!
# Reading directories

The functions `readdir()` and `scandirat()` of `libc/dirent`. The kernel is a directory, which is a
finite list of entries: it fills a buffer with the entries that follow a cookie and cuts the last one
off where the buffer ends. The layout of the header of an entry is the one of the kernel, and it is a
parameter. A read of bytes that the kernel has not stored makes the model fail, and memory can always
be allocated.

Both functions walk over the buffer in the same way (`advance`). They differ in what they do with an
entry: `readdir()` returns it, and `scandirat()` appends it to a list if it is selected.
-/

set_option autoImplicit false

namespace Cloudlibc.Dirent

open Cloudlibc.Loop Cloudlibc.SparseArray

/-! ## Directories -/

/-- `cloudabi_dirent_t`. -/
structure Header where
  next : UInt64
  ino : UInt64
  namlen : UInt32
  type : UInt8
  deriving DecidableEq, Repr

/-- The layout of `cloudabi_dirent_t` in memory. -/
structure Layout where
  size : ℕ
  encode : Header → List UInt8
  decode : List UInt8 → Header
  size_pos : 0 < size
  length_encode : ∀ header, (encode header).length = size
  decode_encode : ∀ header, decode (encode header) = header

/-- An entry of a directory. -/
structure Entry where
  next : UInt64
  ino : UInt64
  type : UInt8
  name : List UInt8
  length_lt : name.length < 2 ^ 32
  deriving DecidableEq

/-- The header of an entry. -/
def Entry.header (entry : Entry) : Header :=
  ⟨entry.next, entry.ino, .ofNat entry.name.length, entry.type⟩

/-- The names that are delivered. -/
def Entry.Valid (entry : Entry) : Prop := entry.name ≠ [] ∧ 0 ∉ entry.name

instance (entry : Entry) : Decidable entry.Valid :=
  inferInstanceAs (Decidable (_ ∧ _))

/-- `CLOUDABI_DIRCOOKIE_START`. -/
def dircookieStart : UInt64 := 0

/-- A directory. The cookies of its entries are different. -/
structure Directory where
  entries : List Entry
  nodup : (entries.map (·.next)).Nodup
  notStart : ∀ entry ∈ entries, entry.next ≠ dircookieStart

/-- The entries that follow a cookie. -/
def Directory.following (directory : Directory) (cookie : UInt64) : List Entry :=
  if cookie = dircookieStart then directory.entries
  else (directory.entries.dropWhile (·.next ≠ cookie)).tail

/-! ## The walk over the buffer -/

/-- The buffer with the bytes that the kernel has stored in it. -/
structure Buffer where
  bytes : List UInt8
  processed : ℕ
  size : ℕ
  used : ℕ
  deriving DecidableEq

/-- `GROW()`. -/
def growLoop (target : ℕ) : (fuel : ℕ) → (size : ℕ) → Option ℕ
  | 0, _ => none
  | fuel + 1, size => if size < target then growLoop target fuel (size * 2) else some size

/-- `GROW()`, which doubles the size until the target fits. -/
def grow (size target : ℕ) : Option ℕ := growLoop target (target + 1) size

/-- What is found in the buffer behind the part that has been processed. -/
inductive Examined
  | endOfFile
  | readEntries (size : ℕ)
  | skip (entrySize : ℕ)
  | found (entry : Header) (name : List UInt8) (entrySize : ℕ)

variable (layout : Layout)

/-- The encoding of an entry. -/
def Entry.encode (entry : Entry) : List UInt8 := layout.encode entry.header ++ entry.name

/-- `cloudabi_sys_file_readdir()`. -/
def fileReaddir (directory : Directory) (size : ℕ) (cookie : UInt64) : List UInt8 :=
  ((directory.following cookie).flatMap (Entry.encode layout)).take size

/-- Read bytes of the buffer. -/
def Buffer.read (buffer : Buffer) (start length : ℕ) : Option (List UInt8) :=
  if start + length ≤ buffer.bytes.length then some (slice buffer.bytes start length) else none

/-- The part of the loop that looks at the next entry. -/
def Buffer.examine (buffer : Buffer) : Option Examined := do
  let left := buffer.used - buffer.processed
  if left < layout.size then
    if buffer.used < buffer.size then some .endOfFile else some (.readEntries buffer.size)
  else
    let entry := layout.decode (← buffer.read buffer.processed layout.size)
    let entrySize := layout.size + entry.namlen.toNat
    if entry.namlen = 0 then
      some (.skip entrySize)
    else if left < entrySize then
      (grow buffer.size entrySize).map .readEntries
    else
      let name ← buffer.read (buffer.processed + layout.size) entry.namlen.toNat
      if 0 ∈ name then some (.skip entrySize) else some (.found entry name entrySize)

/-- A buffer after the kernel has filled it. -/
def fillBuffer (directory : Directory) (size : ℕ) (cookie : UInt64) : Buffer :=
  let bytes := fileReaddir layout directory size cookie
  ⟨bytes, 0, size, bytes.length⟩

/-- `struct dirent`. -/
structure Dirent where
  ino : UInt64
  type : UInt8
  name : List UInt8
  deriving DecidableEq, Repr

/-- The position in a directory. -/
structure Reader where
  cookie : UInt64
  buffer : Buffer
  deriving DecidableEq

/-- One pass of the loop: there are no entries any more, an entry is found, or something else
happens. -/
inductive Advance
  | endOfFile
  | silent (reader : Reader)
  | entry (dirent : Dirent) (reader : Reader)

/-- Mark a part of the buffer as processed. -/
def Buffer.process (buffer : Buffer) (n : ℕ) : Buffer :=
  { buffer with processed := buffer.processed + n }

/-- One pass of the loop of both functions. -/
def advance (directory : Directory) (reader : Reader) : Option Advance :=
  (reader.buffer.examine layout).map fun
    | .endOfFile => .endOfFile
    | .readEntries size =>
      .silent { reader with buffer := fillBuffer layout directory size reader.cookie }
    | .skip n => .silent { reader with buffer := reader.buffer.process n }
    | .found entry name n =>
      .entry ⟨entry.ino, entry.type, name⟩ ⟨entry.next, reader.buffer.process n⟩

/-! ## `readdir()` -/

/-- `DIR`. -/
structure Dir extends Reader where
  direntSize : ℕ
  deriving DecidableEq

/-- `offsetof(struct dirent, d_name)`. -/
def offsetofName : ℕ := 9

/-- `fdopendir()`, with a buffer of any size. -/
def fdopendir (directory : Directory) (size : ℕ) : Dir where
  cookie := dircookieStart
  buffer := fillBuffer layout directory size dircookieStart
  direntSize := 1

/-- One pass of the loop of `readdir()`. -/
def readdirPass (directory : Directory) (dirp : Dir) :
    Option (Pass Dir (Option Dirent × Dir)) := do
  match ← advance layout directory dirp.toReader with
  | .endOfFile => return .leave (none, dirp)
  | .silent reader => return .again { dirp with toReader := reader }
  | .entry dirent reader =>
    let direntSize ← grow dirp.direntSize (offsetofName + dirent.name.length + 1)
    return .leave (some dirent, ⟨reader, direntSize⟩)

/-- `readdir()`, with a bound on the number of passes. -/
def readdir (directory : Directory) (fuel : ℕ) (dirp : Dir) : Option (Option Dirent × Dir) :=
  run (readdirPass layout directory) fuel dirp

/-- Calls of `readdir()` until it returns a null pointer. -/
inductive ReadsAll (directory : Directory) : Dir → List Dirent → Prop
  | done {fuel : ℕ} {dirp dirp' : Dir} (ended : readdir layout directory fuel dirp = some (none, dirp')) :
      ReadsAll directory dirp []
  | more {fuel : ℕ} {dirp dirp' : Dir} {dirent : Dirent} {dirents : List Dirent}
      (returned : readdir layout directory fuel dirp = some (some dirent, dirp'))
      (rest : ReadsAll directory dirp' dirents) : ReadsAll directory dirp (dirent :: dirents)

/-! ## `scandirat()` -/

/-- The variables of `scandirat()`. -/
structure Scan extends Reader where
  dirents : List Dirent
  deriving DecidableEq

/-- One pass of the loop of `scandirat()`. -/
def scandiratPass (directory : Directory) (sel : Dirent → Bool) (scan : Scan) :
    Option (Pass Scan (List Dirent)) :=
  (advance layout directory scan.toReader).map fun
    | .endOfFile => .leave scan.dirents
    | .silent reader => .again { scan with toReader := reader }
    | .entry dirent reader =>
      .again ⟨reader, if sel dirent then scan.dirents ++ [dirent] else scan.dirents⟩

/-- `scandirat()`, with a bound on the number of passes. The result is sorted by `qsort()`. -/
def scandirat (directory : Directory) (size : ℕ) (sel : Dirent → Bool)
    (qsort : List Dirent → List Dirent) (fuel : ℕ) : Option (List Dirent) :=
  (run (scandiratPass layout directory sel) fuel
    ⟨⟨dircookieStart, ⟨[], size, size, size⟩⟩, []⟩).map qsort

end Cloudlibc.Dirent
