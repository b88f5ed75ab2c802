import Cloudlibc.Errno
import Cloudlibc.Foundations.Transition

/-!
# Read-write locks

The functions `pthread_rwlock_tryrdlock()`, `pthread_rwlock_trywrlock()` and
`pthread_rwlock_unlock()` of `libc/pthread`, for a lock that is not recursive. A thread executes
them one atomic access to the lock word at a time (`advance`), and the steps of the threads and of
the kernel are interleaved in any way (`Step`).

What the kernel does is an assumption. It may set `CLOUDABI_LOCK_KERNEL_MANAGED` in the word of a
lock that is held. `cloudabi_sys_lock_unlock()` gives the lock to threads that wait for it or makes
it free. The thread identifiers leave the two bits of the lock word alone. The number of read locks
that a thread has, `__pthread_rdlocks`, and the list of its write locks, `__pthread_wrlocks`, also
count other locks, so they may change while a thread does not execute one of the functions.
`__pthread_rdlocks` is taken not to overflow.
-/

set_option autoImplicit false

namespace Cloudlibc.Pthread

/-! ## The lock word -/

/-- `CLOUDABI_LOCK_UNLOCKED`. -/
def lockUnlocked : ℕ := 0

/-- `CLOUDABI_LOCK_WRLOCKED`. -/
def lockWrlocked : ℕ := 0x40000000

/-- `CLOUDABI_LOCK_KERNEL_MANAGED`. -/
def lockKernelManaged : ℕ := 0x80000000

/-- `old & ~CLOUDABI_LOCK_KERNEL_MANAGED`. -/
def unmanaged (old : ℕ) : ℕ := old &&& 0x7fffffff

/-! ## One thread -/

/-- What a thread has acquired of the lock: a number of read locks, or the write lock. -/
inductive Hold
  | readers (n : ℕ)
  | writer
  deriving DecidableEq, Repr

/-- The next atomic step of a thread. -/
inductive Pc
  /-- No function is being executed. The last one has returned this error. -/
  | returned (error : Option Errno)
  /-- The weak compare and exchange of `pthread_rwlock_tryrdlock()`. -/
  | tryrdlock (old : ℕ)
  /-- The strong compare and exchange of `pthread_rwlock_trywrlock()`. -/
  | trywrlock
  /-- The load of `pthread_rwlock_unlock()`. -/
  | unlock
  /-- The strong compare and exchange of a write unlock. -/
  | writeUnlock (old : ℕ)
  /-- The weak compare and exchange of a read unlock. -/
  | readUnlock (old : ℕ)
  /-- `cloudabi_sys_lock_unlock()`, in a read unlock or a write unlock. -/
  | kernelUnlock (reading : Bool)
  /-- The thread waits in the kernel for a read lock or the write lock. -/
  | blocked (writing : Bool)
  /-- An assertion has failed. -/
  | aborted
  deriving DecidableEq, Repr

/-- The variables of a thread. Its part in the lock is only there to be reasoned about. -/
structure Local where
  pc : Pc
  rdlocks : ℕ
  wrlocks : ℕ
  hold : Hold
  deriving DecidableEq, Repr

/-- One more read lock. -/
def Hold.acquireRead : Hold → Hold
  | .readers n => .readers (n + 1)
  | .writer => .writer

/-- One read lock less. -/
def Hold.releaseRead : Hold → Hold
  | .readers n => .readers (n - 1)
  | .writer => .writer

/-- `pthread_rwlock_tryrdlock()`. -/
def advanceTryrdlock (self : ℕ) (spurious : Bool) (word : ℕ) (thread : Local) (old : ℕ) :
    ℕ × Local :=
  if word = old ∧ spurious = false then
    ((old + 1) % 2 ^ 32,
      { thread with
        pc := .returned none
        rdlocks := thread.rdlocks + 1
        hold := thread.hold.acquireRead })
  else if word &&& lockWrlocked ≠ 0 then
    if unmanaged word ≠ self ||| lockWrlocked then
      (word, { thread with pc := .returned (some .EBUSY) })
    else
      (word, { thread with pc := .aborted })
  else if word &&& lockKernelManaged ≠ 0 ∧ thread.rdlocks = 0 then
    (word, { thread with pc := .returned (some .EBUSY) })
  else
    (word, { thread with pc := .tryrdlock word })

/-- `pthread_rwlock_trywrlock()`. The lock is not recursive, so the thread may not have it. -/
def advanceTrywrlock (self word : ℕ) (thread : Local) : ℕ × Local :=
  if word = lockUnlocked then
    (self ||| lockWrlocked,
      { thread with pc := .returned none, wrlocks := thread.wrlocks + 1, hold := .writer })
  else if unmanaged word = self ||| lockWrlocked then
    (word, { thread with pc := .aborted })
  else
    (word, { thread with pc := .returned (some .EBUSY) })

/-- `pthread_rwlock_unlock()`, as far as the first access to the lock word decides. -/
def advanceUnlock (self word : ℕ) (thread : Local) : Local :=
  if word &&& lockWrlocked ≠ 0 then
    if thread.wrlocks = 0 ∨ unmanaged word ≠ self ||| lockWrlocked then
      { thread with pc := .aborted }
    else if word &&& lockKernelManaged ≠ 0 then
      { thread with pc := .kernelUnlock false, wrlocks := thread.wrlocks - 1 }
    else
      { thread with pc := .writeUnlock word, wrlocks := thread.wrlocks - 1 }
  else if thread.rdlocks = 0 then
    { thread with pc := .aborted }
  else
    { thread with pc := .readUnlock word }

/-- The compare and exchange of a write unlock. -/
def advanceWriteUnlock (word : ℕ) (thread : Local) (old : ℕ) : ℕ × Local :=
  if word = old then
    (lockUnlocked, { thread with pc := .returned none, hold := .readers 0 })
  else
    (word, { thread with pc := .kernelUnlock false })

/-- A pass through the loop of a read unlock. -/
def advanceReadUnlock (self : ℕ) (spurious : Bool) (word : ℕ) (thread : Local) (old : ℕ) :
    ℕ × Local :=
  if old = 1 ||| lockKernelManaged then
    if word = old ∧ spurious = false then
      (self ||| lockWrlocked ||| lockKernelManaged,
        { thread with pc := .kernelUnlock true, hold := .writer })
    else
      (word, { thread with pc := .readUnlock word })
  else if unmanaged old = 0 then
    (word, { thread with pc := .aborted })
  else if word = old ∧ spurious = false then
    (old - 1,
      { thread with
        pc := .returned none
        rdlocks := thread.rdlocks - 1
        hold := thread.hold.releaseRead })
  else
    (word, { thread with pc := .readUnlock word })

/-- The next atomic step of a thread, with the lock word. A weak compare and exchange may fail
for no reason. -/
def advance (self : ℕ) (spurious : Bool) (word : ℕ) (thread : Local) : ℕ × Local :=
  match thread.pc with
  | .tryrdlock old => advanceTryrdlock self spurious word thread old
  | .trywrlock => advanceTrywrlock self word thread
  | .unlock => (word, advanceUnlock self word thread)
  | .writeUnlock old => advanceWriteUnlock word thread old
  | .readUnlock old => advanceReadUnlock self spurious word thread old
  | .returned _ | .kernelUnlock _ | .blocked _ | .aborted => (word, thread)

/-- What a thread may call. It does not try to acquire a lock that it has for writing, and it only
gives back what it has. -/
def Callable (hold : Hold) : Pc → Prop
  | .tryrdlock old => old = lockUnlocked ∧ hold ≠ .writer
  | .trywrlock => hold ≠ .writer
  | .unlock => hold ≠ .readers 0
  | _ => False

/-- A thread behind a system call that has released the lock. -/
def Local.released (thread : Local) (reading : Bool) : Local where
  pc := .returned none
  rdlocks := if reading then thread.rdlocks - 1 else thread.rdlocks
  wrlocks := thread.wrlocks
  hold := .readers 0

/-- A thread that the kernel has given a read lock. -/
def Local.grantedRead (thread : Local) : Local :=
  { thread with pc := .returned none, rdlocks := thread.rdlocks + 1, hold := .readers 1 }

/-- A thread that the kernel has given the write lock. -/
def Local.grantedWrite (thread : Local) : Local :=
  { thread with pc := .returned none, wrlocks := thread.wrlocks + 1, hold := .writer }

/-! ## All threads -/

/-- The lock word and the threads. -/
structure System (Thread : Type) where
  word : ℕ
  threads : Thread → Local

variable {Thread : Type} [DecidableEq Thread]

/-- Change one thread. -/
def System.set (s : System Thread) (thread : Thread) (word : ℕ) (state : Local) : System Thread :=
  ⟨word, Function.update s.threads thread state⟩

@[simp]
theorem System.set_word (s : System Thread) (thread : Thread) (word : ℕ) (state : Local) :
    (s.set thread word state).word = word :=
  rfl

@[simp]
theorem System.set_threads (s : System Thread) (thread : Thread) (word : ℕ) (state : Local) :
    (s.set thread word state).threads thread = state := by
  simp only [System.set, Function.update_self]

theorem System.set_threads_of_ne (s : System Thread) {thread other : Thread} (word : ℕ)
    (state : Local) (different : other ≠ thread) :
    (s.set thread word state).threads other = s.threads other := by
  simp only [System.set, Function.update_of_ne different]

/-- The bit of the lock word that the kernel uses if there still are waiters. -/
def managedBit (waiters : Bool) : ℕ := if waiters then lockKernelManaged else 0

/-- The steps of the system. -/
inductive Step (tid : Thread → ℕ) : System Thread → System Thread → Prop
  /-- A thread calls one of the functions. -/
  | call {s : System Thread} (thread : Thread) {error : Option Errno} {pc : Pc} :
      (s.threads thread).pc = .returned error → Callable (s.threads thread).hold pc →
        Step tid s (s.set thread s.word { s.threads thread with pc := pc })
  /-- A thread takes its next step. -/
  | advance {s : System Thread} (thread : Thread) (spurious : Bool) :
      Step tid s (s.set thread (advance (tid thread) spurious s.word (s.threads thread)).1
        (advance (tid thread) spurious s.word (s.threads thread)).2)
  /-- A thread acquires or releases other locks. -/
  | elsewhere {s : System Thread} (thread : Thread) {error : Option Errno} (rdlocks wrlocks : ℕ) :
      (s.threads thread).pc = .returned error →
      (∀ n, (s.threads thread).hold = .readers n → n ≤ rdlocks) →
      ((s.threads thread).hold = .writer → 0 < wrlocks) →
        Step tid s (s.set thread s.word
          { s.threads thread with rdlocks := rdlocks, wrlocks := wrlocks })
  /-- A thread that has no part in the lock starts to wait for it in the kernel. -/
  | block {s : System Thread} (thread : Thread) {error : Option Errno} (writing : Bool) :
      (s.threads thread).pc = .returned error → (s.threads thread).hold = .readers 0 →
        Step tid s (s.set thread s.word { s.threads thread with pc := .blocked writing })
  /-- The kernel starts to manage a lock that is held. -/
  | manage {s : System Thread} :
      s.word ≠ lockUnlocked → Step tid s { s with word := s.word ||| lockKernelManaged }
  /-- The kernel makes the lock free. -/
  | unlockFree {s : System Thread} (thread : Thread) {reading : Bool} :
      (s.threads thread).pc = .kernelUnlock reading →
        Step tid s (s.set thread lockUnlocked ((s.threads thread).released reading))
  /-- The kernel gives the lock to a thread that waits for the write lock. -/
  | unlockWriter {s : System Thread} (thread : Thread) {reading : Bool} (writer : Thread)
      (waiters : Bool) :
      (s.threads thread).pc = .kernelUnlock reading → (s.threads writer).pc = .blocked true →
        Step tid s ((s.set thread s.word ((s.threads thread).released reading)).set writer
          (tid writer ||| lockWrlocked ||| managedBit waiters) (s.threads writer).grantedWrite)
  /-- The kernel gives the lock to threads that wait for a read lock. -/
  | unlockReaders {s : System Thread} (thread : Thread) {reading : Bool} (readers : Finset Thread)
      (waiters : Bool) :
      (s.threads thread).pc = .kernelUnlock reading → readers.Nonempty →
      (∀ reader ∈ readers, (s.threads reader).pc = .blocked false) →
        Step tid s ⟨readers.card ||| managedBit waiters, fun other =>
          if other ∈ readers then (s.threads other).grantedRead
          else if other = thread then (s.threads thread).released reading
          else s.threads other⟩

/-- Nobody has anything of the lock, and nobody executes one of its functions. -/
def Initial (s : System Thread) : Prop :=
  s.word = lockUnlocked ∧
    ∀ thread, (s.threads thread).hold = .readers 0 ∧ ∃ error, (s.threads thread).pc = .returned error

end Cloudlibc.Pthread
