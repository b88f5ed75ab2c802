import Cloudlibc.Pthread.RwlockHolders

/-!
# The safety of a read-write lock

Each thread knows something about the lock word it has seen and about its own part in the lock at
each of its steps (`Local.Sound`). Together with what the lock word says about the holders this is
kept by all the steps of the threads and the kernel (`Invariant.step`), as long as there are not too
many read locks.

So all is well in exactly the runs in which there are less than 2³⁰ read locks at any time
(`rwlock_safe_iff`). A thread that acquires the lock for reading again and again gets there
(`rwlock_reader_overflow`).
-/

set_option autoImplicit false

namespace Cloudlibc.Pthread

open Cloudlibc.Transition Function

/-! ## The invariant -/

/-- What a thread knows at its next step. -/
def Local.Sound (self : ℕ) (thread : Local) : Prop :=
  (∀ n, thread.hold = .readers n → n ≤ thread.rdlocks) ∧
    match thread.pc with
    | .returned _ => thread.hold = .writer → 0 < thread.wrlocks
    | .tryrdlock old => thread.hold ≠ .writer ∧ old / 2 ^ 30 % 2 ≠ 1 ∧
        (old / 2 ^ 31 % 2 = 1 → thread.rdlocks ≠ 0)
    | .trywrlock => thread.hold ≠ .writer
    | .unlock => thread.hold ≠ .readers 0 ∧ (thread.hold = .writer → 0 < thread.wrlocks)
    | .writeUnlock old => thread.hold = .writer ∧ old = self + 2 ^ 30
    | .readUnlock old => (∃ n, thread.hold = .readers (n + 1)) ∧ old % 2 ^ 31 ≠ 0
    | .kernelUnlock _ => thread.hold = .writer
    | .blocked _ => thread.hold = .readers 0
    | .aborted => False

section

variable {Thread : Type}

/-- The parts that the threads have in the lock. -/
def System.holds (s : System Thread) (thread : Thread) : Hold := (s.threads thread).hold

variable [Fintype Thread]

/-- The number of read locks. -/
def System.readHolds (s : System Thread) : ℕ := totalReads s.holds

/-- The lock word says who holds the lock, and each thread knows what it needs to know. -/
structure Invariant (tid : Thread → ℕ) (s : System Thread) : Prop where
  owned : Owned tid s.holds s.word
  sound : ∀ thread, (s.threads thread).Sound (tid thread)
  kernel : ∀ thread reading, (s.threads thread).pc = .kernelUnlock reading →
    s.word = tid thread + 2 ^ 30 + managedBit true

variable [DecidableEq Thread] {tid : Thread → ℕ} {s : System Thread} {thread : Thread} {word : ℕ}
  {state : Local}

theorem holds_set : (s.set thread word state).holds = update s.holds thread state.hold := by
  funext other
  rw [System.holds]
  by_cases same : other = thread
  · rw [same, System.set_threads, update_self]
  · rw [System.set_threads_of_ne _ _ _ same, update_of_ne same]
    rfl

section

variable (invariant : Invariant tid s)

include invariant

/-- A step of one thread keeps the invariant. -/
theorem Invariant.set (owned : Owned tid (update s.holds thread state.hold) word)
    (sound : state.Sound (tid thread)) (kernel : ∀ reading, state.pc = .kernelUnlock reading →
      word = tid thread + 2 ^ 30 + managedBit true)
    (others : ∀ other, other ≠ thread → s.holds other = .writer → word = s.word) :
    Invariant tid (s.set thread word state) := by
  constructor
  · rw [holds_set]
    exact owned
  · intro other
    by_cases same : other = thread
    · subst same
      rw [System.set_threads]
      exact sound
    · rw [System.set_threads_of_ne _ _ _ same]
      exact invariant.sound other
  · intro other reading inKernel
    by_cases same : other = thread
    · subst same
      rw [System.set_threads] at inKernel
      exact kernel reading inKernel
    · rw [System.set_threads_of_ne _ _ _ same] at inKernel
      have writer : s.holds other = .writer := by
        have known := (invariant.sound other).2
        rw [inKernel] at known
        exact known
      exact (others other same writer).trans (invariant.kernel other reading inKernel)

theorem Invariant.set_same
    (held : state.hold = (s.threads thread).hold) (sound : state.Sound (tid thread))
    (kernel : ∀ reading, state.pc = .kernelUnlock reading →
      s.word = tid thread + 2 ^ 30 + managedBit true) :
    Invariant tid (s.set thread s.word state) := by
  refine invariant.set ?_ sound kernel fun _ _ _ => rfl
  have same : update s.holds thread state.hold = s.holds := by
    rw [held]
    exact update_eq_self thread s.holds
  rw [same]
  exact invariant.owned

theorem Invariant.not_self (distinct : Function.Injective tid)
    (small : ∀ thread, tid thread < 2 ^ 30) (reader : (s.threads thread).hold ≠ .writer) :
    unmanaged s.word ≠ tid thread ||| lockWrlocked := by
  have id := small thread
  rw [unmanaged_eq, or_wrlocked id]
  have owned := invariant.owned
  generalize s.word = word at owned
  cases owned with
  | readers waiters _ few _ =>
    rw [managedBit_eq]
    split_ifs <;> omega
  | writer owner waiters writer _ =>
    have id' := small owner
    have different : tid owner ≠ tid thread := fun same => by
      rw [distinct same] at writer
      exact reader writer
    rw [managedBit_eq]
    split_ifs <;> omega

variable {old : ℕ} {next : ℕ × Local}

/-- A step of `pthread_rwlock_tryrdlock()`. -/
theorem Invariant.advanceTryrdlock (distinct : Function.Injective tid)
    (small : ∀ thread, tid thread < 2 ^ 30) (pc : (s.threads thread).pc = .tryrdlock old)
    {spurious : Bool}
    (step : Pthread.advanceTryrdlock (tid thread) spurious s.word (s.threads thread) old = next)
    (few : (s.set thread next.1 next.2).readHolds < 2 ^ 30) :
    Invariant tid (s.set thread next.1 next.2) := by
  have sound := invariant.sound thread
  rw [Local.Sound, pc] at sound
  obtain ⟨reads, notWriter, unlocked, managed⟩ := sound
  subst step
  rw [Pthread.advanceTryrdlock] at few ⊢
  split_ifs at few ⊢ with success locked owner waiting
  · obtain ⟨n, reader⟩ := (s.threads thread).hold.eq_or.resolve_left notWriter
    have free : s.word / 2 ^ 30 % 2 ≠ 1 := by
      rw [success.1]
      exact unlocked
    have writers := (invariant.owned.of_not_wrlocked small free).1
    rw [System.readHolds, holds_set] at few
    refine invariant.set ?_ ⟨?_, ?_⟩ (by simp) fun other _ writer => absurd writer (writers other)
    · rw [← success.1]
      simp only [reader, Hold.acquireRead] at few ⊢
      exact invariant.owned.acquireRead small free reader few
    · intro m held
      have bound := reads n reader
      simp only [reader, Hold.acquireRead, Hold.readers.injEq] at held ⊢
      omega
    · simp [reader, Hold.acquireRead]
  · exact invariant.set_same rfl ⟨reads, fun writer => absurd writer notWriter⟩ (by simp)
  · exact absurd (not_not.mp owner) (invariant.not_self distinct small notWriter)
  · exact invariant.set_same rfl ⟨reads, fun writer => absurd writer notWriter⟩ (by simp)
  · refine invariant.set_same rfl ⟨reads, notWriter, mt (wrlocked_iff _).mpr locked, ?_⟩ (by simp)
    exact fun managed none => waiting ⟨(kernelManaged_iff _).mpr managed, none⟩

/-- The step of `pthread_rwlock_trywrlock()`. -/
theorem Invariant.advanceTrywrlock (distinct : Function.Injective tid)
    (small : ∀ thread, tid thread < 2 ^ 30) (pc : (s.threads thread).pc = .trywrlock)
    (step : Pthread.advanceTrywrlock (tid thread) s.word (s.threads thread) = next) :
    Invariant tid (s.set thread next.1 next.2) := by
  have sound := invariant.sound thread
  rw [Local.Sound, pc] at sound
  obtain ⟨reads, notWriter⟩ := sound
  subst step
  rw [Pthread.advanceTrywrlock]
  split_ifs with free owner
  · have owned := invariant.owned
    rw [free, lockUnlocked] at owned
    have writers := (owned.of_not_wrlocked small (by decide)).1
    refine invariant.set ?_ ⟨by simp, fun _ => Nat.succ_pos _⟩ (by simp)
      fun other _ writer => absurd writer (writers other)
    have owned' := owned.acquireWrite small thread false
    rwa [show managedBit false = 0 from rfl, Nat.or_zero] at owned'
  · exact absurd owner (invariant.not_self distinct small notWriter)
  · exact invariant.set_same rfl ⟨reads, fun writer => absurd writer notWriter⟩ (by simp)

/-- The first step of `pthread_rwlock_unlock()`. -/
theorem Invariant.advanceUnlock
    (small : ∀ thread, tid thread < 2 ^ 30) (pc : (s.threads thread).pc = .unlock) :
    Invariant tid
      (s.set thread s.word (Pthread.advanceUnlock (tid thread) s.word (s.threads thread))) := by
  have sound := invariant.sound thread
  rw [Local.Sound, pc] at sound
  obtain ⟨reads, holder, listed⟩ := sound
  have id := small thread
  rw [Pthread.advanceUnlock]
  rcases (s.threads thread).hold.eq_or with held | ⟨n, held⟩
  · obtain ⟨-, waiters, word⟩ := invariant.owned.of_writer held
    have locked : s.word &&& lockWrlocked ≠ 0 := by
      rw [wrlocked_iff, word, managedBit_eq]
      split_ifs <;> omega
    have owner : ¬ ((s.threads thread).wrlocks = 0 ∨
        unmanaged s.word ≠ tid thread ||| lockWrlocked) := by
      rw [unmanaged_eq, or_wrlocked id, word, managedBit_eq]
      have some_locks := listed held
      split_ifs <;> omega
    rw [if_pos locked, if_neg owner]
    by_cases managed : s.word &&& lockKernelManaged ≠ 0
    · rw [if_pos managed]
      refine invariant.set_same rfl ⟨reads, held⟩ fun _ _ => ?_
      rw [kernelManaged_iff, word, managedBit_eq] at managed
      cases waiters with
      | false =>
        rw [if_neg Bool.false_ne_true] at managed
        omega
      | true => exact word
    · rw [if_neg managed]
      refine invariant.set_same rfl ⟨reads, held, ?_⟩ (by simp)
      rw [kernelManaged_iff, word, managedBit_eq] at managed
      cases waiters with
      | false => exact word
      | true =>
        rw [if_pos rfl] at managed
        omega
  · cases n with
    | zero => exact absurd held holder
    | succ n =>
      obtain ⟨-, some_reads, few, waiters, word⟩ := invariant.owned.of_reader held
      have bound := reads _ held
      have unlocked : ¬ (s.word &&& lockWrlocked ≠ 0) := by
        rw [wrlocked_iff, word, managedBit_eq]
        split_ifs <;> omega
      rw [if_neg unlocked, if_neg (by omega)]
      refine invariant.set_same rfl ⟨reads, ⟨n, held⟩, ?_⟩ (by simp)
      rw [word, managedBit_eq]
      split_ifs <;> omega

/-- The compare and exchange of a write unlock. -/
theorem Invariant.advanceWriteUnlock (pc : (s.threads thread).pc = .writeUnlock old)
    (step : Pthread.advanceWriteUnlock s.word (s.threads thread) old = next) :
    Invariant tid (s.set thread next.1 next.2) := by
  have sound := invariant.sound thread
  rw [Local.Sound, pc] at sound
  obtain ⟨reads, held, isOld⟩ := sound
  obtain ⟨others, waiters, word⟩ := invariant.owned.of_writer held
  subst step
  rw [Pthread.advanceWriteUnlock]
  split_ifs with success
  · refine invariant.set (invariant.owned.releaseWrite held) ⟨by simp, by simp⟩ (by simp) ?_
    intro other different writer
    rw [others other different] at writer
    cases writer
  · refine invariant.set_same rfl ⟨reads, held⟩ fun _ _ => ?_
    cases waiters with
    | false => exact absurd (word.trans isOld.symm) success
    | true => exact word

/-- A pass through the loop of a read unlock. -/
theorem Invariant.advanceReadUnlock
    (small : ∀ thread, tid thread < 2 ^ 30) (pc : (s.threads thread).pc = .readUnlock old)
    {spurious : Bool}
    (step : Pthread.advanceReadUnlock (tid thread) spurious s.word (s.threads thread) old = next) :
    Invariant tid (s.set thread next.1 next.2) := by
  have sound := invariant.sound thread
  rw [Local.Sound, pc] at sound
  obtain ⟨reads, ⟨n, held⟩, some_old⟩ := sound
  obtain ⟨writers, some_reads, few, waiters, word⟩ := invariant.owned.of_reader held
  have id := small thread
  have again : Invariant tid
      (s.set thread s.word { s.threads thread with pc := .readUnlock s.word }) := by
    refine invariant.set_same rfl ⟨reads, ⟨n, held⟩, ?_⟩ (by simp)
    rw [word, managedBit_eq]
    split_ifs <;> omega
  subst step
  rw [Pthread.advanceReadUnlock]
  split_ifs with last success none success
  · have owned := invariant.owned
    rw [success.1, last] at owned
    refine invariant.set (owned.upgrade small held) ⟨by simp, rfl⟩ ?_
      fun other _ writer => absurd writer (writers other)
    rintro - -
    show tid thread ||| lockWrlocked ||| managedBit true = _
    rw [or_wrlocked id, or_managedBit (by omega)]
  · exact again
  · exact absurd (unmanaged_eq old ▸ none) some_old
  · refine invariant.set ?_ ⟨?_, ?_⟩ (by simp) fun other _ writer => absurd writer (writers other)
    · rw [← success.1]
      simp only [held, Hold.releaseRead, Nat.add_sub_cancel]
      refine invariant.owned.releaseRead held ?_
      rw [success.1]
      exact last
    · intro m released
      have bound := reads _ held
      simp only [held, Hold.releaseRead, Hold.readers.injEq] at released ⊢
      omega
    · simp [held, Hold.releaseRead]
  · exact again

/-- The next step of a thread. -/
theorem Invariant.advance (distinct : Function.Injective tid)
    (small : ∀ thread, tid thread < 2 ^ 30) (spurious : Bool)
    (step : Pthread.advance (tid thread) spurious s.word (s.threads thread) = next)
    (few : (s.set thread next.1 next.2).readHolds < 2 ^ 30) :
    Invariant tid (s.set thread next.1 next.2) := by
  have stays : (s.word, s.threads thread) = next → Invariant tid (s.set thread next.1 next.2) := by
    rintro rfl
    exact invariant.set_same rfl (invariant.sound thread) (invariant.kernel thread)
  rw [Pthread.advance] at step
  cases pc : (s.threads thread).pc with
  | tryrdlock old =>
    rw [pc] at step
    exact invariant.advanceTryrdlock distinct small pc step few
  | trywrlock =>
    rw [pc] at step
    exact invariant.advanceTrywrlock distinct small pc step
  | unlock =>
    rw [pc] at step
    subst step
    exact invariant.advanceUnlock small pc
  | writeUnlock old =>
    rw [pc] at step
    exact invariant.advanceWriteUnlock pc step
  | readUnlock old =>
    rw [pc] at step
    exact invariant.advanceReadUnlock small pc step
  | returned error =>
    rw [pc] at step
    exact stays step
  | kernelUnlock reading =>
    rw [pc] at step
    exact stays step
  | blocked writing =>
    rw [pc] at step
    exact stays step
  | aborted =>
    rw [pc] at step
    exact stays step

variable {reading : Bool}

/-- A thread in a system call to unlock the lock has the write lock. -/
theorem Invariant.kernel_writer
    (pc : (s.threads thread).pc = .kernelUnlock reading) : s.holds thread = .writer := by
  have known := (invariant.sound thread).2
  rw [pc] at known
  exact known

/-- The kernel makes the lock free. -/
theorem Invariant.unlockFree (pc : (s.threads thread).pc = .kernelUnlock reading) :
    Invariant tid (s.set thread lockUnlocked ((s.threads thread).released reading)) := by
  have writer := invariant.kernel_writer pc
  refine invariant.set (invariant.owned.releaseWrite writer)
    ⟨by simp [Local.released], by simp [Local.released]⟩ (by simp [Local.released]) ?_
  intro other different writer'
  rw [(invariant.owned.of_writer writer).1 other different] at writer'
  cases writer'

/-- The kernel gives the lock to a writer. -/
theorem Invariant.unlockWriter (small : ∀ thread, tid thread < 2 ^ 30)
    {writer : Thread} (pc : (s.threads thread).pc = .kernelUnlock reading) (waiters : Bool) :
    Invariant tid ((s.set thread s.word ((s.threads thread).released reading)).set writer
      (tid writer ||| lockWrlocked ||| managedBit waiters) (s.threads writer).grantedWrite) := by
  have free := invariant.unlockFree pc
  have unlocked : (s.set thread lockUnlocked ((s.threads thread).released reading)).word / 2 ^ 30 % 2
      ≠ 1 := by
    rw [System.set_word]
    decide
  have writers := (free.owned.of_not_wrlocked small unlocked).1
  exact free.set (free.owned.acquireWrite small writer waiters)
    ⟨by simp [Local.grantedWrite], fun _ => Nat.succ_pos _⟩ (by simp [Local.grantedWrite])
    fun other _ isWriter => absurd isWriter (writers other)

/-- The kernel gives the lock to readers. -/
theorem Invariant.unlockReaders {readers : Finset Thread}
    (pc : (s.threads thread).pc = .kernelUnlock reading) (some_readers : readers.Nonempty)
    (waiters : Bool) {next : System Thread}
    (granted : next = ⟨readers.card ||| managedBit waiters, fun other =>
      if other ∈ readers then (s.threads other).grantedRead
      else if other = thread then (s.threads thread).released reading else s.threads other⟩)
    (few : next.readHolds < 2 ^ 30) : Invariant tid next := by
  obtain ⟨others, -⟩ := invariant.owned.of_writer (invariant.kernel_writer pc)
  have holds : next.holds = fun other => .readers (if other ∈ readers then 1 else 0) := by
    subst granted
    funext other
    simp only [System.holds]
    split_ifs with reader same
    · rfl
    · rfl
    · exact others other same
  rw [System.readHolds, holds, totalReads_indicator] at few
  constructor
  · rw [holds]
    subst granted
    exact Owned.grantReaders tid some_readers few waiters
  · intro other
    subst granted
    dsimp only
    split_ifs with reader same
    · exact ⟨by simp [Local.grantedRead], by simp [Local.grantedRead]⟩
    · exact ⟨by simp [Local.released], by simp [Local.released]⟩
    · exact invariant.sound other
  · intro other reading' inKernel
    subst granted
    dsimp only at inKernel
    split_ifs at inKernel with reader same
    · cases inKernel
    · cases inKernel
    · -- there is only one thread with the write lock
      have writer := invariant.kernel_writer inKernel
      rw [others other same] at writer
      cases writer

end

/-- **Every step keeps the invariant, if it does not make one read lock too many.** -/
theorem Invariant.step {next : System Thread} (distinct : Function.Injective tid)
    (small : ∀ thread, tid thread < 2 ^ 30) (invariant : Invariant tid s) (step : Step tid s next)
    (few : next.readHolds < 2 ^ 30) : Invariant tid next := by
  cases step with
  | call thread returned callable =>
    rename_i error pc
    obtain ⟨reads, known⟩ := invariant.sound thread
    rw [returned] at known
    cases pc with
    | tryrdlock old =>
      obtain ⟨rfl, notWriter⟩ := callable
      exact invariant.set_same rfl
        ⟨reads, notWriter, by decide, fun managed => absurd managed (by decide)⟩
        (by simp)
    | trywrlock => exact invariant.set_same rfl ⟨reads, callable⟩ (by simp)
    | unlock => exact invariant.set_same rfl ⟨reads, callable, known⟩ (by simp)
    | returned _ => exact callable.elim
    | writeUnlock _ => exact callable.elim
    | readUnlock _ => exact callable.elim
    | kernelUnlock _ => exact callable.elim
    | blocked _ => exact callable.elim
    | aborted => exact callable.elim
  | advance thread spurious => exact invariant.advance distinct small spurious rfl few
  | elsewhere thread rdlocks wrlocks returned reads listed =>
    refine invariant.set_same rfl ⟨reads, ?_⟩ ?_
    · rw [returned]
      exact listed
    · intro reading pc
      rw [returned] at pc
      cases pc
  | block thread writing returned nothing =>
    exact invariant.set_same rfl ⟨(invariant.sound thread).1, nothing⟩ (by simp)
  | manage held =>
    refine ⟨invariant.owned.manage small held, invariant.sound, fun thread reading pc => ?_⟩
    have id := small thread
    rw [invariant.kernel thread reading pc, or_kernelManaged (by omega)]
    rfl
  | unlockFree thread pc => exact invariant.unlockFree pc
  | unlockWriter thread writer waiters pc _ =>
    exact invariant.unlockWriter small pc waiters
  | unlockReaders thread readers waiters pc some_readers _ =>
    exact invariant.unlockReaders pc some_readers waiters rfl few

theorem Invariant.initial (init : Initial s) : Invariant tid s := by
  obtain ⟨word, idle⟩ := init
  have none : totalReads s.holds = 0 := Finset.sum_eq_zero fun thread _ => by
    rw [System.holds, (idle thread).1, Hold.reads]
  constructor
  · have owned : Owned tid s.holds (totalReads s.holds + managedBit false) :=
      Owned.readers false (fun thread => by simp [System.holds, (idle thread).1]) (by omega)
        (by simp)
    rw [none] at owned
    rw [word]
    exact owned
  · intro thread
    obtain ⟨nothing, error, returned⟩ := idle thread
    rw [Local.Sound, nothing, returned]
    exact ⟨by simp, by simp⟩
  · intro thread reading pc
    obtain ⟨-, error, returned⟩ := idle thread
    rw [returned] at pc
    cases pc

/-! ## Safety -/

/-- The number of readers in the lock word. -/
def readerCount (word : ℕ) : ℕ := if word &&& lockWrlocked ≠ 0 then 0 else word &&& 0x3fffffff

/-- All is well with the lock. -/
structure Safe (tid : Thread → ℕ) (s : System Thread) : Prop where
  /-- Nobody holds the lock next to a thread that holds it for writing. -/
  exclusive : ∀ thread, s.holds thread = .writer →
    ∀ other, other ≠ thread → s.holds other = .readers 0
  /-- The lock word has the number of the read locks. -/
  count : readerCount s.word = s.readHolds
  /-- Only a thread that owns the lock alone asks the kernel to unlock it. -/
  kernel : ∀ thread reading, (s.threads thread).pc = .kernelUnlock reading →
    s.holds thread = .writer ∧ s.word = tid thread ||| lockWrlocked ||| lockKernelManaged
  /-- A lock that nobody holds is free. -/
  free : (∀ thread, s.holds thread = .readers 0) → s.word = lockUnlocked
  /-- A weak compare and exchange that fails for no reason changes nothing. -/
  spurious : ∀ thread,
    advance (tid thread) true s.word (s.threads thread) =
        advance (tid thread) false s.word (s.threads thread) ∨
      advance (tid thread) true s.word (s.threads thread) = (s.word, s.threads thread)
  /-- No assertion has failed. -/
  assertions : ∀ thread, (s.threads thread).pc ≠ .aborted

theorem readerCount_lt (word : ℕ) : readerCount word < 2 ^ 30 := by
  rw [readerCount]
  split_ifs
  · decide
  · rw [show word &&& 0x3fffffff = word % 2 ^ 30 from Nat.and_two_pow_sub_one_eq_mod word 30]
    omega

/-- A spurious failure in a state with the invariant. -/
theorem Local.Sound.spurious {self : ℕ} (sound : state.Sound self) (word : ℕ) :
    Pthread.advance self true word state = Pthread.advance self false word state ∨
      Pthread.advance self true word state = (word, state) := by
  have failed : ¬ (word = word ∧ true = false) := by simp
  rw [Pthread.advance, Pthread.advance]
  cases pc : state.pc with
  | tryrdlock old =>
    rw [Local.Sound, pc] at sound
    obtain ⟨-, -, unlocked, managed⟩ := sound
    by_cases same : word = old
    · subst same
      right
      dsimp only
      rw [Pthread.advanceTryrdlock, if_neg failed, if_neg (mt (wrlocked_iff word).mp unlocked),
        if_neg fun waiting => managed ((kernelManaged_iff word).mp waiting.1) waiting.2, ← pc]
    · left
      simp [Pthread.advanceTryrdlock, same]
  | readUnlock old =>
    rw [Local.Sound, pc] at sound
    by_cases same : word = old
    · subst same
      have locked : unmanaged word ≠ 0 := by
        rw [unmanaged_eq]
        exact sound.2.2
      right
      dsimp only
      rw [Pthread.advanceReadUnlock, if_neg failed, if_neg locked, if_neg failed, ite_self, ← pc]
    · left
      simp [Pthread.advanceReadUnlock, same]
  | trywrlock => exact Or.inl rfl
  | unlock => exact Or.inl rfl
  | writeUnlock old => exact Or.inl rfl
  | returned error => exact Or.inl rfl
  | kernelUnlock reading => exact Or.inl rfl
  | blocked writing => exact Or.inl rfl
  | aborted => exact Or.inl rfl

theorem Owned.readerCount {hold : Thread → Hold} (owned : Owned tid hold word)
    (small : ∀ thread, tid thread < 2 ^ 30) : readerCount word = totalReads hold := by
  rw [Pthread.readerCount,
    show word &&& 0x3fffffff = word % 2 ^ 30 from Nat.and_two_pow_sub_one_eq_mod word 30]
  cases owned with
  | readers waiters _ few _ =>
    rw [if_neg (mt (wrlocked_iff _).mp ?_), managedBit_eq]
    · split_ifs <;> omega
    · rw [managedBit_eq]
      split_ifs <;> omega
  | writer thread waiters writer others =>
    have id := small thread
    rw [if_pos ((wrlocked_iff _).mpr ?_), totalReads_eq_zero others writer]
    rw [managedBit_eq]
    split_ifs <;> omega

theorem Invariant.safe (small : ∀ thread, tid thread < 2 ^ 30) (invariant : Invariant tid s) :
    Safe tid s := by
  constructor
  · exact fun thread writer => (invariant.owned.of_writer writer).1
  · exact invariant.owned.readerCount small
  · intro thread reading pc
    have id := small thread
    refine ⟨invariant.kernel_writer pc, ?_⟩
    show s.word = tid thread ||| lockWrlocked ||| managedBit true
    rw [invariant.kernel thread reading pc, or_wrlocked id, or_managedBit (by omega)]
  · exact invariant.owned.free
  · exact fun thread => (invariant.sound thread).spurious s.word
  · intro thread pc
    have known := (invariant.sound thread).2
    rw [pc] at known
    exact known

/-- **The runs in which all is well with a read-write lock.** -/
theorem rwlock_safe_iff (distinct : Function.Injective tid)
    (small : ∀ thread, tid thread < 2 ^ 30) {states : List (System Thread)}
    (runs : Runs Initial (Step tid) states) :
    (∀ s ∈ states, Safe tid s) ↔ ∀ s ∈ states, s.readHolds < 2 ^ 30 := by
  constructor
  · intro safe s member
    rw [← (safe s member).count]
    exact readerCount_lt s.word
  · intro few s member
    refine Invariant.safe small (runs.forall_of_step (fun state => Invariant.initial) ?_ few s member)
    exact fun state next invariant step => invariant.step distinct small step

end

/-- Two threads that have nothing of the lock. -/
def contenders : System Bool := ⟨lockUnlocked, fun _ => ⟨.returned none, 0, 0, .readers 0⟩⟩

/-- One of two threads calls `pthread_rwlock_trywrlock()` and acquires the lock. -/
theorem rwlock_safe_writer :
    let called := contenders.set true lockUnlocked ⟨.trywrlock, 0, 0, .readers 0⟩
    ∀ s ∈ [called.set true (1 ||| lockWrlocked) ⟨.returned none, 0, 1, .writer⟩, called, contenders],
      Safe Bool.toNat s := by
  intro called
  have call : Step Bool.toNat contenders called := Step.call true rfl (by simp [Callable, contenders])
  have acquire : Step Bool.toNat called
      (called.set true (1 ||| lockWrlocked) ⟨.returned none, 0, 1, .writer⟩) := by
    have advanced : advance (Bool.toNat true) false called.word (called.threads true) =
        (1 ||| lockWrlocked, ⟨.returned none, 0, 1, .writer⟩) := by
      rw [System.set_threads]
      rfl
    have step : Step Bool.toNat called _ := Step.advance true false
    rwa [advanced] at step
  have runs : Runs Initial (Step Bool.toNat)
      [called.set true (1 ||| lockWrlocked) ⟨.returned none, 0, 1, .writer⟩, called, contenders] :=
    ((Runs.start ⟨rfl, fun _ => ⟨rfl, none, rfl⟩⟩).step call).step acquire
  refine (rwlock_safe_iff (by decide) (by decide) runs).mpr ?_
  have none : contenders.holds = fun _ => .readers 0 := rfl
  simp [called, System.readHolds, holds_set, totalReads, none, update, Hold.reads]

/-! ## Too many readers -/

/-- One thread that has acquired a number of read locks. -/
def reader (n : ℕ) : System Unit := ⟨n, fun _ => ⟨.returned none, n, 0, .readers n⟩⟩

theorem set_unit (s : System Unit) (word : ℕ) (state : Local) :
    s.set () word state = ⟨word, fun _ => state⟩ := by
  congr 1

theorem step_unit {tid : Unit → ℕ} {word word' : ℕ} {state state' : Local} (spurious : Bool)
    (advanced : advance (tid ()) spurious word state = (word', state')) :
    Step tid ⟨word, fun _ => state⟩ ⟨word', fun _ => state'⟩ := by
  have step : Step tid ⟨word, fun _ => state⟩ _ := Step.advance () spurious
  rwa [advanced, set_unit] at step

theorem runs_reader (tid : Unit → ℕ) (n : ℕ) (few : n ≤ 2 ^ 30) :
    ∃ states, Runs Initial (Step tid) (reader n :: states) := by
  induction n with
  | zero => exact ⟨[], Runs.start ⟨rfl, fun _ => ⟨rfl, none, rfl⟩⟩⟩
  | succ n ih =>
    obtain ⟨states, runs⟩ := ih (by omega)
    have called : Step tid (reader n) ⟨n, fun _ => ⟨.tryrdlock 0, n, 0, .readers n⟩⟩ := by
      have step : Step tid (reader n) ((reader n).set () n ⟨.tryrdlock 0, n, 0, .readers n⟩) :=
        Step.call () rfl ⟨rfl, by simp [reader]⟩
      rwa [set_unit] at step
    have unlocked : ¬ (n &&& lockWrlocked ≠ 0) := by
      rw [wrlocked_iff]
      omega
    have unmanaged : ¬ (n &&& lockKernelManaged ≠ 0) := by
      rw [kernelManaged_iff]
      omega
    have loaded : advance (tid ()) true n ⟨.tryrdlock 0, n, 0, .readers n⟩ =
        (n, ⟨.tryrdlock n, n, 0, .readers n⟩) := by
      simp only [advance, advanceTryrdlock, unlocked, unmanaged]
      simp
    have acquired : advance (tid ()) false n ⟨.tryrdlock n, n, 0, .readers n⟩ =
        (n + 1, ⟨.returned none, n + 1, 0, .readers (n + 1)⟩) := by
      simp only [advance, advanceTryrdlock, and_self, if_true, Hold.acquireRead]
      rw [Nat.mod_eq_of_lt (by omega)]
    exact ⟨_, ((runs.step called).step (step_unit true loaded)).step (step_unit false acquired)⟩

/-- A thread that acquires a lock for reading 2³⁰ times sets the bit for the write lock. -/
theorem rwlock_reader_overflow :
    ∃ states, Runs Initial (Step fun _ : Unit => 1) (reader (2 ^ 30) :: states) ∧
      (reader (2 ^ 30)).word = lockWrlocked ∧ (reader (2 ^ 30)).readHolds = 2 ^ 30 ∧
      ¬ Safe (fun _ => 1) (reader (2 ^ 30)) := by
  obtain ⟨states, runs⟩ := runs_reader (fun _ => 1) (2 ^ 30) le_rfl
  have holds : (reader (2 ^ 30)).readHolds = 2 ^ 30 := by
    simp [System.readHolds, totalReads, System.holds, reader, Hold.reads]
  refine ⟨states, runs, rfl, holds, fun safe => ?_⟩
  have small := readerCount_lt (reader (2 ^ 30)).word
  rw [safe.count, holds] at small
  exact lt_irrefl _ small

end Cloudlibc.Pthread
