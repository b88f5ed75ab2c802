import Cloudlibc.Pthread.Rwlock

/-!
# The lock word and the holders of a read-write lock

The lock word says who holds the lock (`Owned`): either it has the number of the read locks, or it
has the identifier of the one thread that holds the write lock while nobody has a read lock. The
kernel's bit is only set in the word of a lock that is held. Every change of the word goes with a
change of the holders that keeps this, except that one read lock too many makes the number of the
readers spill into the bit for the write lock.
-/

set_option autoImplicit false

namespace Cloudlibc.Pthread

open Function

/-! ## Bits of the lock word -/

theorem wrlocked_iff (word : ℕ) : word &&& lockWrlocked ≠ 0 ↔ word / 2 ^ 30 % 2 = 1 := by
  rw [lockWrlocked, show 0x40000000 = 2 ^ 30 from rfl, Nat.and_two_pow,
    Nat.testBit_eq_decide_div_mod_eq]
  by_cases set : word / 2 ^ 30 % 2 = 1 <;> simp

theorem kernelManaged_iff (word : ℕ) : word &&& lockKernelManaged ≠ 0 ↔ word / 2 ^ 31 % 2 = 1 := by
  rw [lockKernelManaged, show 0x80000000 = 2 ^ 31 from rfl, Nat.and_two_pow,
    Nat.testBit_eq_decide_div_mod_eq]
  by_cases set : word / 2 ^ 31 % 2 = 1 <;> simp

theorem unmanaged_eq (word : ℕ) : unmanaged word = word % 2 ^ 31 :=
  Nat.and_two_pow_sub_one_eq_mod word 31

theorem or_wrlocked {id : ℕ} (small : id < 2 ^ 30) : id ||| lockWrlocked = id + 2 ^ 30 := by
  have sum := Nat.two_pow_add_eq_or_of_lt small 1
  rw [Nat.or_comm, Nat.add_comm]
  exact sum.symm

theorem or_managedBit {word : ℕ} (small : word < 2 ^ 31) (waiters : Bool) :
    word ||| managedBit waiters = word + managedBit waiters := by
  cases waiters with
  | false => exact Nat.or_zero word
  | true =>
    have sum := Nat.two_pow_add_eq_or_of_lt small 1
    rw [Nat.or_comm, Nat.add_comm]
    exact sum.symm

theorem or_kernelManaged {word : ℕ} (small : word < 2 ^ 31) (waiters : Bool) :
    (word + managedBit waiters) ||| lockKernelManaged = word + lockKernelManaged := by
  rw [← or_managedBit small, Nat.or_assoc]
  cases waiters with
  | false => exact (congrArg _ (Nat.zero_or _)).trans (or_managedBit small true)
  | true => exact (congrArg _ (Nat.or_self _)).trans (or_managedBit small true)

/-! ## Holders and the lock word -/

/-- The number of read locks that a thread has. -/
def Hold.reads : Hold → ℕ
  | .readers n => n
  | .writer => 0

theorem Hold.eq_or (hold : Hold) : hold = .writer ∨ ∃ n, hold = .readers n := by
  cases hold with
  | readers n => exact Or.inr ⟨n, rfl⟩
  | writer => exact Or.inl rfl

section

variable {Thread : Type} [Fintype Thread]

/-- The number of read locks that all threads have. -/
def totalReads (hold : Thread → Hold) : ℕ := ∑ thread, (hold thread).reads

/-- What the lock word says about the holders. -/
inductive Owned (tid : Thread → ℕ) (hold : Thread → Hold) : ℕ → Prop
  | readers (waiters : Bool) :
      (∀ thread, hold thread ≠ .writer) → totalReads hold < 2 ^ 30 →
      (waiters = true → 0 < totalReads hold) →
        Owned tid hold (totalReads hold + managedBit waiters)
  | writer (thread : Thread) (waiters : Bool) :
      hold thread = .writer → (∀ other, other ≠ thread → hold other = .readers 0) →
        Owned tid hold (tid thread + 2 ^ 30 + managedBit waiters)

variable {tid : Thread → ℕ} {hold : Thread → Hold} {thread : Thread} {word : ℕ}

theorem totalReads_update [DecidableEq Thread] (hold : Thread → Hold) (thread : Thread) (held : Hold) :
    totalReads (update hold thread held) + (hold thread).reads =
      totalReads hold + held.reads := by
  have others : ∀ other ∈ Finset.univ.erase thread,
      (update hold thread held other).reads = (hold other).reads := by
    intro other member
    rw [update_of_ne (Finset.ne_of_mem_erase member)]
  have before := Finset.add_sum_erase Finset.univ (fun other => (hold other).reads)
    (Finset.mem_univ thread)
  have after := Finset.add_sum_erase Finset.univ
    (fun other => (update hold thread held other).reads) (Finset.mem_univ thread)
  rw [Finset.sum_congr rfl others] at after
  simp only [update_self] at after
  rw [totalReads, totalReads]
  omega

theorem reads_le_totalReads (hold : Thread → Hold) (thread : Thread) :
    (hold thread).reads ≤ totalReads hold := by
  show (Hold.reads ∘ hold) thread ≤ ∑ other, (Hold.reads ∘ hold) other
  exact Finset.single_le_sum (fun _ _ => Nat.zero_le _) (Finset.mem_univ thread)

theorem eq_readers_zero (noWriter : hold thread ≠ .writer) (none : totalReads hold = 0) :
    hold thread = .readers 0 := by
  have reads := reads_le_totalReads hold thread
  cases held : hold thread with
  | readers n =>
    rw [held, Hold.reads, none, Nat.le_zero] at reads
    rw [reads]
  | writer => exact absurd held noWriter

theorem totalReads_eq_zero (nobody : ∀ other, other ≠ thread → hold other = .readers 0)
    (writer : hold thread = .writer) : totalReads hold = 0 := by
  refine Finset.sum_eq_zero fun other _ => ?_
  by_cases same : other = thread
  · rw [same, writer]
    rfl
  · rw [nobody other same]
    rfl

theorem managedBit_eq (waiters : Bool) : managedBit waiters = if waiters then 2 ^ 31 else 0 := rfl

variable {n : ℕ}

section

variable (owned : Owned tid hold word)

include owned

/-- The word of a lock that a thread holds for writing. -/
theorem Owned.of_writer (writer : hold thread = .writer) :
    (∀ other, other ≠ thread → hold other = .readers 0) ∧
      ∃ waiters, word = tid thread + 2 ^ 30 + managedBit waiters := by
  cases owned with
  | readers waiters nobody _ _ => exact absurd writer (nobody thread)
  | writer owner waiters isWriter others =>
    by_cases same : thread = owner
    · subst same
      exact ⟨others, waiters, rfl⟩
    · rw [others thread same] at writer
      cases writer

/-- The word of a lock that a thread holds for reading. -/
theorem Owned.of_reader (reader : hold thread = .readers (n + 1)) :
    (∀ other, hold other ≠ .writer) ∧ 0 < totalReads hold ∧ totalReads hold < 2 ^ 30 ∧
      ∃ waiters, word = totalReads hold + managedBit waiters := by
  have some_reads := reads_le_totalReads hold thread
  rw [reader, Hold.reads] at some_reads
  cases owned with
  | readers waiters nobody small _ => exact ⟨nobody, by omega, small, waiters, rfl⟩
  | writer owner waiters isWriter others =>
    by_cases same : thread = owner
    · rw [same, isWriter] at reader
      cases reader
    · rw [others thread same] at reader
      cases reader

/-- The word of a lock that nobody holds. -/
theorem Owned.free (nobody : ∀ thread, hold thread = .readers 0) :
    word = lockUnlocked := by
  have none : totalReads hold = 0 := Finset.sum_eq_zero fun thread _ => by
    rw [nobody thread, Hold.reads]
  cases owned with
  | readers waiters _ _ some_reads =>
    cases waiters with
    | false => rw [none]; rfl
    | true => exact absurd (some_reads rfl) (by omega)
  | writer thread waiters writer _ =>
    rw [nobody thread] at writer
    cases writer

/-- The word of a lock without the bit for the write lock. -/
theorem Owned.of_not_wrlocked
    (small : ∀ thread, tid thread < 2 ^ 30)
    (free : word / 2 ^ 30 % 2 ≠ 1) :
    (∀ other, hold other ≠ .writer) ∧ totalReads hold < 2 ^ 30 ∧
      ∃ waiters, word = totalReads hold + managedBit waiters ∧
        (waiters = true → 0 < totalReads hold) := by
  cases owned with
  | readers waiters nobody few some_reads => exact ⟨nobody, few, waiters, rfl, some_reads⟩
  | writer owner waiters isWriter others =>
    have id := small owner
    rw [managedBit_eq] at free
    split_ifs at free <;> omega

/-- The kernel starts to manage a lock that is held. -/
theorem Owned.manage (small : ∀ thread, tid thread < 2 ^ 30)
    (held : word ≠ 0) : Owned tid hold (word ||| lockKernelManaged) := by
  cases owned with
  | readers waiters nobody few some_reads =>
    rw [or_kernelManaged (by omega)]
    refine Owned.readers true nobody few fun _ => ?_
    cases waiters with
    | false => exact Nat.pos_of_ne_zero held
    | true => exact some_reads rfl
  | writer thread waiters writer others =>
    have id := small thread
    rw [or_kernelManaged (by omega)]
    exact Owned.writer thread true writer others

end

variable [DecidableEq Thread]

/-- One more read lock. -/
theorem Owned.acquireRead (owned : Owned tid hold word) (small : ∀ thread, tid thread < 2 ^ 30)
    (free : word / 2 ^ 30 % 2 ≠ 1) (reader : hold thread = .readers n)
    (few : totalReads (update hold thread (.readers (n + 1))) < 2 ^ 30) :
    Owned tid (update hold thread (.readers (n + 1))) ((word + 1) % 2 ^ 32) := by
  obtain ⟨nobody, -, waiters, rfl, -⟩ := owned.of_not_wrlocked small free
  have more := totalReads_update hold thread (.readers (n + 1))
  rw [reader, Hold.reads, Hold.reads] at more
  have word' : (totalReads hold + managedBit waiters + 1) % 2 ^ 32 =
      totalReads (update hold thread (.readers (n + 1))) + managedBit waiters := by
    rw [managedBit_eq]
    split_ifs <;> omega
  rw [word']
  refine Owned.readers waiters (fun other => ?_) few fun _ => by omega
  by_cases same : other = thread
  · subst same
    simp
  · rw [update_of_ne same]
    exact nobody other

/-- One read lock less. -/
theorem Owned.releaseRead (owned : Owned tid hold word) (reader : hold thread = .readers (n + 1))
    (other_readers : word ≠ 1 + managedBit true) :
    Owned tid (update hold thread (.readers n)) (word - 1) := by
  obtain ⟨nobody, some_reads, few, waiters, rfl⟩ := owned.of_reader reader
  have less := totalReads_update hold thread (.readers n)
  rw [reader, Hold.reads, Hold.reads] at less
  have word' : totalReads hold + managedBit waiters - 1 =
      totalReads (update hold thread (.readers n)) + managedBit waiters := by omega
  rw [word']
  refine Owned.readers waiters (fun other => ?_) (by omega) ?_
  · by_cases same : other = thread
    · subst same
      simp
    · rw [update_of_ne same]
      exact nobody other
  · rintro rfl
    omega

/-- The write lock on a lock that is free, with waiters if the kernel gives it away. -/
theorem Owned.acquireWrite (owned : Owned tid hold 0) (small : ∀ thread, tid thread < 2 ^ 30)
    (thread : Thread) (waiters : Bool) :
    Owned tid (update hold thread .writer)
      (tid thread ||| lockWrlocked ||| managedBit waiters) := by
  obtain ⟨noWriter, -, _, zero, -⟩ := owned.of_not_wrlocked small (by decide)
  have id := small thread
  rw [or_wrlocked id, or_managedBit (by omega)]
  refine Owned.writer thread waiters (update_self _ _ _) fun other different => ?_
  rw [update_of_ne different]
  exact eq_readers_zero (noWriter other) (by omega)

/-- The write lock is given up. -/
theorem Owned.releaseWrite (owned : Owned tid hold word) (writer : hold thread = .writer) :
    Owned tid (update hold thread (.readers 0)) 0 := by
  obtain ⟨others, -⟩ := owned.of_writer writer
  have nobody : ∀ other, update hold thread (.readers 0) other = .readers 0 := by
    intro other
    by_cases same : other = thread
    · rw [same, update_self]
    · rw [update_of_ne same]
      exact others other same
  have none : totalReads (update hold thread (.readers 0)) = 0 :=
    Finset.sum_eq_zero fun other _ => by rw [nobody other, Hold.reads]
  have owned' : Owned tid (update hold thread (.readers 0))
      (totalReads (update hold thread (.readers 0)) + managedBit false) :=
    Owned.readers false (fun other => by simp [nobody other]) (by omega) (by simp)
  rwa [none] at owned'

/-- The last read lock becomes the write lock. -/
theorem Owned.upgrade (owned : Owned tid hold (1 + managedBit true))
    (small : ∀ thread, tid thread < 2 ^ 30) (reader : hold thread = .readers (n + 1)) :
    Owned tid (update hold thread .writer)
      (tid thread ||| lockWrlocked ||| lockKernelManaged) := by
  obtain ⟨noWriter, some_reads, few, waiters, last⟩ := owned.of_reader reader
  have one : totalReads hold = 1 := by
    rw [managedBit_eq, managedBit_eq] at last
    split_ifs at last <;> omega
  have less := totalReads_update hold thread (.readers 0)
  have reads := reads_le_totalReads hold thread
  rw [reader, Hold.reads] at reads
  rw [reader, Hold.reads, Hold.reads] at less
  have id := small thread
  rw [or_wrlocked id]
  rw [show lockKernelManaged = managedBit true from rfl, or_managedBit (by omega)]
  refine Owned.writer thread true (update_self _ _ _) fun other different => ?_
  have same : update hold thread (.readers 0) other = hold other :=
    update_of_ne different _ _
  rw [update_of_ne different, ← same]
  exact eq_readers_zero (same ▸ noWriter other) (by omega)

/-- The threads in a set have one read lock each. -/
theorem totalReads_indicator (readers : Finset Thread) :
    totalReads (fun other => Hold.readers (if other ∈ readers then 1 else 0)) = readers.card := by
  rw [totalReads]
  simp [Hold.reads]

/-- The kernel gives the lock to readers. -/
theorem Owned.grantReaders (tid : Thread → ℕ) {readers : Finset Thread}
    (some_readers : readers.Nonempty) (few : readers.card < 2 ^ 30) (waiters : Bool) :
    Owned tid (fun other => .readers (if other ∈ readers then 1 else 0))
      (readers.card ||| managedBit waiters) := by
  have total := totalReads_indicator readers
  rw [or_managedBit (by omega), ← total]
  refine Owned.readers waiters (fun other => by simp) (by omega) fun _ => ?_
  rw [total]
  exact some_readers.card_pos

end

end Cloudlibc.Pthread
