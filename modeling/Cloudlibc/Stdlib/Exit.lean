import Mathlib

/-!
# `atexit()`, `__cxa_atexit()` and `exit()`

A registration allocates an entry and pushes it on the list `__atexit_last` by compare-exchange,
which may fail and be tried again. Registrations are made by any number of threads and by the
functions that `exit()` calls, so a run of a process is any sequence of actions (`Action`): steps of
registrations and steps of `exit()`. The functions that are called do nothing else that matters
here. `exit()` walks the list of `__cxa_thread_atexit()`, calls the destructors, and then loads the
head of `__atexit_last` once and walks the list from there.

The C standard is an automaton on the events of a run (`c11Step`): the functions that are registered
and not called form a stack, a call is a call of the one on top, and none is left when the process
terminates.

Between the load of `__atexit_last` and the termination of the process a registration is lost. The
main result (`c11Run_isSome_iff`) says that a run that terminates conforms to the standard if and only
if there is no such registration.
-/

set_option autoImplicit false

namespace Cloudlibc.Stdlib.Exit

open List Option

variable {F G A : Type}

/-! ## The process -/

/-- A call of `atexit()` or `__cxa_atexit()`. The argument may be a null pointer. -/
inductive Registration (F G A : Type)
  | atexit (func : F)
  | cxaAtexit (func : G) (arg : Option A)
  deriving DecidableEq

/-- `struct atexit`. A pointer is an index in the list of all entries. -/
structure AtexitEntry (F G A : Type) where
  atexit : Option F
  cxaAtexit : Option G
  cxaAtexitArg : Option A
  previous : Option ℕ

/-- `struct thread_atexit`. -/
structure ThreadAtexit (G A : Type) where
  func : G
  arg : Option A
  previous : Option ℕ

/-- The entry that a registration allocates. -/
def Registration.entry : Registration F G A → Option ℕ → AtexitEntry F G A
  | .atexit func, previous => ⟨some func, none, none, previous⟩
  | .cxaAtexit func arg, previous => ⟨none, some func, arg, previous⟩

@[simp]
theorem Registration.entry_previous (registration : Registration F G A) (previous : Option ℕ) :
    (registration.entry previous).previous = previous := by
  cases registration <;> rfl

/-- The functions of an entry that `exit()` calls. -/
def AtexitEntry.functions (entry : AtexitEntry F G A) : List (Registration F G A) :=
  (entry.atexit.map Registration.atexit).toList ++
    (entry.cxaAtexit.map fun func => Registration.cxaAtexit func entry.cxaAtexitArg).toList

/-- Where `exit()` is. -/
inductive ExitPhase
  | running
  | threadAtexit (ret : ℤ) (entry : Option ℕ)
  | destructors (ret : ℤ) (dtor : ℕ)
  | atexit (ret : ℤ) (entry : Option ℕ)
  | terminated (ret : ℤ)
  deriving DecidableEq

/-- The state of a process. `pending` has the entries that are allocated and not yet pushed. -/
structure Process (F G A : Type) where
  atexits : List (AtexitEntry F G A)
  last : Option ℕ
  pending : List (ℕ × Registration F G A)
  threadAtexits : List (ThreadAtexit G A)
  threadLast : Option ℕ
  phase : ExitPhase

/-- What can be observed of a process. -/
inductive Event (F G A : Type)
  | registered (registration : Registration F G A)
  | called (registration : Registration F G A)
  | threadCalled (func : G) (arg : Option A)
  | destructorCalled (dtor : ℕ)
  | atexitLoaded
  | flushed
  | terminated (ret : ℤ)
  deriving DecidableEq

/-- A step of a registration or of `exit()`. -/
inductive Action (F G A : Type)
  | mallocFails (registration : Registration F G A)
  | malloc (registration : Registration F G A)
  | exchangeFails (entry : ℕ)
  | exchange (entry : ℕ)
  | threadRegister (func : G) (arg : Option A)
  | exit (ret : ℤ)
  | exitStep

/-- The process before any registration. -/
def Process.start : Process F G A := ⟨[], none, [], [], none, .running⟩

/-- One step of `exit()`, with the number of destructors of the program. -/
def exitStep (dtors : ℕ) (process : Process F G A) :
    Option (Process F G A × List (Event F G A)) :=
  match process.phase with
  | .running => none
  | .threadAtexit ret none => some ({ process with phase := .destructors ret 0 }, [])
  | .threadAtexit ret (some p) => do
      let entry ← process.threadAtexits[p]?
      return ({ process with phase := .threadAtexit ret entry.previous },
        [.threadCalled entry.func entry.arg])
  | .destructors ret dtor =>
    if dtor < dtors then
      some ({ process with phase := .destructors ret (dtor + 1) }, [.destructorCalled dtor])
    else
      some ({ process with phase := .atexit ret process.last }, [.atexitLoaded])
  | .atexit ret none => some ({ process with phase := .terminated ret }, [.flushed, .terminated ret])
  | .atexit ret (some p) => do
      let entry ← process.atexits[p]?
      return ({ process with phase := .atexit ret entry.previous },
        entry.functions.map Event.called)
  | .terminated _ => none

def ExitPhase.hasTerminated : ExitPhase → Bool
  | .terminated _ => true
  | _ => false

/-- One action. A process that has terminated makes none. -/
def act (dtors : ℕ) (process : Process F G A) (action : Action F G A) :
    Option (Process F G A × List (Event F G A)) :=
  if process.phase.hasTerminated then
    none
  else
    match action with
    | .mallocFails _ => some (process, [])
    | .malloc registration =>
      some ({ process with
        atexits := process.atexits ++ [registration.entry process.last]
        pending := (process.atexits.length, registration) :: process.pending }, [])
    | .exchangeFails entry => do
        let registration ← process.pending.lookup entry
        return ({ process with
          atexits := process.atexits.set entry (registration.entry process.last) }, [])
    | .exchange entry => do
        let registration ← process.pending.lookup entry
        let stored ← process.atexits[entry]?
        if stored.previous = process.last then
          return ({ process with
            last := some entry
            pending := process.pending.filter fun p => p.1 ≠ entry }, [.registered registration])
        else
          none
    | .threadRegister func arg =>
      some ({ process with
        threadAtexits := process.threadAtexits ++ [⟨func, arg, process.threadLast⟩]
        threadLast := some process.threadAtexits.length }, [])
    | .exit ret =>
      if process.phase = .running then
        some ({ process with phase := .threadAtexit ret process.threadLast }, [])
      else
        none
    | .exitStep => exitStep dtors process

/-- A run. The result has the events in their order. -/
def run (dtors : ℕ) : Process F G A → List (Action F G A) →
    Option (Process F G A × List (Event F G A))
  | process, [] => some (process, [])
  | process, action :: actions => do
      let (process, events) ← act dtors process action
      let (process, events') ← run dtors process actions
      return (process, events ++ events')

/-! ## The C standard -/

section Standard

variable [DecidableEq F] [DecidableEq G] [DecidableEq A]

/-- The functions that are registered and not called form a stack. -/
def c11Step (stack : List (Registration F G A)) : Event F G A → Option (List (Registration F G A))
  | .registered registration => some (registration :: stack)
  | .called registration => if stack.head? = some registration then some stack.tail else none
  | .terminated _ => if stack = [] then some [] else none
  | _ => some stack

/-- The stack after some events, if they conform to the standard. -/
def c11Run (stack : List (Registration F G A)) (events : List (Event F G A)) :
    Option (List (Registration F G A)) :=
  events.foldlM c11Step stack

end Standard

/-- A function is registered. -/
def Event.isRegistered : Event F G A → Bool
  | .registered _ => true
  | _ => false

/-- A function is registered after `exit()` has loaded the list. -/
def hasLateRegistration : List (Event F G A) → Bool
  | [] => false
  | .atexitLoaded :: events => events.any Event.isRegistered
  | _ :: events => hasLateRegistration events

@[simp]
theorem c11Run_append [DecidableEq F] [DecidableEq G] [DecidableEq A]
    (stack : List (Registration F G A)) (events events' : List (Event F G A)) :
    c11Run stack (events ++ events') = (c11Run stack events).bind (c11Run · events') :=
  foldlM_append

@[simp]
theorem c11Run_nil [DecidableEq F] [DecidableEq G] [DecidableEq A]
    (stack : List (Registration F G A)) : c11Run stack [] = some stack :=
  rfl

@[simp]
theorem c11Run_cons [DecidableEq F] [DecidableEq G] [DecidableEq A]
    (stack : List (Registration F G A)) (event : Event F G A) (events : List (Event F G A)) :
    c11Run stack (event :: events) = (c11Step stack event).bind (c11Run · events) :=
  rfl

/-- Before `exit()` has loaded the list no registration is late. -/
theorem hasLateRegistration_append_of_notMem {events : List (Event F G A)}
    (events' : List (Event F G A)) (notLoaded : Event.atexitLoaded ∉ events) :
    hasLateRegistration (events ++ events') = hasLateRegistration events' := by
  induction events with
  | nil => rfl
  | cons event events ih =>
    rw [mem_cons, not_or] at notLoaded
    rw [← ih notLoaded.2]
    cases event with
    | atexitLoaded => exact absurd rfl notLoaded.1
    | _ => rfl

theorem hasLateRegistration_append_of_mem {events : List (Event F G A)}
    (events' : List (Event F G A)) (loaded : Event.atexitLoaded ∈ events) :
    hasLateRegistration (events ++ events') =
      (hasLateRegistration events || events'.any Event.isRegistered) := by
  induction events with
  | nil => cases loaded
  | cons event events ih =>
    cases event with
    | atexitLoaded => exact any_append
    | _ =>
      rw [mem_cons] at loaded
      exact ih (loaded.resolve_left (by rintro ⟨⟩))

/-! ## The list of entries -/

/-- The entries from a pointer on are those of some registrations, and none of them is pending. -/
inductive Linked (atexits : List (AtexitEntry F G A)) (pending : List (ℕ × Registration F G A)) :
    Option ℕ → List (Registration F G A) → Prop
  | nil : Linked atexits pending none []
  | cons {entry : ℕ} {previous : Option ℕ} {registration : Registration F G A}
      {registrations : List (Registration F G A)}
      (stored : atexits[entry]? = some (registration.entry previous))
      (notPending : ∀ p ∈ pending, p.1 ≠ entry)
      (rest : Linked atexits pending previous registrations) :
      Linked atexits pending (some entry) (registration :: registrations)

/-- The list stays as it is if its entries do and none of them becomes pending. -/
theorem Linked.mono {atexits atexits' : List (AtexitEntry F G A)}
    {pending pending' : List (ℕ × Registration F G A)} {head : Option ℕ}
    {registrations : List (Registration F G A)} (linked : Linked atexits pending head registrations)
    (kept : ∀ entry stored, atexits[entry]? = some stored → (∀ p ∈ pending, p.1 ≠ entry) →
      atexits'[entry]? = some stored ∧ ∀ p ∈ pending', p.1 ≠ entry) :
    Linked atexits' pending' head registrations := by
  induction linked with
  | nil => exact .nil
  | cons stored notPending rest ih =>
    obtain ⟨stored', notPending'⟩ := kept _ _ stored notPending
    exact .cons stored' notPending' ih

/-- The pending entries are entries of their registrations. -/
structure Consistent (process : Process F G A) : Prop where
  pending : ∀ p ∈ process.pending, ∃ previous, process.atexits[p.1]? = some (p.2.entry previous)
  nodup : (process.pending.map Prod.fst).Nodup
  threads : ∀ (p : ℕ) entry, process.threadAtexits[p]? = some entry → ∀ q ∈ entry.previous, q < p
  threadLast : ∀ p ∈ process.threadLast, p < process.threadAtexits.length

/-- The entries that are stored and not pending stay so. -/
def Keeps (process next : Process F G A) : Prop :=
  ∀ entry stored, process.atexits[entry]? = some stored → (∀ p ∈ process.pending, p.1 ≠ entry) →
    next.atexits[entry]? = some stored ∧ ∀ p ∈ next.pending, p.1 ≠ entry

section Invariant

variable [DecidableEq F] [DecidableEq G] [DecidableEq A]

/-- Before `exit()` has loaded the list, it has what is registered. -/
def Unloaded (process : Process F G A) (events : List (Event F G A)) : Prop :=
  Event.atexitLoaded ∉ events ∧ ∃ registrations,
    Linked process.atexits process.pending process.last registrations ∧
      c11Run [] events = some registrations

/-- While `exit()` walks the list, the stack of the standard is the rest of the list, but for late
registrations. -/
def Walking (process : Process F G A) (entry : Option ℕ) (events : List (Event F G A)) : Prop :=
  Event.atexitLoaded ∈ events ∧ ∃ rest,
    Linked process.atexits process.pending entry rest ∧
      (hasLateRegistration events = false → c11Run [] events = some rest) ∧
      (hasLateRegistration events = true →
        ∀ stack, c11Run [] events = some stack → rest.length < stack.length)

/-- What the events so far say about a process. -/
def Agrees (process : Process F G A) (events : List (Event F G A)) : Prop :=
  match process.phase with
  | .running => Unloaded process events
  | .threadAtexit _ entry =>
    Unloaded process events ∧ ∀ p ∈ entry, p < process.threadAtexits.length
  | .destructors _ _ => Unloaded process events
  | .atexit _ entry => Walking process entry events
  | .terminated _ => (c11Run [] events).isSome ↔ hasLateRegistration events = false

variable {process next : Process F G A} {events : List (Event F G A)}

theorem Unloaded.keep (unloaded : Unloaded process events) (keeps : Keeps process next)
    (sameLast : next.last = process.last) : Unloaded next events := by
  obtain ⟨notLoaded, registrations, linked, stack⟩ := unloaded
  refine ⟨notLoaded, registrations, ?_, stack⟩
  rw [sameLast]
  exact linked.mono keeps

theorem Walking.keep {entry : Option ℕ} (walking : Walking process entry events)
    (keeps : Keeps process next) : Walking next entry events := by
  obtain ⟨loaded, rest, linked, onTime, late⟩ := walking
  exact ⟨loaded, rest, linked.mono keeps, onTime, late⟩

/-- An action of no events that keeps the list. -/
theorem Agrees.keep (agrees : Agrees process events) (keeps : Keeps process next)
    (sameLast : next.last = process.last) (samePhase : next.phase = process.phase)
    (threads : process.threadAtexits.length ≤ next.threadAtexits.length) :
    Agrees next events := by
  rw [Agrees, samePhase]
  rw [Agrees] at agrees
  cases phase : process.phase with
  | running =>
    rw [phase] at agrees
    exact Unloaded.keep agrees keeps sameLast
  | threadAtexit ret entry =>
    rw [phase] at agrees
    refine ⟨agrees.1.keep keeps sameLast, ?_⟩
    intro p member
    exact (agrees.2 p member).trans_le threads
  | destructors ret dtor =>
    rw [phase] at agrees
    exact Unloaded.keep agrees keeps sameLast
  | atexit ret entry =>
    rw [phase] at agrees
    exact Walking.keep agrees keeps
  | terminated ret =>
    rw [phase] at agrees
    exact agrees

variable {registration : Registration F G A} {entry : ℕ}

/-- A registration before the list is loaded. -/
theorem Unloaded.register (unloaded : Unloaded process events) (keeps : Keeps process next)
    (last : next.last = some entry)
    (stored : next.atexits[entry]? = some (registration.entry process.last))
    (notPending : ∀ p ∈ next.pending, p.1 ≠ entry) :
    Unloaded next (events ++ [.registered registration]) := by
  obtain ⟨notLoaded, registrations, linked, stack⟩ := unloaded
  refine ⟨?_, registration :: registrations, ?_, ?_⟩
  · simpa using notLoaded
  · rw [last]
    exact .cons stored notPending (linked.mono keeps)
  · simp [stack, c11Step]

/-- A late registration. -/
theorem Walking.register {head : Option ℕ} (walking : Walking process head events)
    (keeps : Keeps process next) : Walking next head (events ++ [.registered registration]) := by
  obtain ⟨loaded, rest, linked, onTime, late⟩ := walking
  have isLate : hasLateRegistration (events ++ [.registered registration]) = true := by
    rw [hasLateRegistration_append_of_mem _ loaded]
    simp [Event.isRegistered]
  refine ⟨mem_append_left _ loaded, rest, linked.mono keeps, ?_, ?_⟩
  · intro notLate
    rw [isLate] at notLate
    cases notLate
  · intro _ stack ran
    rw [c11Run_append, bind_eq_some_iff] at ran
    obtain ⟨stack', before, pushed⟩ := ran
    obtain rfl : registration :: stack' = stack := some.inj pushed
    cases wasLate : hasLateRegistration events with
    | false =>
      rw [onTime wasLate] at before
      obtain rfl := some.inj before
      exact Nat.lt_succ_self _
    | true => exact (late wasLate stack' before).trans (Nat.lt_succ_self _)

/-- A registration. -/
theorem Agrees.register (agrees : Agrees process events) (keeps : Keeps process next)
    (last : next.last = some entry)
    (stored : next.atexits[entry]? = some (registration.entry process.last))
    (notPending : ∀ p ∈ next.pending, p.1 ≠ entry) (samePhase : next.phase = process.phase)
    (alive : process.phase.hasTerminated = false)
    (threads : process.threadAtexits.length ≤ next.threadAtexits.length) :
    Agrees next (events ++ [.registered registration]) := by
  rw [Agrees, samePhase]
  rw [Agrees] at agrees
  cases phase : process.phase with
  | running =>
    rw [phase] at agrees
    exact Unloaded.register agrees keeps last stored notPending
  | threadAtexit ret entry =>
    rw [phase] at agrees
    refine ⟨agrees.1.register keeps last stored notPending, ?_⟩
    intro p member
    exact (agrees.2 p member).trans_le threads
  | destructors ret dtor =>
    rw [phase] at agrees
    exact Unloaded.register agrees keeps last stored notPending
  | atexit ret entry =>
    rw [phase] at agrees
    exact Walking.register agrees keeps
  | terminated ret =>
    rw [phase] at alive
    cases alive

/-- An event of no interest to the standard, before the list is loaded. -/
theorem Unloaded.other {event : Event F G A} (unloaded : Unloaded process events)
    (notLoad : Event.atexitLoaded ≠ event) (ignored : ∀ stack, c11Step stack event = some stack) :
    Unloaded process (events ++ [event]) := by
  obtain ⟨notLoaded, registrations, linked, stack⟩ := unloaded
  refine ⟨?_, registrations, linked, ?_⟩
  · rw [mem_append, mem_singleton]
    exact not_or.mpr ⟨notLoaded, notLoad⟩
  · simp [stack, ignored]

/-- The list is loaded. -/
theorem Unloaded.load (unloaded : Unloaded process events) :
    Walking process process.last (events ++ [.atexitLoaded]) := by
  obtain ⟨notLoaded, registrations, linked, stack⟩ := unloaded
  have notLate : hasLateRegistration (events ++ [.atexitLoaded]) = false :=
    hasLateRegistration_append_of_notMem _ notLoaded
  refine ⟨by simp, registrations, linked, ?_, ?_⟩
  · intro _
    simp [stack, c11Step]
  · intro late
    rw [notLate] at late
    cases late

/-- The next function of the list is called. -/
theorem Walking.call (walking : Walking process (some entry) events) :
    ∃ registration previous, process.atexits[entry]? = some (registration.entry previous) ∧
      Walking process previous (events ++ [.called registration]) := by
  obtain ⟨loaded, rest, linked, onTime, late⟩ := walking
  cases linked with
  | @cons _ previous registration rest stored notPending linked =>
    have sameLate : hasLateRegistration (events ++ [.called registration]) =
        hasLateRegistration events := by
      rw [hasLateRegistration_append_of_mem _ loaded]
      simp [Event.isRegistered]
    refine ⟨registration, previous, stored, mem_append_left _ loaded, rest, linked, ?_, ?_⟩
    · intro notLate
      rw [sameLate] at notLate
      simp [onTime notLate, c11Step]
    · intro isLate stack ran
      rw [sameLate] at isLate
      rw [c11Run_append, bind_eq_some_iff] at ran
      obtain ⟨stack', before, popped⟩ := ran
      have longer := late isLate stack' before
      simp only [c11Run_cons, c11Step, c11Run_nil] at popped
      split_ifs at popped
      · obtain rfl := some.inj popped
        rw [length_tail]
        rw [length_cons] at longer
        omega
      · cases popped

theorem Walking.terminate (walking : Walking process none events) (ret : ℤ) :
    (c11Run [] (events ++ [.flushed, .terminated ret])).isSome ↔
      hasLateRegistration (events ++ [.flushed, .terminated ret]) = false := by
  obtain ⟨loaded, rest, linked, onTime, late⟩ := walking
  have sameLate : hasLateRegistration (events ++ [.flushed, .terminated ret]) =
      hasLateRegistration events := by
    rw [hasLateRegistration_append_of_mem _ loaded]
    simp [Event.isRegistered]
  rw [sameLate]
  cases linked with
  | nil =>
    cases wasLate : hasLateRegistration events with
    | false => simp [onTime wasLate, c11Step]
    | true =>
      cases ran : c11Run [] events with
      | none => simp [ran]
      | some stack =>
        have nonempty := late wasLate stack ran
        have notEmpty : stack ≠ [] := by
          rintro rfl
          exact lt_irrefl 0 nonempty
        simp [ran, c11Step, notEmpty]

/-- A step of `exit()`. -/
theorem exitStep_agrees (dtors : ℕ) (consistent : Consistent process)
    (agrees : Agrees process events) (called : process.phase ≠ .running)
    (alive : process.phase.hasTerminated = false) :
    ∃ phase steps, exitStep dtors process = some ({ process with phase := phase }, steps) ∧
      Agrees { process with phase := phase } (events ++ steps) := by
  rw [Agrees] at agrees
  rw [exitStep]
  cases phase : process.phase with
  | running => exact absurd phase called
  | threadAtexit ret entry =>
    rw [phase] at agrees
    cases entry with
    | none =>
      refine ⟨.destructors ret 0, [], rfl, ?_⟩
      rw [append_nil]
      exact agrees.1
    | some p =>
      have inside := agrees.2 p rfl
      have found := getElem?_eq_getElem inside
      refine ⟨.threadAtexit ret process.threadAtexits[p].previous,
        [.threadCalled process.threadAtexits[p].func process.threadAtexits[p].arg], ?_, ?_, ?_⟩
      · simp only [found, bind_eq_bind, bind_some]
        rfl
      · exact agrees.1.other (by rintro ⟨⟩) (fun _ => rfl)
      · intro q member
        exact (consistent.threads p _ found q member).trans inside
  | destructors ret dtor =>
    rw [phase] at agrees
    by_cases more : dtor < dtors
    · refine ⟨.destructors ret (dtor + 1), [.destructorCalled dtor], if_pos more, ?_⟩
      exact Unloaded.other agrees (by rintro ⟨⟩) (fun _ => rfl)
    · exact ⟨.atexit ret process.last, [.atexitLoaded], if_neg more, Unloaded.load agrees⟩
  | atexit ret entry =>
    rw [phase] at agrees
    cases entry with
    | none => exact ⟨.terminated ret, _, rfl, Walking.terminate agrees ret⟩
    | some p =>
      obtain ⟨registration, previous, stored, walking⟩ := Walking.call agrees
      refine ⟨.atexit ret previous, [.called registration], ?_, walking⟩
      simp only [stored, bind_eq_bind, bind_some]
      cases registration <;> rfl
  | terminated ret =>
    rw [phase] at alive
    cases alive

/-! ## Registrations -/

section

omit [DecidableEq F] [DecidableEq G] [DecidableEq A]

variable (consistent : Consistent process)

include consistent

theorem Consistent.malloc (registration : Registration F G A) :
    let next := { process with
      atexits := process.atexits ++ [registration.entry process.last]
      pending := (process.atexits.length, registration) :: process.pending }
    Consistent next ∧ Keeps process next := by
  have inside : ∀ {entry stored}, process.atexits[entry]? = some stored →
      entry < process.atexits.length := fun found => (List.getElem?_eq_some_iff.mp found).1
  refine ⟨⟨?_, ?_, consistent.threads, consistent.threadLast⟩, ?_⟩
  · intro p member
    rcases mem_cons.mp member with rfl | old
    · exact ⟨process.last, by simp⟩
    · obtain ⟨previous, found⟩ := consistent.pending p old
      exact ⟨previous, by rw [getElem?_append_left (inside found), found]⟩
  · refine nodup_cons.mpr ⟨?_, consistent.nodup⟩
    intro member
    obtain ⟨p, old, same⟩ := mem_map.mp member
    obtain ⟨previous, found⟩ := consistent.pending p old
    exact (inside found).ne same
  · intro entry stored found notPending
    refine ⟨by rw [getElem?_append_left (inside found), found], ?_⟩
    intro p member
    rcases mem_cons.mp member with rfl | old
    · exact (inside found).ne'
    · exact notPending p old

section

variable (found : process.pending.lookup entry = some registration)

include found

theorem Consistent.eq_of_lookup :
    (entry, registration) ∈ process.pending ∧
      ∀ p ∈ process.pending, p.1 = entry → p.2 = registration := by
  obtain ⟨before, after, split, -⟩ := lookup_eq_some_iff.mp found
  have member : (entry, registration) ∈ process.pending := by
    rw [split]
    exact mem_append_right _ mem_cons_self
  refine ⟨member, ?_⟩
  intro p other same
  have injective := inj_on_of_nodup_map consistent.nodup other member same
  rw [injective]

theorem Consistent.exchangeFails :
    let next := { process with
      atexits := process.atexits.set entry (registration.entry process.last) }
    Consistent next ∧ Keeps process next := by
  obtain ⟨member, unique⟩ := consistent.eq_of_lookup found
  refine ⟨⟨?_, consistent.nodup, consistent.threads, consistent.threadLast⟩, ?_⟩
  · intro p other
    obtain ⟨previous, stored⟩ := consistent.pending p other
    by_cases same : p.1 = entry
    · refine ⟨process.last, ?_⟩
      have inside := (List.getElem?_eq_some_iff.mp stored).1
      rw [same] at inside
      rw [same, unique p other same, getElem?_set_self inside]
    · exact ⟨previous, by rw [getElem?_set_ne (Ne.symm same), stored]⟩
  · intro entry' stored at' notPending
    have distinct : entry ≠ entry' := notPending _ member
    exact ⟨by rw [getElem?_set_ne distinct, at'], notPending⟩

theorem Consistent.exchange {stored : AtexitEntry F G A}
    (atEntry : process.atexits[entry]? = some stored) (current : stored.previous = process.last) :
    let next := { process with
      last := some entry
      pending := process.pending.filter fun p => p.1 ≠ entry }
    Consistent next ∧ Keeps process next ∧
      next.atexits[entry]? = some (registration.entry process.last) ∧
      ∀ p ∈ next.pending, p.1 ≠ entry := by
  obtain ⟨member, -⟩ := consistent.eq_of_lookup found
  refine ⟨⟨?_, ?_, consistent.threads, consistent.threadLast⟩, ?_, ?_, ?_⟩
  · intro p other
    exact consistent.pending p (mem_of_mem_filter other)
  · exact consistent.nodup.sublist (filter_sublist.map _)
  · intro entry' stored' at' notPending
    exact ⟨at', fun p other => notPending p (mem_of_mem_filter other)⟩
  · obtain ⟨previous, stored'⟩ := consistent.pending _ member
    rw [atEntry, some.injEq] at stored'
    rw [atEntry, stored', ← current, stored']
    cases registration <;> rfl
  · intro p other
    simpa using (mem_filter.mp other).2

end

theorem Consistent.threadRegister (func : G) (arg : Option A) :
    Consistent { process with
      threadAtexits := process.threadAtexits ++ [⟨func, arg, process.threadLast⟩]
      threadLast := some process.threadAtexits.length } := by
  refine ⟨consistent.pending, consistent.nodup, ?_, ?_⟩
  · intro p entry found q member
    by_cases old : p < process.threadAtexits.length
    · rw [getElem?_append_left old] at found
      exact consistent.threads p entry found q member
    · have bound := (List.getElem?_eq_some_iff.mp found).1
      obtain rfl : p = process.threadAtexits.length := by
        simp only [length_append, length_singleton] at bound
        omega
      simp only [getElem?_concat_length, some.injEq] at found
      subst found
      exact consistent.threadLast q member
  · intro p member
    simp only [mem_def, some.injEq] at member
    subst member
    simp

/-! ## Runs -/

end

variable {dtors : ℕ}

theorem act_agrees {action : Action F G A} {steps : List (Event F G A)}
    (consistent : Consistent process) (agrees : Agrees process events)
    (acted : act dtors process action = some (next, steps)) :
    Consistent next ∧ Agrees next (events ++ steps) := by
  unfold act at acted
  by_cases terminated : process.phase.hasTerminated
  · rw [if_pos terminated] at acted
    cases acted
  have dead : process.phase.hasTerminated = false := Bool.eq_false_of_not_eq_true terminated
  rw [if_neg terminated] at acted
  cases action with
  | mallocFails registration =>
    obtain ⟨rfl, rfl⟩ : process = next ∧ [] = steps := by simpa using acted
    rw [append_nil]
    exact ⟨consistent, agrees⟩
  | malloc registration =>
    obtain ⟨rfl, rfl⟩ := Prod.mk.inj (some.inj acted)
    obtain ⟨consistent', keeps⟩ := consistent.malloc registration
    rw [append_nil]
    exact ⟨consistent', agrees.keep keeps rfl rfl le_rfl⟩
  | exchangeFails entry =>
    obtain ⟨registration, found, acted⟩ := bind_eq_some_iff.mp acted
    obtain ⟨rfl, rfl⟩ := Prod.mk.inj (some.inj acted)
    obtain ⟨consistent', keeps⟩ := consistent.exchangeFails found
    rw [append_nil]
    exact ⟨consistent', agrees.keep keeps rfl rfl le_rfl⟩
  | exchange entry =>
    obtain ⟨registration, found, acted⟩ := bind_eq_some_iff.mp acted
    obtain ⟨stored, atEntry, acted⟩ := bind_eq_some_iff.mp acted
    split_ifs at acted with current
    obtain ⟨rfl, rfl⟩ := Prod.mk.inj (some.inj acted)
    obtain ⟨consistent', keeps, stored', notPending⟩ := consistent.exchange found atEntry current
    exact ⟨consistent', agrees.register keeps rfl stored' notPending rfl dead le_rfl⟩
  | threadRegister func arg =>
    obtain ⟨rfl, rfl⟩ := Prod.mk.inj (some.inj acted)
    rw [append_nil]
    refine ⟨consistent.threadRegister func arg, agrees.keep ?_ rfl rfl (by simp)⟩
    exact fun entry stored found notPending => ⟨found, notPending⟩
  | exit ret =>
    split_ifs at acted with running
    obtain ⟨rfl, rfl⟩ := Prod.mk.inj (some.inj acted)
    rw [Agrees, running] at agrees
    rw [append_nil]
    exact ⟨⟨consistent.pending, consistent.nodup, consistent.threads, consistent.threadLast⟩,
      agrees, consistent.threadLast⟩
  | exitStep =>
    have called : process.phase ≠ .running := by
      intro running
      simp [exitStep, running] at acted
    obtain ⟨phase, steps', ran, agrees'⟩ := exitStep_agrees dtors consistent agrees called dead
    rw [ran] at acted
    obtain ⟨rfl, rfl⟩ := Prod.mk.inj (some.inj acted)
    exact ⟨⟨consistent.pending, consistent.nodup, consistent.threads, consistent.threadLast⟩,
      agrees'⟩

theorem run_agrees {actions : List (Action F G A)} {steps : List (Event F G A)}
    (consistent : Consistent process) (agrees : Agrees process events)
    (ran : run dtors process actions = some (next, steps)) :
    Consistent next ∧ Agrees next (events ++ steps) := by
  induction actions generalizing process events steps with
  | nil =>
    obtain ⟨rfl, rfl⟩ := Prod.mk.inj (some.inj ran)
    rw [append_nil]
    exact ⟨consistent, agrees⟩
  | cons action actions ih =>
    obtain ⟨⟨process', steps₁⟩, acted, ran⟩ := bind_eq_some_iff.mp ran
    obtain ⟨⟨process'', steps₂⟩, ran', same⟩ := bind_eq_some_iff.mp ran
    obtain ⟨rfl, rfl⟩ := Prod.mk.inj (some.inj same)
    obtain ⟨consistent', agrees'⟩ := act_agrees consistent agrees acted
    rw [← append_assoc]
    exact ih consistent' agrees' ran'

theorem agrees_start :
    Consistent (Process.start : Process F G A) ∧ Agrees (Process.start : Process F G A) [] := by
  refine ⟨⟨?_, nodup_nil, ?_, ?_⟩, by simp, [], .nil, rfl⟩
  · intro p member
    cases member
  · intro p entry found
    simp [Process.start] at found
  · intro p member
    cases member

/-! ## Termination -/

/-- Steps of `exit()` alone terminate the process. -/
def Terminates (dtors : ℕ) (process : Process F G A) : Prop :=
  ∃ n next events, run dtors process (List.replicate n .exitStep) = some (next, events) ∧
    next.phase.hasTerminated

section

omit [DecidableEq F] [DecidableEq G] [DecidableEq A]

theorem Terminates.step {dtors : ℕ} (alive : process.phase.hasTerminated = false)
    (stepped : (exitStep dtors process).map Prod.fst = some next)
    (terminates : Terminates dtors next) : Terminates dtors process := by
  obtain ⟨⟨_, steps⟩, found, rfl⟩ := map_eq_some_iff.mp stepped
  obtain ⟨n, last, events, ran, dead⟩ := terminates
  refine ⟨n + 1, last, steps ++ events, ?_, dead⟩
  have acted : act dtors process .exitStep = exitStep dtors process := by
    rw [act, alive]
    rfl
  rw [replicate_succ, run, acted, found]
  simp only [bind_eq_bind, bind_some, ran]
  rfl

theorem Linked.terminates {dtors : ℕ} {entry : Option ℕ}
    {registrations : List (Registration F G A)}
    (linked : Linked process.atexits process.pending entry registrations) (ret : ℤ) :
    Terminates dtors { process with phase := .atexit ret entry } := by
  induction linked with
  | nil => exact .step rfl rfl ⟨0, _, _, rfl, rfl⟩
  | cons stored notPending rest ih =>
    refine .step rfl ?_ ih
    simp only [exitStep, stored, bind_eq_bind, bind_some, Registration.entry_previous]
    rfl

theorem terminates_destructors {dtors dtor : ℕ} {ret : ℤ}
    {registrations : List (Registration F G A)}
    (linked : Linked process.atexits process.pending process.last registrations) :
    Terminates dtors { process with phase := .destructors ret dtor } := by
  induction left : dtors - dtor generalizing dtor with
  | zero =>
    refine .step rfl ?_ (linked.terminates ret)
    exact congrArg (Option.map Prod.fst)
      (if_neg (Nat.not_lt.mpr (Nat.le_of_sub_eq_zero left)))
  | succ n ih =>
    have more : dtor < dtors := Nat.lt_of_sub_eq_succ left
    have rest : dtors - (dtor + 1) = n := by omega
    exact .step rfl (congrArg (Option.map Prod.fst) (if_pos more)) (ih rest)

/-- The walk of the functions of the thread ends: a previous entry is an older one. -/
theorem terminates_threadAtexit {dtors : ℕ} {ret : ℤ} {registrations : List (Registration F G A)}
    (consistent : Consistent process)
    (linked : Linked process.atexits process.pending process.last registrations)
    (entry : Option ℕ) (inside : ∀ p ∈ entry, p < process.threadAtexits.length) :
    Terminates dtors { process with phase := .threadAtexit ret entry } := by
  have atEnd : Terminates dtors { process with phase := .threadAtexit ret none } :=
    .step rfl rfl (terminates_destructors linked)
  cases entry with
  | none => exact atEnd
  | some p =>
    induction p using Nat.strong_induction_on with
    | _ p ih =>
      obtain ⟨entry, found⟩ : ∃ entry, process.threadAtexits[p]? = some entry :=
        ⟨_, getElem?_eq_getElem (inside p rfl)⟩
      have stepped : (exitStep dtors { process with phase := .threadAtexit ret (some p) }).map
          Prod.fst = some { process with phase := .threadAtexit ret entry.previous } := by
        simp only [exitStep, found, bind_eq_bind, bind_some]
        rfl
      refine .step rfl stepped ?_
      cases previous : entry.previous with
      | none => exact atEnd
      | some q =>
        have before : q < p := consistent.threads p entry found q previous
        refine ih q before ?_
        rintro _ ⟨⟩
        exact before.trans (inside p rfl)

end

theorem Agrees.terminates (consistent : Consistent process) (agrees : Agrees process events)
    (called : process.phase ≠ .running) : Terminates dtors process := by
  rw [Agrees] at agrees
  have same : ∀ {phase}, process.phase = phase → process = { process with phase := phase } := by
    rintro _ rfl
    rfl
  cases phase : process.phase with
  | running => exact absurd phase called
  | threadAtexit ret entry =>
    rw [phase] at agrees
    obtain ⟨⟨-, registrations, linked, -⟩, inside⟩ := agrees
    rw [same phase]
    exact terminates_threadAtexit consistent linked entry inside
  | destructors ret dtor =>
    rw [phase] at agrees
    obtain ⟨-, registrations, linked, -⟩ := agrees
    rw [same phase]
    exact terminates_destructors linked
  | atexit ret entry =>
    rw [phase] at agrees
    obtain ⟨-, rest, linked, -⟩ := agrees
    rw [same phase]
    exact linked.terminates ret
  | terminated ret => exact ⟨0, process, [], rfl, by rw [phase]; rfl⟩

/-- **From every point of every run, `exit()` terminates the process, and a run that terminates
conforms to the standard if and only if no function is registered after `exit()` has loaded the
list.** -/
theorem c11Run_isSome_iff (dtors : ℕ) (actions : List (Action F G A)) (process : Process F G A)
    (events : List (Event F G A)) (ran : run dtors .start actions = some (process, events)) :
    (process.phase ≠ .running → ∃ n next steps,
      run dtors process (List.replicate n .exitStep) = some (next, steps) ∧
        next.phase.hasTerminated) ∧
    (process.phase.hasTerminated → ((c11Run [] events).isSome ↔
      hasLateRegistration events = false)) := by
  obtain ⟨consistent, agrees⟩ := run_agrees agrees_start.1 agrees_start.2 ran
  rw [nil_append] at agrees
  refine ⟨agrees.terminates consistent, ?_⟩
  intro dead
  cases phase : process.phase with
  | terminated ret =>
    rw [Agrees, phase] at agrees
    exact agrees
  | _ =>
    rw [phase] at dead
    cases dead

/-- One function is registered and called. -/
theorem c11Run_isSome_one :
    (run 0 .start [.malloc (.atexit 0), .exchange 0, .exit 0, .exitStep, .exitStep, .exitStep,
        .exitStep] : Option (Process ℕ ℕ ℕ × List (Event ℕ ℕ ℕ))) =
      some (⟨[⟨some 0, none, none, none⟩], some 0, [], [], none, .terminated 0⟩,
        [.registered (.atexit 0), .atexitLoaded, .called (.atexit 0), .flushed, .terminated 0]) ∧
    (c11Run [] ([.registered (.atexit 0), .atexitLoaded, .called (.atexit 0), .flushed,
      .terminated 0] : List (Event ℕ ℕ ℕ))).isSome := by
  refine ⟨rfl, ?_⟩
  refine ((c11Run_isSome_iff 0 [.malloc (.atexit 0), .exchange 0, .exit 0, .exitStep, .exitStep,
    .exitStep, .exitStep] ⟨[⟨some 0, none, none, none⟩], some 0, [], [], none, .terminated 0⟩ _
      rfl).2 rfl).mpr rfl

/-- A handler that registers a function: the process terminates and the function is not called. -/
theorem c11Run_handlerRegisters :
    (run 0 .start [.malloc (.atexit 0), .exchange 0, .exit 0, .exitStep, .exitStep, .exitStep,
        .malloc (.atexit 1), .exchange 1, .exitStep] :
          Option (Process ℕ ℕ ℕ × List (Event ℕ ℕ ℕ))).map Prod.snd =
      some [.registered (.atexit 0), .atexitLoaded, .called (.atexit 0), .registered (.atexit 1),
        .flushed, .terminated 0] ∧
    c11Run [] ([.registered (.atexit 0), .atexitLoaded, .called (.atexit 0),
      .registered (.atexit 1), .flushed, .terminated 0] : List (Event ℕ ℕ ℕ)) = none :=
  ⟨rfl, rfl⟩

end Invariant

end Cloudlibc.Stdlib.Exit
