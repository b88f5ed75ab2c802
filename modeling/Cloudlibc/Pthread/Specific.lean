import Mathlib
import Cloudlibc.Errno

/-!
# Values that are specific to threads

The functions `pthread_key_create()`, `pthread_key_delete()`, `pthread_setspecific()` and
`pthread_getspecific()` of `libc/pthread`, and the part of `pthread_exit()` that calls the
destructors. Each of them is one step, the steps of the threads are interleaved in any way, and a
step of `pthread_exit()` is one pass of its loops, so destructors may call the other functions.

Key objects are allocated and never freed. A deleted key object is put on a list, from which the
next key is taken. Its generation, a 64-bit number, is increased, so that the values that threads
have stored for the old key are recognised later on and thrown away. A key is the number of its key
object, a value is a pointer, and zero is the null pointer.
-/

set_option autoImplicit false

namespace Cloudlibc.Pthread

/-! ## The objects -/

/-- `struct __pthread_key`. A destructor that does nothing is `none`. -/
structure PthreadKey (D : Type) where
  generation : ℕ
  destructor : Option D
  deriving DecidableEq, Repr

/-- `struct pthread_specific`. -/
structure PthreadSpecific where
  key : ℕ
  value : ℕ
  generation : ℕ
  deriving DecidableEq, Repr

/-- The loop of `pthread_exit()` over the destructors: the number of passes that have begun, and
what is left of the list of this pass. -/
structure PthreadExit where
  i : ℕ
  list : List PthreadSpecific
  deriving DecidableEq, Repr

/-- The key objects, `__pthread_key_freelist`, and for each thread `__pthread_specifics` and its
progress in `pthread_exit()`. -/
structure SpecificState (T D : Type) where
  keys : List (PthreadKey D)
  freelist : List ℕ
  specifics : T → List PthreadSpecific
  exits : T → PthreadExit

/-- No key has been created. -/
def SpecificState.initial (T D : Type) : SpecificState T D :=
  ⟨[], [], fun _ => [], fun _ => ⟨0, []⟩⟩

/-- `PTHREAD_DESTRUCTOR_ITERATIONS`. -/
def pthreadDestructorIterations : ℕ := 64

/-! ## The walks over a list -/

section Walks

variable {D : Type} (keys : List (PthreadKey D)) (key : ℕ)

/-- The loop of `pthread_getspecific()`, with the entries that have been passed and those that
follow. It returns the new list and the value. -/
def getWalk : (front rest : List PthreadSpecific) → Option (List PthreadSpecific × ℕ)
  | front, [] => some (front, 0)
  | front, specific :: rest => do
      let object ← keys[specific.key]?
      if specific.generation ≠ object.generation then
        getWalk front rest
      else if specific.key = key then
        return (specific :: (front ++ rest), specific.value)
      else
        getWalk (front ++ [specific]) rest

/-- The loops of `pthread_setspecific()` up to the entry of the key. The result is the list without
this entry. -/
def setWalk : (front rest : List PthreadSpecific) →
    Option (List PthreadSpecific × Option PthreadSpecific)
  | front, [] => some (front, none)
  | front, specific :: rest => do
      if specific.key = key then
        return (front ++ rest, some specific)
      else
        let object ← keys[specific.key]?
        if specific.generation ≠ object.generation then
          setWalk front rest
        else
          setWalk (front ++ [specific]) rest

end Walks

/-! ## The functions -/

/-- A call of one of the functions by a thread, and whether `malloc()` succeeds in it; or the next
pass of the loops of `pthread_exit()`. -/
inductive SpecificCall (T D : Type)
  | keyCreate (destructor : Option D) (malloc : Bool)
  | keyDelete (key : ℕ)
  | setspecific (thread : T) (key value : ℕ) (malloc : Bool)
  | getspecific (thread : T) (key : ℕ)
  | exit (thread : T)
  deriving DecidableEq, Repr

/-- What a call has done. -/
inductive SpecificEvent (T D : Type)
  | created (key : ℕ) (destructor : Option D)
  | deleted (key : ℕ)
  | set (thread : T) (key value : ℕ)
  | got (thread : T) (key value : ℕ)
  /-- `malloc()` has failed, and the call returns `ENOMEM`. -/
  | failed (errno : Errno)
  /-- `pthread_exit()` takes the list of the thread. -/
  | taken (thread : T)
  /-- `pthread_exit()` calls a destructor. -/
  | destroyed (thread : T) (key value : ℕ) (destructor : Option D)
  /-- `pthread_exit()` frees an entry without a call. -/
  | dropped (thread : T) (key : ℕ)
  /-- The loops of `pthread_exit()` are done. -/
  | finished (thread : T)
  deriving DecidableEq, Repr

section Functions

variable {T D : Type}

/-- `pthread_key_create()`. -/
def pthreadKeyCreate (destructor : Option D) (malloc : Bool) (state : SpecificState T D) :
    Option (SpecificState T D × SpecificEvent T D) :=
  match state.freelist with
  | [] =>
    if malloc then
      some ({ state with keys := state.keys ++ [⟨0, destructor⟩] },
        .created state.keys.length destructor)
    else
      some (state, .failed .ENOMEM)
  | key :: freelist => do
      let object ← state.keys[key]?
      return ({ state with
        keys := state.keys.set key { object with destructor := destructor }
        freelist := freelist }, .created key destructor)

/-- `pthread_key_delete()`. -/
def pthreadKeyDelete (key : ℕ) (state : SpecificState T D) :
    Option (SpecificState T D × SpecificEvent T D) := do
  let object ← state.keys[key]?
  return ({ state with
    keys := state.keys.set key { object with generation := (object.generation + 1) % 2 ^ 64 }
    freelist := key :: state.freelist }, .deleted key)

variable [DecidableEq T]

/-- `pthread_setspecific()`. -/
def pthreadSetspecific (thread : T) (key value : ℕ) (malloc : Bool) (state : SpecificState T D) :
    Option (SpecificState T D × SpecificEvent T D) := do
  let (others, found) ← setWalk state.keys key [] (state.specifics thread)
  let store (list : List PthreadSpecific) : SpecificState T D :=
    { state with specifics := Function.update state.specifics thread list }
  if value = 0 then
    return (store others, .set thread key 0)
  else
    match found with
    | some specific =>
      let object ← state.keys[key]?
      return (store ({ specific with generation := object.generation, value := value } :: others),
        .set thread key value)
    | none =>
      if malloc then
        let object ← state.keys[key]?
        return (store (⟨key, value, object.generation⟩ :: others), .set thread key value)
      else
        return (store others, .failed .ENOMEM)

/-- `pthread_getspecific()`. -/
def pthreadGetspecific (thread : T) (key : ℕ) (state : SpecificState T D) :
    Option (SpecificState T D × SpecificEvent T D) := do
  let (list, value) ← getWalk state.keys key [] (state.specifics thread)
  return ({ state with specifics := Function.update state.specifics thread list },
    .got thread key value)

/-- The next pass of the loops of `pthread_exit()`. It fails where the assertion does. -/
def pthreadExitPass (thread : T) (state : SpecificState T D) :
    Option (SpecificState T D × SpecificEvent T D) :=
  match (state.exits thread).list with
  | specific :: list => do
      let object ← state.keys[specific.key]?
      let next := { state with
        exits := Function.update state.exits thread { state.exits thread with list := list } }
      if object.generation = specific.generation then
        return (next, .destroyed thread specific.key specific.value object.destructor)
      else
        return (next, .dropped thread specific.key)
  | [] =>
    if (state.exits thread).i < pthreadDestructorIterations ∧ state.specifics thread ≠ [] then
      some ({ state with
        specifics := Function.update state.specifics thread []
        exits := Function.update state.exits thread
          ⟨(state.exits thread).i + 1, state.specifics thread⟩ }, .taken thread)
    else if state.specifics thread = [] then
      some (state, .finished thread)
    else
      none

/-- A call. -/
def SpecificCall.perform (call : SpecificCall T D) (state : SpecificState T D) :
    Option (SpecificState T D × SpecificEvent T D) :=
  match call with
  | .keyCreate destructor malloc => pthreadKeyCreate destructor malloc state
  | .keyDelete key => pthreadKeyDelete key state
  | .setspecific thread key value malloc => pthreadSetspecific thread key value malloc state
  | .getspecific thread key => pthreadGetspecific thread key state
  | .exit thread => pthreadExitPass thread state

end Functions

/-! ## What the functions are for -/

/-- The keys that are there with their destructors, how often each key object has been deleted, the
value that each thread has set for a key since its creation, and the values that `pthread_exit()`
has taken from a thread. -/
structure SpecificValues (T D : Type) where
  live : ℕ → Bool
  destructor : ℕ → Option D
  deletions : ℕ → ℕ
  values : T → ℕ → ℕ
  exiting : T → ℕ → ℕ

namespace SpecificValues

variable {T D : Type}

/-- There are no keys and no values. -/
def initial (T D : Type) : SpecificValues T D :=
  ⟨fun _ => false, fun _ => none, fun _ => 0, fun _ _ => 0, fun _ _ => 0⟩

/-- The values after an event. -/
def next [DecidableEq T] (values : SpecificValues T D) : SpecificEvent T D → SpecificValues T D
  | .created key destructor => { values with
      live := Function.update values.live key true
      destructor := Function.update values.destructor key destructor
      values := fun thread => Function.update (values.values thread) key 0
      exiting := fun thread => Function.update (values.exiting thread) key 0 }
  | .deleted key => { values with
      live := Function.update values.live key false
      deletions := Function.update values.deletions key (values.deletions key + 1) }
  | .set thread key value => { values with
      values := Function.update values.values thread
        (Function.update (values.values thread) key value) }
  | .taken thread => { values with
      values := Function.update values.values thread fun _ => 0
      exiting := Function.update values.exiting thread (values.values thread) }
  | _ => values

/-- The events that may happen: a new key is not yet there, `pthread_getspecific()` returns the value
that the thread has set since the creation of the key, and a destructor is called for a value that
was taken from the thread and belongs to the key that is there now. -/
def Allows (values : SpecificValues T D) : SpecificEvent T D → Prop
  | .created key _ => values.live key = false
  | .got thread key value => value = values.values thread key
  | .destroyed thread key value destructor =>
    values.live key = true ∧ value ≠ 0 ∧ values.exiting thread key = value ∧
      destructor = values.destructor key
  | _ => True

/-- The call uses only a key that is there. -/
def Uses (values : SpecificValues T D) : SpecificCall T D → Prop
  | .keyDelete key => values.live key = true
  | .setspecific _ key _ _ => values.live key = true
  | .getspecific _ key => values.live key = true
  | _ => True

end SpecificValues

/-- What any number of threads may do, one call after the other, with keys that are there. -/
inductive SpecificRun {T D : Type} [DecidableEq T] :
    SpecificState T D → SpecificValues T D → Prop
  | start : SpecificRun (.initial T D) (.initial T D)
  | step {state next : SpecificState T D} {values : SpecificValues T D}
      {call : SpecificCall T D} {event : SpecificEvent T D} :
      SpecificRun state values → values.Uses call → call.perform state = some (next, event) →
        SpecificRun next (values.next event)

end Cloudlibc.Pthread
