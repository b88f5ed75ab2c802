import Cloudlibc.Pthread.Specific

/-!
# The values that threads get

The lists of the threads represent the values of `SpecificValues` (`Represents`). An entry is stale
if its key object has been deleted since, and a stale entry says nothing about a value. No list has
two entries for one key object. Each call keeps this (`Represents.perform`).

Generations are numbers modulo two to the 64th. As long as a key object has been deleted less often
than that, an entry with its generation is not stale (`Stored.of_generation`), so threads get the
values they have set (`specific_values`). After exactly that many deletions a thread gets a value
that was set for an earlier key (`getspecific_wraps`).
-/

set_option autoImplicit false

namespace Cloudlibc.Pthread

open List Option Function

variable {T D : Type}

/-! ## The walks -/

section Walks

variable {keys : List (PthreadKey D)} {key : ℕ}

/-- The entry has the generation of its key object. -/
def isCurrent (keys : List (PthreadKey D)) (specific : PthreadSpecific) : Bool :=
  keys[specific.key]?.map (·.generation) = some specific.generation

theorem isCurrent_iff {object : PthreadKey D} {specific : PthreadSpecific}
    (lookup : keys[specific.key]? = some object) :
    isCurrent keys specific = true ↔ specific.generation = object.generation := by
  simp [isCurrent, lookup, eq_comm]

/-- A walk takes the entry of the key out of a list, and throws away some stale entries. -/
structure Walked (keys : List (PthreadKey D)) (key : ℕ) (list others : List PthreadSpecific)
    (found : Option PthreadSpecific) : Prop where
  part : others.Sublist list
  other : ∀ specific ∈ others, specific.key ≠ key
  kept : ∀ specific ∈ list, specific.key ≠ key → isCurrent keys specific = true →
    specific ∈ others
  ofKey : ∀ specific ∈ found, specific ∈ list ∧ specific.key = key
  missing : found = none → ∀ specific ∈ list, isCurrent keys specific = true → specific.key ≠ key

section Walked

variable {specific : PthreadSpecific} {list others : List PthreadSpecific}
  {found : Option PthreadSpecific}

theorem Walked.nil : Walked keys key [] [] none :=
  ⟨.slnil, by simp, by simp, by simp, by simp⟩

theorem Walked.take (same : specific.key = key)
    (distinct : ((specific :: list).map (·.key)).Nodup) :
    Walked keys key (specific :: list) list (some specific) where
  part := sublist_cons_self _ _
  other := by
    rintro other member rfl
    exact (nodup_cons.mp distinct).1 (mem_map.mpr ⟨other, member, same.symm⟩)
  kept other member differs _ := by
    rcases mem_cons.mp member with rfl | member
    · exact absurd same differs
    · exact member
  ofKey := by simp [same]
  missing := by simp

theorem Walked.keep (walked : Walked keys key list others found) (differs : specific.key ≠ key) :
    Walked keys key (specific :: list) (specific :: others) found where
  part := walked.part.cons_cons _
  other := forall_mem_cons.mpr ⟨differs, walked.other⟩
  kept := forall_mem_cons.mpr ⟨fun _ _ => mem_cons_self,
    fun other member differs current => mem_cons_of_mem _ (walked.kept other member differs current)⟩
  ofKey other member := (walked.ofKey other member).imp_left (mem_cons_of_mem _)
  missing absent := forall_mem_cons.mpr ⟨fun _ => differs, walked.missing absent⟩

theorem Walked.drop (walked : Walked keys key list others found)
    (stale : isCurrent keys specific ≠ true) : Walked keys key (specific :: list) others found where
  part := walked.part.cons _
  other := walked.other
  kept := forall_mem_cons.mpr ⟨fun _ current => absurd current stale, walked.kept⟩
  ofKey other member := (walked.ofKey other member).imp_left (mem_cons_of_mem _)
  missing absent := forall_mem_cons.mpr ⟨fun current => absurd current stale, walked.missing absent⟩

/-- `pthread_getspecific()` takes only a current entry, which it moves to the front. -/
theorem getWalk_spec : ∀ {front : List PthreadSpecific},
    (∀ specific ∈ list, specific.key < keys.length) → (list.map (·.key)).Nodup →
    ∃ others found, Walked keys key list others found ∧
      (∀ specific ∈ found, isCurrent keys specific = true) ∧ getWalk keys key front list =
        some (found.toList ++ (front ++ others), (found.map (·.value)).getD 0) := by
  induction list with
  | nil => exact fun {front} _ _ => ⟨[], none, .nil, by simp, by simp [getWalk]⟩
  | cons specific list ih =>
    intro front allocated distinct
    obtain ⟨inside, allocated⟩ := forall_mem_cons.mp allocated
    have lookup := getElem?_eq_getElem inside
    simp only [getWalk, lookup, bind_eq_bind, bind_some, ne_eq, ← isCurrent_iff lookup]
    by_cases current : isCurrent keys specific = true
    · rw [if_neg (not_not.mpr current)]
      by_cases same : specific.key = key
      · rw [if_pos same]
        exact ⟨list, some specific, .take same distinct, by simpa using current, rfl⟩
      · obtain ⟨others, found, walked, currents, result⟩ :=
          @ih (front ++ [specific]) allocated (nodup_cons.mp distinct).2
        rw [if_neg same, result]
        exact ⟨specific :: others, found, walked.keep same, currents, by simp⟩
    · obtain ⟨others, found, walked, currents, result⟩ :=
        @ih front allocated (nodup_cons.mp distinct).2
      rw [if_pos current, result]
      exact ⟨others, found, walked.drop current, currents, rfl⟩

theorem setWalk_spec : ∀ {front : List PthreadSpecific},
    (∀ specific ∈ list, specific.key < keys.length) → (list.map (·.key)).Nodup →
    ∃ others found, Walked keys key list others found ∧
      setWalk keys key front list = some (front ++ others, found) := by
  induction list with
  | nil => exact fun {front} _ _ => ⟨[], none, .nil, by simp [setWalk]⟩
  | cons specific list ih =>
    intro front allocated distinct
    obtain ⟨inside, allocated⟩ := forall_mem_cons.mp allocated
    have lookup := getElem?_eq_getElem inside
    simp only [setWalk, lookup, bind_eq_bind, bind_some, ne_eq, ← isCurrent_iff lookup]
    by_cases same : specific.key = key
    · rw [if_pos same]
      exact ⟨list, some specific, .take same distinct, rfl⟩
    · rw [if_neg same]
      by_cases current : isCurrent keys specific = true
      · obtain ⟨others, found, walked, result⟩ :=
          @ih (front ++ [specific]) allocated (nodup_cons.mp distinct).2
        rw [if_neg (not_not.mpr current), result]
        exact ⟨specific :: others, found, walked.keep same, by simp⟩
      · obtain ⟨others, found, walked, result⟩ := @ih front allocated (nodup_cons.mp distinct).2
        rw [if_pos current, result]
        exact ⟨others, found, walked.drop current, rfl⟩

end Walked

end Walks

/-! ## What the lists represent -/

/-- An entry was stored for a key after `n` deletions of its key object. If there has been none
since, it has the value of the key. -/
def Stored (allocated : ℕ) (values : SpecificValues T D) (of : ℕ → ℕ)
    (specific : PthreadSpecific) : Prop :=
  specific.key < allocated ∧ specific.value ≠ 0 ∧ ∃ n ≤ values.deletions specific.key,
    specific.generation = n % 2 ^ 64 ∧
      (n = values.deletions specific.key →
        values.live specific.key = true ∧ of specific.key = specific.value)

/-- The state represents the values. -/
structure Represents (state : SpecificState T D) (values : SpecificValues T D) : Prop where
  allocated : ∀ key, values.live key = true → key < state.keys.length
  unused : ∀ key, state.keys.length ≤ key → values.deletions key = 0
  generation : ∀ key object, state.keys[key]? = some object →
    object.generation = values.deletions key % 2 ^ 64
  destructor : ∀ key object, state.keys[key]? = some object → values.live key = true →
    object.destructor = values.destructor key
  freelist : state.freelist.Nodup
  free : ∀ key ∈ state.freelist, key < state.keys.length ∧ values.live key = false
  distinct : ∀ thread, ((state.specifics thread).map (·.key)).Nodup
  stored : ∀ thread, ∀ specific ∈ state.specifics thread,
    Stored state.keys.length values (values.values thread) specific
  present : ∀ thread key, values.live key = true → values.values thread key ≠ 0 →
    ∃ specific ∈ state.specifics thread, specific.key = key ∧
      specific.generation = values.deletions key % 2 ^ 64
  exiting : ∀ thread, ∀ specific ∈ (state.exits thread).list,
    Stored state.keys.length values (values.exiting thread) specific

section Stored

variable {allocated : ℕ} {values : SpecificValues T D} {of : ℕ → ℕ} {specific : PthreadSpecific}

section

variable (stored : Stored allocated values of specific)

include stored

/-- As long as a key object has been deleted fewer than two to the 64th times, an entry with its
generation is not stale. -/
theorem Stored.of_generation (few : values.deletions specific.key < 2 ^ 64)
    (same : specific.generation = values.deletions specific.key % 2 ^ 64) :
    values.live specific.key = true ∧ of specific.key = specific.value := by
  obtain ⟨-, -, n, before, generation, current⟩ := stored
  rw [generation, Nat.mod_eq_of_lt (by omega), Nat.mod_eq_of_lt few] at same
  exact current same

variable [DecidableEq T]

/-- A key that is created had been deleted, so its entries stay stale. -/
theorem Stored.created {more key : ℕ} {destructor : Option D} (grown : allocated ≤ more)
    (absent : values.live key = false) :
    Stored more (values.next (.created key destructor)) (update of key 0) specific := by
  obtain ⟨inside, nonnull, n, before, generation, current⟩ := stored
  refine ⟨by omega, nonnull, n, before, generation, fun same => ?_⟩
  obtain ⟨live, value⟩ := current same
  have other : specific.key ≠ key := by
    intro equal
    rw [equal, absent] at live
    cases live
  exact ⟨(update_of_ne other _ _).trans live, (update_of_ne other _ _).trans value⟩

/-- The entries of a key become stale when it is deleted. -/
theorem Stored.deleted {key : ℕ} :
    Stored allocated (values.next (.deleted key)) of specific := by
  obtain ⟨inside, nonnull, n, before, generation, current⟩ := stored
  by_cases same : specific.key = key
  · have increased : (values.next (.deleted key)).deletions specific.key =
        values.deletions specific.key + 1 := by
      rw [same]
      exact update_self _ _ _
    refine ⟨inside, nonnull, n, by omega, generation, fun equal => ?_⟩
    omega
  · have unchanged : (values.next (.deleted key)).deletions specific.key =
        values.deletions specific.key := update_of_ne same _ _
    refine ⟨inside, nonnull, n, by omega, generation, fun equal => ?_⟩
    obtain ⟨live, value⟩ := current (by omega)
    exact ⟨(update_of_ne same _ _).trans live, value⟩

end

end Stored

section Calls

variable {state : SpecificState T D} {values : SpecificValues T D}

variable {thread : T}

/-- An entry of a list is current if it has the generation of its key object. -/
theorem Represents.isCurrent_iff {specific : PthreadSpecific} (represents : Represents state values)
    (member : specific ∈ state.specifics thread) :
    isCurrent state.keys specific = true ↔
      specific.generation = values.deletions specific.key % 2 ^ 64 := by
  have lookup := getElem?_eq_getElem (represents.stored thread specific member).1
  rw [Pthread.isCurrent_iff lookup, represents.generation _ _ lookup]

theorem Represents.initial : Represents (.initial T D) (.initial T D) where
  allocated := by simp [SpecificValues.initial]
  unused := fun _ _ => rfl
  generation := by simp [SpecificState.initial]
  destructor := by simp [SpecificState.initial]
  freelist := nodup_nil
  free := by simp [SpecificState.initial]
  distinct := by simp [SpecificState.initial]
  stored := by simp [SpecificState.initial]
  present := by simp [SpecificValues.initial]
  exiting := by simp [SpecificState.initial]

variable [DecidableEq T]

variable {key : ℕ}

section

variable (represents : Represents state values)

include represents

theorem Represents.create {destructor : Option D} {keys : List (PthreadKey D)} {freelist : List ℕ}
    (absent : values.live key = false)
    (grown : state.keys.length ≤ keys.length) (inside : key < keys.length)
    (generation : ∀ k object, keys[k]? = some object → object.generation = values.deletions k % 2 ^ 64)
    (own : ∀ object, keys[key]? = some object → object.destructor = destructor)
    (others : ∀ k, k ≠ key → k < state.keys.length → keys[k]? = state.keys[k]?)
    (distinctFree : freelist.Nodup) (free : ∀ k ∈ freelist, k ∈ state.freelist ∧ k ≠ key) :
    Represents { state with keys := keys, freelist := freelist }
      (values.next (.created key destructor)) where
  allocated k live := by
    by_cases same : k = key
    · rw [same]
      exact inside
    · have before : values.live k = true := (update_of_ne same _ _).symm.trans live
      exact Nat.lt_of_lt_of_le (represents.allocated k before) grown
  unused k beyond := represents.unused k (Nat.le_trans grown beyond)
  generation := generation
  destructor k object lookup live := by
    by_cases same : k = key
    · subst same
      rw [own object lookup]
      exact (update_self k destructor values.destructor).symm
    · have before : values.live k = true := (update_of_ne same _ _).symm.trans live
      rw [others k same (represents.allocated k before)] at lookup
      rw [represents.destructor k object lookup before]
      exact (update_of_ne same _ _).symm
  freelist := distinctFree
  free k member := by
    obtain ⟨listed, other⟩ := free k member
    obtain ⟨below, notLive⟩ := represents.free k listed
    exact ⟨Nat.lt_of_lt_of_le below grown, (update_of_ne other _ _).trans notLive⟩
  distinct := represents.distinct
  stored thread specific member := (represents.stored thread specific member).created grown absent
  present thread k live value := by
    have other : k ≠ key := by
      rintro rfl
      exact value (update_self _ _ _)
    exact represents.present thread k ((update_of_ne other _ _).symm.trans live)
      fun null => value ((update_of_ne other _ _).trans null)
  exiting thread specific member := (represents.exiting thread specific member).created grown absent

/-- The call succeeds, and does what it is for as long as no key object has been deleted two to the
64th times. -/
def SpecificValues.Performed (values : SpecificValues T D)
    (result : Option (SpecificState T D × SpecificEvent T D)) : Prop :=
  ∃ next event, result = some (next, event) ∧
    ((∀ key, values.deletions key < 2 ^ 64) → values.Allows event) ∧
    Represents next (values.next event)

/-- `pthread_key_create()`. -/
theorem Represents.pthreadKeyCreate (destructor : Option D)
    (malloc : Bool) : values.Performed (pthreadKeyCreate destructor malloc state) := by
  cases listed : state.freelist with
  | nil =>
    cases malloc with
    | false =>
      exact ⟨state, .failed .ENOMEM, by simp [Pthread.pthreadKeyCreate, listed],
        fun _ => trivial, represents⟩
    | true =>
      have absent : values.live state.keys.length = false := by
        by_contra live
        exact Nat.lt_irrefl _ (represents.allocated _ (eq_true_of_ne_false live))
      refine ⟨{ state with keys := state.keys ++ [⟨0, destructor⟩] },
        .created state.keys.length destructor, by simp [Pthread.pthreadKeyCreate, listed],
        fun _ => absent, represents.create absent (by simp) (by simp) ?_ ?_ ?_ represents.freelist
          (by simp [listed])⟩
      · intro k object lookup
        rcases Nat.lt_trichotomy k state.keys.length with below | rfl | beyond
        · rw [getElem?_append_left below] at lookup
          exact represents.generation k object lookup
        · rw [getElem?_concat_length, some.injEq] at lookup
          subst lookup
          simp [represents.unused _ (Nat.le_refl _)]
        · rw [getElem?_eq_none (by simp; omega)] at lookup
          cases lookup
      · intro object lookup
        rw [getElem?_concat_length, some.injEq] at lookup
        rw [← lookup]
      · exact fun k _ below => getElem?_append_left below
  | cons key freelist =>
    obtain ⟨inside, absent⟩ := represents.free key (by simp [listed])
    obtain ⟨fresh, distinctFree⟩ := nodup_cons.mp (listed ▸ represents.freelist)
    have lookup := getElem?_eq_getElem inside
    generalize state.keys[key] = object at lookup
    refine ⟨{ state with
        keys := state.keys.set key { object with destructor := destructor }
        freelist := freelist }, .created key destructor,
      by simp [Pthread.pthreadKeyCreate, listed, lookup], fun _ => absent,
      represents.create absent (by simp) (by simpa using inside) ?_ ?_ ?_ distinctFree
        fun k member => ⟨by simp [listed, member], fun same => fresh (same ▸ member)⟩⟩
    · intro k object' lookup'
      by_cases same : key = k
      · subst same
        rw [getElem?_set_self inside, some.injEq] at lookup'
        rw [← lookup']
        exact represents.generation key object lookup
      · rw [getElem?_set_ne same] at lookup'
        exact represents.generation k object' lookup'
    · intro object' lookup'
      rw [getElem?_set_self inside, some.injEq] at lookup'
      rw [← lookup']
    · exact fun k other _ => getElem?_set_ne (Ne.symm other)

/-- `pthread_key_delete()`. -/
theorem Represents.pthreadKeyDelete (live : values.live key = true) :
    values.Performed (pthreadKeyDelete key state) := by
  have inside := represents.allocated key live
  have lookup := getElem?_eq_getElem inside
  generalize state.keys[key] = object at lookup
  have dead : ∀ {k}, (values.next (.deleted key)).live k = true →
      k ≠ key ∧ values.live k = true := by
    intro k live
    have other : k ≠ key := by
      rintro rfl
      rw [show (values.next (.deleted k)).live k = false from update_self _ _ _] at live
      cases live
    exact ⟨other, (update_of_ne other _ _).symm.trans live⟩
  refine ⟨{ state with
      keys := state.keys.set key { object with generation := (object.generation + 1) % 2 ^ 64 }
      freelist := key :: state.freelist }, .deleted key,
    by simp [Pthread.pthreadKeyDelete, lookup], fun _ => trivial, ?_⟩
  refine
    { allocated := fun k live => ?_, unused := fun k beyond => ?_, generation := ?_
      destructor := ?_, freelist := ?_, free := ?_
      distinct := represents.distinct
      stored := fun thread specific member => ?_
      present := fun thread k live value => ?_
      exiting := fun thread specific member => ?_ }
  · rw [length_set]
    exact represents.allocated k (dead live).2
  · rw [length_set] at beyond
    have other : k ≠ key := by omega
    exact (update_of_ne other _ _).trans (represents.unused k beyond)
  · intro k object' lookup'
    by_cases same : key = k
    · subst same
      rw [getElem?_set_self inside, some.injEq] at lookup'
      rw [← lookup', represents.generation key object lookup,
        show (values.next (.deleted key)).deletions key = values.deletions key + 1 from
          update_self _ _ _]
      exact Nat.mod_add_mod _ _ _
    · rw [getElem?_set_ne same] at lookup'
      rw [represents.generation k object' lookup']
      exact congrArg (· % 2 ^ 64) (update_of_ne (Ne.symm same) _ _).symm
  · intro k object' lookup' live
    obtain ⟨other, before⟩ := dead live
    rw [getElem?_set_ne (Ne.symm other)] at lookup'
    exact represents.destructor k object' lookup' before
  · refine nodup_cons.mpr ⟨fun member => ?_, represents.freelist⟩
    rw [(represents.free key member).2] at live
    cases live
  · intro k member
    rw [length_set]
    rcases mem_cons.mp member with rfl | member
    · exact ⟨inside, update_self _ _ _⟩
    · obtain ⟨below, notLive⟩ := represents.free k member
      refine ⟨below, ?_⟩
      by_contra live
      rw [(dead (eq_true_of_ne_false live)).2] at notLive
      cases notLive
  · rw [length_set]
    exact (represents.stored thread specific member).deleted
  · obtain ⟨other, before⟩ := dead live
    obtain ⟨specific, member, ofKey, generation⟩ := represents.present thread k before value
    refine ⟨specific, member, ofKey, generation.trans ?_⟩
    exact congrArg (· % 2 ^ 64) (update_of_ne other _ _).symm
  · rw [length_set]
    exact (represents.exiting thread specific member).deleted

/-- A thread gets a new list. -/
theorem Represents.replace {thread : T} {list : List PthreadSpecific} {of : ℕ → ℕ}
    (distinct : (list.map (·.key)).Nodup)
    (stored : ∀ specific ∈ list, Stored state.keys.length values of specific)
    (present : ∀ key, values.live key = true → of key ≠ 0 → ∃ specific ∈ list,
      specific.key = key ∧ specific.generation = values.deletions key % 2 ^ 64) :
    Represents { state with specifics := update state.specifics thread list }
      { values with values := update values.values thread of } :=
  { represents with
    distinct := fun thread' => by
      by_cases same : thread' = thread
      · subst same
        simpa using distinct
      · simpa [update_of_ne same] using represents.distinct thread'
    stored := fun thread' specific member => by
      by_cases same : thread' = thread
      · subst same
        simp only [update_self] at member ⊢
        exact stored specific member
      · simp only [update_of_ne same] at member ⊢
        exact represents.stored thread' specific member
    present := fun thread' key live value => by
      by_cases same : thread' = thread
      · subst same
        simp only [update_self] at value ⊢
        exact present key live value
      · simp only [update_of_ne same] at value ⊢
        exact represents.present thread' key live value }

/-- A thread gets a new list of its entries, and perhaps without stale ones. -/
theorem Represents.rearrange {list : List PthreadSpecific}
    (distinct : (list.map (·.key)).Nodup)
    (old : ∀ specific ∈ list, specific ∈ state.specifics thread)
    (kept : ∀ specific ∈ state.specifics thread, isCurrent state.keys specific = true →
      specific ∈ list) :
    Represents { state with specifics := update state.specifics thread list } values := by
  have replaced := @replace T D state values _ represents thread list (values.values thread) distinct
    (fun specific member => represents.stored thread specific (old specific member))
    (fun key live value => by
      obtain ⟨specific, member, rfl, generation⟩ := represents.present thread key live value
      exact ⟨specific, kept specific member ((represents.isCurrent_iff member).mpr generation),
        rfl, generation⟩)
  rwa [update_eq_self] at replaced

/-- `pthread_getspecific()`. -/
theorem Represents.pthreadGetspecific (thread : T)
    (live : values.live key = true) : values.Performed (pthreadGetspecific thread key state) := by
  obtain ⟨others, found, walked, current, result⟩ :=
    @getWalk_spec D state.keys key (state.specifics thread) []
      (fun specific member => (represents.stored thread specific member).1)
      (represents.distinct thread)
  refine ⟨_, .got thread key ((found.map (·.value)).getD 0),
    by simp [Pthread.pthreadGetspecific, result]; rfl, fun few => ?_, ?_⟩
  · cases found with
    | none =>
      by_contra value
      obtain ⟨specific, member, rfl, generation⟩ :=
        represents.present thread key live (Ne.symm value)
      exact walked.missing rfl specific member ((represents.isCurrent_iff member).mpr generation) rfl
    | some specific =>
      obtain ⟨member, rfl⟩ := walked.ofKey specific rfl
      have generation := (represents.isCurrent_iff member).mp (current specific rfl)
      exact ((represents.stored thread specific member).of_generation (few _) generation).2.symm
  · have distinct := (walked.part.map (·.key)).nodup (represents.distinct thread)
    refine represents.rearrange ?_ ?_ ?_
    · cases found with
      | none => exact distinct
      | some specific =>
        refine nodup_cons.mpr ⟨fun member => ?_, distinct⟩
        obtain ⟨other, inOthers, same⟩ := mem_map.mp member
        exact walked.other other inOthers (same.trans (walked.ofKey specific rfl).2)
    · intro specific member
      rcases mem_append.mp member with front | member
      · exact (walked.ofKey specific (mem_toList.mp front)).1
      · exact walked.part.subset member
    · intro specific member isCur
      by_cases same : specific.key = key
      · cases found with
        | none => exact absurd same (walked.missing rfl specific member isCur)
        | some front =>
          obtain ⟨inList, ofKey⟩ := walked.ofKey front rfl
          have equal : specific = front := inj_on_of_nodup_map (represents.distinct thread) member
            inList (same.trans ofKey.symm)
          rw [equal]
          exact mem_cons_self
      · exact mem_append_right _ (walked.kept specific member same isCur)

end

section Set

variable {value : ℕ} {others : List PthreadSpecific} {found : Option PthreadSpecific}

/-- The entries of other keys, after the value of a key has been set. -/
theorem Represents.untouched (represents : Represents state values)
    (walked : Walked state.keys key (state.specifics thread) others found) :
    (∀ specific ∈ others, Stored state.keys.length values
      (update (values.values thread) key value) specific) ∧
    ∀ k ≠ key, values.live k = true → update (values.values thread) key value k ≠ 0 →
      ∃ specific ∈ others, specific.key = k ∧
        specific.generation = values.deletions k % 2 ^ 64 := by
  refine ⟨fun specific member => ?_, fun k differs live value => ?_⟩
  · have stored := represents.stored thread specific (walked.part.subset member)
    unfold Stored at stored ⊢
    rwa [update_of_ne (walked.other specific member)]
  · rw [update_of_ne differs] at value
    obtain ⟨specific, member, rfl, generation⟩ := represents.present thread k live value
    exact ⟨specific, walked.kept specific member differs
      ((represents.isCurrent_iff member).mpr generation), rfl, generation⟩

/-- The list of a thread with a new entry in front. -/
theorem Represents.insert (represents : Represents state values) (live : values.live key = true)
    (nonnull : value ≠ 0) (walked : Walked state.keys key (state.specifics thread) others found) :
    Represents { state with
        specifics := update state.specifics thread
          (⟨key, value, values.deletions key % 2 ^ 64⟩ :: others) }
      (values.next (.set thread key value)) := by
  obtain ⟨stored, present⟩ := @untouched T D state values thread _ key value _ _ represents walked
  refine represents.replace (nodup_cons.mpr ⟨fun member => ?_,
    (walked.part.map _).nodup (represents.distinct thread)⟩) ?_ fun k live' value => ?_
  · obtain ⟨specific, inOthers, same⟩ := mem_map.mp member
    exact walked.other specific inOthers same
  · exact forall_mem_cons.mpr ⟨⟨represents.allocated key live, nonnull, values.deletions key,
      Nat.le_refl _, rfl, fun _ => ⟨live, update_self _ _ _⟩⟩, stored⟩
  · by_cases same : k = key
    · exact ⟨_, mem_cons_self, same.symm, by rw [same]⟩
    · obtain ⟨specific, member, ofKey⟩ := present k same live' value
      exact ⟨specific, mem_cons_of_mem _ member, ofKey⟩

/-- The list of a thread without the entry of a key. -/
theorem Represents.remove (represents : Represents state values)
    (walked : Walked state.keys key (state.specifics thread) others found) :
    Represents { state with specifics := update state.specifics thread others }
      (values.next (.set thread key 0)) := by
  obtain ⟨stored, present⟩ := @untouched T D state values thread _ key 0 _ _ represents walked
  refine represents.replace ((walked.part.map _).nodup (represents.distinct thread)) stored
    fun k live value => present k ?_ live value
  rintro rfl
  exact value (update_self _ _ _)

end Set

section

variable (represents : Represents state values)

include represents

/-- `pthread_setspecific()`. -/
theorem Represents.pthreadSetspecific (thread : T)
    (value : ℕ) (malloc : Bool) (live : values.live key = true) :
    values.Performed (pthreadSetspecific thread key value malloc state) := by
  obtain ⟨others, found, walked, result⟩ :=
    @setWalk_spec D state.keys key (state.specifics thread) []
      (fun specific member => (represents.stored thread specific member).1)
      (represents.distinct thread)
  obtain ⟨object, lookup⟩ : ∃ object, state.keys[key]? = some object :=
    ⟨_, getElem?_eq_getElem (represents.allocated key live)⟩
  by_cases null : value = 0
  · subst null
    exact ⟨_, .set thread key 0, by simp [Pthread.pthreadSetspecific, result],
      fun _ => trivial, represents.remove walked⟩
  have inserted := represents.insert live null walked
  rw [← represents.generation key object lookup] at inserted
  cases found with
  | some specific =>
    obtain ⟨-, rfl⟩ := walked.ofKey specific rfl
    exact ⟨_, .set thread specific.key value,
      by simp [Pthread.pthreadSetspecific, result, null, lookup], fun _ => trivial, inserted⟩
  | none =>
    cases malloc with
    | true =>
      exact ⟨_, .set thread key value,
        by simp [Pthread.pthreadSetspecific, result, null, lookup], fun _ => trivial, inserted⟩
    | false =>
      refine ⟨_, .failed .ENOMEM, by simp [Pthread.pthreadSetspecific, result, null],
        fun _ => trivial, represents.rearrange ((walked.part.map _).nodup
          (represents.distinct thread)) (fun _ member => walked.part.subset member) ?_⟩
      exact fun specific member current =>
        walked.kept specific member (walked.missing rfl specific member current) current

/-- What is left of the list of `pthread_exit()`. -/
theorem Represents.shorten {specific : PthreadSpecific} {list : List PthreadSpecific} (listed : (state.exits thread).list = specific :: list) :
    Represents { state with
      exits := update state.exits thread { state.exits thread with list := list } }
      values :=
  { represents with
    exiting := fun thread' specific' member => by
      by_cases same : thread' = thread
      · subst same
        simp only [update_self] at member
        exact represents.exiting thread' specific' (by rw [listed]; exact mem_cons_of_mem _ member)
      · simp only [update_of_ne same] at member
        exact represents.exiting thread' specific' member }

/-- `pthread_exit()` takes the list of a thread. -/
theorem Represents.take (thread : T) (i : ℕ) :
    Represents { state with
        specifics := update state.specifics thread []
        exits := update state.exits thread ⟨i, state.specifics thread⟩ }
      (values.next (.taken thread)) :=
  { represents with
    distinct := fun thread' => by
      by_cases same : thread' = thread
      · subst same
        simp
      · simpa [update_of_ne same] using represents.distinct thread'
    stored := fun thread' specific member => by
      by_cases same : thread' = thread
      · subst same
        simp at member
      · simp only [update_of_ne same] at member
        have stored := represents.stored thread' specific member
        unfold Stored at stored ⊢
        simpa [SpecificValues.next, update_of_ne same] using stored
    present := fun thread' key live value => by
      by_cases same : thread' = thread
      · subst same
        simp [SpecificValues.next] at value
      · simp only [SpecificValues.next, update_of_ne same] at value ⊢
        exact represents.present thread' key live value
    exiting := fun thread' specific member => by
      by_cases same : thread' = thread
      · subst same
        simp only [update_self] at member
        have stored := represents.stored thread' specific member
        unfold Stored at stored ⊢
        simpa [SpecificValues.next] using stored
      · simp only [update_of_ne same] at member
        have stored := represents.exiting thread' specific member
        unfold Stored at stored ⊢
        simpa [SpecificValues.next, update_of_ne same] using stored }

/-- A pass of `pthread_exit()`. -/
theorem Represents.pthreadExitPass {next : SpecificState T D} {event : SpecificEvent T D}
    (ran : pthreadExitPass thread state = some (next, event)) :
    ((∀ key, values.deletions key < 2 ^ 64) → values.Allows event) ∧
      Represents next (values.next event) := by
  unfold Pthread.pthreadExitPass at ran
  split at ran
  · rename_i specific list listed
    have stored := represents.exiting thread specific (by rw [listed]; exact mem_cons_self)
    obtain ⟨object, lookup, ran⟩ := bind_eq_some_iff.mp ran
    have generation := represents.generation _ object lookup
    split_ifs at ran with same
    · cases ran
      refine ⟨fun few => ?_, represents.shorten listed⟩
      obtain ⟨live, value⟩ := stored.of_generation (few _) (same.symm.trans generation)
      exact ⟨live, stored.2.1, value, represents.destructor _ object lookup live⟩
    · cases ran
      exact ⟨fun _ => trivial, represents.shorten listed⟩
  · split_ifs at ran
    · cases ran
      exact ⟨fun _ => trivial, represents.take thread _⟩
    · cases ran
      exact ⟨fun _ => trivial, represents⟩

theorem Represents.performed {call : SpecificCall T D}
    (uses : values.Uses call) (notExit : ∀ thread, call ≠ .exit thread) :
    values.Performed (call.perform state) := by
  cases call with
  | keyCreate destructor malloc => exact represents.pthreadKeyCreate destructor malloc
  | keyDelete key => exact represents.pthreadKeyDelete uses
  | setspecific thread key value malloc =>
    exact represents.pthreadSetspecific thread value malloc uses
  | getspecific thread key => exact represents.pthreadGetspecific thread uses
  | exit thread => exact absurd rfl (notExit thread)

/-- **Each call keeps the representation**, and does what it is for as long as no key object has
been deleted two to the 64th times. -/
theorem Represents.perform {call : SpecificCall T D} {next : SpecificState T D}
    {event : SpecificEvent T D} (uses : values.Uses call)
    (ran : call.perform state = some (next, event)) :
    ((∀ key, values.deletions key < 2 ^ 64) → values.Allows event) ∧
      Represents next (values.next event) := by
  by_cases exits : ∃ thread, call = .exit thread
  · obtain ⟨thread, rfl⟩ := exits
    exact represents.pthreadExitPass ran
  · obtain ⟨next, event, performed, kept⟩ := represents.performed uses (not_exists.mp exits)
    obtain ⟨rfl, rfl⟩ := Prod.mk.inj (some.inj (performed.symm.trans ran))
    exact kept

end

/-- The state of every run represents its values. -/
theorem SpecificRun.represents (run : SpecificRun state values) : Represents state values := by
  induction run with
  | start => exact .initial
  | step _ uses ran ih => exact (ih.perform uses ran).2

/-- **Threads get the values they have set.** In every run in which no key object is deleted two to
the 64th times, a call with a key that is there succeeds, `pthread_getspecific()` returns the last
value that the thread has set since the creation of the key, `pthread_exit()` calls destructors only
for values of keys that are there, and no list has two entries for one key object. -/
theorem specific_values (run : SpecificRun state values)
    (few : ∀ key, values.deletions key < 2 ^ 64) :
    (∀ thread, ((state.specifics thread).map (·.key)).Nodup) ∧
    (∀ call, values.Uses call → (∀ thread, call ≠ .exit thread) → (call.perform state).isSome) ∧
    (∀ call next event, values.Uses call → call.perform state = some (next, event) →
      values.Allows event) := by
  have represents := run.represents
  refine ⟨represents.distinct, fun call uses notExit => ?_,
    fun call next event uses ran => (represents.perform uses ran).1 few⟩
  obtain ⟨next, event, performed, -⟩ := represents.performed uses notExit
  exact isSome_iff_exists.mpr ⟨_, performed⟩

end Calls

/-- One thread sets a value, and the other one makes a new key of the key object. -/
theorem specific_values_recycled :
    ∃ (state : SpecificState Bool Unit) (values : SpecificValues Bool Unit),
      SpecificRun state values ∧ state.specifics false = [⟨0, 7, 0⟩] ∧ values.live 0 = true ∧
        ∀ next value, pthreadGetspecific false 0 state = some (next, .got false 0 value) →
          value = 0 := by
  have created := @SpecificRun.step Bool Unit _ _ _ _ (.keyCreate none true) _ .start trivial rfl
  have set := @SpecificRun.step Bool Unit _ _ _ _ (.setspecific false 0 7 true) _ created rfl rfl
  have deleted := @SpecificRun.step Bool Unit _ _ _ _ (.keyDelete 0) _ set rfl rfl
  have again := @SpecificRun.step Bool Unit _ _ _ _ (.keyCreate none true) _ deleted trivial rfl
  refine ⟨_, _, again, rfl, rfl, fun next value got => ?_⟩
  refine (specific_values again (fun key => ?_)).2.2 (.getspecific false 0) _ _ rfl got
  have once : update (fun _ => 0) 0 (0 + 1) key < 2 ^ 64 := by
    rw [update_apply]
    split_ifs <;> omega
  exact once

/-! ## The generations wrap around -/

/-- One thread with a value for the only key object. -/
def wrapState (n : ℕ) : SpecificState Unit Unit :=
  ⟨[⟨n % 2 ^ 64, none⟩], [], fun _ => [⟨0, 7, 0⟩], fun _ => ⟨0, []⟩⟩

/-- The key object has been deleted and taken again a number of times. -/
theorem run_wrapState (n : ℕ) : ∃ values, SpecificRun (wrapState n) values ∧
    values.live 0 = true ∧ (n ≠ 0 → values.values () 0 = 0) := by
  induction n with
  | zero =>
    have created := @SpecificRun.step Unit Unit _ _ _ _ (.keyCreate none true) _ .start trivial rfl
    have set := @SpecificRun.step Unit Unit _ _ _ _ (.setspecific () 0 7 true) _ created rfl rfl
    exact ⟨_, set, rfl, by simp⟩
  | succ n ih =>
    obtain ⟨values, run, live, -⟩ := ih
    have deleted := @SpecificRun.step Unit Unit _ _ _ _ (.keyDelete 0) _ run live rfl
    have again := @SpecificRun.step Unit Unit _ _ _ _ (.keyCreate none true) _ deleted trivial rfl
    refine ⟨(values.next (.deleted 0)).next (.created 0 none), ?_,
      by simp [SpecificValues.next], by simp [SpecificValues.next]⟩
    have next : wrapState (n + 1) = ⟨[⟨(n % 2 ^ 64 + 1) % 2 ^ 64, none⟩], [],
        fun _ => [⟨0, 7, 0⟩], fun _ => ⟨0, []⟩⟩ := by
      rw [wrapState, Nat.mod_add_mod]
    rw [next]
    exact again

/-- **After two to the 64th deletions a thread gets a value that it set for an earlier key.** -/
theorem getspecific_wraps : ∃ (state : SpecificState Unit Unit) (values : SpecificValues Unit Unit),
    SpecificRun state values ∧ values.live 0 = true ∧ values.values () 0 = 0 ∧
      ∃ next, pthreadGetspecific () 0 state = some (next, .got () 0 7) := by
  obtain ⟨values, run, live, unset⟩ := run_wrapState (2 ^ 64)
  refine ⟨_, values, run, live, unset (by simp), ?_⟩
  exact ⟨_, rfl⟩

end Cloudlibc.Pthread
