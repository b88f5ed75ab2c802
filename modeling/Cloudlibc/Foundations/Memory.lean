import Cloudlibc.Foundations.Loop

/-!
# Memory of typed locations, and framed triples

A memory maps locations to values, each location having its own type of values. Programs
load and store, and fail at a location that is not allocated.

The part of a memory that a program works on is a multiset of cells. A multiset with two
cells at one location describes no memory, so a sum of multisets separates its parts. A
triple (`Triple`) says that a program started on some cells succeeds, leaves certain cells
behind and touches nothing else. The rules are those of separation logic: programs run one
after the other (`Triple.bind`), next to cells they do not know (`Triple.frame`), and in
loops (`Triple.loop`). Loads and stores look up their cell in a sum by instance search
(`Focus`).
-/

set_option autoImplicit false

namespace Cloudlibc.Memory

open Cloudlibc.Loop Function

variable {L : Type} {V : L → Type} {ρ ρ' σ : Type}

/-! ## Memory and programs -/

/-- A memory of typed locations. -/
abbrev Mem (V : L → Type) := (l : L) → Option (V l)

/-- Programs over a memory. Failure is an access to a location that is not allocated. -/
abbrev Program (V : L → Type) (ρ : Type) := StateT (Mem V) Option ρ

/-- Load the value at a location. -/
def load (l : L) : Program V (V l) := fun m => (m l).map fun v => (v, m)

section Operations

variable [DecidableEq L]

/-- Store a value at an allocated location. -/
def store (l : L) (v : V l) : Program V Unit :=
  fun m => (m l).map fun _ => ((), Function.update m l (some v))

/-- Allocate cells, if all of their locations are free. -/
def allocate (cells : List (Sigma V)) : Program V Bool := fun m =>
  if ∀ cell ∈ cells, (m cell.1).isNone then
    some (true, cells.foldr (fun cell m => Function.update m cell.1 (some cell.2)) m)
  else
    some (false, m)

/-- Release an allocated location. -/
def release (l : L) : Program V Unit :=
  fun m => (m l).map fun _ => ((), Function.update m l none)

end Operations

/-- Run a loop for at most `fuel` passes. -/
def loop (body : σ → Program V (Pass σ ρ)) : ℕ → σ → Program V ρ
  | 0, _ => failure
  | fuel + 1, state => do
      match ← body state with
      | .again next => loop body fuel next
      | .leave result => pure result

/-- The run of one program after the other. -/
theorem bind_eq {program : Program V ρ} {next : ρ → Program V ρ'} {m m' : Mem V} {result : ρ}
    (ran : program m = some (result, m')) : (program >>= next) m = next result m' := by
  change (program m).bind (fun pair => next pair.1 pair.2) = _
  rw [ran]
  rfl

/-! ## Cells -/

/-- The cells of a part of a memory. -/
abbrev Cells (V : L → Type) := Multiset (Sigma V)

/-- One cell. -/
def pointsTo (l : L) (v : V l) : Cells V := {⟨l, v⟩}

/-- A list of cells. -/
def cellsOf : List (Sigma V) → Cells V
  | [] => 0
  | cell :: cells => pointsTo cell.1 cell.2 + cellsOf cells

theorem mem_cellsOf {cells : List (Sigma V)} {cell : Sigma V} :
    cell ∈ cellsOf cells ↔ cell ∈ cells := by
  induction cells with
  | nil => simp [cellsOf]
  | cons first cells ih => simp [cellsOf, pointsTo, ih]

/-- The memory consists of exactly the given cells. -/
structure Holds (m : Mem V) (c : Cells V) : Prop where
  nodup : (c.map Sigma.fst).Nodup
  eq_some_iff : ∀ l v, m l = some v ↔ ⟨l, v⟩ ∈ c

namespace Holds

variable {m m' : Mem V} {c rest : Cells V} {l l' : L} {v : V l}

/-- The cells determine the memory. -/
theorem unique (first : Holds m c) (second : Holds m' c) : m = m' := by
  funext l
  refine Option.ext fun v => ?_
  rw [first.eq_some_iff, second.eq_some_iff]

theorem eq_some (holds : Holds m (pointsTo l v + rest)) : m l = some v :=
  (holds.eq_some_iff l v).mpr (Multiset.mem_add.mpr (.inl (Multiset.mem_singleton_self _)))

theorem not_mem_rest (holds : Holds m (pointsTo l v + rest)) (w : V l) : ⟨l, w⟩ ∉ rest := by
  have nodup := holds.nodup
  rw [pointsTo, Multiset.singleton_add, Multiset.map_cons, Multiset.nodup_cons] at nodup
  exact fun member => nodup.1 (Multiset.mem_map.mpr ⟨_, member, rfl⟩)

/-- The locations of two cells differ. -/
theorem ne {v' : V l'} (holds : Holds m (pointsTo l v + (pointsTo l' v' + rest))) : l ≠ l' := by
  rintro rfl
  exact holds.not_mem_rest v' (Multiset.mem_add.mpr (.inl (Multiset.mem_singleton_self _)))

theorem eq_none (holds : Holds m c) (absent : ∀ v, ⟨l, v⟩ ∉ c) : m l = none := by
  cases value : m l with
  | none => rfl
  | some v => exact absurd ((holds.eq_some_iff l v).mp value) (absent v)

variable [DecidableEq L]

/-- A free location becomes a cell. -/
theorem insert (holds : Holds m c) (free : m l = none) (w : V l) :
    Holds (update m l (some w)) (pointsTo l w + c) := by
  have absent : ∀ u, ⟨l, u⟩ ∉ c := fun u member => by
    simp [(holds.eq_some_iff l u).mpr member] at free
  constructor
  · rw [pointsTo, Multiset.singleton_add, Multiset.map_cons, Multiset.nodup_cons]
    refine ⟨fun member => ?_, holds.nodup⟩
    obtain ⟨⟨_, u⟩, inside, rfl⟩ := Multiset.mem_map.mp member
    exact absent u inside
  · intro k u
    rw [pointsTo, Multiset.singleton_add, Multiset.mem_cons]
    by_cases same : k = l
    · subst same
      simp only [update_self, Option.some.injEq, Sigma.mk.injEq, heq_eq_eq, true_and]
      exact ⟨fun eq => .inl eq.symm, fun eq => (eq.resolve_right (absent u)).symm⟩
    · simp only [update_of_ne same, Sigma.mk.injEq, same, false_and, false_or]
      exact holds.eq_some_iff k u

/-- Free locations become cells. -/
theorem insertAll (holds : Holds m c) {cells : List (Sigma V)}
    (nodup : (cells.map Sigma.fst).Nodup) (free : ∀ cell ∈ cells, (m cell.1).isNone) :
    Holds (cells.foldr (fun cell m => update m cell.1 (some cell.2)) m)
      (cellsOf cells + c) := by
  induction cells with
  | nil => simpa [cellsOf] using holds
  | cons cell cells ih =>
    rw [List.map_cons, List.nodup_cons] at nodup
    have inner := ih nodup.2 fun other member => free other (List.mem_cons_of_mem _ member)
    rw [cellsOf, add_assoc]
    refine inner.insert (inner.eq_none fun v member => ?_) cell.2
    rcases Multiset.mem_add.mp member with fromCells | fromOthers
    · exact nodup.1 (List.mem_map.mpr ⟨_, mem_cellsOf.mp fromCells, rfl⟩)
    · have isFree := free cell List.mem_cons_self
      rw [(holds.eq_some_iff _ _).mpr fromOthers] at isFree
      simp at isFree

/-- A cell becomes a free location. -/
theorem remove (holds : Holds m (pointsTo l v + rest)) :
    Holds (update m l none) rest := by
  have nodup := holds.nodup
  rw [pointsTo, Multiset.singleton_add, Multiset.map_cons, Multiset.nodup_cons] at nodup
  refine ⟨nodup.2, fun k u => ?_⟩
  by_cases same : k = l
  · subst same
    simp [holds.not_mem_rest u]
  · rw [update_of_ne same, holds.eq_some_iff, pointsTo, Multiset.singleton_add,
      Multiset.mem_cons, Sigma.mk.injEq]
    simp [same]

/-- A cell gets a new value. -/
theorem update (holds : Holds m (pointsTo l v + rest)) (w : V l) :
    Holds (Function.update m l (some w)) (pointsTo l w + rest) := by
  have twice : Function.update m l (some w) =
      Function.update (Function.update m l none) l (some w) := by
    rw [update_idem]
  rw [twice]
  exact holds.remove.insert (update_self _ _ _) w

end Holds

/-! ## Looking up a cell in a sum -/

/-- The cells contain one at the location `l`. -/
class Focus (c : Cells V) (l : L) (v : outParam (V l)) (rest : outParam (Cells V)) : Prop where
  eq : c = pointsTo l v + rest

section Focus

variable (l : L) (v : V l) (p q r : Cells V)

instance : Focus (pointsTo l v) l v 0 := ⟨(add_zero _).symm⟩

instance (priority := high) : Focus (pointsTo l v + q) l v q := ⟨rfl⟩

instance (priority := high) : Focus (q + pointsTo l v) l v q := ⟨add_comm _ _⟩

instance [inside : Focus p l v r] : Focus (p + q) l v (r + q) :=
  ⟨by rw [inside.eq, add_assoc]⟩

instance [inside : Focus q l v r] : Focus (p + q) l v (p + r) :=
  ⟨by rw [inside.eq, add_left_comm]⟩

end Focus

/-! ## Triples -/

/-- Started on the cells `c`, and whatever else is in the memory, the program succeeds. Its
result and the cells it leaves satisfy `Q`, and everything else is as it was. -/
def Triple (c : Cells V) (program : Program V ρ) (Q : ρ → Cells V → Prop) : Prop :=
  ∀ frame m, Holds m (c + frame) →
    ∃ result m' c', program m = some (result, m') ∧ Holds m' (c' + frame) ∧ Q result c'

namespace Triple

variable {c rest : Cells V} {Q : ρ → Cells V → Prop} {Q' : ρ' → Cells V → Prop}
  {program : Program V ρ} {next : ρ → Program V ρ'}

/-- A program that only returns. -/
theorem pure {result : ρ} (post : Q result c) : Triple c (Pure.pure result : Program V ρ) Q :=
  fun _ m holds => ⟨result, m, c, rfl, holds, post⟩

/-- One program after the other. -/
theorem bind (Middle : ρ → Cells V → Prop) (first : Triple c program Middle)
    (second : ∀ result c', Middle result c' → Triple c' (next result) Q') :
    Triple c (program >>= next) Q' := by
  intro frame m holds
  obtain ⟨result, m₁, c₁, ran, holds₁, middle⟩ := first frame m holds
  obtain ⟨result', m₂, c₂, ran', holds₂, post⟩ := second result c₁ middle frame m₁ holds₁
  exact ⟨result', m₂, c₂, (bind_eq ran).trans ran', holds₂, post⟩

/-- A weaker condition on the result. -/
theorem mono {Weaker : ρ → Cells V → Prop} (triple : Triple c program Q)
    (weaken : ∀ result c', Q result c' → Weaker result c') : Triple c program Weaker := by
  intro frame m holds
  obtain ⟨result, m', c', ran, holds', post⟩ := triple frame m holds
  exact ⟨result, m', c', ran, holds', weaken result c' post⟩

/-- Another way to write the cells. -/
theorem congr (c' : Cells V) (same : c = c') (triple : Triple c' program Q) :
    Triple c program Q :=
  same ▸ triple

/-- Cells that the program does not know stay as they are. -/
theorem frame (triple : Triple c program Q) (rest : Cells V) :
    Triple (c + rest) program (fun result c' => ∃ d, c' = d + rest ∧ Q result d) := by
  intro frame m holds
  rw [add_assoc] at holds
  obtain ⟨result, m', d, ran, holds', post⟩ := triple (rest + frame) m holds
  exact ⟨result, m', d + rest, ran, by rwa [add_assoc], d, rfl, post⟩

/-- Run a program on some of the cells. -/
theorem framed {pre : Cells V} {Weaker : ρ → Cells V → Prop} (triple : Triple pre program Q)
    (rest : Cells V) (split : c = pre + rest)
    (weaken : ∀ result d, Q result d → Weaker result (d + rest)) : Triple c program Weaker := by
  rw [split]
  refine (triple.frame rest).mono ?_
  rintro result _ ⟨d, rfl, post⟩
  exact weaken result d post

/-- Run a program on some of the cells, and then go on. -/
theorem call {pre : Cells V} {Q : ρ → Cells V → Prop} (triple : Triple pre program Q)
    (rest : Cells V) (split : c = pre + rest)
    (then_ : ∀ result d, Q result d → Triple (d + rest) (next result) Q') :
    Triple c (program >>= next) Q' := by
  rw [split]
  refine bind _ (triple.frame rest) ?_
  rintro result _ ⟨d, rfl, post⟩
  exact then_ result d post

/-- Distinct cells have distinct locations, which a proof may use. -/
theorem of_ne (l l' : L) {v : V l} {v' : V l'} [inside : Focus c l v rest] {rest' : Cells V}
    [inside' : Focus rest l' v' rest'] (triple : l ≠ l' → Triple c program Q) :
    Triple c program Q := by
  intro frame m holds
  refine triple ?_ frame m holds
  rw [inside.eq, inside'.eq, add_assoc, add_assoc] at holds
  exact holds.ne

/-- A computation without effects on the memory. -/
theorem lift {value : Option ρ} {result : ρ} (succeeds : value = some result)
    (then_ : Triple c (next result) Q') : Triple c ((liftM value : Program V ρ) >>= next) Q' := by
  subst succeeds
  exact then_

variable {l : L} {v : V l}

/-- Load the value of a cell. -/
theorem load {next : V l → Program V ρ'} [inside : Focus c l v rest]
    (then_ : Triple c (next v) Q') : Triple c (Memory.load l >>= next) Q' := by
  refine bind (fun value c' => value = v ∧ c' = c) (fun frame m holds => ?_) ?_
  · have value : m l = some v := by
      rw [inside.eq, add_assoc] at holds
      exact holds.eq_some
    exact ⟨v, m, c, by simp [Memory.load, value], holds, rfl, rfl⟩
  · rintro _ _ ⟨rfl, rfl⟩
    exact then_

variable [DecidableEq L]

/-- Store a value in a cell. -/
theorem store {w : V l} {next : Unit → Program V ρ'} [inside : Focus c l v rest]
    (then_ : Triple (pointsTo l w + rest) (next ()) Q') :
    Triple c (Memory.store l w >>= next) Q' := by
  refine bind (fun _ c' => c' = pointsTo l w + rest) (fun frame m holds => ?_) ?_
  · rw [inside.eq, add_assoc] at holds
    refine ⟨(), _, _, ?_, add_assoc (pointsTo l w) rest frame ▸ holds.update w, rfl⟩
    simp [Memory.store, holds.eq_some]
  · rintro _ _ rfl
    exact then_

/-- Store a value in a cell, as the last thing a program does. -/
theorem store_last {w : V l} {Q : Unit → Cells V → Prop} [inside : Focus c l v rest]
    (post : Q () (pointsTo l w + rest)) : Triple c (Memory.store l w) Q := by
  intro frame m holds
  rw [inside.eq, add_assoc] at holds
  refine ⟨(), _, _, ?_, add_assoc (pointsTo l w) rest frame ▸ holds.update w, post⟩
  simp [Memory.store, holds.eq_some]

/-- Release a cell. -/
theorem release {next : Unit → Program V ρ'} [inside : Focus c l v rest]
    (then_ : Triple rest (next ()) Q') : Triple c (Memory.release l >>= next) Q' := by
  refine bind (fun _ c' => c' = rest) (fun frame m holds => ?_) ?_
  · rw [inside.eq, add_assoc] at holds
    exact ⟨(), _, _, by simp [Memory.release, holds.eq_some], holds.remove, rfl⟩
  · rintro _ _ rfl
    exact then_

/-- Release a cell, as the last thing a program does. -/
theorem release_last {Q : Unit → Cells V → Prop} [inside : Focus c l v rest] (post : Q () rest) :
    Triple c (Memory.release l) Q := by
  intro frame m holds
  rw [inside.eq, add_assoc] at holds
  exact ⟨(), _, _, by simp [Memory.release, holds.eq_some], holds.remove, post⟩

omit [DecidableEq L] in
/-- One pass of a loop. -/
theorem loop_step {body : σ → Program V (Pass σ ρ)} {fuel : ℕ} {state : σ}
    (step : Triple c (body state) fun pass c' =>
      pass.Meets (fun next => Triple c' (Memory.loop body fuel next) Q)
        (fun result => Q result c')) :
    Triple c (Memory.loop body (fuel + 1) state) Q := by
  refine bind _ step fun pass c' meets => ?_
  cases pass with
  | again next => exact meets
  | leave result => exact pure meets

omit [DecidableEq L] in
/-- **The rule for loops.** The invariant carries a number that every pass lowers. -/
theorem loop {body : σ → Program V (Pass σ ρ)} (Invariant : ℕ → σ → Cells V → Prop)
    (step : ∀ n state c, Invariant n state c → Triple c (body state) fun pass c' =>
      pass.Meets (fun next => ∃ n' < n, Invariant n' next c') (fun result => Q result c'))
    {n fuel : ℕ} {state : σ} (invariant : Invariant n state c) (enough : n < fuel) :
    Triple c (Memory.loop body fuel state) Q := by
  induction fuel generalizing n state c with
  | zero => omega
  | succ fuel ih =>
    refine loop_step ((step n state c invariant).mono fun pass c' meets => ?_)
    cases pass with
    | again next =>
      obtain ⟨n', lower, kept⟩ := meets
      exact ih kept (by omega)
    | leave result => exact meets

end Triple

end Cloudlibc.Memory
