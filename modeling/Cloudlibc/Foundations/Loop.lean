import Mathlib

/-!
# Loops with a bound on their passes

A loop is a body that maps a state to another pass or to the way out of the loop, and
that may fail. A run of the loop is bounded by a number of passes. The rule for loops
(`run_spec`) asks for an invariant, a measure that every pass lowers and a condition on
the results: a bound above the measure of the first state is then enough, and no pass
fails.

A loop whose passes keep an invariant and never leave has no result under any bound
(`run_eq_none`). Where every pass lowers a measure or repeats its state, a loop ends if and only if
it reaches no state that is repeated (`exists_run_iff`).
-/

set_option autoImplicit false

namespace Cloudlibc.Loop

variable {σ ρ : Type*}

/-- What one pass through the body of a loop does. -/
inductive Pass (σ ρ : Type*)
  | again (next : σ)
  | leave (result : ρ)

/-- The states that another pass starts from and the results satisfy two conditions. -/
def Pass.Meets (Again : σ → Prop) (Leave : ρ → Prop) : Pass σ ρ → Prop
  | .again next => Again next
  | .leave result => Leave result

/-- A pass that leads to another pass. -/
@[simp]
theorem Pass.meets_again {Again : σ → Prop} {Leave : ρ → Prop} (next : σ) :
    (Pass.again next : Pass σ ρ).Meets Again Leave ↔ Again next :=
  Iff.rfl

/-- A pass that leaves the loop. -/
@[simp]
theorem Pass.meets_leave {Again : σ → Prop} {Leave : ρ → Prop} (result : ρ) :
    (Pass.leave result : Pass σ ρ).Meets Again Leave ↔ Leave result :=
  Iff.rfl

/-- Run a loop for at most `fuel` passes. -/
def run (body : σ → Option (Pass σ ρ)) : ℕ → σ → Option ρ
  | 0, _ => none
  | fuel + 1, state =>
    match body state with
    | none => none
    | some (.again next) => run body fuel next
    | some (.leave result) => some result

variable {state : σ} {body : σ → Option (Pass σ ρ)} {fuel : ℕ}

/-- **The rule for loops.** -/
theorem run_spec (Invariant : σ → Prop) (measure : σ → ℕ) (Post : ρ → Prop)
    (step : ∀ state, Invariant state → ∃ pass, body state = some pass ∧
      pass.Meets (fun next => Invariant next ∧ measure next < measure state) Post)
    (invariant : Invariant state) (enough : measure state < fuel) :
    ∃ result, run body fuel state = some result ∧ Post result := by
  induction fuel generalizing state with
  | zero => omega
  | succ fuel ih =>
    obtain ⟨pass, ran, meets⟩ := step state invariant
    cases pass with
    | again next =>
      obtain ⟨kept, lower⟩ := meets
      simp only [run, ran]
      exact ih kept (by omega)
    | leave result => exact ⟨result, by simp only [run, ran], meets⟩

variable {result : ρ}

/-- More fuel does not change the result. -/
theorem run_mono {more : ℕ} (ran : run body fuel state = some result) (enough : fuel ≤ more) :
    run body more state = some result := by
  induction fuel generalizing more state with
  | zero => cases ran
  | succ fuel ih =>
    obtain ⟨more, rfl⟩ := Nat.exists_eq_add_of_le' (Nat.one_le_of_lt enough)
    simp only [run] at ran ⊢
    cases pass : body state with
    | none => simp only [pass, reduceCtorEq] at ran
    | some passed =>
      cases passed with
      | again next =>
        simp only [pass] at ran ⊢
        exact ih ran (Nat.le_of_succ_le_succ enough)
      | leave _ => simpa only [pass] using ran

/-- A loop that always makes another pass has no result. -/
theorem run_eq_none (Invariant : σ → Prop)
    (step : ∀ state, Invariant state → ∃ next, body state = some (.again next) ∧ Invariant next)
    (fuel : ℕ) (invariant : Invariant state) : run body fuel state = none := by
  induction fuel generalizing state with
  | zero => rfl
  | succ fuel ih =>
    obtain ⟨next, ran, kept⟩ := step state invariant
    simp only [run, ran]
    exact ih kept

/-! ## Reached states -/

/-- A number of passes leads from one state to another. -/
def Reaches (body : σ → Option (Pass σ ρ)) : σ → σ → Prop :=
  Relation.ReflTransGen fun state next => body state = some (.again next)

variable {start : σ}

/-- What holds at the start and is kept by every pass holds in every state that is reached. -/
theorem Reaches.invariant (reached : Reaches body start state) (Invariant : σ → Prop)
    (initial : Invariant start)
    (step : ∀ state next, Reaches body start state → Invariant state →
      body state = some (.again next) → Invariant next) :
    Invariant state := by
  induction reached with
  | refl => exact initial
  | tail before ran ih => exact step _ _ before ih ran

/-- A loop that reaches a state whose pass leaves has the result of that pass. -/
theorem Reaches.exists_run (reached : Reaches body start state)
    (left : body state = some (.leave result)) : ∃ fuel, run body fuel start = some result := by
  induction reached using Relation.ReflTransGen.head_induction_on with
  | refl => exact ⟨1, by simp only [run, left]⟩
  | head ran _ ih =>
    obtain ⟨fuel, later⟩ := ih
    exact ⟨fuel + 1, by simp only [run, ran, later]⟩

/-- The result of a loop is that of a pass from a state that the loop reaches. -/
theorem exists_reaches_of_run (ran : run body fuel start = some result) :
    ∃ state, Reaches body start state ∧ body state = some (.leave result) := by
  induction fuel generalizing start with
  | zero => cases ran
  | succ fuel ih =>
    rw [run] at ran
    cases pass : body start with
    | none => simp only [pass, reduceCtorEq] at ran
    | some passed =>
      rw [pass] at ran
      cases passed with
      | again next =>
        obtain ⟨state, reached, left⟩ := ih ran
        exact ⟨state, .head pass reached, left⟩
      | leave _ =>
        obtain rfl := Option.some.inj ran
        exact ⟨start, .refl, pass⟩

/-- A loop that reaches a state that is repeated has no result. -/
theorem run_eq_none_of_repeated (reached : Reaches body start state)
    (repeated : body state = some (.again state)) : ∀ fuel, run body fuel start = none := by
  induction reached using Relation.ReflTransGen.head_induction_on with
  | refl =>
    refine fun fuel => run_eq_none (· = state) ?_ fuel rfl
    rintro _ rfl
    exact ⟨_, repeated, rfl⟩
  | head ran _ ih =>
    intro fuel
    cases fuel with
    | zero => rfl
    | succ fuel =>
      simp only [run, ran]
      exact ih fuel

/-- **A loop whose passes lower a measure or repeat their state ends if and only if no state that it
reaches is repeated.** -/
theorem exists_run_iff (measure : σ → ℕ)
    (step : ∀ state, Reaches body start state → ∃ pass, body state = some pass ∧
      pass.Meets (fun next => next = state ∨ measure next < measure state) fun _ => True) :
    (∃ fuel result, run body fuel start = some result) ↔
      ∀ state, Reaches body start state → body state ≠ some (.again state) := by
  constructor
  · rintro ⟨fuel, result, ran⟩ state reached repeated
    rw [run_eq_none_of_repeated reached repeated fuel] at ran
    cases ran
  · intro progress
    obtain ⟨result, ran, -⟩ := run_spec (Reaches body start) measure (fun _ => True) (by
      intro state reached
      obtain ⟨pass, ran, meets⟩ := step state reached
      refine ⟨pass, ran, ?_⟩
      cases pass with
      | again next =>
        refine ⟨reached.tail ran, meets.resolve_left ?_⟩
        rintro rfl
        exact progress _ reached ran
      | leave result => exact trivial) .refl (Nat.lt_succ_self _)
    exact ⟨_, result, ran⟩

end Cloudlibc.Loop
