import Mathlib

/-!
# Transition systems

A run of a transition system is the list of the states that it goes through, the latest one first.
A property of the first state that each step keeps, as long as another condition holds of the state
that it leads to, is a property of all the states of a run in which the condition holds
(`Runs.forall_of_step`).
-/

set_option autoImplicit false

namespace Cloudlibc.Transition

variable {σ : Type*} {Init : σ → Prop} {Step : σ → σ → Prop}

/-- The runs of a system. -/
inductive Runs (Init : σ → Prop) (Step : σ → σ → Prop) : List σ → Prop
  | start {state : σ} : Init state → Runs Init Step [state]
  | step {state next : σ} {states : List σ} :
      Runs Init Step (state :: states) → Step state next →
        Runs Init Step (next :: state :: states)

/-- **The rule for invariants.** -/
theorem Runs.forall_of_step {Invariant Condition : σ → Prop}
    (initial : ∀ state, Init state → Invariant state)
    (step : ∀ state next, Invariant state → Step state next → Condition next → Invariant next)
    {states : List σ} (runs : Runs Init Step states)
    (condition : ∀ state ∈ states, Condition state) : ∀ state ∈ states, Invariant state := by
  induction runs with
  | start init => exact List.forall_mem_singleton.mpr (initial _ init)
  | step runs stepped ih =>
    obtain ⟨latest, earlier⟩ := List.forall_mem_cons.mp condition
    have invariant := ih earlier
    exact List.forall_mem_cons.mpr
      ⟨step _ _ (invariant _ List.mem_cons_self) stepped latest, invariant⟩

end Cloudlibc.Transition
