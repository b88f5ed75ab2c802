import Cloudlibc.Foundations.Memory

/-!
# Arrays of elements in a memory of bytes

A region of memory holds elements of a fixed width, one behind the other (`Region.Holds`). A program
runs on the region (`Region.Runs`) if it succeeds whatever the rest of the memory is, even if
nothing else is allocated, leaves the rest as it is, and leaves elements in the region that satisfy
a condition. Programs are composed by `Region.Runs.bind`, and loops are treated by
`Region.Runs.loop`.
-/

set_option autoImplicit false

namespace Cloudlibc.ElementArray

open Cloudlibc.Loop Cloudlibc.Memory

/-- Every location of the memory holds a byte. -/
abbrev Byte : ℤ → Type := fun _ => UInt8

/-- Load some bytes. -/
def readBytes : (p : ℤ) → (n : ℕ) → Program Byte (List UInt8)
  | _, 0 => pure []
  | p, n + 1 => do
      let b ← load p
      let bytes ← readBytes (p + 1) n
      pure (b :: bytes)

theorem readBytes_run {m : Mem Byte} {bytes : List UInt8} :
    ∀ {p : ℤ}, (∀ k < bytes.length, m (p + k) = bytes[k]?) →
      readBytes p bytes.length m = some (bytes, m) := by
  induction bytes with
  | nil => exact fun _ => rfl
  | cons b bytes ih =>
    intro p held
    have first := held 0 (Nat.succ_pos _)
    rw [Nat.cast_zero, add_zero, List.getElem?_cons_zero] at first
    have loaded : load p m = some (b, m) := by simp [load, first]
    have rest : readBytes (p + 1) bytes.length m = some (bytes, m) := by
      refine ih fun k less => ?_
      have next := held (k + 1) (Nat.succ_lt_succ less)
      rw [List.getElem?_cons_succ] at next
      rw [← next]
      congr 1
      push_cast
      ring
    rw [List.length_cons, readBytes, bind_eq loaded, bind_eq rest]
    rfl

/-! ## Regions -/

/-- A region of `count` elements of `width` bytes. -/
structure Region where
  base : ℤ
  width : ℕ
  count : ℕ
  width_pos : 0 < width

namespace Region

variable (A : Region) {ρ ρ' σ : Type}

/-- The address of an element. -/
def address (i : ℕ) : ℤ := A.base + i * A.width

/-- The address lies outside the region. -/
def Outside (z : ℤ) : Prop := z < A.base ∨ A.address A.count ≤ z

/-- The region holds the first elements of a sequence. -/
structure Holds (m : Mem Byte) (f : ℕ → List UInt8) : Prop where
  length : ∀ i < A.count, (f i).length = A.width
  byte : ∀ i < A.count, ∀ k < A.width, m (A.address i + k) = (f i)[k]?

/-- Run on the region, the program succeeds, touches nothing outside and satisfies a condition. -/
def Runs (f : ℕ → List UInt8) (program : Program Byte ρ)
    (Q : ρ → (ℕ → List UInt8) → Prop) : Prop :=
  ∀ m, A.Holds m f → ∃ result m' f', program m = some (result, m') ∧ A.Holds m' f' ∧
    (∀ z, A.Outside z → m' z = m z) ∧ Q result f'

variable {A}

theorem address_add (i j : ℕ) : A.address i + (j * A.width : ℕ) = A.address (i + j) := by
  rw [address, address]
  push_cast
  ring

theorem address_succ (i : ℕ) : A.address (i + 1) = A.address i + A.width := by
  rw [← address_add, Nat.one_mul]

variable {j i : ℕ}

theorem address_sub (le : j ≤ i) : A.address i - (j * A.width : ℕ) = A.address (i - j) := by
  obtain ⟨k, rfl⟩ := Nat.exists_eq_add_of_le' le
  rw [← address_add, Nat.add_sub_cancel, add_sub_cancel_right]

theorem address_add_le (less : i < j) : A.address i + A.width ≤ A.address j := by
  have more : ((i + 1 : ℕ) : ℤ) * A.width ≤ j * A.width := by
    exact_mod_cast Nat.mul_le_mul_right A.width (Nat.succ_le_of_lt less)
  rw [← address_succ, address, address]
  exact add_le_add_right more A.base

theorem address_lt_iff : A.address i < A.address j ↔ i < j := by
  have pos := A.width_pos
  constructor
  · intro less
    by_contra notLess
    rcases (not_lt.mp notLess).eq_or_lt with rfl | more
    · exact lt_irrefl _ less
    · have := A.address_add_le more
      omega
  · intro less
    have := A.address_add_le less
    omega

theorem address_le_iff : A.address i ≤ A.address j ↔ i ≤ j := by
  rw [← not_lt, address_lt_iff, not_lt]

/-- The element in front of `j` is not in front of element `i`. -/
theorem address_le_sub_iff : A.address i ≤ A.address j - A.width ↔ i < j := by
  rw [le_sub_iff_add_le, ← address_succ, address_le_iff, Nat.succ_le_iff]

theorem address_succ_sub (i : ℕ) : A.address (i + 1) - A.width = A.address i := by
  rw [address_succ, add_sub_cancel_right]

theorem address_sub_address (le : i ≤ j) : A.address j - A.address i = ((j - i) * A.width : ℕ) := by
  obtain ⟨k, rfl⟩ := Nat.exists_eq_add_of_le le
  rw [← address_add, Nat.add_sub_cancel_left, add_sub_cancel_left]

/-- An address outside the region lies beside every element. -/
theorem Outside.beside {z : ℤ} (outside : A.Outside z) (element : i < A.count) :
    z < A.address i ∨ A.address i + A.width ≤ z := by
  rcases outside with before | behind
  · have above : (0 : ℤ) ≤ i * A.width := by positivity
    rw [address]
    exact .inl (by omega)
  · exact .inr ((A.address_add_le element).trans behind)

/-! ## Programs on a region -/

namespace Runs

variable {f : ℕ → List UInt8} {program : Program Byte ρ} {Q : ρ → (ℕ → List UInt8) → Prop}
  {next : ρ → Program Byte ρ'} {Q' : ρ' → (ℕ → List UInt8) → Prop}

theorem mono {Weaker : ρ → (ℕ → List UInt8) → Prop} (runs : A.Runs f program Q)
    (weaken : ∀ result f', Q result f' → Weaker result f') : A.Runs f program Weaker := by
  intro m holds
  obtain ⟨result, m', f', ran, holds', outside, post⟩ := runs m holds
  exact ⟨result, m', f', ran, holds', outside, weaken result f' post⟩

theorem pure {result : ρ} (post : Q result f) : A.Runs f (Pure.pure result) Q :=
  fun m holds => ⟨result, m, f, rfl, holds, fun _ _ => rfl, post⟩

theorem bind (runs : A.Runs f program Q)
    (then_ : ∀ result f', Q result f' → A.Runs f' (next result) Q') :
    A.Runs f (program >>= next) Q' := by
  intro m holds
  obtain ⟨result, m', f', ran, holds', outside, post⟩ := runs m holds
  obtain ⟨result', m'', f'', ran', holds'', outside', post'⟩ := then_ result f' post m' holds'
  refine ⟨result', m'', f'', ?_, holds'', ?_, post'⟩
  · rw [bind_eq ran, ran']
  · intro z out
    rw [outside' z out, outside z out]

/-- The elements are read, and go on. -/
theorem read {i : ℕ} {next : List UInt8 → Program Byte ρ'} (element : i < A.count)
    (then_ : A.Runs f (next (f i)) Q') :
    A.Runs f (readBytes (A.address i) A.width >>= next) Q' := by
  intro m holds
  have ran : readBytes (A.address i) A.width m = some (f i, m) := by
    rw [← holds.length i element]
    refine readBytes_run fun k less => ?_
    exact holds.byte i element k (holds.length i element ▸ less)
  rw [bind_eq ran]
  exact then_ m holds

/-- **The rule for loops.** The invariant carries a number that every pass lowers. -/
theorem loop {body : σ → Program Byte (Pass σ ρ)}
    (Invariant : ℕ → σ → (ℕ → List UInt8) → Prop)
    (step : ∀ n state f, Invariant n state f → A.Runs f (body state) fun pass f' =>
      pass.Meets (fun next => ∃ n' < n, Invariant n' next f') (Q · f'))
    {n fuel : ℕ} {state : σ} (invariant : Invariant n state f) (enough : n < fuel) :
    A.Runs f (Memory.loop body fuel state) Q := by
  induction fuel generalizing n state f with
  | zero => exact absurd enough (Nat.not_lt_zero _)
  | succ fuel ih =>
    refine bind (step n state f invariant) ?_
    intro pass f' meets
    cases pass with
    | again next =>
      obtain ⟨n', lower, kept⟩ := meets
      exact ih kept (lower.trans_le (Nat.le_of_lt_succ enough))
    | leave result => exact pure meets

end Runs

end Region

end Cloudlibc.ElementArray
