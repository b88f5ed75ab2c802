import Cloudlibc.Foundations.AvlTree

/-!
# Paths in a search tree

`struct path` of `libc/search/search_impl.h` records the steps from a node of a tree to a
leaf in two machine words, and replays them from the start. `path_init()` resets only the
number of steps, so the words hold whatever they held before; a step writes its own bit.

A path that has recorded fewer than 128 steps takes another one
(`Path.takingSide_spec`), and replaying gives back the steps in order
(`Path.tookLeft_spec`). A 129th step would be written outside of the two words.
-/

set_option autoImplicit false

namespace Cloudlibc.Search

open Cloudlibc.AvlTree List

/-- `struct path`: `steps[2]` and `nsteps`. -/
structure Path where
  steps0 : BitVec 64
  steps1 : BitVec 64
  nsteps : ℕ
  deriving DecidableEq, Repr

namespace Path

/-- `path_init()`. -/
def init (p : Path) : Path := { p with nsteps := 0 }

/-- Update the word of `steps` that holds the next step. -/
def takingStep (p : Path) (update : BitVec 64 → BitVec 64 → BitVec 64) : Option Path :=
  let mask := 1#64 <<< (p.nsteps % 64)
  match p.nsteps / 64 with
  | 0 => some { p with steps0 := update p.steps0 mask, nsteps := p.nsteps + 1 }
  | 1 => some { p with steps1 := update p.steps1 mask, nsteps := p.nsteps + 1 }
  | _ => none

/-- `path_taking_left()`. -/
def takingLeft (p : Path) : Option Path := p.takingStep fun word mask => word ||| mask

/-- `path_taking_right()`. -/
def takingRight (p : Path) : Option Path := p.takingStep fun word mask => word &&& ~~~ mask

/-- `path_took_left()`. -/
def tookLeft (p : Path) : Bool × Path :=
  (decide (p.steps0 &&& 1#64 ≠ 0#64),
    { p with
      steps0 := (p.steps0 >>> 1) ||| (p.steps1 <<< 63)
      steps1 := p.steps1 >>> 1 })

/-! ## The recorded steps -/

/-- A step to a side. -/
def takingSide (p : Path) : Side → Option Path
  | .left => p.takingLeft
  | .right => p.takingRight

/-- The bit of the step at an index. -/
def bit (p : Path) (i : ℕ) : Bool :=
  if i < 64 then p.steps0.getLsbD i else p.steps1.getLsbD (i - 64)

/-- The first steps of the path, from the next one to be replayed. -/
def Records (p : Path) (sides : List Side) : Prop :=
  sides.length ≤ 128 ∧ ∀ i side, sides[i]? = some side → p.bit i = decide (side = .left)

/-- A path without steps. -/
theorem records_nil (p : Path) : p.Records [] :=
  ⟨Nat.zero_le _, fun i side step => by simp at step⟩

theorem getLsbD_mask {k i : ℕ} (inside : i < 64) :
    (1#64 <<< k).getLsbD i = decide (k = i) := by
  rw [← BitVec.twoPow_eq, BitVec.getLsbD_twoPow]
  by_cases same : k = i
  · simp [same, inside]
  · simp [same]

theorem takingStep_bit {p : Path} (room : p.nsteps < 128)
    (update : BitVec 64 → BitVec 64 → BitVec 64) (value : Bool)
    (updates : ∀ word k i, i < 64 →
      (update word (1#64 <<< k)).getLsbD i = if k = i then value else word.getLsbD i) :
    ∃ p', p.takingStep update = some p' ∧ p'.nsteps = p.nsteps + 1 ∧
      ∀ i < 128, p'.bit i = if i = p.nsteps then value else p.bit i := by
  rcases Nat.lt_or_ge p.nsteps 64 with first | second
  · have index : p.nsteps / 64 = 0 := by omega
    simp only [takingStep, index]
    refine ⟨_, rfl, rfl, fun i inside => ?_⟩
    by_cases low : i < 64
    · simp only [bit, low, if_true, updates _ _ i low, Nat.mod_eq_of_lt first]
      simp only [eq_comm]
    · rw [if_neg (by omega)]
      simp only [bit, low, if_false]
  · have index : p.nsteps / 64 = 1 := by omega
    simp only [takingStep, index]
    refine ⟨_, rfl, rfl, fun i inside => ?_⟩
    by_cases low : i < 64
    · rw [if_neg (by omega)]
      simp only [bit, low, if_true]
    · simp only [bit, low, if_false, updates _ _ (i - 64) (by omega)]
      refine if_congr ?_ rfl rfl
      omega

/-- **A path takes a further step as long as there is room for it.** -/
theorem takingSide_spec {p : Path} {sides : List Side} (records : p.Records sides)
    (count : p.nsteps = sides.length) (room : sides.length < 128) (side : Side) :
    ∃ p', p.takingSide side = some p' ∧ p'.Records (sides ++ [side]) ∧
      p'.nsteps = (sides ++ [side]).length := by
  obtain ⟨p', taken, nsteps, bits⟩ :
      ∃ p', p.takingSide side = some p' ∧ p'.nsteps = p.nsteps + 1 ∧
        ∀ i < 128, p'.bit i = if i = p.nsteps then decide (side = .left) else p.bit i := by
    cases side with
    | left =>
      refine takingStep_bit (by omega) (fun word mask => word ||| mask) true
        fun word k i inside => ?_
      rw [BitVec.getLsbD_or, getLsbD_mask inside]
      by_cases same : k = i <;> simp [same]
    | right =>
      refine takingStep_bit (by omega) (fun word mask => word &&& ~~~ mask) false
        fun word k i inside => ?_
      rw [BitVec.getLsbD_and, BitVec.getLsbD_not, getLsbD_mask inside]
      by_cases same : k = i <;> simp [same, inside]
  refine ⟨p', taken, ⟨by simp only [length_append, length_singleton]; omega, ?_⟩,
    by simp only [length_append, length_singleton]; omega⟩
  intro i step recorded
  obtain ⟨inside, -⟩ := List.getElem?_eq_some_iff.mp recorded
  rw [length_append, length_singleton] at inside
  rw [bits i (by omega), count]
  split_ifs with last
  · rw [last, getElem?_concat_length, Option.some.injEq] at recorded
    rw [recorded]
  · rw [getElem?_append_left (by omega)] at recorded
    exact records.2 i step recorded

/-- **Replaying a path gives its first step and leaves the others.** -/
theorem tookLeft_spec {p : Path} {side : Side} {sides : List Side}
    (records : p.Records (side :: sides)) :
    p.tookLeft.1 = decide (side = .left) ∧ p.tookLeft.2.Records sides := by
  have room : sides.length + 1 ≤ 128 := records.1
  constructor
  · have first := records.2 0 side rfl
    rw [← first]
    simp only [tookLeft, bit, Nat.zero_lt_succ, if_true]
    have single := BitVec.and_twoPow p.steps0 0
    rw [BitVec.twoPow_zero] at single
    rw [single]
    cases p.steps0.getLsbD 0 <;> simp
  · refine ⟨by omega, fun i step recorded => ?_⟩
    have next := records.2 (i + 1) step (by rw [getElem?_cons_succ, recorded])
    rw [← next]
    simp only [tookLeft, bit]
    rcases lt_trichotomy i 63 with low | rfl | high
    · simp [show i < 64 by omega, show i + 1 < 64 by omega, low, Nat.add_comm]
    · simp
    · rw [if_neg (by omega), if_neg (by omega), BitVec.getLsbD_ushiftRight]
      congr 1
      omega

/-- The answers of `k` calls of `path_took_left()`. -/
def tookLefts (p : Path) : ℕ → List Bool
  | 0 => []
  | k + 1 => p.tookLeft.1 :: p.tookLeft.2.tookLefts k

theorem takingSides_spec (sides : List Side) {p : Path} {before : List Side}
    (records : p.Records before) (count : p.nsteps = before.length)
    (room : (before ++ sides).length ≤ 128) :
    ∃ p', sides.foldlM takingSide p = some p' ∧ p'.Records (before ++ sides) := by
  induction sides generalizing p before with
  | nil => exact ⟨p, rfl, by rwa [append_nil]⟩
  | cons side sides ih =>
    rw [append_cons] at room ⊢
    obtain ⟨_, taken, records', count'⟩ := takingSide_spec records count
      (by simp only [length_append, length_singleton] at room; omega) side
    obtain ⟨_, rest, recorded⟩ := ih records' count' room
    refine ⟨_, ?_, recorded⟩
    rw [foldlM_cons, taken]
    exact rest

theorem tookLefts_spec (sides : List Side) {p : Path} (records : p.Records sides) :
    p.tookLefts sides.length = sides.map fun side => decide (side = .left) := by
  induction sides generalizing p with
  | nil => rfl
  | cons side sides ih =>
    obtain ⟨first, records'⟩ := tookLeft_spec records
    rw [length_cons, tookLefts, map_cons, first, ih records']

end Path

end Cloudlibc.Search
