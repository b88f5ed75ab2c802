import Cloudlibc.Foundations.Comparison
import Cloudlibc.Search.TreeCells

/-!
# Descents in a search tree

`tsearch()` and `tdelete()` walk down a tree with three variables: the slot they have
reached, a slot above it where they will start to rebalance, and the steps from there. The
first frame below that slot, and no later one, is one that stops the change of heights
(`Position`). Which frames stop it differs between the two functions.

The keys before the position compare below the one that is looked for, and the keys behind it
above (`Separates`).
-/

set_option autoImplicit false

namespace Cloudlibc.Search

open Cloudlibc.AvlTree Cloudlibc.Comparison Cloudlibc.Loop Cloudlibc.Memory
open List hiding after

variable {κ : Type}

/-! ## Positions -/

/-- The variables of a descent describe a position in the tree `t` at `base`: the frames `outer`
lead to where the rebalancing starts, the frames `inner` from there to the subtree `s`. -/
structure Position (Stops : NodeFrame κ → Prop) (base : Slot) (t : NodeTree κ) (state : Descent)
    (outer inner : List (NodeFrame κ)) (s : NodeTree κ) : Prop where
  plug_eq : plug (outer ++ inner) s = t
  rootp_eq : state.rootp = hole base outer
  leaf_eq : state.leaf = hole base (outer ++ inner)
  records : state.path.Records (inner.map Frame.side)
  nsteps_eq : state.path.nsteps = inner.length
  passes : ∀ frame ∈ inner.tail, ¬ Stops frame
  starts : outer ≠ [] → ∃ frame frames, inner = frame :: frames ∧ Stops frame

/-- A subtree and the frames above it are no higher than the tree. -/
theorem length_add_height_le (frames : List (NodeFrame κ)) (s : NodeTree κ) :
    frames.length + s.height ≤ (plug frames s).height := by
  induction frames with
  | nil => simp [plug]
  | cons frame frames ih =>
    obtain ⟨side, entry, sibling⟩ := frame
    cases side with
    | left =>
      simp only [plug, Frame.fill, BinaryTree.height, length_cons]
      omega
    | right =>
      simp only [plug, Frame.fill, BinaryTree.height, length_cons]
      omega

namespace Position

variable {Stops : NodeFrame κ → Prop} {base : Slot} {t s : NodeTree κ} {state : Descent}
  {outer inner : List (NodeFrame κ)}

/-- The start of a descent. -/
theorem start (Stops : NodeFrame κ → Prop) (base : Slot) (t : NodeTree κ) (path : Path) :
    Position Stops base t { rootp := base, path := path.init, leaf := base } [] [] t where
  plug_eq := rfl
  rootp_eq := rfl
  leaf_eq := rfl
  records := Path.records_nil _
  nsteps_eq := rfl
  passes _ member := absurd member not_mem_nil
  starts nonempty := absurd rfl nonempty

/-- The cells of the tree, seen from the position. -/
theorem cells_eq (position : Position Stops base t state outer inner s) :
    treeCells base t = frameCells base (outer ++ inner) + treeCells state.leaf s := by
  rw [← position.plug_eq, treeCells_plug, position.leaf_eq]

/-- **A step of a descent**, which starts over at a frame that stops the change of heights. -/
theorem step_at (frame : NodeFrame κ) [Decidable (Stops frame)]
    (position : Position Stops base t state outer inner (frame.fill s)) (low : t.height < 128) :
    ∃ path outer' inner',
      (if Stops frame then state.restart else state).path.takingSide frame.side = some path ∧
      outer' ++ inner' = (outer ++ inner) ++ [frame] ∧
      Position Stops base t
        { (if Stops frame then state.restart else state) with
          path := path
          leaf := .child (address frame.entry) frame.side } outer' inner' s := by
  have heights := length_add_height_le (outer ++ inner) (frame.fill s)
  rw [position.plug_eq, length_append] at heights
  have plugged : plug ((outer ++ inner) ++ [frame]) s = t := by
    rw [plug_append]
    exact position.plug_eq
  have below : Slot.child (address frame.entry) frame.side =
      hole base ((outer ++ inner) ++ [frame]) := by
    rw [hole_append]
    rfl
  by_cases stops : Stops frame
  · simp only [stops, if_true]
    obtain ⟨path, taken, records, count⟩ := Path.takingSide_spec
      (Path.records_nil state.restart.path) rfl (by decide) frame.side
    refine ⟨path, outer ++ inner, [frame], taken, rfl, plugged, position.leaf_eq, below, records,
      count, fun other member => absurd member not_mem_nil, fun _ => ⟨frame, [], rfl, stops⟩⟩
  · simp only [stops, if_false]
    obtain ⟨path, taken, records, count⟩ := Path.takingSide_spec position.records
      (by rw [length_map, position.nsteps_eq]) (by rw [length_map]; omega) frame.side
    have assoc : outer ++ (inner ++ [frame]) = (outer ++ inner) ++ [frame] :=
      (append_assoc _ _ _).symm
    refine ⟨path, outer, inner ++ [frame], taken, assoc, by rw [assoc, plugged], position.rootp_eq,
      by rw [assoc]; exact below, by simpa using records, by simpa using count, ?_, ?_⟩
    · intro other member
      cases inner with
      | nil => simp at member
      | cons first rest =>
        rw [cons_append, tail_cons, mem_append, mem_singleton] at member
        rcases member with earlier | rfl
        · exact position.passes other earlier
        · exact stops
    · intro nonempty
      obtain ⟨first, rest, rfl, stopsFirst⟩ := position.starts nonempty
      exact ⟨first, rest ++ [frame], rfl, stopsFirst⟩

/-- The key of a node above the position does not matter to the descent. -/
theorem replace (position : Position Stops base t state outer inner s)
    {first second : List (NodeFrame κ)} {frame : NodeFrame κ} (frame' : NodeFrame κ)
    (frames : outer ++ inner = first ++ frame :: second) (side : frame'.side = frame.side)
    (same : address frame'.entry = address frame.entry) (stops : Stops frame' ↔ Stops frame) :
    ∃ outer' inner', outer' ++ inner' = first ++ frame' :: second ∧
      Position Stops base (plug (first ++ frame' :: second) s) state outer' inner' s := by
  have holes : ∀ slot frames, hole slot (frame' :: frames) = hole slot (frame :: frames) := by
    intro slot frames
    simp only [hole, same, side]
  rcases append_eq_append_iff.mp frames with ⟨middle, rfl, rfl⟩ | ⟨middle, rfl, split⟩
  · have joined : outer ++ (middle ++ frame' :: second) = outer ++ middle ++ frame' :: second :=
      (append_assoc _ _ _).symm
    refine ⟨outer, middle ++ frame' :: second, joined, by rw [joined], position.rootp_eq, ?_,
      by simpa [side] using position.records, by simpa using position.nsteps_eq, ?_, ?_⟩
    · rw [position.leaf_eq, frames, joined, hole_append base (outer ++ middle),
        hole_append base (outer ++ middle), holes]
    · intro other member
      have passes := position.passes
      cases middle with
      | nil => exact passes other member
      | cons head middle =>
        simp only [cons_append, tail_cons, mem_append, mem_cons]
          at member passes
        rcases member with earlier | rfl | later
        · exact passes other (.inl earlier)
        · exact mt stops.mp (passes frame (.inr (.inl rfl)))
        · exact passes other (.inr (.inr later))
    · intro nonempty
      obtain ⟨head, tail, eq, stopsHead⟩ := position.starts nonempty
      cases middle with
      | nil =>
        obtain ⟨rfl, -⟩ := cons.inj eq
        exact ⟨frame', second, rfl, stops.mpr stopsHead⟩
      | cons top middle =>
        obtain ⟨rfl, -⟩ := cons.inj eq
        exact ⟨top, middle ++ frame' :: second, rfl, stopsHead⟩
  · cases middle with
    | nil =>
      obtain rfl : inner = frame :: second := split.symm
      obtain rfl | nonempty := eq_or_ne first []
      · refine ⟨[], frame' :: second, rfl, rfl, position.rootp_eq, ?_,
          by simpa [side] using position.records, by simpa using position.nsteps_eq,
          position.passes, fun nonempty => absurd rfl nonempty⟩
        rw [position.leaf_eq]
        exact (holes _ _).symm
      · obtain ⟨head, tail, eq, stopsHead⟩ := position.starts (by simpa using nonempty)
        obtain ⟨rfl, -⟩ := cons.inj eq
        refine ⟨first, frame' :: second, rfl, rfl, by simpa using position.rootp_eq, ?_,
          by simpa [side] using position.records, by simpa using position.nsteps_eq,
          position.passes, fun _ => ⟨frame', second, rfl, stops.mpr stopsHead⟩⟩
        rw [position.leaf_eq, append_nil, hole_append, hole_append, holes]
    | cons head middle =>
      obtain ⟨rfl, rfl⟩ := cons.inj split
      refine ⟨first ++ frame' :: middle, inner, by simp, by simp, ?_, ?_, position.records,
        position.nsteps_eq, position.passes, fun _ => position.starts (by simp)⟩
      · rw [position.rootp_eq, hole_append, hole_append, holes]
      · rw [position.leaf_eq, hole_append, hole_append, hole_append, hole_append, holes]

end Position

/-! ## The order of the keys -/

/-- The keys of the tree are in strictly increasing order. -/
def Ordered (compar : κ → κ → ℤ) (t : NodeTree κ) : Prop :=
  (inorder t).Pairwise fun v w => compar v.2 w.2 < 0

/-- A key belongs into the hole of the frames. -/
structure Separates (compar : κ → κ → ℤ) (key : κ) (frames : List (NodeFrame κ)) : Prop where
  before_lt : ∀ v ∈ before frames, compar v.2 key < 0
  after_gt : ∀ v ∈ after frames, compar key v.2 < 0

namespace Separates

variable {compar : κ → κ → ℤ} {key : κ} {frames : List (NodeFrame κ)}
  {entry : Entry (Pointer × κ)} {l r : NodeTree κ}

theorem nil (compar : κ → κ → ℤ) (key : κ) : Separates compar key ([] : List (NodeFrame κ)) :=
  ⟨fun _ member => absurd member not_mem_nil, fun _ member => absurd member not_mem_nil⟩

/-- A smaller key belongs to the left. -/
theorem goLeft (total : IsComparison compar) (separates : Separates compar key frames)
    (ordered : Ordered compar (plug frames (.node entry l r))) (less : compar key entry.value.2 < 0) :
    Separates compar key (frames ++ [⟨.left, entry, r⟩]) := by
  rw [Ordered, inorder_plug, inorder] at ordered
  have inner := (pairwise_append.mp (pairwise_append.mp ordered).1).2.1
  have behind := (pairwise_cons.mp (pairwise_append.mp inner).2.1).1
  constructor
  · rw [before_append]
    simpa [before] using separates.before_lt
  · rw [after_append]
    intro v member
    simp only [after, nil_append, mem_append, mem_cons] at member
    rcases member with (rfl | inRight) | later
    · exact less
    · exact total.lt_trans less (behind v inRight)
    · exact separates.after_gt v later

/-- A larger key belongs to the right. -/
theorem goRight (total : IsComparison compar) (separates : Separates compar key frames)
    (ordered : Ordered compar (plug frames (.node entry l r))) (more : compar entry.value.2 key < 0) :
    Separates compar key (frames ++ [⟨.right, entry, l⟩]) := by
  rw [Ordered, inorder_plug, inorder] at ordered
  have inner := (pairwise_append.mp (pairwise_append.mp ordered).1).2.1
  have infront := (pairwise_append.mp inner).2.2
  constructor
  · rw [before_append]
    intro v member
    simp only [before, mem_append, mem_cons, not_mem_nil, or_false] at member
    rcases member with earlier | inLeft | rfl
    · exact separates.before_lt v earlier
    · exact total.lt_trans (infront v inLeft _ mem_cons_self) more
    · exact more
  · rw [after_append]
    simpa [after] using separates.after_gt

/-- A key that belongs into an empty hole is not in the tree. -/
theorem absent (total : IsComparison compar) (separates : Separates compar key frames) :
    ∀ v ∈ inorder (plug frames (.nil : NodeTree κ)), compar key v.2 ≠ 0 := by
  intro v member equal
  rw [inorder_plug] at member
  simp only [inorder, append_nil, mem_append] at member
  rcases member with earlier | later
  · have := separates.before_lt v earlier
    rw [total.eq_zero_iff.mp equal] at this
    omega
  · have := separates.after_gt v later
    omega

end Separates

/-! ## Search trees -/

/-- The tree is balanced, its keys are in order and no node is at the null pointer. -/
structure SearchTree (compar : κ → κ → ℤ) (t : NodeTree κ) : Prop where
  avl : IsAvl t
  ordered : Ordered compar t
  nonnull : ∀ v ∈ inorder t, v.1 ≠ 0

/-- The root of a subtree is a node of the tree. -/
theorem SearchTree.address_ne_zero {compar : κ → κ → ℤ} {t : NodeTree κ}
    (tree : SearchTree compar t) {frames : List (NodeFrame κ)} {entry : Entry (Pointer × κ)}
    {l r : NodeTree κ} (plugged : plug frames (.node entry l r) = t) : address entry ≠ 0 := by
  refine tree.nonnull entry.value ?_
  rw [← plugged, inorder_plug]
  simp [inorder]

end Cloudlibc.Search
