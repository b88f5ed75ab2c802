import Cloudlibc.Search.TreeModel

/-!
# The cells of a tree in memory

A tree of entries, each an address with a key and a balance, occupies a slot and the fields
of its nodes (`treeCells`). The frames on the way to a position occupy everything else
(`treeCells_plug`), and the slot below them is the one a descent has reached (`hole`).

The addresses of the nodes are distinct, so a tree in memory has at most 2^64 nodes, and an
AVL tree is less than 128 high (`height_lt`): a path never outgrows its two words.

The rotations of the source turn the cells of the frames around a node into those of the
rotated frames, for every shape of the subtrees.
-/

set_option autoImplicit false

namespace Cloudlibc.Search

open Cloudlibc.AvlTree Cloudlibc.Loop Cloudlibc.Memory List Triple

variable {κ : Type}

/-- Trees of addresses with keys. -/
abbrev NodeTree (κ : Type) := BalTree (Pointer × κ)

/-- Frames of such trees. -/
abbrev NodeFrame (κ : Type) := Frame (Pointer × κ)

/-- The address of a node. -/
abbrev address (entry : Entry (Pointer × κ)) : Pointer := entry.value.1

/-- The pointer to a tree. -/
def rootPointer : NodeTree κ → Pointer
  | .nil => 0
  | .node entry _ _ => address entry

theorem rootPointer_node (entry : Entry (Pointer × κ)) (l r : NodeTree κ) :
    rootPointer (.node entry l r) = address entry := rfl

/-- The key and the balance of a node. -/
def entryCells (entry : Entry (Pointer × κ)) : Cells (Location.Value κ) :=
  pointsTo (.key (address entry)) entry.value.2 + pointsTo (.balance (address entry)) entry.balance

/-- The fields of the nodes of a tree. -/
def bodyCells : NodeTree κ → Cells (Location.Value κ)
  | .nil => 0
  | .node entry l r => entryCells entry +
      (pointsTo (.ptr (.left (address entry))) (rootPointer l) + bodyCells l) +
      (pointsTo (.ptr (.right (address entry))) (rootPointer r) + bodyCells r)

/-- A tree and the slot with the pointer to it. -/
def treeCells (slot : Slot) (t : NodeTree κ) : Cells (Location.Value κ) :=
  pointsTo (.ptr slot) (rootPointer t) + bodyCells t

section

variable (slot : Slot)

include slot

theorem treeCells_nil :
    treeCells slot (.nil : NodeTree κ) = pointsTo (.ptr slot) (0 : Pointer) := by
  simp [treeCells, rootPointer, bodyCells]

theorem treeCells_node (entry : Entry (Pointer × κ)) (l r : NodeTree κ) :
    treeCells slot (.node entry l r) = pointsTo (.ptr slot) (address entry) + entryCells entry +
      treeCells (.left (address entry)) l + treeCells (.right (address entry)) r := by
  simp only [treeCells, rootPointer, bodyCells]
  abel

instance (slot : Slot) (t : NodeTree κ) :
    Focus (treeCells slot t) (.ptr slot) (rootPointer t) (bodyCells t) := ⟨rfl⟩

instance (entry : Entry (Pointer × κ)) :
    Focus (entryCells entry) (.key (address entry)) entry.value.2
      (pointsTo (.balance (address entry)) entry.balance) := ⟨rfl⟩

instance (entry : Entry (Pointer × κ)) :
    Focus (entryCells entry) (.balance (address entry)) entry.balance
      (pointsTo (.key (address entry)) entry.value.2) := ⟨add_comm _ _⟩

/-! ## Frames -/

/-- The child slot of a node. -/
def Slot.child (n : Pointer) : Side → Slot
  | .left => .left n
  | .right => .right n

/-- The other side. -/
def other : Side → Side
  | .left => .right
  | .right => .left

/-- The slot below a list of frames. -/
def hole (slot : Slot) : List (NodeFrame κ) → Slot
  | [] => slot
  | frame :: frames => hole (.child (address frame.entry) frame.side) frames

/-- Everything above the hole of a list of frames. -/
def frameCells (slot : Slot) : List (NodeFrame κ) → Cells (Location.Value κ)
  | [] => 0
  | frame :: frames => pointsTo (.ptr slot) (address frame.entry) + entryCells frame.entry +
      treeCells (.child (address frame.entry) (other frame.side)) frame.sibling +
      frameCells (.child (address frame.entry) frame.side) frames

instance (slot : Slot) (frame : NodeFrame κ) (frames : List (NodeFrame κ)) :
    Focus (frameCells slot (frame :: frames)) (.ptr slot) (address frame.entry)
      (entryCells frame.entry +
        treeCells (.child (address frame.entry) (other frame.side)) frame.sibling +
        frameCells (.child (address frame.entry) frame.side) frames) :=
  ⟨by simp only [frameCells, add_assoc]⟩

theorem hole_append (first second : List (NodeFrame κ)) :
    hole slot (first ++ second) = hole (hole slot first) second := by
  induction first generalizing slot with
  | nil => rfl
  | cons frame first ih => exact ih _

theorem frameCells_append (first second : List (NodeFrame κ)) :
    frameCells slot (first ++ second) = frameCells slot first + frameCells (hole slot first) second := by
  induction first generalizing slot with
  | nil => simp [frameCells, hole]
  | cons frame first ih => simp only [cons_append, frameCells, hole, ih, add_assoc]

theorem hole_map_grow (frames : List (NodeFrame κ)) :
    hole slot (frames.map Frame.grow) = hole slot frames := by
  induction frames generalizing slot with
  | nil => rfl
  | cons frame frames ih => exact ih _

theorem hole_shrink (frame : NodeFrame κ) :
    hole slot frame.shrink = .child (address frame.entry) frame.side := by
  obtain ⟨side, x, sibling⟩ := frame
  cases side with
  | left =>
    simp only [Frame.shrink]
    split_ifs
    · split
      · rfl
      · split_ifs
        · split <;> rfl
        · rfl
        · rfl
    · rfl
  | right =>
    simp only [Frame.shrink]
    split_ifs
    · split
      · rfl
      · split_ifs
        · split <;> rfl
        · rfl
        · rfl
    · rfl

theorem hole_flatMap_shrink (frames : List (NodeFrame κ)) :
    hole slot (frames.flatMap Frame.shrink) = hole slot frames := by
  induction frames generalizing slot with
  | nil => rfl
  | cons frame frames ih => rw [flatMap_cons, hole_append, hole_shrink, ih, hole]

theorem treeCells_fill (frame : NodeFrame κ) (t : NodeTree κ) :
    treeCells slot (frame.fill t) =
      frameCells slot [frame] + treeCells (.child (address frame.entry) frame.side) t := by
  obtain ⟨side, entry, sibling⟩ := frame
  cases side with
  | left =>
    simp only [Frame.fill, treeCells_node, frameCells, other, Slot.child]
    abel
  | right =>
    simp only [Frame.fill, treeCells_node, frameCells, other, Slot.child]
    abel

/-- A tree is the frames on the way to a position and the subtree there. -/
theorem treeCells_plug (frames : List (NodeFrame κ)) (t : NodeTree κ) :
    treeCells slot (plug frames t) = frameCells slot frames + treeCells (hole slot frames) t := by
  induction frames generalizing slot with
  | nil => simp [plug, frameCells, hole]
  | cons frame frames ih =>
    rw [plug, treeCells_fill, ih]
    simp only [frameCells, hole]
    abel

end

/-! ## Distinct addresses -/

theorem exists_key_cells (t : NodeTree κ) :
    ∃ rest : Multiset Location, (bodyCells t).map Sigma.fst =
      (((inorder t).map fun value => Location.key value.1 : List Location) : Multiset Location) +
        rest := by
  induction t with
  | nil => exact ⟨0, by simp [bodyCells, inorder]⟩
  | node entry l r ihLeft ihRight =>
    obtain ⟨restLeft, left⟩ := ihLeft
    obtain ⟨restRight, right⟩ := ihRight
    refine ⟨{.balance (address entry)} + {.ptr (.left (address entry))} +
      {.ptr (.right (address entry))} + restLeft + restRight, ?_⟩
    simp only [bodyCells, entryCells, pointsTo, Multiset.map_add, Multiset.map_singleton, left,
      right, inorder, map_append, map_cons, ← Multiset.coe_add, ← Multiset.cons_coe,
      ← Multiset.singleton_add]
    abel

theorem nodup_addresses {slot : Slot} {t : NodeTree κ} {rest : Cells (Location.Value κ)}
    {m : Mem (Location.Value κ)} (holds : Holds m (treeCells slot t + rest)) :
    ((inorder t).map Prod.fst).Nodup := by
  obtain ⟨others, keys⟩ := exists_key_cells t
  have nodup := holds.nodup
  rw [treeCells, Multiset.map_add, Multiset.map_add, keys] at nodup
  have fields := (Multiset.nodup_add.mp (Multiset.nodup_add.mp
    (Multiset.nodup_add.mp nodup).1).2.1).1
  exact List.Nodup.of_map Location.key (by rwa [map_map])

theorem length_inorder (t : NodeTree κ) : (inorder t).length = t.numNodes := by
  induction t with
  | nil => rfl
  | node entry l r ihLeft ihRight =>
    simp only [inorder, length_append, length_cons, ihLeft, ihRight, BinaryTree.numNodes]
    omega

/-- **An AVL tree in memory is less than 128 high.** -/
theorem height_lt {slot : Slot} {t : NodeTree κ} {rest : Cells (Location.Value κ)}
    {m : Mem (Location.Value κ)} (holds : Holds m (treeCells slot t + rest)) (avl : IsAvl t) :
    t.height < 128 := by
  have distinct : ((inorder t).map fun value => value.1.toFin).Nodup := by
    have nodup := (nodup_addresses holds).map (f := BitVec.toFin) fun a b => BitVec.toFin_inj.mp
    rwa [map_map] at nodup
  have count := List.Nodup.length_le_card distinct
  rw [length_map, length_inorder, Fintype.card_fin] at count
  exact avl.height_lt (w := 64) (by decide) count

/-! ## Rotations -/

section Rotations

variable (slot : Slot) (x y z : Entry (Pointer × κ)) (a b c d : NodeTree κ)

/-- The left-right case, around a hole on the right. -/
theorem leftRight_spec :
    Triple (frameCells slot [⟨.right, x, .node y a (.node z b c)⟩])
      (leftRight slot (address x) (address y))
      (fun _ cells => cells = frameCells slot
        [⟨.right, z.withBalance 0, .node (y.withBalance (if z.balance < 0 then 1 else 0)) a b⟩,
          ⟨.right, x.withBalance (if z.balance > 0 then -1 else 0), c⟩]) := by
  simp only [frameCells, Slot.child, other, treeCells, bodyCells, rootPointer_node, entryCells,
    leftRight]
  refine load (load (store (store (load (store
    (Triple.store (Triple.store (Triple.load (Triple.store (Triple.load (Triple.store
      (store_last ?_))))))))))))
  dsimp only [Entry.withBalance]
  abel

/-- The right-left case, around a hole on the left. -/
theorem rightLeft_spec :
    Triple (frameCells slot [⟨.left, x, .node y (.node z b c) d⟩])
      (rightLeft slot (address x) (address y))
      (fun _ cells => cells = frameCells slot
        [⟨.left, z.withBalance 0, .node (y.withBalance (if z.balance > 0 then -1 else 0)) c d⟩,
          ⟨.left, x.withBalance (if z.balance < 0 then 1 else 0), b⟩]) := by
  simp only [frameCells, Slot.child, other, treeCells, bodyCells, rootPointer_node, entryCells,
    rightLeft]
  refine load (load (store (store (load (store
    (Triple.store (Triple.store (Triple.load (Triple.store (Triple.load (Triple.store
      (store_last ?_))))))))))))
  dsimp only [Entry.withBalance]
  abel

/-- The pointers of the left-left case. -/
theorem leftLeft_spec :
    Triple (frameCells slot [⟨.right, x, .node y a b⟩]) (leftLeft slot (address x) (address y))
      (fun _ cells => cells = frameCells slot [⟨.right, y, a⟩, ⟨.right, x, b⟩]) := by
  simp only [frameCells, Slot.child, other, treeCells, bodyCells, rootPointer_node, entryCells,
    leftLeft]
  refine load (store (store (store_last ?_)))
  abel

/-- The pointers of the right-right case. -/
theorem rightRight_spec :
    Triple (frameCells slot [⟨.left, x, .node y a b⟩]) (rightRight slot (address x) (address y))
      (fun _ cells => cells = frameCells slot [⟨.left, y, b⟩, ⟨.left, x, a⟩]) := by
  simp only [frameCells, Slot.child, other, treeCells, bodyCells, rootPointer_node, entryCells,
    rightRight]
  refine load (store (store (store_last ?_)))
  abel

end Rotations

end Cloudlibc.Search
