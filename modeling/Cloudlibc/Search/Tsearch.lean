import Cloudlibc.Search.TreeDescent

/-!
# Insertion into a search tree

`tsearch()` walks down to an empty slot and remembers the last node on the way that is not
in exact balance. The frames below that node are all in exact balance, so after the insertion
their balances are right once they are adjusted (`loop_tsearchAdjust`), and one rotation at the
node is enough (`tsearchRotate_spec`, `isAvl_insert`). The heights above it do not change.

A call finds the node with an equal key, or fails together with `malloc()` and changes nothing,
or inserts the key in its place (`tsearch_spec`).
-/

set_option autoImplicit false

namespace Cloudlibc.Search

open Cloudlibc.AvlTree Cloudlibc.Comparison Cloudlibc.Loop Cloudlibc.Memory List Triple

variable {κ : Type} {compar : κ → κ → ℤ} {base : Slot} {t : NodeTree κ}

/-! ## The search for the leaf -/

/-- A frame at which an insertion changes no height above. -/
def Inexact (frame : NodeFrame κ) : Prop := frame.entry.balance ≠ 0

instance (frame : NodeFrame κ) : Decidable (Inexact frame) :=
  inferInstanceAs (Decidable (frame.entry.balance ≠ 0))

/-- What the search of `tsearch()` ends with: a node with an equal key, or the empty slot where
the key belongs. -/
def TsearchFound (compar : κ → κ → ℤ) (base : Slot) (t : NodeTree κ) (key : κ) :
    Pointer ⊕ Descent → Prop
  | .inl n => ∃ v ∈ inorder t, v.1 = n ∧ compar key v.2 = 0
  | .inr state => ∃ outer inner, Position Inexact base t state outer inner .nil ∧
      Separates compar key (outer ++ inner)

variable {inner outer : List (NodeFrame κ)} {state : Descent}

theorem tsearchDescend_spec (total : IsComparison compar) (tree : SearchTree compar t)
    (low : t.height < 128) (key : κ) {s : NodeTree κ}
    (position : Position Inexact base t state outer inner s)
    (separates : Separates compar key (outer ++ inner)) :
    Triple (treeCells base t) (tsearchDescend compar key state) fun pass cells =>
      pass.Meets
        (fun next => ∃ n' < s.height, cells = treeCells base t ∧
          ∃ outer inner s', Position Inexact base t next outer inner s' ∧
            Separates compar key (outer ++ inner) ∧ n' = s'.height)
        (fun result => cells = treeCells base t ∧ TsearchFound compar base t key result) := by
  have cells := position.cells_eq
  cases s with
  | nil =>
    rw [cells]
    refine load ?_
    simp only [if_true]
    exact pure ⟨rfl, outer, inner, position, separates⟩
  | node entry l r =>
    rw [treeCells_node] at cells
    rw [cells]
    have nonnull := tree.address_ne_zero position.plug_eq
    have ordered := tree.ordered
    rw [← position.plug_eq] at ordered
    refine load ?_
    simp only [nonnull, if_false]
    refine load (load ?_)
    by_cases less : compar key entry.value.2 < 0
    · simp only [less, if_true]
      obtain ⟨path, outer', inner', taken, joined, next⟩ :=
        position.step_at ⟨.left, entry, r⟩ low
      refine lift taken (pure
        ⟨l.height, by simp only [BinaryTree.height]; omega, rfl, outer', inner', l, next, ?_, rfl⟩)
      rw [joined]
      exact separates.goLeft total ordered less
    · simp only [less, if_false]
      by_cases more : compar key entry.value.2 > 0
      · simp only [more, if_true]
        obtain ⟨path, outer', inner', taken, joined, next⟩ :=
          position.step_at ⟨.right, entry, l⟩ low
        refine lift taken (pure
          ⟨r.height, by simp only [BinaryTree.height]; omega, rfl, outer', inner', r, next, ?_, rfl⟩)
        rw [joined]
        exact separates.goRight total ordered ((total.neg_iff _ _).mpr more)
      · simp only [more, if_false]
        refine pure ⟨rfl, entry.value, ?_, rfl, by omega⟩
        rw [← position.plug_eq, inorder_plug]
        simp [inorder]

/-- The search of `tsearch()`. -/
theorem loop_tsearchDescend (base : Slot) (total : IsComparison compar) (tree : SearchTree compar t)
    (low : t.height < 128) (key : κ) (path : Path) :
    Triple (treeCells base t) (loop (tsearchDescend compar key) addresses
        { rootp := base, path := path.init, leaf := base })
      fun result cells => cells = treeCells base t ∧ TsearchFound compar base t key result := by
  refine loop
    (fun n state cells => cells = treeCells base t ∧ ∃ outer inner s,
      Position Inexact base t state outer inner s ∧ Separates compar key (outer ++ inner) ∧
        n = s.height) ?_
    ⟨rfl, [], [], t, Position.start _ _ _ _, Separates.nil _ _, rfl⟩
    (low.trans (by decide))
  rintro n state _ ⟨rfl, outer, inner, s, position, separates, rfl⟩
  exact tsearchDescend_spec total tree low key position separates

/-! ## The balances on the way -/

/-- The adjustment of the balances turns the frames into those above a grown subtree. -/
theorem loop_tsearchAdjust (frames : List (NodeFrame κ)) (new : Entry (Pointer × κ)) :
    ∀ (slot : Slot) (path : Path) (fuel : ℕ), path.Records (frames.map Frame.side) →
      frames.length < fuel →
      Triple (frameCells slot frames + treeCells (hole slot frames) (.node new .nil .nil))
        (loop (tsearchAdjust (hole slot frames)) fuel
          (rootPointer (plug frames (.node new .nil .nil)), path))
        fun _ cells => cells = frameCells slot (frames.map Frame.grow) +
          treeCells (hole slot frames) (.node new .nil .nil) := by
  induction frames with
  | nil =>
    intro slot path fuel records enough
    obtain ⟨fuel, rfl⟩ := Nat.exists_eq_succ_of_ne_zero (by omega : fuel ≠ 0)
    refine loop_step (load ?_)
    simp only [plug, ne_eq, not_true_eq_false, if_false]
    exact pure rfl
  | cons frame frames ih =>
    intro slot path fuel records enough
    obtain ⟨fuel, rfl⟩ := Nat.exists_eq_succ_of_ne_zero (by omega : fuel ≠ 0)
    rw [length_cons] at enough
    obtain ⟨side, entry, sibling⟩ := frame
    obtain ⟨took, records'⟩ := Path.tookLeft_spec records
    have rest := ih (.child (address entry) side) path.tookLeft.2 fuel records' (by omega)
    simp only [plug, hole, frameCells, map_cons, Frame.grow]
    refine loop_step (load ?_)
    rw [treeCells_node]
    refine of_ne (.key (address entry)) (.key (address new)) fun distinct => ?_
    have ne : address entry ≠ address new := fun same => distinct (congrArg _ same)
    rw [← treeCells_node, add_assoc, ← treeCells_plug]
    cases side with
    | left =>
      simp only [Frame.fill, rootPointer_node, ne_eq, ne, not_false_eq_true, if_true, took,
        Slot.child, decide_true]
      refine load (store (load (pure (rest.framed
        (pointsTo (.ptr slot) (address entry) + entryCells (entry.withBalance (entry.balance + 1)) +
          treeCells (.right (address entry)) sibling) ?_ ?_))))
      · rw [← treeCells_plug]
        simp only [entryCells, Entry.withBalance, other, Slot.child]
        abel
      · rintro _ _ rfl
        simp only [Entry.withBalance, other, Slot.child]
        abel
    | right =>
      simp only [Frame.fill, rootPointer_node, ne_eq, ne, not_false_eq_true, if_true, took,
        Slot.child, reduceCtorEq, decide_false, Bool.false_eq_true, if_false]
      refine load (store (load (pure (rest.framed
        (pointsTo (.ptr slot) (address entry) + entryCells (entry.withBalance (entry.balance - 1)) +
          treeCells (.left (address entry)) sibling) ?_ ?_))))
      · rw [← treeCells_plug]
        simp only [entryCells, Entry.withBalance, other, Slot.child]
        abel
      · rintro _ _ rfl
        simp only [Entry.withBalance, other, Slot.child]
        abel

/-! ## The rotation -/

/-- The rotation of `tsearch()` is the one of the tree, whenever the stored balance of the root
is the difference of the heights. -/
theorem tsearchRotate_spec {x : Entry (Pointer × κ)} {l r : NodeTree κ} (slot : Slot)
    (lAvl : IsAvl l) (rAvl : IsAvl r) (difference : x.balance = l.height - r.height) :
    Triple (treeCells slot (.node x l r)) (tsearchRotate slot)
      fun _ cells => cells = treeCells slot (rebalance (.node x l r)) := by
  unfold tsearchRotate
  rw [treeCells_node]
  refine load (load ?_)
  simp only [rebalance]
  by_cases leftHeavy : x.balance > 1
  · simp only [leftHeavy, if_true]
    obtain ⟨y, a, yr, rfl⟩ := exists_node_of_height_pos (t := l) (by omega)
    obtain ⟨yDifference, -, -, -, -⟩ := lAvl
    rw [treeCells_node]
    refine load (load ?_)
    by_cases inner : y.balance < 0
    · simp only [inner, if_true]
      obtain ⟨z, b, c, rfl⟩ := exists_node_of_height_pos (t := yr) (by omega)
      refine (leftRight_spec slot x y z a b c).framed (treeCells (.right (address x)) r) ?_ ?_
      · simp only [frameCells, treeCells_node, other, Slot.child]
        abel
      · rintro _ _ rfl
        simp only [double, frameCells, treeCells_node, other, Slot.child]
        abel
    · simp only [inner, if_false]
      refine (leftLeft_spec slot x y a yr).call (treeCells (.right (address x)) r) ?_ ?_
      · simp only [frameCells, treeCells_node, other, Slot.child]
        abel
      · rintro _ _ rfl
        simp only [frameCells]
        refine store (store_last ?_)
        simp only [treeCells_node, entryCells, Entry.withBalance, other, Slot.child]
        abel
  · simp only [leftHeavy, if_false]
    by_cases rightHeavy : x.balance < -1
    · simp only [rightHeavy, if_true]
      obtain ⟨y, yl, d, rfl⟩ := exists_node_of_height_pos (t := r) (by omega)
      obtain ⟨yDifference, -, -, -, -⟩ := rAvl
      rw [treeCells_node]
      refine load (load ?_)
      by_cases inner : y.balance > 0
      · simp only [inner, if_true]
        obtain ⟨z, b, c, rfl⟩ := exists_node_of_height_pos (t := yl) (by omega)
        refine (rightLeft_spec slot x y z b c d).framed (treeCells (.left (address x)) l) ?_ ?_
        · simp only [frameCells, treeCells_node, other, Slot.child]
          abel
        · rintro _ _ rfl
          simp only [double, frameCells, treeCells_node, other, Slot.child]
          abel
      · simp only [inner, if_false]
        refine (rightRight_spec slot x y yl d).call (treeCells (.left (address x)) l) ?_ ?_
        · simp only [frameCells, treeCells_node, other, Slot.child]
          abel
        · rintro _ _ rfl
          simp only [frameCells]
          refine store (store_last ?_)
          simp only [treeCells_node, entryCells, Entry.withBalance, other, Slot.child]
          abel
    · simp only [rightHeavy, if_false]
      exact pure (treeCells_node _ _ _ _).symm

/-! ## The whole function -/

/-- **Rebalancing after an insertion.** Above the frame that stops the change of heights nothing
changes, so the whole tree is balanced. -/
theorem isAvl_insert (avl : IsAvl (plug (outer ++ inner) .nil))
    (passes : ∀ frame ∈ inner.tail, ¬ Inexact frame)
    (starts : outer ≠ [] → ∃ frame frames, inner = frame :: frames ∧ Inexact frame)
    {new : Entry (Pointer × κ)} (newExact : new.balance = 0) :
    IsAvl (plug outer (rebalance (plug (inner.map Frame.grow) (.node new .nil .nil)))) := by
  rw [plug_append] at avl
  cases inner with
  | nil =>
    cases outer with
    | nil =>
      have single : IsAvl (.node new .nil .nil) := by
        simp [isAvl_node, isAvl_nil, newExact]
      exact (rebalance_of_isAvl single).symm ▸ single
    | cons frame outer =>
      obtain ⟨_, _, impossible, _⟩ := starts (by simp)
      cases impossible
  | cons frame inner =>
    have exact : ∀ other ∈ inner, other.entry.balance = 0 := fun other member =>
      not_not.mp (passes other member)
    obtain ⟨balanced, height⟩ := rebalance_grow_isAvl (IsAvl.of_plug outer avl) exact newExact
    cases outer with
    | nil => exact balanced
    | cons first outer =>
      obtain ⟨_, _, same, inexact⟩ := starts (by simp)
      obtain ⟨rfl, -⟩ := cons.inj same
      exact avl.plug_congr balanced (height inexact)

/-- The part of `tsearch()` behind `malloc()` puts the new node into the tree. -/
theorem tsearchInsert_spec (tree : SearchTree compar t) (low : t.height < 128) {key : κ}
    (position : Position Inexact base t state outer inner .nil) {n : Pointer} (nonnull : n ≠ 0)
    (contents : PosixTnode κ) :
    Triple (cellsOf (contents.cells n) + treeCells base t) (tsearchInsert key state n)
      fun result cells => result = n ∧ ∃ t', cells = treeCells base t' ∧ IsAvl t' ∧
        inorder t' = before (outer ++ inner) ++ (n, key) :: after (outer ++ inner) := by
  have avl := tree.avl
  rw [← position.plug_eq] at avl
  have lengths := length_add_height_le (outer ++ inner) (.nil : NodeTree κ)
  rw [position.plug_eq, length_append] at lengths
  have innerAvl : IsAvl (plug inner (.nil : NodeTree κ)) := by
    rw [plug_append] at avl
    exact IsAvl.of_plug outer avl
  have leaf : state.leaf = hole state.rootp inner := by
    rw [position.leaf_eq, position.rootp_eq, hole_append]
  let new : Entry (Pointer × κ) := ⟨(n, key), 0⟩
  obtain ⟨x, l, r, root, lAvl, rAvl, difference⟩ := plug_grow_root innerAvl
    (fun frame member => not_not.mp (position.passes frame member)) (show new.balance = 0 from rfl)
  rw [position.cells_eq, treeCells_nil, frameCells_append, ← position.rootp_eq]
  simp only [PosixTnode.cells, cellsOf, tsearchInsert, nonnull, if_false]
  refine store (store (store (store (store ?_))))
  refine congr (treeCells state.rootp (plug inner (.node new .nil .nil)) +
    frameCells base outer) ?_ (load ?_)
  · rw [treeCells_plug, ← leaf, treeCells_node, treeCells_nil, treeCells_nil]
    simp only [entryCells]
    abel
  rw [leaf]
  refine (loop_tsearchAdjust inner new state.rootp state.path addresses position.records ?_).call
    (frameCells base outer) ?_ ?_
  · have bound : 128 < addresses := by decide
    omega
  · rw [treeCells_plug]
  rintro _ _ rfl
  rw [← hole_map_grow, ← treeCells_plug, root]
  refine (tsearchRotate_spec state.rootp lAvl rAvl difference).call (frameCells base outer) rfl ?_
  rintro _ _ rfl
  refine pure ⟨rfl, plug outer (rebalance (.node x l r)), ?_, ?_, ?_⟩
  · rw [treeCells_plug, ← position.rootp_eq, add_comm]
  · rw [← root]
    exact isAvl_insert avl position.passes position.starts rfl
  · rw [inorder_plug, inorder_rebalance, ← root, inorder_plug, before_map_grow, after_map_grow,
      before_append, after_append]
    simp [inorder, new]

/-- Without a new node the part behind `malloc()` changes nothing. -/
theorem tsearchInsert_null (key : κ) (position : Position Inexact base t state outer inner .nil) :
    Triple (treeCells base t) (tsearchInsert key state 0)
      fun result cells => result = 0 ∧ cells = treeCells base t := by
  rw [position.cells_eq, treeCells_nil]
  exact store (pure ⟨rfl, add_comm _ _⟩)

/-- `malloc()` returns a null pointer. -/
def MallocFails (choice : Option (Pointer × PosixTnode κ)) (m : Mem (Location.Value κ)) : Prop :=
  match choice with
  | none => True
  | some (n, contents) => n = 0 ∨ ¬ ∀ cell ∈ contents.cells n, (m cell.1).isNone

variable {m : Mem (Location.Value κ)}

/-- A call of `malloc()` that fails. -/
theorem malloc_of_fails {choice : Option (Pointer × PosixTnode κ)} (fails : MallocFails choice m) :
    malloc choice m = some (0, m) := by
  cases choice with
  | none => rfl
  | some proposal =>
    obtain ⟨n, contents⟩ := proposal
    by_cases null : n = 0
    · simp only [null, if_true]
      rfl
    · have occupied := fails.resolve_left null
      simp only [malloc, null, if_false]
      have refused : allocate (contents.cells n) m = some (false, m) := if_neg occupied
      exact bind_eq refused

/-- A call of `malloc()` that succeeds. -/
theorem malloc_of_succeeds {choice : Option (Pointer × PosixTnode κ)} {c : Cells (Location.Value κ)}
    (holds : Holds m c) (succeeds : ¬ MallocFails choice m) :
    ∃ n, ∃ contents : PosixTnode κ, ∃ m', malloc choice m = some (n, m') ∧ n ≠ 0 ∧
      Holds m' (cellsOf (contents.cells n) + c) := by
  cases choice with
  | none => exact absurd trivial succeeds
  | some proposal =>
    obtain ⟨n, contents⟩ := proposal
    rw [MallocFails, not_or, not_not] at succeeds
    obtain ⟨nonnull, unused⟩ := succeeds
    refine ⟨n, contents, _, ?_, nonnull, holds.insertAll ?_ unused⟩
    · simp only [malloc, nonnull, if_false]
      have granted : allocate (contents.cells n) m = some (true, _) := if_pos unused
      exact bind_eq granted
    · simp [PosixTnode.cells]

/-- What `tsearch()` may do. -/
inductive TsearchOutcome (compar : κ → κ → ℤ) (base : Slot) (rest : Cells (Location.Value κ))
    (choice : Option (Pointer × PosixTnode κ)) (key : κ) (t : NodeTree κ)
    (m : Mem (Location.Value κ)) : Pointer → Mem (Location.Value κ) → Prop
  | found (v : Pointer × κ) (member : v ∈ inorder t) (equal : compar key v.2 = 0) :
      TsearchOutcome compar base rest choice key t m v.1 m
  | failed (absent : ∀ v ∈ inorder t, compar key v.2 ≠ 0) (fails : MallocFails choice m) :
      TsearchOutcome compar base rest choice key t m 0 m
  | inserted (t' : NodeTree κ) (l r : List (Pointer × κ)) (result : Pointer)
      (m' : Mem (Location.Value κ)) (absent : ∀ v ∈ inorder t, compar key v.2 ≠ 0)
      (succeeds : ¬ MallocFails choice m) (holds : Holds m' (treeCells base t' + rest))
      (tree : SearchTree compar t') (before_eq : inorder t = l ++ r)
      (after_eq : inorder t' = l ++ (result, key) :: r) :
      TsearchOutcome compar base rest choice key t m result m'

theorem ordered_insert {frames : List (NodeFrame κ)} {key : κ} {n : Pointer} {t' : NodeTree κ}
    (ordered : Ordered compar (plug frames (.nil : NodeTree κ)))
    (separates : Separates compar key frames)
    (order : inorder t' = before frames ++ (n, key) :: after frames) : Ordered compar t' := by
  rw [Ordered, inorder_plug] at ordered
  simp only [inorder, append_nil] at ordered
  obtain ⟨beforeOrdered, afterOrdered, across⟩ := pairwise_append.mp ordered
  rw [Ordered, order, pairwise_append, pairwise_cons]
  refine ⟨beforeOrdered, ⟨separates.after_gt, afterOrdered⟩, fun v earlier w later => ?_⟩
  rcases mem_cons.mp later with rfl | behind
  · exact separates.before_lt v earlier
  · exact across v earlier w behind

/-- **`tsearch()` finds the node with an equal key, or inserts a new one and keeps the tree
balanced and in order.** -/
theorem tsearch_spec (total : IsComparison compar) (tree : SearchTree compar t)
    {rest : Cells (Location.Value κ)} (holds : Holds m (treeCells base t + rest)) (path : Path)
    (choice : Option (Pointer × PosixTnode κ)) (key : κ) :
    ∃ result m', tsearch compar path choice key (some base) m = some (result, m') ∧
      TsearchOutcome compar base rest choice key t m result m' := by
  have low := height_lt holds tree.avl
  obtain ⟨reached, m₁, c₁, descended, holds₁, rfl, found⟩ :=
    loop_tsearchDescend base total tree low key path rest m holds
  obtain rfl := holds₁.unique holds
  cases reached with
  | inl n =>
    obtain ⟨v, member, rfl, equal⟩ := found
    exact ⟨v.1, m₁, bind_eq descended, .found v member equal⟩
  | inr state =>
    obtain ⟨outer, inner, position, separates⟩ := found
    have absent := separates.absent total
    rw [position.plug_eq] at absent
    by_cases fails : MallocFails choice m₁
    · obtain ⟨_, m₂, _, stored, holds₂, rfl, rfl⟩ :=
        tsearchInsert_null key position rest m₁ holds
      obtain rfl := holds₂.unique holds
      refine ⟨0, m₂, (bind_eq descended).trans ?_, .failed absent fails⟩
      exact (bind_eq (malloc_of_fails fails)).trans stored
    · obtain ⟨n, contents, m₂, allocated, nonnull, holds₂⟩ := malloc_of_succeeds holds fails
      rw [← add_assoc] at holds₂
      obtain ⟨result, m₃, _, inserted, holds₃, rfl, t', rfl, avl, order⟩ :=
        tsearchInsert_spec tree low position nonnull contents rest m₂ holds₂
      refine ⟨result, m₃, ?_, .inserted t' _ _ result m₃ absent fails holds₃
        ⟨avl, ?_, ?_⟩ ?_ order⟩
      · exact (bind_eq descended).trans ((bind_eq allocated).trans inserted)
      · have ordered := tree.ordered
        rw [← position.plug_eq] at ordered
        exact ordered_insert ordered separates order
      · intro v member
        rw [order, mem_append, mem_cons] at member
        have nonnulls := tree.nonnull
        rw [← position.plug_eq, inorder_plug] at nonnulls
        simp only [inorder, append_nil, mem_append] at nonnulls
        rcases member with earlier | rfl | later
        · exact nonnulls v (.inl earlier)
        · exact nonnull
        · exact nonnulls v (.inr later)
      · rw [← position.plug_eq, inorder_plug]
        simp [inorder]

end Cloudlibc.Search
