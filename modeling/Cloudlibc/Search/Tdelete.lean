import Cloudlibc.Search.TreeDescent

/-!
# Deletion from a search tree

`tdelete()` walks down to the node with an equal key, and on to its predecessor if it has a left
child. On the way it remembers the last node that keeps its height when the subtree below it
shrinks (`Frame.Absorbs`). The node is then taken out (`tdeleteRemove_spec`, `Removal`), and the
recorded path is followed a second time from that node on, with a rotation where one is needed
(`loop_tdeleteAdjust`). The heights above it do not change, so the tree is balanced again
(`isAvl_delete`).

A call removes one key, or changes nothing if no key is equal (`tdelete_spec`).
-/

set_option autoImplicit false

namespace Cloudlibc.Search

open Cloudlibc.AvlTree Cloudlibc.Comparison Cloudlibc.Loop Cloudlibc.Memory Triple Frame BinaryTree

variable {κ : Type} {compar : κ → κ → ℤ} {base : Slot} {t : NodeTree κ}

/-! ## Steps of the search -/

variable {state : Descent} {outer inner : List (NodeFrame κ)} {l r : NodeTree κ}
  {entry : Entry (Pointer × κ)}

/-- `GO_LEFT()` goes down one level, and starts over at a frame that absorbs a change of the
height on the left. -/
theorem goLeft_spec (avl : IsAvl t) (low : t.height < 128)
    (position : Position Frame.Absorbs base t state outer inner (.node entry l r)) :
    Triple (treeCells base t) (goLeft state) fun next cells => cells = treeCells base t ∧
      ∃ outer' inner', outer' ++ inner' = (outer ++ inner) ++ [⟨.left, entry, r⟩] ∧
        Position Frame.Absorbs base t next outer' inner' l := by
  have cells := position.cells_eq
  rw [treeCells_node] at cells
  obtain ⟨path, outer', inner', taken, joined, next⟩ := position.step_at ⟨.left, entry, r⟩ low
  rw [← position.plug_eq] at avl
  obtain ⟨difference, -, -, -, rAvl⟩ := IsAvl.of_plug _ avl
  rw [cells]
  refine load (bind (fun restarts cells =>
    restarts = decide (⟨.left, entry, r⟩ : NodeFrame κ).Absorbs ∧
      cells = frameCells base (outer ++ inner) + treeCells state.leaf (.node entry l r)) ?_ ?_)
  · rw [treeCells_node]
    refine load ?_
    have absorbs : (⟨.left, entry, r⟩ : NodeFrame κ).Absorbs ↔
        entry.balance = 0 ∨ entry.balance < 0 ∧ rootBalance r = 0 := Iff.rfl
    simp only [absorbs]
    by_cases exact : entry.balance = 0
    · simp only [exact, if_true, true_or, decide_true]
      exact pure ⟨rfl, rfl⟩
    · simp only [exact, if_false, false_or]
      by_cases negative : entry.balance < 0
      · simp only [negative, if_true, true_and]
        obtain ⟨y, yl, yr, rfl⟩ := exists_node_of_height_pos (t := r) (by omega)
        rw [treeCells_node]
        exact load (load (pure ⟨rfl, rfl⟩))
      · simp only [negative, if_false, false_and, decide_false]
        exact pure ⟨rfl, rfl⟩
  · rintro _ _ ⟨rfl, rfl⟩
    simp only [decide_eq_true_eq, treeCells_node]
    exact lift taken (pure ⟨rfl, outer', inner', joined, next⟩)

/-- `GO_RIGHT()` goes down one level, and starts over at a frame that absorbs a change of the
height on the right. -/
theorem goRight_spec (avl : IsAvl t) (low : t.height < 128)
    (position : Position Frame.Absorbs base t state outer inner (.node entry l r)) :
    Triple (treeCells base t) (goRight state) fun next cells => cells = treeCells base t ∧
      ∃ outer' inner', outer' ++ inner' = (outer ++ inner) ++ [⟨.right, entry, l⟩] ∧
        Position Frame.Absorbs base t next outer' inner' r := by
  have cells := position.cells_eq
  rw [treeCells_node] at cells
  obtain ⟨path, outer', inner', taken, joined, next⟩ := position.step_at ⟨.right, entry, l⟩ low
  rw [← position.plug_eq] at avl
  obtain ⟨difference, -, -, lAvl, -⟩ := IsAvl.of_plug _ avl
  rw [cells]
  refine load (bind (fun restarts cells =>
    restarts = decide (⟨.right, entry, l⟩ : NodeFrame κ).Absorbs ∧
      cells = frameCells base (outer ++ inner) + treeCells state.leaf (.node entry l r)) ?_ ?_)
  · rw [treeCells_node]
    refine load ?_
    have absorbs : (⟨.right, entry, l⟩ : NodeFrame κ).Absorbs ↔
        entry.balance = 0 ∨ entry.balance > 0 ∧ rootBalance l = 0 := Iff.rfl
    simp only [absorbs]
    by_cases exact : entry.balance = 0
    · simp only [exact, if_true, true_or, decide_true]
      exact pure ⟨rfl, rfl⟩
    · simp only [exact, if_false, false_or]
      by_cases positive : entry.balance > 0
      · simp only [positive, if_true, true_and]
        obtain ⟨y, yl, yr, rfl⟩ := exists_node_of_height_pos (t := l) (by omega)
        rw [treeCells_node]
        exact load (load (pure ⟨rfl, rfl⟩))
      · simp only [positive, if_false, false_and, decide_false]
        exact pure ⟨rfl, rfl⟩
  · rintro _ _ ⟨rfl, rfl⟩
    simp only [decide_eq_true_eq, treeCells_node]
    exact lift taken (pure ⟨rfl, outer', inner', joined, next⟩)

/-! ## The search for the node -/

/-- What the search of `tdelete()` ends with. -/
def TdeleteFound (compar : κ → κ → ℤ) (base : Slot) (t : NodeTree κ) (key : κ) :
    Option (Pointer × Descent) → Prop
  | none => ∀ v ∈ inorder t, compar key v.2 ≠ 0
  | some (result, state) => result ≠ 0 ∧ ∃ outer inner entry l r,
      Position Frame.Absorbs base t state outer inner (.node entry l r) ∧
        compar key entry.value.2 = 0

variable {s : NodeTree κ}

theorem tdeleteDescend_spec (total : IsComparison compar) (tree : SearchTree compar t)
    (low : t.height < 128) (key : κ) {result : Pointer} (nonzero : result ≠ 0)
    (position : Position Frame.Absorbs base t state outer inner s)
    (separates : Separates compar key (outer ++ inner)) :
    Triple (treeCells base t) (tdeleteDescend compar key (result, state)) fun pass cells =>
      pass.Meets
        (fun next => ∃ n' < s.height, cells = treeCells base t ∧ next.1 ≠ 0 ∧
          ∃ outer inner s', Position Frame.Absorbs base t next.2 outer inner s' ∧
            Separates compar key (outer ++ inner) ∧ n' = s'.height)
        (fun found => cells = treeCells base t ∧ TdeleteFound compar base t key found) := by
  unfold tdeleteDescend
  cases s with
  | nil =>
    have absent := separates.absent total
    rw [position.plug_eq] at absent
    refine congr _ position.cells_eq (load ?_)
    simp only [if_true]
    exact pure ⟨position.cells_eq.symm, absent⟩
  | node entry l r =>
    have nonnull := tree.address_ne_zero position.plug_eq
    have ordered := tree.ordered
    rw [← position.plug_eq] at ordered
    have cells := position.cells_eq
    rw [treeCells_node] at cells
    refine congr _ cells (load ?_)
    simp only [nonnull, if_false]
    refine load ?_
    rw [← cells]
    by_cases less : compar key entry.value.2 < 0
    · simp only [less, if_true]
      refine bind _ (goLeft_spec tree.avl low position) ?_
      rintro next _ ⟨rfl, outer', inner', joined, moved⟩
      refine pure ⟨l.height, by simp only [height]; omega, rfl, nonnull, outer',
        inner', l, moved, ?_, rfl⟩
      rw [joined]
      exact separates.goLeft total ordered less
    · simp only [less, if_false]
      by_cases more : compar key entry.value.2 > 0
      · simp only [more, if_true]
        refine bind _ (goRight_spec tree.avl low position) ?_
        rintro next _ ⟨rfl, outer', inner', joined, moved⟩
        refine pure ⟨r.height, by simp only [height]; omega, rfl, nonnull,
          outer', inner', r, moved, ?_, rfl⟩
        rw [joined]
        exact separates.goRight total ordered ((total.neg_iff _ _).mpr more)
      · simp only [more, if_false]
        exact pure ⟨rfl, nonzero, outer, inner, entry, l, r, position, by omega⟩

/-- The search of `tdelete()`. -/
theorem loop_tdeleteDescend (base : Slot) (total : IsComparison compar)
    (tree : SearchTree compar t) (low : t.height < 128) (key : κ) (path : Path) :
    Triple (treeCells base t) (loop (tdeleteDescend compar key) addresses
        (1, { rootp := base, path := path.init, leaf := base }))
      fun found cells => cells = treeCells base t ∧ TdeleteFound compar base t key found := by
  refine loop
    (fun n state cells => cells = treeCells base t ∧ state.1 ≠ 0 ∧ ∃ outer inner s,
      Position Frame.Absorbs base t state.2 outer inner s ∧
        Separates compar key (outer ++ inner) ∧ n = s.height) ?_
    ⟨rfl, show (1 : Pointer) ≠ 0 by decide, [], [], t, Position.start _ _ _ _, Separates.nil _ _, rfl⟩
    (low.trans (by decide))
  rintro n ⟨result, state⟩ _ ⟨rfl, nonzero, outer, inner, s, position, separates, rfl⟩
  exact tdeleteDescend_spec total tree low key nonzero position separates

/-- The search for the predecessor goes to the right as far as it can. -/
theorem loop_predecessorDescend (tree : SearchTree compar t) (low : t.height < 128)
    {start : Descent} {outer₀ inner₀ : List (NodeFrame κ)} {entry₀ : Entry (Pointer × κ)}
    {l₀ r₀ : NodeTree κ}
    (position₀ : Position Frame.Absorbs base t start outer₀ inner₀ (.node entry₀ l₀ r₀)) :
    Triple (treeCells base t) (loop predecessorDescend addresses start)
      fun state cells => cells = treeCells base t ∧ ∃ outer inner rights old l,
        outer ++ inner = (outer₀ ++ inner₀) ++ rights ∧ after rights = [] ∧
          Position Frame.Absorbs base t state outer inner (.node old l .nil) := by
  have lengths := length_add_height_le (outer₀ ++ inner₀) (.node entry₀ l₀ r₀)
  rw [position₀.plug_eq] at lengths
  refine loop
    (fun n state cells => cells = treeCells base t ∧ ∃ outer inner rights entry l r,
      outer ++ inner = (outer₀ ++ inner₀) ++ rights ∧ after rights = [] ∧
        Position Frame.Absorbs base t state outer inner (.node entry l r) ∧ n = r.height) ?_
    ⟨rfl, outer₀, inner₀, [], entry₀, l₀, r₀, by simp, rfl, position₀, rfl⟩ ?_
  · rintro n state _ ⟨rfl, outer, inner, rights, entry, l, r, frames, onlyRight, position, rfl⟩
    have cells := position.cells_eq
    rw [treeCells_node] at cells
    refine congr _ cells (load (load ?_))
    rw [← cells]
    cases r with
    | nil =>
      simp only [ne_eq, not_true_eq_false, if_false]
      exact pure ⟨rfl, outer, inner, rights, entry, l, frames, onlyRight, position⟩
    | node next rl rr =>
      have nonnull : rootPointer (.node next rl rr : NodeTree κ) ≠ 0 := by
        have plugged := position.plug_eq
        rw [show (.node entry l (.node next rl rr) : NodeTree κ) =
          plug [⟨.right, entry, l⟩] (.node next rl rr) from rfl, ← plug_append] at plugged
        exact tree.address_ne_zero plugged
      simp only [ne_eq, nonnull, not_false_eq_true, if_true]
      refine bind _ (goRight_spec tree.avl low position) ?_
      rintro state' _ ⟨rfl, outer', inner', joined, moved⟩
      refine pure ⟨rr.height, by simp only [height]; omega, rfl, outer', inner',
        rights ++ [⟨.right, entry, l⟩], next, rl, rr, ?_, ?_, moved, rfl⟩
      · rw [joined, frames, List.append_assoc]
      · rw [after_append, onlyRight]
        rfl
  · have bound : 128 < addresses := by decide
    simp only [height] at lengths
    omega

/-! ## The removal of a node -/

/-- The keys of a tree, in order. -/
def keys (t : NodeTree κ) : List κ := (inorder t).map Prod.snd

/-- A node with an empty subtree is removed: the subtree `s` at the position has become `s'`, and
the key of `entry` is gone. -/
structure Removal (base : Slot) (t : NodeTree κ) (entry : Entry (Pointer × κ)) (state : Descent)
    (outer inner : List (NodeFrame κ)) (s s' : NodeTree κ) : Prop where
  position : Position Frame.Absorbs base (plug (outer ++ inner) s) state outer inner s
  avl : IsAvl (plug (outer ++ inner) s)
  avl' : IsAvl s'
  shrunk : s'.height + 1 = s.height
  keys_eq : ∃ l r, keys t = l ++ entry.value.2 :: r ∧ keys (plug (outer ++ inner) s') = l ++ r
  addresses_mem : ∀ v ∈ inorder (plug (outer ++ inner) s'), ∃ w ∈ inorder t, w.1 = v.1

/-- A node without a left child is replaced by its right subtree. -/
theorem Removal.of_right (avl : IsAvl t)
    (position : Position Frame.Absorbs base t state outer inner (.node entry .nil r)) :
    Removal base t entry state outer inner (.node entry .nil r) r := by
  obtain rfl := position.plug_eq
  refine ⟨position, avl, (IsAvl.of_plug _ avl).2.2.2.2, by simp [height],
    ⟨(before (outer ++ inner)).map Prod.snd, (inorder r ++ after (outer ++ inner)).map Prod.snd,
      ?_, ?_⟩, fun v member => ⟨v, ?_, rfl⟩⟩
  · simp [keys, inorder_plug, inorder]
  · simp [keys, inorder_plug]
  · rw [inorder_plug] at member ⊢
    simp only [List.mem_append, List.mem_cons] at member ⊢
    tauto

/-- A node with a left child takes the key of its predecessor, which is replaced by its left
subtree. -/
theorem Removal.of_predecessor {frames rights : List (NodeFrame κ)} {old : Entry (Pointer × κ)}
    {ol : NodeTree κ} (avl : IsAvl t)
    (position : Position Frame.Absorbs base t state outer inner (.node old ol .nil))
    (joined : outer ++ inner = frames ++ ⟨.left, entry, r⟩ :: rights)
    (onlyRight : after rights = []) :
    ∃ outer' inner', outer' ++ inner' =
        frames ++ ⟨.left, ⟨(address entry, old.value.2), entry.balance⟩, r⟩ :: rights ∧
      Removal base t entry state outer' inner' (.node old ol .nil) ol := by
  obtain rfl := position.plug_eq
  obtain ⟨outer', inner', joined', position'⟩ := position.replace
    ⟨.left, ⟨(address entry, old.value.2), entry.balance⟩, r⟩ joined rfl rfl Iff.rfl
  have order : ∀ s : NodeTree κ, inorder (plug (outer' ++ inner') s) =
      before frames ++ before rights ++ inorder s ++
        (address entry, old.value.2) :: (inorder r ++ after frames) := by
    intro s
    rw [joined', inorder_plug, before_append, after_append]
    simp [before, after, onlyRight]
  have order₀ : inorder (plug (outer ++ inner) (.node old ol .nil)) =
      before frames ++ before rights ++ inorder ol ++
        old.value :: entry.value :: (inorder r ++ after frames) := by
    rw [joined, inorder_plug, before_append, after_append]
    simp [before, after, onlyRight, inorder]
  refine ⟨outer', inner', joined', by rwa [joined'], ?_, (IsAvl.of_plug _ avl).2.2.2.1,
    by simp [height],
    ⟨(before frames ++ before rights ++ inorder ol).map Prod.snd ++ [old.value.2],
      (inorder r ++ after frames).map Prod.snd, ?_, ?_⟩, fun v member => ?_⟩
  · rw [joined, plug_append] at avl
    rw [joined', plug_append]
    have inner := IsAvl.of_plug frames avl
    exact avl.plug_congr inner rfl
  · rw [keys, order₀]
    simp
  · rw [keys, order]
    simp
  · rw [order] at member
    rw [order₀]
    simp only [List.mem_append, List.mem_cons] at member ⊢
    rcases member with front | rfl | behind
    · exact ⟨v, .inl front, rfl⟩
    · exact ⟨entry.value, .inr (.inr (.inl rfl)), rfl⟩
    · exact ⟨v, .inr (.inr (.inr behind)), rfl⟩

/-- `free()` gives the cells of a node back. -/
theorem free_spec (n : Pointer) (key : κ) (left right : Pointer) (balance : ℤ) :
    Triple (pointsTo (.key n) key + pointsTo (.ptr (.left n)) left + pointsTo (.ptr (.right n)) right +
        pointsTo (.balance n) balance)
      (free n) fun _ cells => cells = (0 : Cells (Location.Value κ)) := by
  exact release (release (release (release_last rfl)))

/-- **`tdelete()` removes the node that has been found, or its predecessor.** -/
theorem tdeleteRemove_spec (tree : SearchTree compar t) (low : t.height < 128)
    (position : Position Frame.Absorbs base t state outer inner (.node entry l r)) :
    Triple (treeCells base t) (tdeleteRemove state) fun next cells => ∃ outer' inner' s s',
      cells = frameCells base (outer' ++ inner') + treeCells next.leaf s' ∧
        Removal base t entry next outer' inner' s s' := by
  have cells := position.cells_eq
  rw [treeCells_node] at cells
  unfold tdeleteRemove
  refine congr _ cells (load (load ?_))
  cases l with
  | nil =>
    simp only [rootPointer, if_true]
    refine load (store ?_)
    refine (free_spec (address entry) entry.value.2 0 (rootPointer r) entry.balance).call
      (frameCells base (outer ++ inner) + treeCells state.leaf r) ?_ ?_
    · simp only [treeCells, entryCells, bodyCells, rootPointer]
      abel
    · rintro _ _ rfl
      exact pure ⟨outer, inner, _, _, by rw [zero_add], Removal.of_right tree.avl position⟩
  | node next ll lr =>
    have nonnull : rootPointer (.node next ll lr : NodeTree κ) ≠ 0 := by
      have plugged := position.plug_eq
      rw [show (.node entry (.node next ll lr) r : NodeTree κ) =
        plug [⟨.left, entry, r⟩] (.node next ll lr) from rfl, ← plug_append] at plugged
      exact tree.address_ne_zero plugged
    simp only [nonnull, if_false]
    rw [← cells]
    refine bind _ (goLeft_spec tree.avl low position) ?_
    rintro state₁ _ ⟨rfl, outer₁, inner₁, joined₁, position₁⟩
    refine bind _ (loop_predecessorDescend tree low position₁) ?_
    rintro state₂ _ ⟨rfl, outer₂, inner₂, rights, old, ol, joined₂, onlyRight, position₂⟩
    rw [joined₁, List.append_assoc, List.singleton_append] at joined₂
    obtain ⟨outer', inner', joined', removal⟩ :=
      Removal.of_predecessor tree.avl position₂ joined₂ onlyRight
    have expand : treeCells base t = frameCells base (outer ++ inner) +
        (pointsTo (.ptr (hole base (outer ++ inner))) (address entry) + entryCells entry +
          treeCells (.right (address entry)) r + frameCells (.left (address entry)) rights) +
        treeCells state₂.leaf (.node old ol .nil) := by
      rw [position₂.cells_eq, joined₂, frameCells_append]
      rfl
    rw [treeCells_node] at expand
    refine congr _ expand (load ?_)
    refine load ?_
    refine store ?_
    refine load ?_
    refine store ?_
    refine (free_spec (address old) old.value.2 (rootPointer ol) 0 old.balance).call
      (frameCells base (outer' ++ inner') + treeCells state₂.leaf ol) ?_ ?_
    · rw [joined', frameCells_append base (outer ++ inner)]
      simp only [frameCells, treeCells, entryCells, bodyCells, rootPointer, other, Slot.child]
      abel
    · rintro _ _ rfl
      exact pure ⟨outer', inner', _, _, by rw [zero_add], removal⟩

/-! ## Rebalancing -/

/-- At a node whose left subtree has shrunk, `tdelete()` changes the frame as `Frame.shrink`. -/
theorem tdeleteLeft_spec (slot : Slot) {x : Entry (Pointer × κ)} {sibling : NodeTree κ}
    (avl : IsAvl (.node x s sibling)) :
    Triple (frameCells slot [⟨.left, x, sibling⟩]) (tdeleteLeft slot) fun next cells =>
      next = .left (address x) ∧ cells = frameCells slot (shrink ⟨.left, x, sibling⟩) := by
  obtain ⟨difference, -, -, -, siblingAvl⟩ := avl
  unfold tdeleteLeft
  simp only [frameCells, Slot.child, other, entryCells]
  refine load ?_
  refine load ?_
  by_cases rightHeavy : x.balance < 0
  · obtain ⟨y, yl, yr, rfl⟩ := exists_node_of_height_pos (t := sibling) (by omega)
    obtain ⟨yDifference, -, -, -, -⟩ := siblingAvl
    simp only [rightHeavy, if_true, treeCells_node, entryCells]
    refine load ?_
    refine load ?_
    by_cases yLeftHeavy : y.balance > 0
    · obtain ⟨z, b, c, rfl⟩ := exists_node_of_height_pos (t := yl) (by omega)
      simp only [shrink, rightHeavy, yLeftHeavy, if_true]
      refine (rightLeft_spec slot x y z b c yr).call 0 ?_ ?_
      · simp only [frameCells, treeCells_node, entryCells, other, Slot.child]
        abel
      · rintro _ _ rfl
        exact pure ⟨rfl, add_zero _⟩
    · simp only [shrink, rightHeavy, yLeftHeavy, if_true, if_false]
      refine (rightRight_spec slot x y yl yr).call 0 ?_ ?_
      · simp only [frameCells, treeCells_node, entryCells, other, Slot.child]
        abel
      · rintro _ _ rfl
        simp only [frameCells, entryCells, other, Slot.child]
        refine load ?_
        by_cases yRightHeavy : y.balance < 0
        all_goals
          simp only [yRightHeavy, if_true, if_false]
          refine store ?_
          refine store (pure ⟨rfl, ?_⟩)
          simp only [frameCells, entryCells, Entry.withBalance, other, Slot.child]
          abel
  · simp only [shrink, rightHeavy, if_false]
    refine store (pure ⟨rfl, ?_⟩)
    simp only [frameCells, entryCells, Entry.withBalance, other, Slot.child]
    abel

/-- At a node whose right subtree has shrunk, `tdelete()` changes the frame as `Frame.shrink`. -/
theorem tdeleteRight_spec (slot : Slot) {x : Entry (Pointer × κ)} {sibling : NodeTree κ}
    (avl : IsAvl (.node x sibling s)) :
    Triple (frameCells slot [⟨.right, x, sibling⟩]) (tdeleteRight slot) fun next cells =>
      next = .right (address x) ∧ cells = frameCells slot (shrink ⟨.right, x, sibling⟩) := by
  obtain ⟨difference, -, -, siblingAvl, -⟩ := avl
  unfold tdeleteRight
  simp only [frameCells, Slot.child, other, entryCells]
  refine load ?_
  refine load ?_
  by_cases leftHeavy : x.balance > 0
  · obtain ⟨y, yl, yr, rfl⟩ := exists_node_of_height_pos (t := sibling) (by omega)
    obtain ⟨yDifference, -, -, -, -⟩ := siblingAvl
    simp only [leftHeavy, if_true, treeCells_node, entryCells]
    refine load ?_
    refine load ?_
    by_cases yRightHeavy : y.balance < 0
    · obtain ⟨z, b, c, rfl⟩ := exists_node_of_height_pos (t := yr) (by omega)
      simp only [shrink, leftHeavy, yRightHeavy, if_true]
      refine (leftRight_spec slot x y z yl b c).call 0 ?_ ?_
      · simp only [frameCells, treeCells_node, entryCells, other, Slot.child]
        abel
      · rintro _ _ rfl
        exact pure ⟨rfl, add_zero _⟩
    · simp only [shrink, leftHeavy, yRightHeavy, if_true, if_false]
      refine (leftLeft_spec slot x y yl yr).call 0 ?_ ?_
      · simp only [frameCells, treeCells_node, entryCells, other, Slot.child]
        abel
      · rintro _ _ rfl
        simp only [frameCells, entryCells, other, Slot.child]
        refine load ?_
        by_cases yLeftHeavy : y.balance > 0
        all_goals
          simp only [yLeftHeavy, if_true, if_false]
          refine store ?_
          refine store (pure ⟨rfl, ?_⟩)
          simp only [frameCells, entryCells, Entry.withBalance, other, Slot.child]
          abel
  · simp only [shrink, leftHeavy, if_false]
    refine store (pure ⟨rfl, ?_⟩)
    simp only [frameCells, entryCells, Entry.withBalance, other, Slot.child]
    abel

/-- The frame at which `tdelete()` rebalances is changed as `Frame.shrink`. -/
theorem tdeleteSide_spec (slot : Slot) (frame : NodeFrame κ) (avl : IsAvl (frame.fill s)) :
    Triple (frameCells slot [frame])
      (if decide (frame.side = .left) = true then tdeleteLeft slot else tdeleteRight slot)
      fun next cells => next = .child (address frame.entry) frame.side ∧
        cells = frameCells slot frame.shrink := by
  obtain ⟨side, x, sibling⟩ := frame
  cases side with
  | left => exact tdeleteLeft_spec slot avl
  | right => exact tdeleteRight_spec slot avl

/-- **The rebalancing of `tdelete()` follows the recorded path and changes each of its frames.** -/
theorem loop_tdeleteAdjust (frames : List (NodeFrame κ)) (s s' : NodeTree κ) :
    ∀ (slot : Slot) (path : Path) (fuel : ℕ), path.Records (frames.map side) →
      frames.length < fuel → IsAvl (plug frames s) →
      Triple (frameCells slot frames + treeCells (hole slot frames) s')
        (loop (tdeleteAdjust (hole slot frames)) fuel (slot, path))
        fun _ cells => cells = frameCells slot (frames.flatMap shrink) +
          treeCells (hole slot frames) s' := by
  induction frames with
  | nil =>
    intro slot path fuel records enough avl
    obtain ⟨fuel, rfl⟩ := Nat.exists_eq_succ_of_ne_zero (by omega : fuel ≠ 0)
    refine loop_step ?_
    simp only [tdeleteAdjust, hole, ne_eq, not_true_eq_false, if_false]
    exact pure rfl
  | cons frame frames ih =>
    intro slot path fuel records enough avl
    obtain ⟨fuel, rfl⟩ := Nat.exists_eq_succ_of_ne_zero (by omega : fuel ≠ 0)
    rw [List.length_cons] at enough
    obtain ⟨took, records'⟩ := Path.tookLeft_spec records
    have rest := ih (.child (address frame.entry) frame.side) path.tookLeft.2 fuel records'
      (by omega) (IsAvl.of_plug [frame] avl)
    have side := tdeleteSide_spec slot frame avl
    rw [← List.singleton_append, frameCells_append, hole_append, List.flatMap_append,
      frameCells_append, List.flatMap_singleton, hole_shrink]
    refine of_ne (.ptr slot) (.ptr (hole (hole slot [frame]) frames)) fun distinct => ?_
    have ne : slot ≠ hole (hole slot [frame]) frames := fun same => distinct (congrArg _ same)
    refine loop_step ?_
    simp only [tdeleteAdjust, ne_eq, ne, not_false_eq_true, if_true, took]
    refine side.call (frameCells (hole slot [frame]) frames +
      treeCells (hole (hole slot [frame]) frames) s') (add_assoc _ _ _) ?_
    rintro _ _ ⟨rfl, rfl⟩
    refine pure (rest.framed (frameCells slot frame.shrink) ?_ ?_)
    · rw [add_comm]
      rfl
    · rintro _ _ rfl
      exact (add_comm _ _).trans (add_assoc _ _ _).symm

/-! ## The whole function -/

/-- **Rebalancing after a removal.** Above the frame that absorbs the change of heights nothing
changes, so the whole tree is balanced. -/
theorem isAvl_delete {s' : NodeTree κ} (avl : IsAvl (plug (outer ++ inner) s)) (avl' : IsAvl s')
    (shrunk : s'.height + 1 = s.height) (passes : ∀ frame ∈ inner.tail, ¬ frame.Absorbs)
    (starts : outer ≠ [] → ∃ frame frames, inner = frame :: frames ∧ frame.Absorbs) :
    IsAvl (plug (outer ++ inner.flatMap shrink) s') := by
  rw [plug_append] at avl ⊢
  cases inner with
  | nil =>
    cases outer with
    | nil => exact avl'
    | cons frame outer =>
      obtain ⟨_, _, impossible, _⟩ := starts (by simp)
      cases impossible
  | cons frame inner =>
    obtain ⟨balanced, height⟩ :=
      plug_shrink_isAvl (IsAvl.of_plug outer avl) avl' shrunk passes
    cases outer with
    | nil => exact balanced
    | cons first outer =>
      obtain ⟨_, _, same, absorbs⟩ := starts (by simp)
      obtain ⟨rfl, -⟩ := List.cons.inj same
      exact avl.plug_congr balanced (height absorbs)

/-- The tree after `tdelete()`: one key less, and still a search tree. -/
theorem Removal.searchTree {s' : NodeTree κ} (tree : SearchTree compar t)
    (removal : Removal base t entry state outer inner s s') :
    SearchTree compar (plug (outer ++ inner.flatMap shrink) s') ∧
      ∃ l r, keys t = l ++ entry.value.2 :: r ∧
        keys (plug (outer ++ inner.flatMap shrink) s') = l ++ r := by
  have order : inorder (plug (outer ++ inner.flatMap shrink) s') =
      inorder (plug (outer ++ inner) s') := by
    rw [inorder_plug, inorder_plug, before_append, after_append, before_append, after_append,
      before_flatMap_shrink, after_flatMap_shrink]
  obtain ⟨l, r, removed, kept⟩ := removal.keys_eq
  have ordered : (keys t).Pairwise fun v w => compar v w < 0 := by
    rw [keys, List.pairwise_map]
    exact tree.ordered
  refine ⟨⟨isAvl_delete removal.avl removal.avl' removal.shrunk removal.position.passes
    removal.position.starts, ?_, ?_⟩, l, r, removed, by rw [keys, order, ← keys, kept]⟩
  · have sublist : (l ++ r).Sublist (keys t) := by
      rw [removed]
      exact (List.Sublist.refl l).append (List.sublist_cons_self _ r)
    rw [Ordered, order]
    rw [← kept] at sublist
    exact List.pairwise_map.mp (ordered.sublist sublist)
  · intro v member
    rw [order] at member
    obtain ⟨w, present, same⟩ := removal.addresses_mem v member
    exact same ▸ tree.nonnull w present

/-- **`tdelete()` removes the node with an equal key, if there is one, and keeps the tree balanced
and in order.** -/
theorem tdelete_spec (total : IsComparison compar) (tree : SearchTree compar t)
    (low : t.height < 128) (path : Path) (key : κ) :
    Triple (treeCells base t) (tdelete compar path key (some base)) fun result cells =>
      (result = 0 ∧ cells = treeCells base t ∧ ∀ v ∈ inorder t, compar key v.2 ≠ 0) ∨
        (result ≠ 0 ∧ ∃ t', cells = treeCells base t' ∧ SearchTree compar t' ∧
          ∃ l k r, compar key k = 0 ∧ keys t = l ++ k :: r ∧ keys t' = l ++ r) := by
  unfold tdelete
  refine bind _ (loop_tdeleteDescend base total tree low key path) ?_
  rintro (_ | ⟨result, state⟩) _ ⟨rfl, found⟩
  · exact pure (.inl ⟨rfl, rfl, found⟩)
  · obtain ⟨nonzero, outer, inner, entry, l, r, position, equal⟩ := found
    refine bind _ (tdeleteRemove_spec tree low position) ?_
    rintro next _ ⟨outer', inner', s, s', rfl, removal⟩
    obtain ⟨tree', l', r', removed, kept⟩ := removal.searchTree tree
    have place := removal.position
    have leaf : next.leaf = hole next.rootp inner' := by
      rw [place.leaf_eq, place.rootp_eq, hole_append]
    have innerAvl : IsAvl (plug inner' s) := by
      have avl := removal.avl
      rw [plug_append] at avl
      exact IsAvl.of_plug outer' avl
    rw [leaf, frameCells_append, ← place.rootp_eq]
    refine (loop_tdeleteAdjust inner' s s' next.rootp next.path addresses place.records ?_
      innerAvl).call (frameCells base outer') ?_ ?_
    · have room := place.records.1
      rw [List.length_map] at room
      exact room.trans_lt (by decide)
    · abel
    · rintro _ _ rfl
      refine pure (.inr ⟨nonzero, _, ?_, tree', l', _, r', equal, removed, kept⟩)
      rw [treeCells_plug, frameCells_append, hole_append, ← place.rootp_eq, hole_flatMap_shrink]
      abel

end Cloudlibc.Search
