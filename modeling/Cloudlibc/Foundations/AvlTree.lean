import Mathlib

/-!
# Height-balanced trees with stored balances

Binary trees whose nodes store the difference of the heights of their subtrees. In an AVL
tree the stored balances are right and lie between -1 and 1 (`IsAvl`), so the number of
nodes grows at least like the Fibonacci numbers of the height (`IsAvl.fib_le`).

A position in a tree is the list of frames on the way to it (`Frame`, `plug`). When the
subtree at a position grows, the frames above it grow (`Frame.grow`), and one rotation at
the topmost frame that was out of balance is enough (`rebalance_grow_isAvl`). When the subtree
shrinks, every frame on the way may rotate (`Frame.shrink`), and the height of the whole
changes unless a frame absorbs the change (`plug_shrink`).
-/

set_option autoImplicit false

namespace Cloudlibc.AvlTree

open List Frame BinaryTree

variable {α : Type*}

/-- The contents of a node: a value and the stored balance. -/
structure Entry (α : Type*) where
  value : α
  balance : ℤ
  deriving DecidableEq, Repr

/-- The tree of entries. -/
abbrev BalTree (α : Type*) := BinaryTree (Entry α)

/-- The same value with another balance. -/
def Entry.withBalance (entry : Entry α) (balance : ℤ) : Entry α :=
  { entry with balance := balance }

@[simp]
theorem Entry.withBalance_value (entry : Entry α) (balance : ℤ) :
    (entry.withBalance balance).value = entry.value := rfl

@[simp]
theorem Entry.withBalance_balance (entry : Entry α) (balance : ℤ) :
    (entry.withBalance balance).balance = balance := rfl

/-- The values in order. -/
def inorder : BalTree α → List α
  | .nil => []
  | .node entry l r => inorder l ++ entry.value :: inorder r

/-- Every stored balance is the difference of two heights, and at most one away from zero. -/
def IsAvl : BalTree α → Prop
  | .nil => True
  | .node entry l r => entry.balance = l.height - r.height ∧ -1 ≤ entry.balance ∧
      entry.balance ≤ 1 ∧ IsAvl l ∧ IsAvl r

theorem isAvl_nil : IsAvl (.nil : BalTree α) := trivial

variable {l r : BalTree α}

theorem isAvl_node {entry : Entry α} :
    IsAvl (.node entry l r) ↔ entry.balance = l.height - r.height ∧ -1 ≤ entry.balance ∧
      entry.balance ≤ 1 ∧ IsAvl l ∧ IsAvl r :=
  Iff.rfl

variable {t : BalTree α}

/-- A tree that is higher than another one has a root. -/
theorem exists_node_of_height_pos (positive : 0 < t.height) : ∃ entry l r, t = .node entry l r := by
  cases t with
  | nil => simp at positive
  | node entry l r => exact ⟨entry, l, r, rfl⟩

/-- **An AVL tree has at least as many nodes as a Fibonacci number of its height.** -/
theorem IsAvl.fib_le (avl : IsAvl t) : Nat.fib (t.height + 2) ≤ t.numNodes + 1 := by
  induction t with
  | nil => simp
  | node entry l r ihLeft ihRight =>
    obtain ⟨difference, lower, upper, leftAvl, rightAvl⟩ := avl
    have left := ihLeft leftAvl
    have right := ihRight rightAvl
    have recurrence : ∀ n, Nat.fib (n + 1 + 2) = Nat.fib (n + 1) + Nat.fib (n + 2) := by
      intro n
      exact Nat.fib_add_two
    simp only [height, numNodes]
    rcases le_total l.height r.height with le | le
    · have mono : Nat.fib (r.height + 1) ≤ Nat.fib (l.height + 2) :=
        Nat.fib_mono (by omega)
      rw [max_eq_right le, recurrence]
      omega
    · have mono : Nat.fib (l.height + 1) ≤ Nat.fib (r.height + 2) :=
        Nat.fib_mono (by omega)
      rw [max_eq_left le, recurrence]
      omega

theorem two_pow_lt_fib {w : ℕ} (two : 2 ≤ w) : 2 ^ w + 1 < Nat.fib (2 * w + 2) := by
  induction w, two using Nat.le_induction with
  | base => decide
  | succ w two ih =>
    have mono := Nat.fib_le_fib_succ (n := 2 * w + 2)
    rw [Nat.mul_add_one, Nat.fib_add_two]
    omega

/-- **An AVL tree whose nodes have addresses of `w` bits is less than `2 * w` high.** -/
theorem IsAvl.height_lt {w : ℕ} (avl : IsAvl t) (two : 2 ≤ w) (few : t.numNodes ≤ 2 ^ w) :
    t.height < 2 * w := by
  by_contra high
  have lower := avl.fib_le
  have mono : Nat.fib (2 * w + 2) ≤ Nat.fib (t.height + 2) := Nat.fib_mono (by omega)
  have large := two_pow_lt_fib two
  omega

/-! ## Positions -/

/-- The two sides of a node. -/
inductive Side
  | left
  | right
  deriving DecidableEq, Repr

/-- A node with a hole in place of one of its subtrees. -/
structure Frame (α : Type*) where
  side : Side
  entry : Entry α
  sibling : BalTree α

/-- Fill the hole of a frame. -/
def Frame.fill (frame : Frame α) (t : BalTree α) : BalTree α :=
  match frame.side with
  | .left => .node frame.entry t frame.sibling
  | .right => .node frame.entry frame.sibling t

/-- Fill the hole below a list of frames, the topmost first. -/
def plug : List (Frame α) → BalTree α → BalTree α
  | [], t => t
  | frame :: frames, t => frame.fill (plug frames t)

/-- The values before the hole. -/
def before : List (Frame α) → List α
  | [] => []
  | ⟨.left, _, _⟩ :: frames => before frames
  | ⟨.right, entry, sibling⟩ :: frames => inorder sibling ++ entry.value :: before frames

/-- The values behind the hole. -/
def after : List (Frame α) → List α
  | [] => []
  | ⟨.left, entry, sibling⟩ :: frames => after frames ++ entry.value :: inorder sibling
  | ⟨.right, _, _⟩ :: frames => after frames

theorem inorder_plug (frames : List (Frame α)) (t : BalTree α) :
    inorder (plug frames t) = before frames ++ inorder t ++ after frames := by
  induction frames with
  | nil => simp [plug, before, after]
  | cons frame frames ih =>
    obtain ⟨side, entry, sibling⟩ := frame
    cases side <;> simp [plug, Frame.fill, inorder, before, after, ih]

theorem plug_append (first second : List (Frame α)) (t : BalTree α) :
    plug (first ++ second) t = plug first (plug second t) := by
  induction first with
  | nil => rfl
  | cons frame first ih => simp [plug, ih]

theorem before_append (first second : List (Frame α)) :
    before (first ++ second) = before first ++ before second := by
  induction first with
  | nil => rfl
  | cons frame first ih =>
    obtain ⟨side, entry, sibling⟩ := frame
    cases side <;> simp [before, ih]

theorem after_append (first second : List (Frame α)) :
    after (first ++ second) = after second ++ after first := by
  induction first with
  | nil => simp [after]
  | cons frame first ih =>
    obtain ⟨side, entry, sibling⟩ := frame
    cases side <;> simp [after, ih]

/-- The balance of a frame, seen from its hole. -/
def Frame.tilt (frame : Frame α) : ℤ :=
  match frame.side with
  | .left => frame.entry.balance
  | .right => -frame.entry.balance

variable {frame : Frame α}

theorem Frame.tilt_eq_zero : frame.tilt = 0 ↔ frame.entry.balance = 0 := by
  obtain ⟨side, entry, sibling⟩ := frame
  cases side <;> simp [Frame.tilt]

theorem isAvl_fill : IsAvl (frame.fill t) ↔ frame.tilt = t.height - frame.sibling.height ∧
    -1 ≤ frame.tilt ∧ frame.tilt ≤ 1 ∧ IsAvl t ∧ IsAvl frame.sibling := by
  obtain ⟨side, entry, sibling⟩ := frame
  cases side with
  | left => exact Iff.rfl
  | right =>
    simp only [Frame.fill, isAvl_node, Frame.tilt]
    constructor <;> rintro ⟨difference, lower, upper, first, second⟩ <;>
      exact ⟨by omega, by omega, by omega, second, first⟩

theorem height_fill (frame : Frame α) (t : BalTree α) :
    (frame.fill t).height = max t.height frame.sibling.height + 1 := by
  obtain ⟨side, entry, sibling⟩ := frame
  cases side <;> simp [Frame.fill, max_comm]

/-- What fills a hole of an AVL tree is an AVL tree. -/
theorem IsAvl.of_plug (frames : List (Frame α)) (avl : IsAvl (plug frames t)) : IsAvl t := by
  induction frames with
  | nil => exact avl
  | cons frame frames ih => exact ih (isAvl_fill.mp avl).2.2.2.1

variable {t' : BalTree α}

/-- The heights above a hole depend only on the height of what fills it. -/
theorem height_plug_congr (frames : List (Frame α)) (same : t'.height = t.height) :
    (plug frames t').height = (plug frames t).height := by
  induction frames with
  | nil => exact same
  | cons frame frames ih => rw [plug, plug, height_fill, height_fill, ih]

variable {frames : List (Frame α)}

/-- A hole may be filled with another AVL tree of the same height. -/
theorem IsAvl.plug_congr (avl : IsAvl (plug frames t)) (avl' : IsAvl t')
    (same : t'.height = t.height) : IsAvl (plug frames t') := by
  induction frames with
  | nil => exact avl'
  | cons frame frames ih =>
    rw [plug, isAvl_fill] at avl ⊢
    rw [height_plug_congr frames same]
    exact ⟨avl.1, avl.2.1, avl.2.2.1, ih avl.2.2.2.1, avl.2.2.2.2⟩

/-! ## Rotations -/

/-- The result of a double rotation: the inner grandchild `z` becomes the root. -/
def double (p z q : Entry α) (a b c d : BalTree α) : BalTree α :=
  .node (z.withBalance 0)
    (.node (p.withBalance (if z.balance < 0 then 1 else 0)) a b)
    (.node (q.withBalance (if z.balance > 0 then -1 else 0)) c d)

theorem inorder_double (p z q : Entry α) (a b c d : BalTree α) :
    inorder (double p z q a b c d) =
      inorder (.node p a (.node z b (.node q c d))) := by
  simp [double, inorder]

theorem double_isAvl {p z q : Entry α} {a b c d : BalTree α} (inner : IsAvl (.node z b c))
    (aAvl : IsAvl a) (dAvl : IsAvl d) (aHeight : a.height = max b.height c.height)
    (dHeight : d.height = max b.height c.height) :
    IsAvl (double p z q a b c d) ∧ (double p z q a b c d).height = a.height + 2 := by
  obtain ⟨difference, lower, upper, bAvl, cAvl⟩ := inner
  simp only [double, isAvl_node, aAvl, bAvl, cAvl, dAvl, Entry.withBalance_balance,
    height]
  refine ⟨⟨?_, ?_, ?_, ⟨?_, ?_, ?_, trivial, trivial⟩, ?_, ?_, ?_, trivial, trivial⟩, ?_⟩ <;>
    try split_ifs
  all_goals omega

/-- Bring a root that is out of balance after an insertion back into balance. -/
def rebalance : BalTree α → BalTree α
  | .nil => .nil
  | .node x l r =>
    if x.balance > 1 then
      match l with
      | .nil => .node x l r
      | .node y a yr =>
        if y.balance < 0 then
          match yr with
          | .nil => .node x l r
          | .node z b c => double y z x a b c r
        else
          .node (y.withBalance 0) a (.node (x.withBalance 0) yr r)
    else if x.balance < -1 then
      match r with
      | .nil => .node x l r
      | .node y yl d =>
        if y.balance > 0 then
          match yl with
          | .nil => .node x l r
          | .node z b c => double x z y l b c d
        else
          .node (y.withBalance 0) (.node (x.withBalance 0) l yl) d
    else
      .node x l r

theorem inorder_rebalance (t : BalTree α) : inorder (rebalance t) = inorder t := by
  fun_cases rebalance t <;> simp [inorder_double, inorder]

/-- The stored balance of the root, or zero. -/
def rootBalance : BalTree α → ℤ
  | .nil => 0
  | .node entry _ _ => entry.balance

variable {x : Entry α}

theorem rootBalance_fill : rootBalance (frame.fill t) = 0 ↔ frame.tilt = 0 := by
  obtain ⟨side, entry, sibling⟩ := frame
  cases side <;> simp [Frame.tilt, Frame.fill, rootBalance]

/-- A root in balance stays. -/
theorem rebalance_of_isAvl (avl : IsAvl t) : rebalance t = t := by
  cases t with
  | nil => rfl
  | node x l r =>
    obtain ⟨-, lower, upper, -, -⟩ := avl
    simp only [rebalance]
    rw [if_neg (by omega), if_neg (by omega)]

/-- A rotation at a root whose subtree on one side, itself out of exact balance, is too high. -/
theorem rebalance_heavy (frame : Frame α) (avl : IsAvl t) (siblingAvl : IsAvl frame.sibling)
    (heavy : frame.tilt = 2) (height : t.height = frame.sibling.height + 2)
    (inexact : rootBalance t ≠ 0) :
    IsAvl (rebalance (frame.fill t)) ∧ (rebalance (frame.fill t)).height = t.height := by
  obtain ⟨y, yl, yr, rfl⟩ := exists_node_of_height_pos (t := t) (by omega)
  obtain ⟨difference, lower, upper, ylAvl, yrAvl⟩ := avl
  have yNonzero : y.balance ≠ 0 := inexact
  obtain ⟨side, x, sibling⟩ := frame
  simp only [BinaryTree.height] at siblingAvl height
  cases side with
  | left =>
    have two : x.balance = 2 := heavy
    simp only [Frame.fill, rebalance, two, if_pos (show (2 : ℤ) > 1 by decide)]
    split_ifs with negative
    · obtain ⟨z, b, c, rfl⟩ := exists_node_of_height_pos (t := yr) (by omega)
      simp only [BinaryTree.height] at height difference ⊢
      have result := double_isAvl (p := y) (q := x) yrAvl ylAvl siblingAvl (by omega) (by omega)
      exact ⟨result.1, by rw [result.2]; omega⟩
    · simp only [isAvl_node, ylAvl, yrAvl, siblingAvl, Entry.withBalance_balance,
        BinaryTree.height, and_true, true_and]
      omega
  | right =>
    have two : x.balance = -2 := neg_eq_iff_eq_neg.mp heavy
    simp only [Frame.fill, rebalance, two, if_neg (show ¬ (-2 : ℤ) > 1 by decide),
      if_pos (show (-2 : ℤ) < -1 by decide)]
    split_ifs with positive
    · obtain ⟨z, b, c, rfl⟩ := exists_node_of_height_pos (t := yl) (by omega)
      simp only [BinaryTree.height] at height difference ⊢
      have result := double_isAvl (p := x) (q := y) ylAvl siblingAvl yrAvl (by omega) (by omega)
      exact ⟨result.1, by rw [result.2]; omega⟩
    · simp only [isAvl_node, ylAvl, yrAvl, siblingAvl, Entry.withBalance_balance,
        BinaryTree.height, and_true]
      omega

/-! ## A subtree grows -/

/-- The frame after the subtree in its hole has grown by one. -/
def Frame.grow (frame : Frame α) : Frame α :=
  { frame with
    entry := frame.entry.withBalance
      (match frame.side with
        | .left => frame.entry.balance + 1
        | .right => frame.entry.balance - 1) }

theorem Frame.tilt_grow (frame : Frame α) : frame.grow.tilt = frame.tilt + 1 := by
  obtain ⟨side, entry, sibling⟩ := frame
  cases side
  · rfl
  · simp only [Frame.tilt, Frame.grow, Entry.withBalance_balance]
    ring

theorem before_map_grow (frames : List (Frame α)) :
    before (frames.map Frame.grow) = before frames := by
  induction frames with
  | nil => rfl
  | cons frame frames ih =>
    obtain ⟨side, entry, sibling⟩ := frame
    cases side <;> simpa [before, Frame.grow] using ih

theorem after_map_grow (frames : List (Frame α)) :
    after (frames.map Frame.grow) = after frames := by
  induction frames with
  | nil => rfl
  | cons frame frames ih =>
    obtain ⟨side, entry, sibling⟩ := frame
    cases side <;> simpa [after, Frame.grow] using ih

variable {new : Entry α}

/-- Below frames that are in exact balance, a new node needs no rotation. -/
theorem plug_grow_isAvl (avl : IsAvl (plug frames .nil))
    (exact : ∀ frame ∈ frames, frame.entry.balance = 0) (newExact : new.balance = 0) :
    IsAvl (plug (frames.map Frame.grow) (.node new .nil .nil)) ∧
      (plug (frames.map Frame.grow) (.node new .nil .nil)).height =
        (plug frames .nil).height + 1 ∧
      (frames ≠ [] → rootBalance (plug (frames.map Frame.grow) (.node new .nil .nil)) ≠ 0) := by
  induction frames with
  | nil => simp [plug, isAvl_node, isAvl_nil, newExact]
  | cons frame frames ih =>
    have level := Frame.tilt_eq_zero.mpr (exact frame mem_cons_self)
    obtain ⟨difference, -, -, holeAvl, siblingAvl⟩ := isAvl_fill.mp avl
    obtain ⟨grownAvl, height, -⟩ := ih holeAvl fun other member =>
      exact other (mem_cons_of_mem _ member)
    have siblingAvl' : IsAvl frame.grow.sibling := siblingAvl
    have sameSibling : frame.grow.sibling.height = frame.sibling.height := rfl
    simp only [map_cons, plug, isAvl_fill, height_fill, ne_eq, rootBalance_fill, frame.tilt_grow,
      grownAvl, siblingAvl', height, sameSibling, and_true]
    omega

/-- The root above a new node stores the difference of two heights. -/
theorem plug_grow_root (avl : IsAvl (plug frames .nil))
    (exact : ∀ frame ∈ frames.tail, frame.entry.balance = 0) (newExact : new.balance = 0) :
    ∃ x l r, plug (frames.map Frame.grow) (.node new .nil .nil) = .node x l r ∧ IsAvl l ∧
      IsAvl r ∧ x.balance = l.height - r.height := by
  cases frames with
  | nil => exact ⟨new, .nil, .nil, rfl, isAvl_nil, isAvl_nil, by simp [newExact]⟩
  | cons frame frames =>
    obtain ⟨difference, -, -, holeAvl, siblingAvl⟩ := isAvl_fill.mp avl
    obtain ⟨grownAvl, height, -⟩ := plug_grow_isAvl holeAvl exact newExact
    obtain ⟨side, entry, sibling⟩ := frame
    simp only [Frame.tilt] at difference
    cases side with
    | left =>
      refine ⟨_, _, _, rfl, grownAvl, siblingAvl, ?_⟩
      simp only [Frame.grow, Entry.withBalance_balance, height] at difference ⊢
      omega
    | right =>
      refine ⟨_, _, _, rfl, siblingAvl, grownAvl, ?_⟩
      simp only [Frame.grow, Entry.withBalance_balance, height] at difference ⊢
      omega

/-- **A new node below frames of which only the topmost is out of exact balance** needs one
rotation at that frame, and the height changes only if there is no such frame. -/
theorem rebalance_grow_isAvl (avl : IsAvl (plug (frame :: frames) .nil))
    (exact : ∀ frame ∈ frames, frame.entry.balance = 0) (newExact : new.balance = 0) :
    IsAvl (rebalance (plug ((frame :: frames).map Frame.grow) (.node new .nil .nil))) ∧
      (frame.entry.balance ≠ 0 →
        (rebalance (plug ((frame :: frames).map Frame.grow) (.node new .nil .nil))).height =
          (plug (frame :: frames) .nil).height) := by
  obtain ⟨difference, lower, upper, holeAvl, siblingAvl⟩ := isAvl_fill.mp avl
  obtain ⟨grownAvl, height, inexact⟩ := plug_grow_isAvl holeAvl exact newExact
  have sameSibling : frame.grow.sibling.height = frame.sibling.height := rfl
  have tilted := frame.tilt_grow
  have before := height_fill frame (plug frames .nil)
  rw [ne_eq, ← Frame.tilt_eq_zero, show plug (frame :: frames) .nil = frame.fill _ from rfl]
  by_cases heavy : frame.tilt = 1
  · -- Only frames below make the subtree in the hole higher than its sibling by two.
    have below : frames ≠ [] := by
      rintro rfl
      simp only [plug, BinaryTree.height] at difference
      omega
    have result := rebalance_heavy frame.grow grownAvl siblingAvl (by omega) (by omega)
      (inexact below)
    refine ⟨result.1, fun _ => result.2.trans ?_⟩
    omega
  · have inBalance : IsAvl (plug ((frame :: frames).map Frame.grow) (.node new .nil .nil)) :=
      isAvl_fill.mpr ⟨by omega, by omega, by omega, grownAvl, siblingAvl⟩
    rw [rebalance_of_isAvl inBalance]
    refine ⟨inBalance, fun inexactTop => ?_⟩
    rw [map_cons, plug, height_fill]
    omega

/-! ## A subtree shrinks -/

/-- The frames after the subtree in the hole of a frame has shrunk by one. A rotation turns the
frame into two. -/
def Frame.shrink (frame : Frame α) : List (Frame α) :=
  let x := frame.entry
  match frame.side with
  | .left =>
    if x.balance < 0 then
      match frame.sibling with
      | .nil => [frame]
      | .node y yl yr =>
        if y.balance > 0 then
          match yl with
          | .nil => [frame]
          | .node z b c =>
            [⟨.left, z.withBalance 0,
                .node (y.withBalance (if z.balance > 0 then -1 else 0)) c yr⟩,
              ⟨.left, x.withBalance (if z.balance < 0 then 1 else 0), b⟩]
        else if y.balance < 0 then
          [⟨.left, y.withBalance 0, yr⟩, ⟨.left, x.withBalance 0, yl⟩]
        else
          [⟨.left, y.withBalance 1, yr⟩, ⟨.left, x.withBalance (-1), yl⟩]
    else
      [⟨.left, x.withBalance (x.balance - 1), frame.sibling⟩]
  | .right =>
    if x.balance > 0 then
      match frame.sibling with
      | .nil => [frame]
      | .node y yl yr =>
        if y.balance < 0 then
          match yr with
          | .nil => [frame]
          | .node z b c =>
            [⟨.right, z.withBalance 0,
                .node (y.withBalance (if z.balance < 0 then 1 else 0)) yl b⟩,
              ⟨.right, x.withBalance (if z.balance > 0 then -1 else 0), c⟩]
        else if y.balance > 0 then
          [⟨.right, y.withBalance 0, yl⟩, ⟨.right, x.withBalance 0, yr⟩]
        else
          [⟨.right, y.withBalance (-1), yl⟩, ⟨.right, x.withBalance 1, yr⟩]
    else
      [⟨.right, x.withBalance (x.balance + 1), frame.sibling⟩]

/-- The frame keeps its height when the subtree in its hole shrinks. -/
def Frame.Absorbs (frame : Frame α) : Prop :=
  frame.entry.balance = 0 ∨
    match frame.side with
    | .left => frame.entry.balance < 0 ∧ rootBalance frame.sibling = 0
    | .right => frame.entry.balance > 0 ∧ rootBalance frame.sibling = 0

instance (frame : Frame α) : Decidable frame.Absorbs :=
  match frame with
  | ⟨.left, entry, sibling⟩ =>
    inferInstanceAs (Decidable (entry.balance = 0 ∨ entry.balance < 0 ∧ rootBalance sibling = 0))
  | ⟨.right, entry, sibling⟩ =>
    inferInstanceAs (Decidable (entry.balance = 0 ∨ entry.balance > 0 ∧ rootBalance sibling = 0))

theorem before_after_shrink (frame : Frame α) :
    before frame.shrink = before [frame] ∧ after frame.shrink = after [frame] := by
  obtain ⟨side, x, sibling⟩ := frame
  cases side <;> simp only [Frame.shrink] <;> repeat' split
  all_goals simp [before, after, inorder]

theorem before_flatMap_shrink (frames : List (Frame α)) :
    before (frames.flatMap Frame.shrink) = before frames := by
  induction frames with
  | nil => rfl
  | cons frame frames ih =>
    rw [flatMap_cons, before_append, (before_after_shrink frame).1, ih, ← before_append]
    rfl

theorem after_flatMap_shrink (frames : List (Frame α)) :
    after (frames.flatMap Frame.shrink) = after frames := by
  induction frames with
  | nil => rfl
  | cons frame frames ih =>
    rw [flatMap_cons, after_append, (before_after_shrink frame).2, ih, ← after_append]
    rfl

/-- A frame over a subtree that has shrunk: the rotations keep the tree balanced, and the height
changes unless the frame absorbs the change. -/
theorem shrink_isAvl (avl : IsAvl (frame.fill t)) (avl' : IsAvl t')
    (shrunk : t'.height + 1 = t.height) :
    IsAvl (plug frame.shrink t') ∧
      (frame.Absorbs → (plug frame.shrink t').height = (frame.fill t).height) ∧
      (¬ frame.Absorbs → (plug frame.shrink t').height + 1 = (frame.fill t).height) := by
  obtain ⟨side, x, sibling⟩ := frame
  cases side with
  | left =>
    simp only [Frame.fill, isAvl_node] at avl
    obtain ⟨difference, lower, upper, -, siblingAvl⟩ := avl
    simp only [Frame.shrink, Frame.Absorbs, Frame.fill, BinaryTree.height]
    split_ifs with negative
    · obtain ⟨y, yl, yr, rfl⟩ := exists_node_of_height_pos (t := sibling) (by omega)
      obtain ⟨yDifference, yLower, yUpper, ylAvl, yrAvl⟩ := siblingAvl
      simp only [BinaryTree.height, rootBalance] at difference ⊢
      split_ifs with yPositive yNegative
      · obtain ⟨z, b, c, rfl⟩ := exists_node_of_height_pos (t := yl) (by omega)
        simp only [height] at difference yDifference ⊢
        have result := double_isAvl (p := x) (q := y) ylAvl avl' yrAvl (by omega) (by omega)
        refine ⟨result.1, fun absorbs => by omega, fun _ => ?_⟩
        have height := result.2
        simp only [double] at height
        simp only [plug, Frame.fill, height]
        omega
      all_goals
        simp only [plug, Frame.fill, isAvl_node, avl', ylAvl, yrAvl, Entry.withBalance_balance,
          BinaryTree.height, and_true]
        omega
    · simp only [plug, Frame.fill, isAvl_node, avl', siblingAvl, Entry.withBalance_balance,
        BinaryTree.height, and_true]
      omega
  | right =>
    simp only [Frame.fill, isAvl_node] at avl
    obtain ⟨difference, lower, upper, siblingAvl, -⟩ := avl
    simp only [Frame.shrink, Frame.Absorbs, Frame.fill, BinaryTree.height]
    split_ifs with positive
    · obtain ⟨y, yl, yr, rfl⟩ := exists_node_of_height_pos (t := sibling) (by omega)
      obtain ⟨yDifference, yLower, yUpper, ylAvl, yrAvl⟩ := siblingAvl
      simp only [BinaryTree.height, rootBalance] at difference ⊢
      split_ifs with yNegative yPositive
      · obtain ⟨z, b, c, rfl⟩ := exists_node_of_height_pos (t := yr) (by omega)
        simp only [height] at difference yDifference ⊢
        have result := double_isAvl (p := y) (q := x) yrAvl ylAvl avl' (by omega) (by omega)
        refine ⟨result.1, fun absorbs => by omega, fun _ => ?_⟩
        have height := result.2
        simp only [double] at height
        simp only [plug, Frame.fill, height]
        omega
      all_goals
        simp only [plug, Frame.fill, isAvl_node, avl', ylAvl, yrAvl, Entry.withBalance_balance,
          BinaryTree.height, and_true, true_and]
        omega
    · simp only [plug, Frame.fill, isAvl_node, avl', siblingAvl, Entry.withBalance_balance,
        BinaryTree.height, and_true]
      omega

/-- Below frames that absorb nothing, the change of height reaches the top. -/
theorem plug_shrink (avl : IsAvl (plug frames t)) (avl' : IsAvl t')
    (shrunk : t'.height + 1 = t.height) (passOn : ∀ frame ∈ frames, ¬ frame.Absorbs) :
    IsAvl (plug (frames.flatMap Frame.shrink) t') ∧
      (plug (frames.flatMap Frame.shrink) t').height + 1 = (plug frames t).height := by
  induction frames with
  | nil => exact ⟨avl', shrunk⟩
  | cons frame frames ih =>
    obtain ⟨innerAvl, innerHeight⟩ := ih (IsAvl.of_plug [frame] avl)
      fun frame member => passOn frame (mem_cons_of_mem _ member)
    obtain ⟨outerAvl, -, height⟩ := shrink_isAvl avl innerAvl innerHeight
    rw [flatMap_cons, plug_append]
    exact ⟨outerAvl, height (passOn frame mem_cons_self)⟩

/-- **A subtree has shrunk below frames of which only the topmost may absorb the change.** -/
theorem plug_shrink_isAvl (avl : IsAvl (plug (frame :: frames) t)) (avl' : IsAvl t')
    (shrunk : t'.height + 1 = t.height) (passOn : ∀ frame ∈ frames, ¬ frame.Absorbs) :
    IsAvl (plug ((frame :: frames).flatMap Frame.shrink) t') ∧
      (frame.Absorbs → (plug ((frame :: frames).flatMap Frame.shrink) t').height =
        (plug (frame :: frames) t).height) := by
  obtain ⟨innerAvl, innerHeight⟩ :=
    plug_shrink (IsAvl.of_plug [frame] avl) avl' shrunk passOn
  obtain ⟨outerAvl, height, -⟩ := shrink_isAvl avl innerAvl innerHeight
  rw [flatMap_cons, plug_append]
  exact ⟨outerAvl, height⟩

end Cloudlibc.AvlTree
