import Cloudlibc.Foundations.Memory
import Cloudlibc.Search.TreePath

/-!
# Binary search trees in memory

`tsearch()` and `tdelete()` of `libc/search`, and `tfind()` of `include/search.h`, as
programs over a memory of `posix_tnode` fields. A `posix_tnode **` is a slot: the root
pointer of the caller, or one of the two child fields of a node. Every assignment of the
source through a pointer is one store, in the order of the source.

What the environment decides is a parameter of a call: the contents of the uninitialised
words of `struct path`, and what `malloc()` returns. A proposed address of `malloc()` is
used when it is not null and free; otherwise the call returns a null pointer.

The loops are bounded by the number of addresses.
-/

set_option autoImplicit false

namespace Cloudlibc.Search

open Cloudlibc.AvlTree Cloudlibc.Loop Cloudlibc.Memory

variable {κ : Type}

/-! ## The memory of the nodes -/

/-- Addresses of nodes. The null pointer is zero. -/
abbrev Pointer := BitVec 64

/-- Where a pointer to a node is stored: the root, or a child field of a node. -/
inductive Slot
  | root
  | left (n : Pointer)
  | right (n : Pointer)
  deriving DecidableEq, Repr

/-- The locations of a tree. -/
inductive Location
  | ptr (slot : Slot)
  | key (n : Pointer)
  | balance (n : Pointer)
  deriving DecidableEq, Repr

/-- The types of the values. -/
@[reducible]
def Location.Value (κ : Type) : Location → Type
  | .ptr _ => Pointer
  | .key _ => κ
  | .balance _ => ℤ

/-- Programs over the memory of a tree. -/
abbrev TreeProgram (κ ρ : Type) := Program (Location.Value κ) ρ

/-- The contents of a `posix_tnode`. -/
structure PosixTnode (κ : Type) where
  key : κ
  left : Pointer
  right : Pointer
  balance : ℤ

/-- The cells of a `posix_tnode`. -/
def PosixTnode.cells (contents : PosixTnode κ) (n : Pointer) : List (Sigma (Location.Value κ)) :=
  [⟨.key n, contents.key⟩, ⟨.ptr (.left n), contents.left⟩, ⟨.ptr (.right n), contents.right⟩,
    ⟨.balance n, contents.balance⟩]

/-- `malloc()` of a node, which has indeterminate contents. -/
def malloc (choice : Option (Pointer × PosixTnode κ)) : TreeProgram κ Pointer :=
  match choice with
  | none => pure 0
  | some (n, contents) =>
    if n = 0 then
      pure 0
    else do
      if ← allocate (contents.cells n) then pure n else pure 0

/-- `free()` of a node. -/
def free (n : Pointer) : TreeProgram κ Unit := do
  release (.key n)
  release (.ptr (.left n))
  release (.ptr (.right n))
  release (.balance n)

/-- A bound on the length of a walk through distinct nodes. -/
def addresses : ℕ := 2 ^ 64

/-! ## Rotations -/

/-- The left-right case: the pointers and balances around `x`, its left child `y` and the right
child `z` of `y`. -/
def leftRight (rootp : Slot) (x y : Pointer) : TreeProgram κ Unit := do
  let z ← load (.ptr (.right y))
  let zLeft ← load (.ptr (.left z))
  store (.ptr (.right y)) zLeft
  store (.ptr (.left z)) y
  let zRight ← load (.ptr (.right z))
  store (.ptr (.left x)) zRight
  store (.ptr (.right z)) x
  store (.ptr rootp) z
  let zBalance ← load (.balance z)
  store (.balance x) (if zBalance > 0 then -1 else 0)
  let zBalance ← load (.balance z)
  store (.balance y) (if zBalance < 0 then 1 else 0)
  store (.balance z) (0 : ℤ)

/-- The right-left case. -/
def rightLeft (rootp : Slot) (x y : Pointer) : TreeProgram κ Unit := do
  let z ← load (.ptr (.left y))
  let zLeft ← load (.ptr (.left z))
  store (.ptr (.right x)) zLeft
  store (.ptr (.left z)) x
  let zRight ← load (.ptr (.right z))
  store (.ptr (.left y)) zRight
  store (.ptr (.right z)) y
  store (.ptr rootp) z
  let zBalance ← load (.balance z)
  store (.balance x) (if zBalance < 0 then 1 else 0)
  let zBalance ← load (.balance z)
  store (.balance y) (if zBalance > 0 then -1 else 0)
  store (.balance z) (0 : ℤ)

/-- The pointers of the left-left case. -/
def leftLeft (rootp : Slot) (x y : Pointer) : TreeProgram κ Unit := do
  let yRight ← load (.ptr (.right y))
  store (.ptr (.left x)) yRight
  store (.ptr (.right y)) x
  store (.ptr rootp) y

/-- The pointers of the right-right case. -/
def rightRight (rootp : Slot) (x y : Pointer) : TreeProgram κ Unit := do
  let yLeft ← load (.ptr (.left y))
  store (.ptr (.right x)) yLeft
  store (.ptr (.left y)) x
  store (.ptr rootp) y

/-! ## Insertion -/

/-- The local variables of a descent: where the rebalancing starts, the steps from there, and
where the descent has got. -/
structure Descent where
  rootp : Slot
  path : Path
  leaf : Slot
  deriving DecidableEq, Repr

/-- Start over at the current position, with an empty path. -/
def Descent.restart (state : Descent) : Descent :=
  { state with rootp := state.leaf, path := state.path.init }

/-- One pass of the search for the leaf of `tsearch()`. -/
def tsearchDescend (compar : κ → κ → ℤ) (key : κ) (state : Descent) :
    TreeProgram κ (Pass Descent (Pointer ⊕ Descent)) := do
  let n ← load (.ptr state.leaf)
  if n = 0 then
    return .leave (.inr state)
  else
    let balance ← load (.balance n)
    let state := if balance ≠ 0 then state.restart else state
    let nodeKey ← load (.key n)
    let cmp := compar key nodeKey
    if cmp < 0 then
      let path ← state.path.takingLeft
      return .again { state with path := path, leaf := .left n }
    else if cmp > 0 then
      let path ← state.path.takingRight
      return .again { state with path := path, leaf := .right n }
    else
      return .leave (.inl n)

/-- One pass of the adjustment of the balances in `tsearch()`. -/
def tsearchAdjust (leaf : Slot) (state : Pointer × Path) :
    TreeProgram κ (Pass (Pointer × Path) Unit) := do
  let (n, path) := state
  let last ← load (.ptr leaf)
  if n ≠ last then
    let (left, path) := path.tookLeft
    let balance ← load (.balance n)
    if left then
      store (.balance n) (balance + 1)
      let next ← load (.ptr (.left n))
      return .again (next, path)
    else
      store (.balance n) (balance - 1)
      let next ← load (.ptr (.right n))
      return .again (next, path)
  else
    return .leave ()

/-- The rotation at the end of `tsearch()`. -/
def tsearchRotate (rootp : Slot) : TreeProgram κ Unit := do
  let x ← load (.ptr rootp)
  let xBalance ← load (.balance x)
  if xBalance > 1 then
    let y ← load (.ptr (.left x))
    let yBalance ← load (.balance y)
    if yBalance < 0 then
      leftRight rootp x y
    else
      leftLeft rootp x y
      store (.balance x) (0 : ℤ)
      store (.balance y) (0 : ℤ)
  else if xBalance < -1 then
    let y ← load (.ptr (.right x))
    let yBalance ← load (.balance y)
    if yBalance > 0 then
      rightLeft rootp x y
    else
      rightRight rootp x y
      store (.balance x) (0 : ℤ)
      store (.balance y) (0 : ℤ)

/-- The part of `tsearch()` that follows the call of `malloc()`. -/
def tsearchInsert (key : κ) (state : Descent) (result : Pointer) : TreeProgram κ Pointer := do
  store (.ptr state.leaf) result
  if result = 0 then
    return 0
  else
    store (.key result) key
    store (.ptr (.left result)) (0 : Pointer)
    store (.ptr (.right result)) (0 : Pointer)
    store (.balance result) (0 : ℤ)
    let n ← load (.ptr state.rootp)
    loop (tsearchAdjust state.leaf) addresses (n, state.path)
    tsearchRotate state.rootp
    return result

/-- `tsearch()`. The arguments `path` and `choice` are the contents of the uninitialised path and
the outcome of `malloc()`. -/
def tsearch (compar : κ → κ → ℤ) (path : Path) (choice : Option (Pointer × PosixTnode κ))
    (key : κ) (rootp : Option Slot) : TreeProgram κ Pointer := do
  match rootp with
  | none => return 0
  | some rootp =>
    let start : Descent := { rootp := rootp, path := path.init, leaf := rootp }
    match ← loop (tsearchDescend compar key) addresses start with
    | .inl found => return found
    | .inr state =>
      let result ← malloc choice
      tsearchInsert key state result

/-! ## Deletion -/

/-- The condition of `GO_LEFT()`: the node is balanced, or its child in the opposite direction
is. -/
def absorbsLeft (n : Pointer) : TreeProgram κ Bool := do
  let balance ← load (.balance n)
  if balance = 0 then
    return true
  else if balance < 0 then
    let right ← load (.ptr (.right n))
    let rightBalance ← load (.balance right)
    return decide (rightBalance = 0)
  else
    return false

/-- `GO_LEFT()`. -/
def goLeft (state : Descent) : TreeProgram κ Descent := do
  let n ← load (.ptr state.leaf)
  let restarts ← absorbsLeft n
  let state := if restarts then state.restart else state
  let path ← state.path.takingLeft
  return { state with path := path, leaf := .left n }

/-- The condition of `GO_RIGHT()`. -/
def absorbsRight (n : Pointer) : TreeProgram κ Bool := do
  let balance ← load (.balance n)
  if balance = 0 then
    return true
  else if balance > 0 then
    let left ← load (.ptr (.left n))
    let leftBalance ← load (.balance left)
    return decide (leftBalance = 0)
  else
    return false

/-- `GO_RIGHT()`. -/
def goRight (state : Descent) : TreeProgram κ Descent := do
  let n ← load (.ptr state.leaf)
  let restarts ← absorbsRight n
  let state := if restarts then state.restart else state
  let path ← state.path.takingRight
  return { state with path := path, leaf := .right n }

/-- One pass of the search of `tdelete()`. The state also holds `result`, the parent of the node
that has been reached. -/
def tdeleteDescend (compar : κ → κ → ℤ) (key : κ) (state : Pointer × Descent) :
    TreeProgram κ (Pass (Pointer × Descent) (Option (Pointer × Descent))) := do
  let (result, state) := state
  let n ← load (.ptr state.leaf)
  if n = 0 then
    return .leave none
  else
    let nodeKey ← load (.key n)
    let cmp := compar key nodeKey
    if cmp < 0 then
      let state ← goLeft state
      return .again (n, state)
    else if cmp > 0 then
      let state ← goRight state
      return .again (n, state)
    else
      return .leave (some (result, state))

/-- One pass of the search for the predecessor of a node. -/
def predecessorDescend (state : Descent) : TreeProgram κ (Pass Descent Descent) := do
  let n ← load (.ptr state.leaf)
  let right ← load (.ptr (.right n))
  if right ≠ 0 then
    let state ← goRight state
    return .again state
  else
    return .leave state

/-- The removal of the node that has been found, or of its predecessor. -/
def tdeleteRemove (state : Descent) : TreeProgram κ Descent := do
  let n ← load (.ptr state.leaf)
  let left ← load (.ptr (.left n))
  if left = 0 then
    let right ← load (.ptr (.right n))
    store (.ptr state.leaf) right
    free n
    return state
  else
    let state ← goLeft state
    let state ← loop predecessorDescend addresses state
    let old ← load (.ptr state.leaf)
    let oldKey ← load (.key old)
    store (.key n) oldKey
    let oldLeft ← load (.ptr (.left old))
    store (.ptr state.leaf) oldLeft
    free old
    return state

/-- What `tdelete()` does at a node whose left subtree has shrunk. -/
def tdeleteLeft (n : Slot) : TreeProgram κ Slot := do
  let x ← load (.ptr n)
  let xBalance ← load (.balance x)
  if xBalance < 0 then
    let y ← load (.ptr (.right x))
    let yBalance ← load (.balance y)
    if yBalance > 0 then
      rightLeft n x y
      return .left x
    else
      rightRight n x y
      let yBalance ← load (.balance y)
      if yBalance < 0 then
        store (.balance x) (0 : ℤ)
        store (.balance y) (0 : ℤ)
        return .left x
      else
        store (.balance x) (-1 : ℤ)
        store (.balance y) (1 : ℤ)
        return .left x
  else
    store (.balance x) (xBalance - 1)
    return .left x

/-- What `tdelete()` does at a node whose right subtree has shrunk. -/
def tdeleteRight (n : Slot) : TreeProgram κ Slot := do
  let x ← load (.ptr n)
  let xBalance ← load (.balance x)
  if xBalance > 0 then
    let y ← load (.ptr (.left x))
    let yBalance ← load (.balance y)
    if yBalance < 0 then
      leftRight n x y
      return .right x
    else
      leftLeft n x y
      let yBalance ← load (.balance y)
      if yBalance > 0 then
        store (.balance x) (0 : ℤ)
        store (.balance y) (0 : ℤ)
        return .right x
      else
        store (.balance x) (1 : ℤ)
        store (.balance y) (-1 : ℤ)
        return .right x
  else
    store (.balance x) (xBalance + 1)
    return .right x

/-- One pass of the rebalancing of `tdelete()`. -/
def tdeleteAdjust (leaf : Slot) (state : Slot × Path) :
    TreeProgram κ (Pass (Slot × Path) Unit) := do
  let (n, path) := state
  if n ≠ leaf then
    let (left, path) := path.tookLeft
    let next ← (if left then tdeleteLeft n else tdeleteRight n)
    return .again (next, path)
  else
    return .leave ()

/-- `tdelete()`. The pointer returned for a root that is deleted is one. -/
def tdelete (compar : κ → κ → ℤ) (path : Path) (key : κ) (rootp : Option Slot) :
    TreeProgram κ Pointer := do
  match rootp with
  | none => return 0
  | some rootp =>
    let start : Descent := { rootp := rootp, path := path.init, leaf := rootp }
    match ← loop (tdeleteDescend compar key) addresses (1, start) with
    | none => return 0
    | some (result, state) =>
      let state ← tdeleteRemove state
      loop (tdeleteAdjust state.leaf) addresses (state.rootp, state.path)
      return result

/-! ## Lookup -/

/-- One pass of the loop of `__tfind()`. -/
def tfindDescend (compar : κ → κ → ℤ) (key : κ) (root : Pointer) :
    TreeProgram κ (Pass Pointer Pointer) := do
  if root ≠ 0 then
    let nodeKey ← load (.key root)
    let cmp := compar key nodeKey
    if cmp < 0 then
      let next ← load (.ptr (.left root))
      return .again next
    else if cmp > 0 then
      let next ← load (.ptr (.right root))
      return .again next
    else
      return .leave root
  else
    return .leave 0

/-- `__tfind()`. -/
def tfind (compar : κ → κ → ℤ) (key : κ) (rootp : Option Slot) : TreeProgram κ Pointer := do
  match rootp with
  | none => return 0
  | some rootp =>
    let root ← load (.ptr rootp)
    loop (tfindDescend compar key) addresses root

end Cloudlibc.Search
