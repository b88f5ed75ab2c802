import Cloudlibc.Foundations.ElementArray

/-!
# `qsort_r()`

The sorting functions of `include/stdlib.h`. Memory is a map from addresses to bytes, and an access
to an address that is not mapped fails. A pointer is an integer, and a computation of type `size_t`
is reduced modulo `2 ^ 64`.

The comparison function is called with two pointers. It reads the elements there, and its result is
a function of their bytes and of the thunk.

Loops and recursive calls are bounded. For an array of `nel` elements `nel + 1` passes and calls are
enough.
-/

set_option autoImplicit false

namespace Cloudlibc.Stdlib

open Cloudlibc.Loop Cloudlibc.Memory Cloudlibc.ElementArray

/-- A number as a value of type `size_t`. -/
def sizeT (n : ℤ) : ℕ := (n % 2 ^ 64).toNat

/-- `__qsort_swap()`. -/
def qsortSwap : (a b : ℤ) → (n : ℕ) → Program Byte Unit
  | _, _, 0 => pure ()
  | a, b, n + 1 => do
      let t ← load a
      let c ← load b
      store a c
      store b t
      qsortSwap (a + 1) (b + 1) n

section Comparison

variable {θ : Type} (width : ℕ) (cmp : List UInt8 → List UInt8 → θ → ℤ) (thunk : θ)

/-- A call of the comparison function. -/
def callCmp (a b : ℤ) : Program Byte ℤ := do
  let x ← readBytes a width
  let y ← readBytes b width
  pure (cmp x y thunk)

/-! ## Insertion sort -/

/-- One pass of the inner loop of `__qsort_insertionsort()`. -/
def insertionPass (a pl : ℤ) : Program Byte (Pass ℤ Unit) := do
  if pl > a then
    let r ← callCmp width cmp thunk (pl - width) pl
    if r > 0 then
      qsortSwap pl (pl - width) width
      pure (.again (pl - width))
    else
      pure (.leave ())
  else
    pure (.leave ())

/-- One pass of the outer loop of `__qsort_insertionsort()`. -/
def insertionsortPass (a : ℤ) (nel : ℕ) (pm : ℤ) : Program Byte (Pass ℤ Unit) := do
  if pm < a + sizeT (nel * width) then
    loop (insertionPass width cmp thunk a) (nel + 1) pm
    pure (.again (pm + width))
  else
    pure (.leave ())

/-- `__qsort_insertionsort()`. -/
def qsortInsertionsort (a : ℤ) (nel : ℕ) : Program Byte Unit :=
  loop (insertionsortPass width cmp thunk a nel) (nel + 1) (a + width)

/-! ## The pivot -/

/-- `__qsort_med3()`. -/
def qsortMed3 (a b c : ℤ) : Program Byte ℤ := do
  if (← callCmp width cmp thunk a b) < 0 then
    if (← callCmp width cmp thunk b c) < 0 then
      pure b
    else if (← callCmp width cmp thunk a c) < 0 then
      pure c
    else
      pure a
  else
    if (← callCmp width cmp thunk b c) > 0 then
      pure b
    else if (← callCmp width cmp thunk a c) > 0 then
      pure c
    else
      pure a

/-- `__qsort_pickpivot()`. -/
def qsortPickpivot (a : ℤ) (nel : ℕ) : Program Byte ℤ := do
  let pl := a
  let pm := a + sizeT (sizeT (nel / 2 : ℕ) * width)
  let pn := a + sizeT (sizeT (nel - 1) * width)
  if nel > 40 then
    let s := sizeT (sizeT (nel / 8 : ℕ) * width)
    let pl' ← qsortMed3 width cmp thunk pl (pl + s) (pl + sizeT (2 * s))
    let pm' ← qsortMed3 width cmp thunk (pm - s) pm (pm + s)
    let pn' ← qsortMed3 width cmp thunk (pn - sizeT (2 * s)) (pn - s) pn
    qsortMed3 width cmp thunk pl' pm' pn'
  else
    qsortMed3 width cmp thunk pl pm pn

/-! ## Quicksort -/

/-- One pass of the loop that moves `pb` up. The state has `pa` and `pb`. -/
def lowPass (a pc : ℤ) (state : ℤ × ℤ) : Program Byte (Pass (ℤ × ℤ) (ℤ × ℤ)) := do
  let (pa, pb) := state
  if pb ≤ pc then
    let r ← callCmp width cmp thunk pb a
    if r ≤ 0 then
      if r = 0 then
        qsortSwap pa pb width
        pure (.again (pa + width, pb + width))
      else
        pure (.again (pa, pb + width))
    else
      pure (.leave (pa, pb))
  else
    pure (.leave (pa, pb))

/-- One pass of the loop that moves `pc` down. The state has `pc` and `pd`. -/
def highPass (a pb : ℤ) (state : ℤ × ℤ) : Program Byte (Pass (ℤ × ℤ) (ℤ × ℤ)) := do
  let (pc, pd) := state
  if pc ≥ pb then
    let r ← callCmp width cmp thunk pc a
    if r ≥ 0 then
      if r = 0 then
        qsortSwap pc pd width
        pure (.again (pc - width, pd - width))
      else
        pure (.again (pc - width, pd))
    else
      pure (.leave (pc, pd))
  else
    pure (.leave (pc, pd))

/-- The pointers of the partition. -/
structure PartitionPointers where
  pa : ℤ
  pb : ℤ
  pc : ℤ
  pd : ℤ

/-- One pass of the loop that partitions. -/
def partitionPass (a : ℤ) (nel : ℕ) (state : PartitionPointers) :
    Program Byte (Pass PartitionPointers PartitionPointers) := do
  let (pa, pb) ← loop (lowPass width cmp thunk a state.pc) (nel + 1) (state.pa, state.pb)
  let (pc, pd) ← loop (highPass width cmp thunk a pb) (nel + 1) (state.pc, state.pd)
  if pb > pc then
    pure (.leave ⟨pa, pb, pc, pd⟩)
  else
    qsortSwap pb pc width
    pure (.again ⟨pa, pb + width, pc - width, pd⟩)

/-- `__qsort_quicksort()`, with `__qsort_r()` for the recursive calls. -/
def qsortQuicksort (sort : ℤ → ℕ → Program Byte Unit) (a : ℤ) (nel : ℕ) : Program Byte Unit := do
  let pivot ← qsortPickpivot width cmp thunk a nel
  qsortSwap a pivot width
  let last := a + sizeT (sizeT (nel - 1) * width)
  let ⟨pa, pb, pc, pd⟩ ← loop (partitionPass width cmp thunk a nel) (nel + 1) ⟨a, a, last, last⟩
  let pn := a + sizeT (nel * width)
  let s := min (sizeT (pa - a)) (sizeT (pb - pa))
  qsortSwap a (pb - s) s
  let s := min (sizeT (pd - pc)) (sizeT (sizeT (pn - pd) - width))
  qsortSwap pb (pn - s) s
  let s := sizeT (pb - pa)
  sort a (s / width)
  let s := sizeT (pd - pc)
  sort (pn - s) (s / width)

/-- `__qsort_r()`, for calls nested at most `depth` deep. -/
def qsortRec : (depth : ℕ) → (base : ℤ) → (nel : ℕ) → Program Byte Unit
  | 0, _, _ => failure
  | depth + 1, base, nel =>
    if nel < 8 then
      qsortInsertionsort width cmp thunk base nel
    else
      qsortQuicksort width cmp thunk (qsortRec depth) base nel

end Comparison

/-- `qsort_r()`. -/
def qsortR {θ : Type} (base : ℤ) (nel width : ℕ) (compar : List UInt8 → List UInt8 → θ → ℤ)
    (thunk : θ) : Program Byte Unit :=
  qsortRec width compar thunk (nel + 1) base nel

end Cloudlibc.Stdlib
