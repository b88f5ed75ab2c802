import Cloudlibc.Foundations.Loop
import Cloudlibc.Stdio.OpenMemstream

/-!
# Writing far behind the end of a stream in memory

The streams of `tmpfile()` and `open_memstream()` accept every offset that is not negative. Before a
write they double the size of their block until it extends beyond the offset. The size is compared
as a value of the signed type `off_t`, so it is two to the 62nd at most: behind that offset the
first loop goes through negative sizes to zero and does not end, and the computation of the second
one overflows (`growth_ends_iff`).
-/

set_option autoImplicit false

namespace Cloudlibc.Stdio

open Cloudlibc.Loop

/-- The value of a `size_t` as an `off_t`. -/
def offT (size : ℕ) : ℤ := if size < 2 ^ 63 then size else size - 2 ^ 64

/-- One pass of the loop of `tmp_write_peek()`. -/
def tmpGrowPass (offset : ℤ) (newSize : ℕ) : Option (Pass ℕ ℕ) :=
  some (if offset ≥ offT newSize then .again (newSize * 2 % 2 ^ 64) else .leave newSize)

/-- `tmp_write_peek()`, where `realloc()` may fail, for at most `fuel` passes of its loop. -/
def tmpWritePeekHeap (heap : BlockHeap) (fuel : ℕ) (file : File MemBuffer) :
    Option (Outcome MemBuffer) := do
  let file ← tmpDrain file
  if file.offset ≥ offT file.data.size then
    let newSize ← run (tmpGrowPass file.offset) fuel (max file.data.size 16)
    match heap.realloc newSize with
    | none => return (some .ENOMEM, file)
    | some _ =>
      return (none, exposeWriteBuffer { file with
        buf := file.buf ++ (List.range' file.data.size (newSize - file.data.size)).map heap.fresh
        data := { file.data with size := newSize } })
  else
    return (none, exposeWriteBuffer file)

/-- The size is a power of two that an `off_t` can hold. -/
def Doubled (size : ℕ) : Prop := ∃ j, 4 ≤ j ∧ j ≤ 62 ∧ size = 2 ^ j

/-- A write ends with a block of a proper size that extends beyond the position, or with an error
that leaves the contents as they are. -/
def WriteEnds {Data : Type} (View : File Data → List UInt8 → ℕ → Prop) (size : Data → ℕ)
    (Sized : ℕ → Prop) (peek : ℕ → Option (Outcome Data)) (bytes : List UInt8) (position : ℕ) :
    Prop :=
  ∃ fuel error file', peek fuel = some (error, file') ∧
    if error = none then position < size file'.data ∧ Sized (size file'.data)
    else View file' bytes position

variable {size : ℕ}

theorem Doubled.le (doubled : Doubled size) : 16 ≤ size ∧ size ≤ 2 ^ 62 := by
  obtain ⟨j, low, high, rfl⟩ := doubled
  exact ⟨Nat.pow_le_pow_right two_pos low, Nat.pow_le_pow_right two_pos high⟩

theorem Doubled.twice (doubled : Doubled size) (less : size < 2 ^ 62) : Doubled (size * 2) := by
  obtain ⟨j, low, high, rfl⟩ := doubled
  refine ⟨j + 1, by omega, ?_, (pow_succ 2 j).symm⟩
  by_contra last
  obtain rfl : j = 62 := by omega
  exact Nat.lt_irrefl _ less

variable {offset : ℤ}

theorem run_tmpGrowPass (small : offset < 2 ^ 62) (doubled : Doubled size) :
    ∃ fuel newSize, run (tmpGrowPass offset) fuel size = some newSize ∧ offset < newSize ∧
      Doubled newSize := by
  refine ⟨_, run_spec Doubled (fun size => 2 ^ 62 - size)
    (fun newSize : ℕ => offset < newSize ∧ Doubled newSize) (fun size doubled => ?_) doubled
    (Nat.lt_succ_self _)⟩
  have bounds := doubled.le
  have value : offT size = size := if_pos (by omega)
  refine ⟨_, rfl, ?_⟩
  split_ifs with more
  · rw [Nat.mod_eq_of_lt (by omega)]
    exact ⟨doubled.twice (by omega), by omega⟩
  · exact ⟨by omega, doubled⟩

theorem run_tmpGrowPass_eq_none (large : 2 ^ 62 ≤ offset) (fuel : ℕ) (doubled : Doubled size) :
    run (tmpGrowPass offset) fuel size = none := by
  refine run_eq_none (fun size => Doubled size ∨ size = 2 ^ 63 ∨ size = 0) (fun size reached => ?_)
    fuel (.inl doubled)
  have more : offset ≥ offT size := by
    rw [offT]
    rcases reached with doubled | rfl | rfl
    · have bounds := doubled.le
      split_ifs <;> omega
    · omega
    · omega
  refine ⟨_, by rw [tmpGrowPass, if_pos more], ?_⟩
  rcases reached with doubled | rfl | rfl
  · have bounds := doubled.le
    by_cases less : size < 2 ^ 62
    · rw [Nat.mod_eq_of_lt (by omega)]
      exact .inl (doubled.twice less)
    · obtain rfl : size = 2 ^ 62 := by omega
      exact .inr (.inl (by norm_num))
  · exact .inr (.inr (by norm_num))
  · exact .inr (.inr rfl)

theorem msGrow_eq_none (large : 2 ^ 62 - 1 ≤ offset) (fuel : ℕ) :
    ∀ {size : ℕ}, Doubled size ∨ 2 ^ 63 ≤ size → msGrow offset fuel size = none := by
  induction fuel with
  | zero => exact fun _ => rfl
  | succ fuel ih =>
    intro size reached
    rw [msGrow]
    split_ifs with overflow more
    · rfl
    · have doubled := reached.resolve_right overflow
      refine ih ?_
      by_cases less : size < 2 ^ 62
      · exact .inl (doubled.twice less)
      · exact .inr (by omega)
    · have bounds := (reached.resolve_right overflow).le
      omega

theorem msGrow_doubled (small : offset < 2 ^ 62 - 1) (fuel : ℕ) :
    ∀ {size newSize : ℕ}, Doubled size → msGrow offset fuel size = some newSize →
      Doubled newSize := by
  induction fuel with
  | zero => exact fun _ grown => nomatch grown
  | succ fuel ih =>
    intro size newSize doubled grown
    rw [msGrow] at grown
    split_ifs at grown with overflow more
    · exact ih (doubled.twice (by omega)) grown
    · cases grown
      exact doubled

variable (heap : BlockHeap) {bytes : List UInt8} {position : ℕ}

theorem tmpWritePeekHeap_ends_iff {file : File MemBuffer} (view : MemView file bytes position)
    (sized : file.data.size = 0 ∨ Doubled file.data.size) :
    WriteEnds MemView MemBuffer.size Doubled (tmpWritePeekHeap heap · file) bytes position ↔
      position < 2 ^ 62 := by
  obtain ⟨drained, isDrained, state, -, same⟩ := memDrain_view view
  have offset := state.offset
  rw [← same] at sized
  have start : Doubled (max drained.data.size 16) := by
    rcases sized with zero | doubled
    · rw [zero]
      exact ⟨4, le_rfl, by decide, rfl⟩
    · rwa [Nat.max_eq_left doubled.le.1]
  have bounds := start.le
  have value : offT drained.data.size = drained.data.size := if_pos (by omega)
  simp only [WriteEnds, tmpWritePeekHeap, tmpDrain, isDrained, Option.bind_eq_bind,
    Option.bind_some, value]
  by_cases full : drained.offset ≥ drained.data.size
  · simp only [if_pos full]
    constructor
    · rintro ⟨fuel, error, file', written, -⟩
      by_contra large
      rw [run_tmpGrowPass_eq_none (by omega) fuel start] at written
      cases written
    · intro small
      have below : drained.offset < 2 ^ 62 := by omega
      obtain ⟨fuel, newSize, ran, beyond, doubled⟩ := run_tmpGrowPass below start
      refine ⟨fuel, ?_⟩
      rw [ran, Option.bind_some]
      cases heap.realloc newSize with
      | none => exact ⟨_, drained, rfl, state.view⟩
      | some _ =>
        have inside : position < newSize := by omega
        exact ⟨none, _, rfl, inside, doubled⟩
  · simp only [if_neg full]
    have inside : position < drained.data.size := by omega
    have doubled := sized.resolve_left (by omega)
    exact ⟨fun _ => by omega, fun _ => ⟨0, none, _, rfl, inside, doubled⟩⟩

theorem msWritePeek_ends_iff {file : File Memstream} (view : MemstreamView file bytes position)
    (sized : Doubled (file.data.size + 1)) :
    WriteEnds MemstreamView Memstream.size (fun size => Doubled (size + 1))
      (fun _ => msWritePeek heap file) bytes position ↔ position < 2 ^ 62 - 1 := by
  obtain ⟨_, ran, state, -, same⟩ := memDrain_view view.view
  obtain ⟨drained, isDrained, rfl, layout, -⟩ := msDrain_exposed view.sized ran
  have offset : drained.offset = position := state.offset
  have start : Doubled (drained.data.size + 1) := by
    change drained.data.size = file.data.size at same
    rwa [same]
  have bounds := start.le
  simp only [msWritePeek, isDrained, Option.bind_eq_bind, Option.bind_some]
  by_cases full : drained.offset ≥ drained.data.size
  · simp only [if_pos full]
    constructor
    · rintro ⟨fuel, error, file', written, -⟩
      by_contra large
      rw [msGrow_eq_none (by omega) 64 (.inl start)] at written
      cases written
    · intro small
      have below : drained.offset < 2 ^ 62 - 1 := by omega
      obtain ⟨newSize, grown, beyond, -, -⟩ :=
        @msGrow_some _ below 63 (drained.data.size + 1) (by omega) (by omega) (by omega)
      refine ⟨0, ?_⟩
      rw [grown, Option.bind_some]
      cases heap.realloc newSize with
      | none => exact ⟨_, drained, rfl, layout, state.view⟩
      | some _ =>
        have inside : position < newSize - 1 := by omega
        have doubled := msGrow_doubled below 64 start grown
        rw [← Nat.sub_add_cancel (doubled.le.1.trans' (by decide) : 1 ≤ newSize)] at doubled
        exact ⟨none, _, rfl, inside, doubled⟩
  · simp only [if_neg full]
    have inside : position < drained.data.size := by omega
    exact ⟨fun _ => by omega, fun _ => ⟨0, none, _, rfl, inside, start⟩⟩

/-- **The streams can be positioned at every offset. The next write ends if and only if the offset is
less than two to the 62nd, respectively by one less than that.** -/
theorem growth_ends_iff (offset : ℕ) :
    (∀ file, MemView file bytes position → file.data.size = 0 ∨ Doubled file.data.size →
      ∃ sought, tmpSeek file offset false = some (none, sought) ∧ MemView sought bytes offset ∧
        (WriteEnds MemView MemBuffer.size Doubled (tmpWritePeekHeap heap · sought) bytes offset ↔
          offset < 2 ^ 62)) ∧
    ∀ file, MemstreamView file bytes position → Doubled (file.data.size + 1) →
      ∃ sought, msSeek file offset false = some (none, sought) ∧
        MemstreamView sought bytes offset ∧
        (WriteEnds MemstreamView Memstream.size (fun size => Doubled (size + 1))
          (fun _ => msWritePeek heap sought) bytes offset ↔ offset < 2 ^ 62 - 1) := by
  refine ⟨fun file view sized => ?_, fun file view sized => ?_⟩
  · obtain ⟨drained, isDrained, state, -, same⟩ := memDrain_view view
    have moved : MemView { drained with offset := offset } bytes offset :=
      Drained.view { state with offset := rfl }
    refine ⟨{ drained with offset := offset }, ?_, moved, tmpWritePeekHeap_ends_iff heap moved ?_⟩
    · simp [tmpSeek, tmpDrain, isDrained]
    · rwa [← same] at sized
  · obtain ⟨_, ran, state, -, same⟩ := memDrain_view view.view
    obtain ⟨drained, isDrained, rfl, layout, -⟩ := msDrain_exposed view.sized ran
    have moved : MemstreamView { drained with offset := offset } bytes offset :=
      ⟨⟨layout.length, layout.readbuf, layout.readbuflen⟩,
        Drained.view { state with offset := rfl }⟩
    refine ⟨{ drained with offset := offset }, ?_, moved, msWritePeek_ends_iff heap moved ?_⟩
    · simp [msSeek, isDrained]
    · change drained.data.size = file.data.size at same
      rwa [← same] at sized

/-- A new temporary file at the last offset for which the loop ends. -/
theorem growth_ends_last : ∃ sought, tmpSeek tmpfileL (2 ^ 62 - 1 : ℕ) false = some (none, sought) ∧
    WriteEnds MemView MemBuffer.size Doubled (tmpWritePeekHeap plentifulHeap · sought) []
      (2 ^ 62 - 1) :=
  have ⟨sought, moved, _, ends⟩ :=
    (growth_ends_iff plentifulHeap (2 ^ 62 - 1)).1 tmpfileL tmpfileL_stands.1 (.inl rfl)
  ⟨sought, moved, ends.mpr (by decide)⟩

/-- A new temporary file at the next offset: the loop does not end. -/
theorem growth_endless : ∃ sought, tmpSeek tmpfileL (2 ^ 62) false = some (none, sought) ∧
    ∀ heap fuel, tmpWritePeekHeap heap fuel sought = none := by
  refine ⟨{ tmpfileL with offset := 2 ^ 62 }, rfl, fun heap fuel => ?_⟩
  have endless := run_tmpGrowPass_eq_none le_rfl fuel (⟨4, le_rfl, by decide, rfl⟩ : Doubled 16)
  change (run (tmpGrowPass (2 ^ 62)) fuel 16).bind _ = none
  rw [endless, Option.bind_none]

end Cloudlibc.Stdio
