import Cloudlibc.Foundations.Loop

/-!
# Constant tables

A table of numbers of a fixed width, written as words that hold several entries each, the first
one in the highest bits. The words come in blocks, so that a lookup takes few steps. Lookups outside
the table fail (`Table.get?`). What holds of every field of every word holds of everything a lookup
returns (`Table.forall_get?`).

`lastNotAbove` is the binary search for the last entry that is not above a key. Whatever the
entries are, it ends at an index of the table (`lastNotAbove_spec`).
-/

set_option autoImplicit false

namespace Cloudlibc.PackedTable

open Cloudlibc.Loop Option

/-- Field `i` from the left of a word with `count` fields of `width` bits. -/
def field (width count word i : ℕ) : ℕ :=
  (word >>> (width * (count - 1 - i))) % 2 ^ width

/-- A table of `size` entries of `width` bits, with `count` of them in a word. The words are grouped
into blocks of `length` words. -/
structure Table where
  width : ℕ
  count : ℕ
  length : ℕ
  size : ℕ
  blocks : List (List ℕ)

/-- Entry `i` of a table. -/
def Table.get? (table : Table) (i : ℕ) : Option ℕ := do
  if i < table.size then
    let block ← table.blocks[i / table.count / table.length]?
    let word ← block[i / table.count % table.length]?
    return field table.width table.count word (i % table.count)
  else
    none

variable {i : ℕ} {table : Table}

/-- What holds of every field of every word holds of every entry. -/
theorem Table.forall_get? {P : ℕ → Prop} (positive : 0 < table.count)
    (all : ∀ block ∈ table.blocks, ∀ word ∈ block, ∀ i < table.count,
      P (field table.width table.count word i))
    {value : ℕ} (found : table.get? i = some value) : P value := by
  rw [get?] at found
  split_ifs at found
  obtain ⟨block, outer, found⟩ := bind_eq_some_iff.mp found
  obtain ⟨word, inner, found⟩ := bind_eq_some_iff.mp found
  obtain rfl := some.inj found
  exact all block (List.mem_of_getElem? outer) word (List.mem_of_getElem? inner) _
    (Nat.mod_lt _ positive)

/-- An entry lies inside the table and fits into its width. -/
theorem Table.get?_bounds {value : ℕ} (found : table.get? i = some value) :
    i < table.size ∧ value < 2 ^ table.width := by
  rw [get?] at found
  split_ifs at found with inside
  obtain ⟨block, -, found⟩ := bind_eq_some_iff.mp found
  obtain ⟨word, -, found⟩ := bind_eq_some_iff.mp found
  obtain rfl := some.inj found
  exact ⟨inside, Nat.mod_lt _ (Nat.two_pow_pos _)⟩

/-- Word `j` of a table. -/
def Table.word? (table : Table) (j : ℕ) : Option ℕ :=
  (table.blocks[j / table.length]?).bind fun block => block[j % table.length]?

/-- A table that has all its words has all its entries. -/
theorem Table.get?_isSome
    (words : ∀ j < (table.size + table.count - 1) / table.count, (table.word? j).isSome)
    (positive : 0 < table.count) (inside : i < table.size) : (table.get? i).isSome := by
  have index : i / table.count < (table.size + table.count - 1) / table.count := by
    rw [Nat.div_lt_iff_lt_mul positive]
    have := Nat.lt_div_mul_add (a := table.size + table.count - 1) positive
    omega
  obtain ⟨word, found⟩ := isSome_iff_exists.mp (words _ index)
  obtain ⟨block, outer, inner⟩ := bind_eq_some_iff.mp found
  rw [get?, if_pos inside]
  simp only [outer, inner, bind_eq_bind, bind_some]
  rfl

/-! ## Binary search -/

/-- One pass of the search, between the bounds `min` and `max`. -/
def searchPass (entry : ℕ → Option ℕ) (key : ℕ) (bounds : ℕ × ℕ) :
    Option (Pass (ℕ × ℕ) ℕ) := do
  let mid := (bounds.1 + bounds.2 + 1) / 2
  let value ← entry mid
  let next := if key < value then (bounds.1, mid - 1) else (mid, bounds.2)
  return if next.1 < next.2 then .again next else .leave next.1

/-- The index of the last entry that is not above the key, in a sorted table. -/
def lastNotAbove (entry : ℕ → Option ℕ) (size key : ℕ) : Option ℕ :=
  run (searchPass entry key) size (0, size - 1)

theorem searchPass_spec {entry : ℕ → Option ℕ} {size : ℕ} (key : ℕ)
    (total : ∀ i < size, (entry i).isSome) (bounds : ℕ × ℕ)
    (interval : bounds.1 < bounds.2 ∧ bounds.2 < size) :
    ∃ pass, searchPass entry key bounds = some pass ∧
      pass.Meets (fun next => (next.1 < next.2 ∧ next.2 < size) ∧
        next.2 - next.1 < bounds.2 - bounds.1) (fun i => i < size) := by
  obtain ⟨min, max⟩ := bounds
  obtain ⟨value, lookup⟩ := isSome_iff_exists.mp (total ((min + max + 1) / 2) (by omega))
  simp only [searchPass, lookup, bind_eq_bind, bind_some]
  refine ⟨_, rfl, ?_⟩
  by_cases less : key < value
  · split_ifs
    · simp only [Pass.meets_again]
      omega
    · simp only [Pass.meets_leave]
      omega
  · split_ifs
    · simp only [Pass.meets_again]
      omega
    · simp only [Pass.meets_leave]
      omega

/-- The search ends inside the table. -/
theorem lastNotAbove_spec {entry : ℕ → Option ℕ} {size : ℕ} (key : ℕ) (two : 2 ≤ size)
    (total : ∀ i < size, (entry i).isSome) :
    ∃ i, lastNotAbove entry size key = some i ∧ i < size :=
  run_spec _ (fun bounds => bounds.2 - bounds.1) _ (searchPass_spec key total)
    ⟨by omega, by omega⟩ (by omega)

end Cloudlibc.PackedTable
