import Cloudlibc.Foundations.Transition
import Cloudlibc.Locale.Gb2312

/-!
# The rows that the decoder of GB 2312 looks up

The decoder is called again and again, with the rest of a chunk of bytes after a character and with
a new chunk after a part of a character. Three leading bytes are not those of the rows of its table:
0xaa stands for the row of 0xb0, 0xb0 is rejected, and 0xf8 stands for a row behind the last one. All
goes well exactly in those runs in which none of them begins a character (`gb2312_lookups_iff`).
-/

set_option autoImplicit false

namespace Cloudlibc.Locale.Gb2312

open Cloudlibc.PackedTable Cloudlibc.Transition List Option

/-- A call of the decoder: the state, and the bytes that are left of the chunk. -/
abbrev Call := Mbstate × List UInt8

/-- What the call returns. -/
def Call.result (call : Call) : Option Mbtoc32Result :=
  gb2312Mbtoc32 call.2 call.2.length call.1

/-- The next call. -/
def Next (call next : Call) : Prop :=
  (∃ c32 length, call.result = some (.character c32 length next.1) ∧
    next.2 = call.2.drop length) ∨ call.result = some (.incomplete next.1)

/-- The leading byte is stored until the second one follows. -/
def Accepts (b : UInt8) : Prop :=
  ∃ ps, gb2312Mbtoc32 [b] 1 .setInit = some (.incomplete ps)

/-- The call looks up nothing behind the end of the table, stores the number of a row, and accepts a
leading byte if it is the one of a row. -/
def Call.GoesWell (call : Call) : Prop :=
  call.result.isSome ∧ (∀ ps, call.result = some (.incomplete ps) → ps.partialC32 ≤ 80) ∧
    (call.1.bytesleft = 0 → ∀ b ∈ call.2.head?, Accepts b ↔ (layout b.toNat).isSome)

/-- The call does not begin with one of the three leading bytes. -/
def Call.BeginsWell (call : Call) : Prop :=
  call.1.bytesleft = 0 → ∀ b ∈ call.2.head?, b ∉ ([0xaa, 0xb0, 0xf8] : List UInt8)

instance : DecidablePred Accepts := fun b =>
  decidable_of_iff ((gb2312Mbtoc32 [b] 1 .setInit).any
    fun | .incomplete _ => true | _ => false) (by
    rw [Accepts]
    rcases gb2312Mbtoc32 [b] 1 .setInit with _ | (_ | ps | _) <;> simp)

theorem accepts_iff (b : UInt8) :
    (Accepts b ↔ (layout b.toNat).isSome) ↔ b ∉ ([0xaa, 0xb0, 0xf8] : List UInt8) := by
  have all : ∀ n : Fin 256, (Accepts (.ofNat n) ↔ (layout (UInt8.ofNat n).toNat).isSome) ↔
      UInt8.ofNat n ∉ ([0xaa, 0xb0, 0xf8] : List UInt8) := by
    decide +kernel
  simpa using all ⟨b.toNat, b.toNat_lt⟩

theorem table_total {i : ℕ} (inside : i < 81 * 94) : (table.get? i).isSome :=
  Table.get?_isSome (by decide +kernel) (by decide) inside

/-- The result stores the number of a row, if it stores a state. -/
def StoresRow : Mbtoc32Result → Prop
  | .error _ => True
  | .incomplete ps => ps.partialC32 ≤ 80
  | .character _ _ ps => ps.partialC32 ≤ 80

theorem gb2312Second_row {s : List UInt8} {n sb bytesleft row : ℕ} (inside : sb + n = s.length)
    (low : row ≤ 80) :
    ∃ result, gb2312Second s n sb bytesleft row = some result ∧ StoresRow result := by
  rw [gb2312Second]
  by_cases more : n < 1
  · exact ⟨_, if_pos more, low⟩
  · rw [getElem?_eq_getElem (by omega), bind_eq_bind, bind_some]
    dsimp only
    split_ifs with outside
    · exact ⟨_, rfl, trivial⟩
    · obtain ⟨c16, found⟩ := isSome_iff_exists.mp
        (@table_total ((row * 94 + (s[sb]).toNat - 0xa1) % 2 ^ 32) (by omega))
      rw [found, bind_eq_bind, bind_some]
      split_ifs
      · exact ⟨_, rfl, trivial⟩
      · exact ⟨_, rfl, Nat.zero_le _⟩

theorem Call.BeginsWell.result {call : Call} (well : call.BeginsWell)
    (low : call.1.partialC32 ≤ 80) :
    ∃ result, call.result = some result ∧ StoresRow result := by
  obtain ⟨ps, s⟩ := call
  rw [Call.result, gb2312Mbtoc32]
  by_cases initial : ps.bytesleft = 0
  · rw [if_pos initial]
    cases s with
    | nil => exact ⟨_, rfl, low⟩
    | cons b s =>
      have others := well initial b rfl
      rw [if_neg (by simp)]
      simp only [getElem?_cons_zero, bind_eq_bind, bind_some]
      split_ifs with ascii first second
      · exact ⟨_, rfl, Nat.zero_le _⟩
      · exact gb2312Second_row (by simp; omega) (by omega)
      · have last : b.toNat ≠ 0xf8 := fun same => others (by simp [UInt8.ext_iff, same])
        exact gb2312Second_row (by simp; omega) (by omega)
      · exact ⟨_, rfl, trivial⟩
  · rw [if_neg initial]
    exact gb2312Second_row (Nat.zero_add _) low

/-- A call in the state of a row that begins well goes well and leads to such a state. -/
theorem Call.BeginsWell.spec {call : Call} (well : call.BeginsWell)
    (low : call.1.partialC32 ≤ 80) :
    call.GoesWell ∧ ∀ next, Next call next → next.1.partialC32 ≤ 80 := by
  obtain ⟨result, returned, stored⟩ := well.result low
  rw [Call.GoesWell, returned]
  refine ⟨⟨rfl, fun ps same => ?_, fun initial b first => ?_⟩, ?_⟩
  · obtain rfl := some.inj same
    exact stored
  · exact (accepts_iff b).mpr (well initial b first)
  · rintro next (⟨c32, length, same, -⟩ | same) <;>
      obtain rfl := some.inj (returned.symm.trans same) <;> exact stored

/-- **The lookups of all runs.** -/
theorem gb2312_lookups_iff {calls : List Call} (runs : Runs (·.1 = .setInit) Next calls) :
    (∀ call ∈ calls, call.GoesWell) ↔ ∀ call ∈ calls, call.BeginsWell := by
  refine ⟨fun all call member initial b first =>
    (accepts_iff b).mp ((all call member).2.2 initial b first), fun well => ?_⟩
  have rows : ∀ call ∈ calls, call.1.partialC32 ≤ 80 := by
    induction runs with
    | start init =>
      refine forall_mem_singleton.mpr ?_
      rw [init]
      decide
    | step _ next ih =>
      obtain ⟨-, earlier⟩ := forall_mem_cons.mp well
      have before := ih earlier
      refine forall_mem_cons.mpr ⟨?_, before⟩
      exact ((earlier _ mem_cons_self).spec (before _ mem_cons_self)).2 _ next
  exact fun call member => ((well call member).spec (rows call member)).1

theorem gb2312_lookups_ideographic_space : Call.GoesWell (.setInit, [0xa1, 0xa1]) := by
  refine (gb2312_lookups_iff (.start rfl)).mpr (forall_mem_singleton.mpr ?_) _ mem_cons_self
  rintro - b ⟨⟩
  decide

/-- The leading byte 0xf8 leads to a row behind the last one. -/
theorem gb2312_lookup_outside :
    gb2312Mbtoc32 [0xf8] 1 .setInit = some (.incomplete (.setMultibyte 1 81 0)) ∧
      gb2312Mbtoc32 [0xf8, 0xa1] 2 .setInit = none := by
  decide +kernel

end Cloudlibc.Locale.Gb2312
