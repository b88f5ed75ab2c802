import Mathlib

/-!
# Machine integers as checked and wrapped integers

A value of a C integer type is an integer. An operation on a signed type has a
meaning only when its exact result fits in the type, so it is followed by a
check that fails otherwise (`signed`). A conversion to an unsigned type reduces
modulo a power of two (`unsigned`).

Division and remainder of signed values truncate towards zero. The quotient and
remainder by a positive divisor, corrected to a non-negative remainder, are the
floor quotient and remainder (`tdiv_tmod_normalize`).
-/

set_option autoImplicit false

namespace Cloudlibc.MachineInteger

/-- The integers of a signed type of the given width. -/
def Fits (width : ℕ) (x : ℤ) : Prop := -2 ^ (width - 1) ≤ x ∧ x < 2 ^ (width - 1)

instance (width : ℕ) (x : ℤ) : Decidable (Fits width x) :=
  inferInstanceAs (Decidable (_ ∧ _))

/-- A signed result, undefined when it does not fit. -/
def signed (width : ℕ) (x : ℤ) : Option ℤ := if Fits width x then some x else none

/-- A conversion to an unsigned type. -/
def unsigned (width : ℕ) (x : ℤ) : ℤ := x % 2 ^ width

variable {x : ℤ}

theorem signed_of_fits {width : ℕ} (fits : Fits width x) :
    signed width x = some x := if_pos fits

theorem unsigned_of_lt {width : ℕ} (nonneg : 0 ≤ x) (bound : x < 2 ^ width) :
    unsigned width x = x := Int.emod_eq_of_lt nonneg bound

/-- The widths the sources use, with their bounds as numerals. -/
theorem fits_sixtyFour : Fits 64 x ↔ -9223372036854775808 ≤ x ∧ x < 9223372036854775808 := by
  norm_num [Fits]

theorem fits_thirtyTwo : Fits 32 x ↔ -2147483648 ≤ x ∧ x < 2147483648 := by
  norm_num [Fits]

theorem signed_sixtyFour (bounds : -9223372036854775808 ≤ x ∧ x < 9223372036854775808) :
    signed 64 x = some x := signed_of_fits (fits_sixtyFour.mpr bounds)

theorem signed_thirtyTwo (bounds : -2147483648 ≤ x ∧ x < 2147483648) :
    signed 32 x = some x := signed_of_fits (fits_thirtyTwo.mpr bounds)

theorem unsigned_sixteen (nonneg : 0 ≤ x) (bound : x < 65536) : unsigned 16 x = x :=
  unsigned_of_lt nonneg (by norm_num; exact bound)

theorem unsigned_thirtyTwo (nonneg : 0 ≤ x) (bound : x < 4294967296) :
    unsigned 32 x = x := unsigned_of_lt nonneg (by norm_num; exact bound)

theorem unsigned_sixtyFour (nonneg : 0 ≤ x) (bound : x < 18446744073709551616) :
    unsigned 64 x = x := unsigned_of_lt nonneg (by norm_num; exact bound)

/-- Every value of the 64-bit type fits. -/
theorem fits_toInt (x : Int64) : Fits 64 x.toInt :=
  fits_sixtyFour.mpr ⟨x.le_toInt, x.toInt_lt⟩

/-! ## Truncated division -/

variable {a b : ℤ}

/-- The truncated quotient by a positive divisor, through the floor quotient. -/
theorem tdiv_eq_of_pos (positive : 0 < b) :
    a.tdiv b = if 0 ≤ a ∨ a % b = 0 then a / b else a / b + 1 := by
  rw [Int.tdiv_eq_ediv]
  have divides : b ∣ a ↔ a % b = 0 := Int.dvd_iff_emod_eq_zero
  simp only [divides, Int.sign_eq_one_of_pos positive]
  split <;> simp

/-- The truncated remainder by a positive divisor, through the floor remainder. -/
theorem tmod_eq_of_pos (positive : 0 < b) :
    a.tmod b = if 0 ≤ a ∨ a % b = 0 then a % b else a % b - b := by
  have remainder := Int.emod_add_mul_ediv a b
  rw [Int.tmod_def, tdiv_eq_of_pos positive]
  split
  · linarith
  · linarith

/-- Correcting a negative remainder gives the floor quotient and remainder. -/
theorem tdiv_tmod_normalize (positive : 0 < b) :
    (if a.tmod b < 0 then (a.tdiv b - 1, a.tmod b + b) else (a.tdiv b, a.tmod b)) =
      (a / b, a % b) := by
  have remainderBounds := Int.emod_nonneg a positive.ne'
  have remainderBelow := Int.emod_lt_of_pos a positive
  rw [tdiv_eq_of_pos positive, tmod_eq_of_pos positive]
  by_cases exactOrNonneg : 0 ≤ a ∨ a % b = 0
  · rw [if_pos exactOrNonneg, if_pos exactOrNonneg, if_neg (by omega)]
  · rw [if_neg exactOrNonneg, if_neg exactOrNonneg, if_pos (by omega)]
    simp

end Cloudlibc.MachineInteger
