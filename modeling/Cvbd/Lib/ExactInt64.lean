import Mathlib.Algebra.Ring.Int.Defs
import Mathlib.Algebra.Ring.Nat
import Mathlib.Data.Int.DivMod

/-!
Signed 64-bit arithmetic where no result leaves the range: the machine
operations then agree with those of the integers.
-/

namespace Cvbd.ExactInt64

/-- The integers an `Int64` can hold. -/
def Fits (value : Int) : Prop := -2 ^ 63 ≤ value ∧ value < 2 ^ 63

theorem bmod_of_fits {value : Int} (fits : Fits value) : value.bmod (2 ^ 64) = value := by
  obtain ⟨lower, upper⟩ := fits
  exact Int.bmod_eq_of_le (by omega) (by omega)

theorem toInt_add {left right : Int64} (fits : Fits (left.toInt + right.toInt)) :
    (left + right).toInt = left.toInt + right.toInt := by
  rw [Int64.toInt_add, bmod_of_fits fits]

theorem toInt_sub {left right : Int64} (fits : Fits (left.toInt - right.toInt)) :
    (left - right).toInt = left.toInt - right.toInt := by
  rw [Int64.toInt_sub, bmod_of_fits fits]

theorem toInt_ofNat {value : Nat} (fits : value < 2 ^ 63) : (Int64.ofNat value).toInt = value := by
  rw [Int64.toInt_ofNat']
  exact bmod_of_fits ⟨by omega, by omega⟩

/-- The remainder of nonnegative operands. -/
theorem toInt_mod {left : Int64} (right : Int64) (nonneg : 0 ≤ left.toInt) :
    (left % right).toInt = left.toInt % right.toInt := by
  rw [Int64.toInt_mod, Int.tmod_eq_emod_of_nonneg nonneg]

/-- A nonnegative value keeps its magnitude as an unsigned one. -/
theorem toNat_toUInt64 {value : Int64} (nonneg : 0 ≤ value.toInt) :
    value.toUInt64.toNat = value.toInt.toNat := by
  rw [Int64.toNat_toUInt64_of_le (by simpa [Int64.le_iff_toInt_le] using nonneg)]
  rfl

/-- An unsigned value below the sign bit keeps its magnitude as a signed one. -/
theorem toInt_toInt64 {value : UInt64} (small : value.toNat < 2 ^ 63) :
    value.toInt64.toInt = value.toNat := by
  have unsigned : value = UInt64.ofNat value.toNat := by simp
  have signed : value.toInt64 = Int64.ofNat value.toNat := by
    rw [unsigned]
    simp [UInt64.toInt64, Int64.ofNat]
  rw [signed, toInt_ofNat small]

end Cvbd.ExactInt64
