import Mathlib.Algebra.Ring.Nat
import Cvbd.PosixCore

/-! Error numbers and transfer counts as the server sees them. -/

namespace Cvbd

theorem Errno.negative_toInt (errno : Errno) : errno.negative.toInt = -errno.code.toInt := by
  have positive := errno.positive
  have bound := errno.code.toInt_lt
  unfold Errno.negative
  rw [Int32.toInt_neg]
  exact Int.bmod_eq_of_le (by omega) (by omega)

theorem Errno.negative_ne_zero (errno : Errno) : errno.negative ≠ 0 := by
  intro zero
  have value := errno.negative_toInt
  have positive := errno.positive
  rw [zero] at value
  have none : (0 : Int32).toInt = 0 := rfl
  omega

/-- A transfer whose result passes the server's assert was a full one. -/
theorem transferResult_full {result : Except Errno Nat} {size : UInt64}
    (small : size.toNat ≤ maxDataSize) (honest : ∀ count, result = .ok count → count ≤ size.toNat)
    (passed : (transferResult result).toUInt64 = size) : result = .ok size.toNat := by
  have bound : maxDataSize = 524288 := rfl
  cases result with
  | ok count =>
      have count_le := honest count rfl
      have magnitude := congrArg UInt64.toNat passed
      simp only [transferResult, Int64.ofNat] at magnitude
      have limit : UInt64.size = 2 ^ 64 := rfl
      have reduced : (UInt64.ofNat count).toNat = count := UInt64.toNat_ofNat_of_lt' (by omega)
      have equal : count = size.toNat := reduced.symm.trans magnitude
      rw [equal]
  | error errno =>
      have magnitude := congrArg UInt64.toNat passed
      have minusOne : (transferResult (.error errno)).toUInt64.toNat = 2 ^ 64 - 1 := rfl
      omega

end Cvbd
