import Cvbd.DriverCore
import Cvbd.Lib.ExactInt64

/-! Sector arithmetic of the drivers for requests inside a file of representable size. -/

namespace Cvbd

open ExactInt64

/-- What QEMU guarantees of the arguments of a transfer on a file of `size` bytes. -/
structure SectorsInside (sectorNum : Int64) (nbSectors : Int32) (size : Nat) : Prop where
  sectorNonneg : 0 ≤ sectorNum.toInt
  nbNonneg : 0 ≤ nbSectors.toInt
  inside : (sectorNum.toInt + nbSectors.toInt) * 512 ≤ size
  representable : size < 2 ^ 63

variable {sectorNum : Int64} {nbSectors : Int32} {size : Nat}

theorem SectorsInside.product (inside : SectorsInside sectorNum nbSectors size) :
    (sectorNum.toUInt64 * bdrvSectorSize).toNat = sectorNum.toInt.toNat * 512 := by
  obtain ⟨sectorNonneg, nbNonneg, fits, representable⟩ := inside
  have sectorSize : bdrvSectorSize.toNat = 512 := rfl
  rw [UInt64.toNat_mul, toNat_toUInt64 sectorNonneg, sectorSize]
  exact Nat.mod_eq_of_lt (by omega)

theorem SectorsInside.byteOffset (inside : SectorsInside sectorNum nbSectors size) :
    (byteOffset sectorNum).toInt = (sectorNum.toInt.toNat * 512 : Nat) := by
  have product := inside.product
  obtain ⟨sectorNonneg, nbNonneg, fits, representable⟩ := inside
  rw [Cvbd.byteOffset, toInt_toInt64 (by omega), product]

theorem SectorsInside.byteSize (inside : SectorsInside sectorNum nbSectors size) :
    (byteSize nbSectors).toNat = nbSectors.toInt.toNat * 512 := by
  obtain ⟨sectorNonneg, nbNonneg, fits, representable⟩ := inside
  have widened : nbSectors.toInt64.toInt = nbSectors.toInt := Int32.toInt_toInt64 nbSectors
  have sectorSize : bdrvSectorSize.toNat = 512 := rfl
  rw [Cvbd.byteSize, UInt64.toNat_mul, toNat_toUInt64 (by omega), widened, sectorSize]
  exact Nat.mod_eq_of_lt (by omega)

theorem SectorsInside.total (inside : SectorsInside sectorNum nbSectors size) :
    sectorNum.toInt.toNat * 512 + nbSectors.toInt.toNat * 512 ≤ size := by
  obtain ⟨sectorNonneg, nbNonneg, fits, representable⟩ := inside
  omega

end Cvbd
