import Cvbd.PosixCore

/-! What the two QEMU block drivers `cvbd.c` and `cvbd_syncio.c` have in common. -/

namespace Cvbd

/-- `BDRV_SECTOR_SIZE` of QEMU, an `unsigned long long`. -/
def bdrvSectorSize : UInt64 := 512

def cvbdBlksize : UInt64 := 4096

/-- `sector_num * BDRV_SECTOR_SIZE`, computed unsigned and stored as `off_t`. -/
def byteOffset (sectorNum : Int64) : Int64 := (sectorNum.toUInt64 * bdrvSectorSize).toInt64

/-- `nb_sectors * BDRV_SECTOR_SIZE` for an `int` operand. -/
def byteSize (nbSectors : Int32) : UInt64 := nbSectors.toInt64.toUInt64 * bdrvSectorSize

def isRequestAligned (sectorNum : Int64) (nbSectors : Int32) : Bool :=
  if (sectorNum.toUInt64 * bdrvSectorSize) % cvbdBlksize ≠ 0 ∨
      (nbSectors.toInt64.toUInt64 * bdrvSectorSize) % cvbdBlksize ≠ 0 then false
  else true

end Cvbd
