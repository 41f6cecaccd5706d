import Cvbd.Driver
import Cvbd.SyncCore

/-!
The chunk loop of `cvbd_read` and `cvbd_write`: each chunk lies in the request,
fits into one message and is placed where it belongs in the caller's buffer.
-/

namespace Cvbd

open ExactInt64

namespace SyncCall

/-- Bytes of the request already cut into chunks. -/
def done (copy : NonAlignedCopy) : Nat := (copy.cur.toInt - copy.start.toInt).toNat

/-- Byte offset and length of the call as unbounded numbers. -/
def offset (call : SyncCall) : Nat := call.sectorNum.toInt.toNat * 512
def length (call : SyncCall) : Nat := call.nbSectors.toInt.toNat * 512

/-- The iterator belongs to the call. -/
structure Progress (call : SyncCall) (copy : NonAlignedCopy) : Prop where
  inRange : copy.InRange
  start : copy.start.toInt = call.offset
  len : copy.len.toInt = call.length
  blockSize : copy.blockSize = msgqMaxSize

variable {call : SyncCall} {size : Nat}

theorem Progress.cur {copy : NonAlignedCopy} (progress : call.Progress copy) :
    copy.cur.toInt = (call.offset + done copy : Nat) := by
  have lower := progress.inRange.lower
  have start := progress.start
  unfold done
  omega

theorem Progress.done_le {copy : NonAlignedCopy} (progress : call.Progress copy) :
    done copy ≤ call.length := by
  have upper := progress.inRange.upper
  have len := progress.len
  unfold done
  omega

theorem Progress.isValid_iff {copy : NonAlignedCopy} (progress : call.Progress copy) :
    nonAlignedCopyIsValid copy = true ↔ done copy < call.length := by
  rw [progress.inRange.isValid_iff, progress.cur, progress.start, progress.len]
  omega

theorem progress_init (inside : SectorsInside call.sectorNum call.nbSectors size) :
    let copy := nonAlignedCopyInit (byteOffset call.sectorNum) (byteSize call.nbSectors).toInt64
      msgqMaxSize
    call.Progress copy ∧ done copy = 0 := by
  intro copy
  have total := inside.total
  have representable := inside.representable
  have start : copy.start.toInt = call.offset := inside.byteOffset
  have len : copy.len.toInt = call.length := by
    show (byteSize call.nbSectors).toInt64.toInt = _
    rw [toInt_toInt64 (by rw [inside.byteSize]; omega), inside.byteSize]
    rfl
  simp only [offset, length] at start len
  refine ⟨⟨NonAlignedCopy.InRange.init ?_ ?_ (by decide) ?_, start, len, rfl⟩, ?_⟩
  · show 0 ≤ copy.start.toInt
    omega
  · show 0 ≤ copy.len.toInt
    omega
  · show copy.start.toInt + copy.len.toInt < 2 ^ 63
    omega
  · show (copy.start.toInt - copy.start.toInt).toNat = 0
    omega

/-- The next chunk lies in the request, fits into one message, and is followed by the rest. -/
theorem Progress.next {copy : NonAlignedCopy} (progress : call.Progress copy)
    (more : done copy < call.length) :
    ∃ retSz after, nonAlignedCopyNext copy = (copy.cur, retSz, after) ∧ call.Progress after ∧
      0 < retSz.toUInt64.toNat ∧ retSz.toUInt64.toNat ≤ maxDataSize ∧
      done after = done copy + retSz.toUInt64.toNat := by
  have cur := progress.cur
  have start := progress.start
  have len := progress.len
  obtain ⟨retSz, after, equal, _, positive, bounded, kept, moved, inRange⟩ :=
    progress.inRange.next (by omega)
  have magnitude : retSz.toUInt64.toNat = retSz.toInt.toNat := toNat_toUInt64 (by omega)
  have block : copy.blockSize.toInt = maxDataSize := by
    rw [progress.blockSize]
    rfl
  have sameStart : after.start = copy.start := by rw [kept]
  have sameLen : after.len = copy.len := by rw [kept]
  have sameBlock : after.blockSize = copy.blockSize := by rw [kept]
  refine ⟨retSz, after, equal, ⟨inRange, ?_, ?_, ?_⟩, by omega, by omega, ?_⟩
  · rw [sameStart, start]
  · rw [sameLen, len]
  · rw [sameBlock, progress.blockSize]
  · rw [magnitude]
    unfold done
    rw [sameStart, moved]
    omega

/-- The loop computes the position in the caller's buffer, and its assert holds. -/
theorem Progress.relativeOff {copy : NonAlignedCopy} (progress : call.Progress copy)
    (inside : SectorsInside call.sectorNum call.nbSectors size)
    (more : done copy < call.length) :
    let relativeOff := (copy.cur.toUInt64 - call.sectorNum.toUInt64 * bdrvSectorSize).toInt64
    relativeOff.toInt.toNat = done copy ∧ relativeOff.toUInt64 < byteSize call.nbSectors := by
  intro relativeOff
  have cur := progress.cur
  have product := inside.product
  have total := inside.total
  have representable := inside.representable
  simp only [offset, length] at cur more
  have curUnsigned : copy.cur.toUInt64.toNat = call.sectorNum.toInt.toNat * 512 + done copy := by
    rw [toNat_toUInt64 (by omega), cur]
    rfl
  have difference : (copy.cur.toUInt64 - call.sectorNum.toUInt64 * bdrvSectorSize).toNat =
      done copy := by
    rw [UInt64.toNat_sub_of_le _ _ (by rw [UInt64.le_iff_toNat_le]; omega)]
    omega
  constructor
  · show (copy.cur.toUInt64 - call.sectorNum.toUInt64 * bdrvSectorSize).toInt64.toInt.toNat = _
    rw [toInt_toInt64 (by omega), difference]
    rfl
  · show (copy.cur.toUInt64 - call.sectorNum.toUInt64 * bdrvSectorSize).toInt64.toUInt64 < _
    rw [UInt64.toUInt64_toInt64, UInt64.lt_iff_toNat_lt, difference, inside.byteSize]
    omega

end SyncCall

end Cvbd
