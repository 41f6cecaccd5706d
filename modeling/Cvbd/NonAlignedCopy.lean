import Cvbd.Lib.ExactInt64

/-!
`NonAlignedCopy.h`: the iterator that cuts a byte range at absolute multiples of
a block size. Fields are `ssize_t`; the range invariant makes every operation of
the iterator exact.
-/

namespace Cvbd

structure NonAlignedCopy where
  start : Int64
  len : Int64
  blockSize : Int64
  cur : Int64
  deriving DecidableEq, Repr

def nonAlignedCopyInit (start len blockSize : Int64) : NonAlignedCopy :=
  ⟨start, len, blockSize, start⟩

def nonAlignedCopyIsValid (copy : NonAlignedCopy) : Bool :=
  decide (copy.start + copy.len - copy.cur > 0)

/-- The offset and size of the next chunk, and the advanced iterator. -/
def nonAlignedCopyNext (copy : NonAlignedCopy) : Int64 × Int64 × NonAlignedCopy :=
  let remaining := copy.start + copy.len - copy.cur
  let available := copy.blockSize - copy.cur % copy.blockSize
  let retSize := if available > remaining then remaining else available
  (copy.cur, retSize, { copy with cur := copy.cur + retSize })

namespace NonAlignedCopy

open ExactInt64

/-- The cursor is inside a range whose end is representable. -/
structure InRange (copy : NonAlignedCopy) : Prop where
  start : 0 ≤ copy.start.toInt
  len : 0 ≤ copy.len.toInt
  blockSize : 0 < copy.blockSize.toInt
  finish : copy.start.toInt + copy.len.toInt < 2 ^ 63
  lower : copy.start.toInt ≤ copy.cur.toInt
  upper : copy.cur.toInt ≤ copy.start.toInt + copy.len.toInt

theorem InRange.init {start len blockSize : Int64} (startNonneg : 0 ≤ start.toInt)
    (lenNonneg : 0 ≤ len.toInt) (blockPos : 0 < blockSize.toInt)
    (finish : start.toInt + len.toInt < 2 ^ 63) :
    (nonAlignedCopyInit start len blockSize).InRange where
  start := startNonneg
  len := lenNonneg
  blockSize := blockPos
  finish := finish
  lower := Int.le_refl _
  upper := by
    show start.toInt ≤ start.toInt + len.toInt
    omega

theorem InRange.remaining {copy : NonAlignedCopy} (inRange : copy.InRange) :
    (copy.start + copy.len - copy.cur).toInt =
      copy.start.toInt + copy.len.toInt - copy.cur.toInt := by
  obtain ⟨startNonneg, lenNonneg, _, finish, lower, upper⟩ := inRange
  have sum : (copy.start + copy.len).toInt = copy.start.toInt + copy.len.toInt :=
    toInt_add ⟨by omega, by omega⟩
  rw [toInt_sub (by rw [sum]; exact ⟨by omega, by omega⟩), sum]

theorem InRange.isValid_iff {copy : NonAlignedCopy} (inRange : copy.InRange) :
    nonAlignedCopyIsValid copy = true ↔ copy.cur.toInt < copy.start.toInt + copy.len.toInt := by
  simp only [nonAlignedCopyIsValid, decide_eq_true_eq, gt_iff_lt, Int64.lt_iff_toInt_lt,
    inRange.remaining, Int64.toInt_zero]
  omega

theorem InRange.available {copy : NonAlignedCopy} (inRange : copy.InRange) :
    (copy.blockSize - copy.cur % copy.blockSize).toInt =
      copy.blockSize.toInt - copy.cur.toInt % copy.blockSize.toInt := by
  have curNonneg : 0 ≤ copy.cur.toInt := Int.le_trans inRange.start inRange.lower
  have modNonneg := Int.emod_nonneg copy.cur.toInt (Int.ne_of_gt inRange.blockSize)
  have modLt := Int.emod_lt_of_pos copy.cur.toInt inRange.blockSize
  have blockLt := copy.blockSize.toInt_lt
  have rem := toInt_mod copy.blockSize curNonneg
  rw [toInt_sub (by rw [rem]; exact ⟨by omega, by omega⟩), rem]

/-- The chunk starts at the cursor, ends at the range's end or at the next multiple of the block
size, whichever comes first, and the cursor moves to that end. -/
theorem InRange.next {copy : NonAlignedCopy} (inRange : copy.InRange)
    (more : copy.cur.toInt < copy.start.toInt + copy.len.toInt) :
    ∃ retSize after, nonAlignedCopyNext copy = (copy.cur, retSize, after) ∧
      retSize.toInt = min (copy.blockSize.toInt - copy.cur.toInt % copy.blockSize.toInt)
        (copy.start.toInt + copy.len.toInt - copy.cur.toInt) ∧
      0 < retSize.toInt ∧ retSize.toInt ≤ copy.blockSize.toInt ∧
      after = { copy with cur := after.cur } ∧
      after.cur.toInt = copy.cur.toInt + retSize.toInt ∧ after.InRange := by
  have remaining := inRange.remaining
  have available := inRange.available
  have modNonneg := Int.emod_nonneg copy.cur.toInt (Int.ne_of_gt inRange.blockSize)
  have modLt := Int.emod_lt_of_pos copy.cur.toInt inRange.blockSize
  have ⟨startNonneg, lenNonneg, _, finish, lower, upper⟩ := inRange
  generalize size_eq : (nonAlignedCopyNext copy).2.1 = retSize
  have size : retSize.toInt = min (copy.blockSize.toInt - copy.cur.toInt % copy.blockSize.toInt)
      (copy.start.toInt + copy.len.toInt - copy.cur.toInt) := by
    rw [← size_eq]
    simp only [nonAlignedCopyNext]
    split
    · rename_i larger
      rw [gt_iff_lt, Int64.lt_iff_toInt_lt, remaining, available] at larger
      omega
    · rename_i notLarger
      rw [gt_iff_lt, Int64.lt_iff_toInt_lt, remaining, available] at notLarger
      omega
  have moved : (copy.cur + retSize).toInt = copy.cur.toInt + retSize.toInt :=
    toInt_add ⟨by omega, by omega⟩
  refine ⟨retSize, { copy with cur := copy.cur + retSize }, ?_, size, by omega, by omega, rfl,
    moved, ?_⟩
  · rw [← size_eq]
    rfl
  · exact ⟨startNonneg, lenNonneg, inRange.blockSize, finish,
      by simp only [moved]; omega, by simp only [moved]; omega⟩

end NonAlignedCopy

end Cvbd
