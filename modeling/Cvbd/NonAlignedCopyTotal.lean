import Cvbd.Lib.Blocks
import Cvbd.NonAlignedCopy

/-!
The loop over the chunk iterator: it ends, computes without overflow, and cuts
the range into as few chunks as the block size permits.
-/

namespace Cvbd

open Blocks

/-- The pairs of `while (NonAlignedCopyIsValid(c)) NonAlignedCopyNext(c, &offset, &size)`, if the
condition is tested at most `fuel` times. -/
def chunksFrom : Nat → NonAlignedCopy → Option (List (Int64 × Int64))
  | 0, _ => none
  | fuel + 1, copy =>
      if nonAlignedCopyIsValid copy then
        let (retOffset, retSize, after) := nonAlignedCopyNext copy
        (chunksFrom fuel after).map fun rest => (retOffset, retSize) :: rest
      else some []

namespace NonAlignedCopy

/-- The iterator states in which the loop tests its condition. -/
inductive Visited (initial : NonAlignedCopy) : NonAlignedCopy → Prop
  | start : Visited initial initial
  | next {copy} : Visited initial copy → nonAlignedCopyIsValid copy = true →
      Visited initial (nonAlignedCopyNext copy).2.2

/-- The result of every operation on `ssize_t` is that of the integers. -/
structure Exact (copy : NonAlignedCopy) : Prop where
  finish : (copy.start + copy.len).toInt = copy.start.toInt + copy.len.toInt
  remaining : (copy.start + copy.len - copy.cur).toInt =
    copy.start.toInt + copy.len.toInt - copy.cur.toInt
  used : (copy.cur % copy.blockSize).toInt = copy.cur.toInt % copy.blockSize.toInt
  available : (copy.blockSize - copy.cur % copy.blockSize).toInt =
    copy.blockSize.toInt - copy.cur.toInt % copy.blockSize.toInt
  advance : nonAlignedCopyIsValid copy = true →
    (nonAlignedCopyNext copy).2.2.cur.toInt =
      copy.cur.toInt + (nonAlignedCopyNext copy).2.1.toInt

def integers (chunks : List (Int64 × Int64)) : List (Int × Int) :=
  chunks.map fun chunk => (chunk.1.toInt, chunk.2.toInt)

variable {copy : NonAlignedCopy}

theorem InRange.visited (inRange : copy.InRange) {current : NonAlignedCopy}
    (visited : Visited copy current) : current.InRange := by
  induction visited with
  | start => exact inRange
  | next _ valid ih =>
      obtain ⟨retSize, after, equal, _, _, _, _, _, kept⟩ := ih.next (ih.isValid_iff.mp valid)
      rw [equal]
      exact kept

theorem InRange.exact (inRange : copy.InRange) : copy.Exact where
  finish := by
    obtain ⟨startNonneg, lenNonneg, _, finish, _, _⟩ := inRange
    exact ExactInt64.toInt_add ⟨by omega, by omega⟩
  remaining := inRange.remaining
  used := ExactInt64.toInt_mod copy.blockSize (Int.le_trans inRange.start inRange.lower)
  available := inRange.available
  advance := by
    intro valid
    obtain ⟨retSize, after, equal, _, _, _, _, moved, _⟩ :=
      inRange.next (inRange.isValid_iff.mp valid)
    rw [equal]
    exact moved

/-- The loop ends after its last chunk, and its chunks are the greedy cut of what remains. -/
theorem InRange.chunks (inRange : copy.InRange) :
    ∃ chunks, (∀ fuel, chunks.length < fuel → chunksFrom fuel copy = some chunks) ∧
      Greedy copy.blockSize.toInt (copy.start.toInt + copy.len.toInt) copy.cur.toInt
        (integers chunks) := by
  induction left : (copy.start.toInt + copy.len.toInt - copy.cur.toInt).toNat using Nat.strongRecOn
      generalizing copy with
  | ind left ih =>
      by_cases more : copy.cur.toInt < copy.start.toInt + copy.len.toInt
      · have valid := inRange.isValid_iff.mpr more
        obtain ⟨retSize, after, equal, size, positive, _, same, moved, kept⟩ := inRange.next more
        have sameStart : after.start = copy.start := by rw [same]
        have sameLen : after.len = copy.len := by rw [same]
        have sameBlock : after.blockSize = copy.blockSize := by rw [same]
        obtain ⟨rest, ends, greedy⟩ := ih _ (by rw [sameStart, sameLen]; omega) kept rfl
        rw [sameStart, sameLen, sameBlock, moved] at greedy
        refine ⟨(copy.cur, retSize) :: rest, ?_, more, rfl, size, greedy⟩
        intro fuel enough
        cases fuel with
        | zero => simp at enough
        | succ fuel =>
            have restEnds := ends fuel (by simpa using enough)
            simp [chunksFrom, valid, equal, restEnds]
      · have invalid : nonAlignedCopyIsValid copy = false := by
          rw [Bool.eq_false_iff, Ne, inRange.isValid_iff]
          exact more
        refine ⟨[], ?_, Int.le_antisymm inRange.upper (by omega)⟩
        intro fuel enough
        cases fuel with
        | zero => simp at enough
        | succ fuel => simp [chunksFrom, invalid]

/-- From `NonAlignedCopyInit` on, no operation overflows, the loop ends, and its chunks follow each
other from the start to the end of the range, are neither empty nor larger than a block, cross no
multiple of the block size, begin at one but for the first, and are as few as possible. -/
theorem init_partitions {start len blockSize : Int64} (startNonneg : 0 ≤ start.toInt)
    (lenNonneg : 0 ≤ len.toInt) (blockPos : 0 < blockSize.toInt)
    (finish : start.toInt + len.toInt ≤ 2 ^ 63 - 1) :
    (∀ copy, Visited (nonAlignedCopyInit start len blockSize) copy → copy.Exact) ∧
    ∃ chunks, (∀ fuel, chunks.length < fuel →
        chunksFrom fuel (nonAlignedCopyInit start len blockSize) = some chunks) ∧
      Contiguous start.toInt (integers chunks) ∧
      extent (integers chunks) = len.toInt ∧
      (∀ piece ∈ integers chunks, 1 ≤ piece.2 ∧ piece.2 ≤ blockSize.toInt) ∧
      (∀ piece ∈ integers chunks, Uncrossed blockSize.toInt piece) ∧
      (∀ piece ∈ (integers chunks).tail, blockSize.toInt ∣ piece.1) ∧
      (chunks.length : Int) = (if len.toInt = 0 then 0 else
        (start.toInt + len.toInt + blockSize.toInt - 1) / blockSize.toInt -
          start.toInt / blockSize.toInt) ∧
      ∀ pieces, Cuts blockSize.toInt start.toInt len.toInt pieces →
        chunks.length ≤ pieces.length := by
  have inRange := InRange.init startNonneg lenNonneg blockPos (by omega)
  refine ⟨fun copy visited => (inRange.visited visited).exact, ?_⟩
  obtain ⟨chunks, ends, greedy⟩ := inRange.chunks
  obtain ⟨cuts, bounded, aligned, count⟩ := greedy.spec blockPos
  have length : start.toInt + len.toInt - start.toInt = len.toInt := by omega
  simp only [nonAlignedCopyInit, length] at cuts count
  have sameLength : (integers chunks).length = chunks.length := by simp [integers]
  refine ⟨chunks, ends, cuts.contiguous, cuts.covers,
    fun piece member => ⟨cuts.positive piece member, bounded piece member⟩, cuts.uncrossed,
    aligned, ?_, ?_⟩
  · rw [← sameLength, count, touched]
  · intro pieces other
    have least := other.least blockPos
    omega

/-- The range of the comment in the header file: 8K from 6K in blocks of 4K. -/
example : chunksFrom 4 (nonAlignedCopyInit 6144 8192 4096) =
    some [(6144, 2048), (8192, 4096), (12288, 2048)] := by decide

theorem init_partitions_6k :
    ∃ chunks, (∀ fuel, chunks.length < fuel →
        chunksFrom fuel (nonAlignedCopyInit 6144 8192 4096) = some chunks) ∧
      extent (integers chunks) = 8192 ∧ (chunks.length : Int) = 3 := by
  obtain ⟨_, chunks, ends, _, covers, _, _, _, count, _⟩ :=
    @init_partitions 6144 8192 4096 (by decide) (by decide) (by decide) (by decide)
  exact ⟨chunks, ends, covers, count⟩

end NonAlignedCopy

end Cvbd
