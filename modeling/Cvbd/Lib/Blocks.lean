import Mathlib.Algebra.Ring.Int.Defs
import Mathlib.Algebra.Ring.Nat
import Mathlib.Data.Int.DivMod

/-!
Cutting a range of integers into contiguous pieces none of which crosses a
multiple of a block size. A cut has at least as many pieces as the range touches
blocks, and the greedy cut has no more.
-/

namespace Cvbd.Blocks

/-- Pairs of offset and size that follow each other from `start` on. -/
def Contiguous (start : Int) : List (Int × Int) → Prop
  | [] => True
  | (offset, size) :: rest => offset = start ∧ Contiguous (start + size) rest

def extent (pieces : List (Int × Int)) : Int := (pieces.map Prod.snd).sum

/-- No multiple of the block size lies strictly inside a piece. -/
def Uncrossed (blockSize : Int) (piece : Int × Int) : Prop :=
  ∀ multiple : Int, ¬(piece.1 < multiple * blockSize ∧ multiple * blockSize < piece.1 + piece.2)

/-- Non-empty pieces that cut `[start, start + len)` at least at every multiple of the block
size. -/
structure Cuts (blockSize start len : Int) (pieces : List (Int × Int)) : Prop where
  contiguous : Contiguous start pieces
  covers : extent pieces = len
  positive : ∀ piece ∈ pieces, 1 ≤ piece.2
  uncrossed : ∀ piece ∈ pieces, Uncrossed blockSize piece

/-- How many blocks the range `[start, start + len)` touches: the quotient of its end rounded up,
less the quotient of its start rounded down. -/
def touched (blockSize start len : Int) : Int :=
  if len = 0 then 0 else (start + len + blockSize - 1) / blockSize - start / blockSize

/-- Every piece reaches to the next multiple or to the end, whichever comes first. -/
def Greedy (blockSize finish : Int) : Int → List (Int × Int) → Prop
  | start, [] => start = finish
  | start, (offset, size) :: rest => start < finish ∧ offset = start ∧
      size = min (blockSize - start % blockSize) (finish - start) ∧
      Greedy blockSize finish (start + size) rest

variable {blockSize start finish len size : Int} {pieces : List (Int × Int)}

@[simp] theorem extent_nil : extent [] = 0 := rfl

@[simp] theorem extent_cons (piece : Int × Int) : extent (piece :: pieces) = piece.2 + extent pieces := by
  simp [extent]

theorem extent_nonneg (positive : ∀ piece ∈ pieces, 1 ≤ piece.2) : 0 ≤ extent pieces := by
  induction pieces with
  | nil => simp
  | cons piece rest ih =>
      have first := positive piece (by simp)
      have others := ih fun other member => positive other (by simp [member])
      simp only [extent_cons]
      omega

theorem next_multiple (positive : 0 < blockSize) (start : Int) :
    start + (blockSize - start % blockSize) = (start / blockSize + 1) * blockSize ∧
      0 < blockSize - start % blockSize ∧ blockSize - start % blockSize ≤ blockSize := by
  have lower := Int.emod_nonneg start (Int.ne_of_gt positive)
  have upper := Int.emod_lt_of_pos start positive
  have split := Int.emod_add_mul_ediv start blockSize
  refine ⟨?_, by omega, by omega⟩
  rw [Int.add_mul, Int.mul_comm (start / blockSize), Int.one_mul]
  omega

/-- A piece that crosses no multiple ends at the next one at the latest. -/
theorem uncrossed_iff (positive : 0 < blockSize) :
    Uncrossed blockSize (start, size) ↔ size ≤ blockSize - start % blockSize := by
  obtain ⟨next, room, _⟩ := next_multiple positive start
  constructor
  · intro uncrossed
    have notInside := uncrossed (start / blockSize + 1)
    rw [← next] at notInside
    simp only at notInside
    omega
  · rintro short multiple ⟨above, below⟩
    simp only at above below
    have lower : start / blockSize < multiple := Int.ediv_lt_of_lt_mul positive above
    have upper : multiple * blockSize < (start / blockSize + 1) * blockSize := by omega
    have strict := Int.lt_of_mul_lt_mul_right upper (Int.le_of_lt positive)
    omega

/-- A range inside one block touches one block. -/
theorem touched_inside (positive : 0 < blockSize) (nonempty : 0 < size)
    (inside : size ≤ blockSize - start % blockSize) : touched blockSize start size = 1 := by
  have lower := Int.emod_nonneg start (Int.ne_of_gt positive)
  have split := Int.emod_add_mul_ediv start blockSize
  have quotient : (start + size + blockSize - 1) / blockSize = start / blockSize + 1 := by
    have shape : start + size + blockSize - 1 =
        (start % blockSize + size - 1) + (start / blockSize + 1) * blockSize := by
      rw [Int.add_mul, Int.mul_comm (start / blockSize), Int.one_mul]
      omega
    rw [shape, Int.add_mul_ediv_right _ _ (Int.ne_of_gt positive),
      Int.ediv_eq_zero_of_lt (by omega) (by omega)]
    omega
  simp only [touched, if_neg (Int.ne_of_gt nonempty), quotient]
  omega

/-- Cutting off a piece of one block leaves at most one block less to touch. -/
theorem touched_cut (positive : 0 < blockSize) (nonempty : 0 < size) (more : 0 < len)
    (inside : size ≤ blockSize - start % blockSize) :
    touched blockSize start (size + len) ≤ touched blockSize (start + size) len + 1 ∧
      (size = blockSize - start % blockSize →
        touched blockSize start (size + len) = touched blockSize (start + size) len + 1) := by
  obtain ⟨next, _, _⟩ := next_multiple positive start
  have sameEnd : start + (size + len) + blockSize - 1 = start + size + len + blockSize - 1 := by
    omega
  simp only [touched, if_neg (Int.ne_of_gt more), if_neg (show size + len ≠ 0 by omega), sameEnd]
  constructor
  · have quotient : (start + size) / blockSize ≤ start / blockSize + 1 := by
      apply Int.ediv_le_of_le_mul positive
      omega
    omega
  · intro reaches
    have quotient : (start + size) / blockSize = start / blockSize + 1 := by
      rw [reaches, next, Int.mul_ediv_cancel _ (Int.ne_of_gt positive)]
    omega

/-- Every cut has at least as many pieces as the range touches blocks. -/
theorem Cuts.least (positive : 0 < blockSize) (cuts : Cuts blockSize start len pieces) :
    touched blockSize start len ≤ pieces.length := by
  induction pieces generalizing start len with
  | nil =>
      have none := cuts.covers
      simp only [extent_nil] at none
      simp [touched, ← none]
  | cons piece rest ih =>
      obtain ⟨offset, size⟩ := piece
      obtain ⟨contiguous, sum, sizes, uncrossed⟩ := cuts
      obtain ⟨rfl, follows⟩ := contiguous
      simp only [extent_cons] at sum
      have nonempty : 1 ≤ size := sizes (offset, size) (by simp)
      have inside := (uncrossed_iff positive).mp (uncrossed (offset, size) (by simp))
      have restCuts : Cuts blockSize (offset + size) (extent rest) rest :=
        ⟨follows, rfl, fun other member => sizes other (by simp [member]),
          fun other member => uncrossed other (by simp [member])⟩
      have fewer := ih restCuts
      have remaining := extent_nonneg restCuts.positive
      simp only [List.length_cons, ← sum]
      by_cases last : extent rest = 0
      · rw [last, Int.add_zero, touched_inside positive (by omega) inside]
        omega
      · have step := (touched_cut positive (by omega) (by omega : 0 < extent rest) inside).1
        omega

/-- The greedy cut: what the pieces are, where all but the first begin, and how many there are. -/
theorem Greedy.spec (positive : 0 < blockSize) (greedy : Greedy blockSize finish start pieces) :
    Cuts blockSize start (finish - start) pieces ∧ (∀ piece ∈ pieces, piece.2 ≤ blockSize) ∧
      (∀ piece ∈ pieces.tail, blockSize ∣ piece.1) ∧
      (pieces.length : Int) = touched blockSize start (finish - start) := by
  induction pieces generalizing start with
  | nil =>
      obtain rfl : start = finish := greedy
      refine ⟨⟨trivial, by simp, by simp, by simp⟩, by simp, by simp, ?_⟩
      simp [touched]
  | cons piece rest ih =>
      obtain ⟨offset, size⟩ := piece
      obtain ⟨more, rfl, size_eq, continues⟩ := greedy
      obtain ⟨cuts, bounded, aligned, count⟩ := ih continues
      obtain ⟨next, room, small⟩ := next_multiple positive offset
      have inside : size ≤ blockSize - offset % blockSize := by omega
      have nonempty : 0 < size := by omega
      refine ⟨⟨⟨rfl, cuts.contiguous⟩, ?_, ?_, ?_⟩, ?_, ?_, ?_⟩
      · rw [extent_cons, cuts.covers]
        omega
      · rintro other member
        rcases List.mem_cons.mp member with rfl | later
        · exact nonempty
        · exact cuts.positive other later
      · rintro other member
        rcases List.mem_cons.mp member with rfl | later
        · exact (uncrossed_iff positive).mpr inside
        · exact cuts.uncrossed other later
      · rintro other member
        rcases List.mem_cons.mp member with rfl | later
        · exact Int.le_trans inside small
        · exact bounded other later
      · rintro other later
        cases rest with
        | nil => simp at later
        | cons second rest =>
            -- A piece that is followed by another one ends at a multiple.
            obtain ⟨further, second_eq, _, _⟩ := continues
            have reaches : size = blockSize - offset % blockSize := by omega
            rcases List.mem_cons.mp later with rfl | behind
            · rw [second_eq, reaches, next]
              exact Int.dvd_mul_left _ _
            · exact aligned other behind
      · have remaining : finish - offset = size + (finish - (offset + size)) := by omega
        simp only [List.length_cons]
        by_cases last : finish - (offset + size) = 0
        · rw [remaining, last, Int.add_zero, touched_inside positive nonempty inside]
          rw [last, touched, if_pos rfl] at count
          omega
        · have reaches : size = blockSize - offset % blockSize := by omega
          rw [remaining, (touched_cut positive nonempty (by omega) inside).2 reaches]
          omega

end Cvbd.Blocks
