import Mathlib.Data.List.Basic

/-!
Cells addressed by a number, and the overwriting of an interval of them. A
region is a total function; what lies outside the intervals of interest is
carried along untouched, so `copy` models `memcpy`, `pwrite` and the overlay of
a received message on an old buffer alike.
-/

namespace Cvbd.Region

variable {α : Type}

/-- `dst` with the cells `[start, start + len)` replaced by `src 0 .. src (len - 1)`. -/
def copy (dst : Nat → α) (start : Nat) (src : Nat → α) (len : Nat) : Nat → α :=
  fun index => if start ≤ index ∧ index < start + len then src (index - start) else dst index

theorem copy_inside {dst src : Nat → α} {start len index : Nat}
    (lower : start ≤ index) (upper : index < start + len) :
    copy dst start src len index = src (index - start) := by
  simp [copy, lower, upper]

theorem copy_outside {dst src : Nat → α} {start len index : Nat}
    (outside : index < start ∨ start + len ≤ index) :
    copy dst start src len index = dst index := by
  have notInside : ¬(start ≤ index ∧ index < start + len) := by omega
  simp [copy, notInside]

@[simp] theorem copy_add (dst src : Nat → α) (start len offset : Nat) (below : offset < len) :
    copy dst start src len (start + offset) = src offset := by
  rw [copy_inside (by omega) (by omega)]
  congr 1
  omega

theorem copy_prefix {dst src : Nat → α} {len index : Nat} (below : index < len) :
    copy dst 0 src len index = src index := by
  rw [copy_inside (by omega) (by omega)]
  simp

@[simp] theorem copy_zero (dst src : Nat → α) (start : Nat) : copy dst start src 0 = dst := by
  funext index
  exact copy_outside (by omega)

/-- Two adjacent copies are one copy of the joined source. -/
theorem copy_copy_adjacent (dst src : Nat → α) (start first second : Nat) :
    copy (copy dst start src first) (start + first) (fun index => src (first + index)) second =
      copy dst start src (first + second) := by
  funext index
  by_cases inSecond : start + first ≤ index ∧ index < start + first + second
  · rw [copy_inside inSecond.1 inSecond.2, copy_inside (by omega) (by omega)]
    congr 1
    omega
  · rw [copy_outside (by omega)]
    by_cases inFirst : start ≤ index ∧ index < start + first
    · rw [copy_inside inFirst.1 inFirst.2, copy_inside (by omega) (by omega)]
    · rw [copy_outside (by omega), copy_outside (by omega)]

theorem copy_congr {dst src other : Nat → α} {start len : Nat}
    (same : ∀ index, index < len → src index = other index) :
    copy dst start src len = copy dst start other len := by
  funext index
  by_cases inside : start ≤ index ∧ index < start + len
  · rw [copy_inside inside.1 inside.2, copy_inside inside.1 inside.2]
    exact same _ (by omega)
  · rw [copy_outside (by omega), copy_outside (by omega)]

/-- One cell after a copy, from the cell before it or from the source. -/
theorem copy_congr_at {dst otherDst src otherSrc : Nat → α} {start len index : Nat}
    (inside : start ≤ index → index < start + len → src (index - start) = otherSrc (index - start))
    (outside : index < start ∨ start + len ≤ index → dst index = otherDst index) :
    copy dst start src len index = copy otherDst start otherSrc len index := by
  by_cases within : start ≤ index ∧ index < start + len
  · rw [copy_inside within.1 within.2, copy_inside within.1 within.2]
    exact inside within.1 within.2
  · rw [copy_outside (by omega), copy_outside (by omega)]
    exact outside (by omega)

/-- A copy does not disturb what a later reader finds in a disjoint interval. -/
theorem copy_disjoint {dst src : Nat → α} {start len first count index : Nat}
    (disjoint : first + count ≤ start ∨ start + len ≤ first) (below : index < count) :
    copy dst start src len (first + index) = dst (first + index) :=
  copy_outside (by omega)

end Cvbd.Region
