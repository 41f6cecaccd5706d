import Cvbd.Lib.Region

/-! NUL-terminated strings in a byte region, read with a bound on how far the terminator is sought. -/

namespace Cvbd.CString

/-- The bytes from `start` up to the first zero byte, if there is one among `fuel` bytes. -/
def read (bytes : Nat → UInt8) : Nat → Nat → Option (List UInt8)
  | 0, _ => none
  | fuel + 1, start =>
      if bytes start = 0 then some []
      else (read bytes fuel (start + 1)).map (bytes start :: ·)

/-- A string is read exactly where its bytes stand, none of them zero, followed by a zero. -/
theorem read_eq_some_iff {bytes : Nat → UInt8} {fuel start : Nat} {text : List UInt8} :
    read bytes fuel start = some text ↔
      text.length < fuel ∧ 0 ∉ text ∧ (∀ index, index < text.length →
        bytes (start + index) = text.getD index 0) ∧ bytes (start + text.length) = 0 := by
  induction fuel generalizing start text with
  | zero => simp [read]
  | succ fuel ih =>
      simp only [read]
      by_cases ends : bytes start = 0
      · simp only [ends, if_true, Option.some.injEq]
        constructor
        · rintro rfl
          simpa using ends
        · rintro ⟨_, nonzero, stands, _⟩
          cases text with
          | nil => rfl
          | cons first rest =>
              have firstByte : bytes start = first := by simpa using stands 0 (by simp)
              simp [← firstByte, ends] at nonzero
      · simp only [ends, if_false, Option.map_eq_some_iff]
        constructor
        · rintro ⟨rest, found, rfl⟩
          obtain ⟨short, nonzero, stands, terminated⟩ := ih.mp found
          refine ⟨by simpa using short, ?_, ?_, ?_⟩
          · simp only [List.mem_cons, not_or]
            exact ⟨fun equal => ends equal.symm, nonzero⟩
          · intro index below
            cases index with
            | zero => simp
            | succ index =>
                have at_rest := stands index (by simpa using below)
                simpa [Nat.add_assoc, Nat.add_comm 1 index] using at_rest
          · simpa [Nat.add_assoc, Nat.add_comm 1] using terminated
        · rintro ⟨short, nonzero, stands, terminated⟩
          cases text with
          | nil => exact (ends (by simpa using terminated)).elim
          | cons first rest =>
              have firstByte : bytes start = first := by simpa using stands 0 (by simp)
              refine ⟨rest, ih.mpr ⟨by simpa using short, ?_, ?_, ?_⟩, by rw [firstByte]⟩
              · exact fun member => nonzero (List.mem_cons_of_mem _ member)
              · intro index below
                have shifted := stands (index + 1) (by simpa using below)
                simpa [Nat.add_assoc, Nat.add_comm 1 index] using shifted
              · simpa [Nat.add_assoc, Nat.add_comm 1] using terminated

/-- A zero within reach ends some string. -/
theorem read_isSome {bytes : Nat → UInt8} {fuel start offset : Nat} (below : offset < fuel)
    (zero : bytes (start + offset) = 0) : (read bytes fuel start).isSome = true := by
  induction fuel generalizing start offset with
  | zero => omega
  | succ fuel ih =>
      simp only [read]
      split
      · rfl
      · rename_i nonzero
        cases offset with
        | zero => exact (nonzero (by simpa using zero)).elim
        | succ offset =>
            have shifted : bytes (start + 1 + offset) = 0 := by
              simpa [Nat.add_assoc, Nat.add_comm 1 offset] using zero
            rw [Option.isSome_map]
            exact ih (by omega : offset < fuel) shifted

/-- Only the string and its terminator matter for reading it. -/
theorem read_eq_some_congr {left right : Nat → UInt8} {fuel start : Nat} {text : List UInt8}
    (same : ∀ index, index ≤ text.length → left (start + index) = right (start + index)) :
    read left fuel start = some text ↔ read right fuel start = some text := by
  rw [read_eq_some_iff, read_eq_some_iff, same text.length (Nat.le_refl _)]
  have bytesSame : (∀ index, index < text.length → left (start + index) = text.getD index 0) ↔
      ∀ index, index < text.length → right (start + index) = text.getD index 0 :=
    forall_congr' fun index => forall_congr' fun below => by rw [same index (by omega)]
  rw [bytesSame]

end Cvbd.CString
