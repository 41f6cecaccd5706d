import Mathlib.Data.List.Nodup
import Cvbd.WireCore

/-!
`iov_from_buf` and `iov_to_buf`: copying between a flat buffer and the segments
of an I/O vector in the guest's memory. Each position of the flattened vector
has one address; where segments overlap, the last position at an address wins.
-/

namespace Cvbd

structure Segment where
  base : Nat
  len : Nat
  deriving DecidableEq, Repr

/-- The `iov` array of a `QEMUIOVector`. -/
abbrev Qiov := List Segment

/-- The loop of `iov_from_buf`; the result is the memory and the final `offset` and `done`. -/
def iovFromBufLoop (buf : Bytes) (bytes : Nat) : Qiov → Nat → Nat → Bytes → Bytes × Nat × Nat
  | [], offset, done, memory => (memory, offset, done)
  | segment :: rest, offset, done, memory =>
      if offset ≠ 0 ∨ done < bytes then
        if offset < segment.len then
          let len := min (segment.len - offset) (bytes - done)
          iovFromBufLoop buf bytes rest 0 (done + len)
            (Region.copy memory (segment.base + offset) (fun index => buf (done + index)) len)
        else iovFromBufLoop buf bytes rest (offset - segment.len) done memory
      else (memory, offset, done)

/-- Aborts when `offset` lies behind the vector. -/
def iovFromBuf (iov : Qiov) (offset : Nat) (buf : Bytes) (bytes : Nat) (memory : Bytes) :
    Option Bytes :=
  match iovFromBufLoop buf bytes iov offset 0 memory with
  | (memory, 0, _) => some memory
  | (_, _ + 1, _) => none

def iovToBufLoop (memory : Bytes) (bytes : Nat) : Qiov → Nat → Nat → Bytes → Bytes × Nat × Nat
  | [], offset, done, buf => (buf, offset, done)
  | segment :: rest, offset, done, buf =>
      if offset ≠ 0 ∨ done < bytes then
        if offset < segment.len then
          let len := min (segment.len - offset) (bytes - done)
          iovToBufLoop memory bytes rest 0 (done + len)
            (Region.copy buf done (fun index => memory (segment.base + offset + index)) len)
        else iovToBufLoop memory bytes rest (offset - segment.len) done buf
      else (buf, offset, done)

def iovToBuf (iov : Qiov) (offset : Nat) (buf : Bytes) (bytes : Nat) (memory : Bytes) :
    Option Bytes :=
  match iovToBufLoop memory bytes iov offset 0 buf with
  | (buf, 0, _) => some buf
  | (_, _ + 1, _) => none

namespace Qiov

/-- The address of each position of the flattened vector. -/
def addresses (iov : Qiov) : List Nat :=
  iov.flatMap fun segment => List.range' segment.base segment.len

def total (iov : Qiov) : Nat := iov.addresses.length

/-- The bytes of the flattened vector in `memory`, continued by `old`. -/
def flatten (iov : Qiov) (memory old : Bytes) : Bytes :=
  fun position => match iov.addresses[position]? with
    | some address => memory address
    | none => old position

/-- The first `count` positions hold `data`, a position whose address occurs again later apart. -/
def Holds (iov : Qiov) (memory data : Bytes) (count : Nat) : Prop :=
  ∀ position address, position < count → iov.addresses[position]? = some address →
    address ∉ iov.addresses.drop (position + 1) → memory address = data position

@[simp] theorem addresses_nil : addresses [] = [] := rfl

@[simp] theorem addresses_cons (segment : Segment) (rest : Qiov) :
    addresses (segment :: rest) = List.range' segment.base segment.len ++ addresses rest := rfl

theorem Holds.congr {iov : Qiov} {memory other data : Bytes} {count : Nat}
    (holds : iov.Holds memory data count)
    (same : ∀ address ∈ iov.addresses, other address = memory address) :
    iov.Holds other data count := by
  intro position address below found last
  rw [same address (List.mem_of_getElem? found)]
  exact holds position address below found last

theorem Holds.mono {iov : Qiov} {memory data other : Bytes} {count : Nat}
    (holds : iov.Holds memory data count)
    (same : ∀ position, position < count → other position = data position) :
    iov.Holds memory other count := by
  intro position address below found last
  rw [same position below]
  exact holds position address below found last

theorem Holds.all {iov : Qiov} {memory data : Bytes} {count : Nat}
    (holds : iov.Holds memory data count) (nodup : iov.addresses.Nodup) {position address : Nat}
    (below : position < count) (found : iov.addresses[position]? = some address) :
    memory address = data position := by
  refine holds position address below found ?_
  intro again
  obtain ⟨inside, rfl⟩ := List.getElem?_eq_some_iff.mp found
  obtain ⟨later, laterInside, equal⟩ := List.mem_iff_getElem.mp again
  rw [List.getElem_drop] at equal
  have index := (List.Nodup.getElem_inj_iff nodup).mp equal
  omega

end Qiov

open Qiov

theorem iovFromBufLoop_offset (buf : Bytes) (bytes : Nat) (iov : Qiov) (done : Nat)
    (memory : Bytes) : (iovFromBufLoop buf bytes iov 0 done memory).2.1 = 0 := by
  induction iov generalizing done memory with
  | nil => rfl
  | cons segment rest ih =>
      simp only [iovFromBufLoop, ne_eq, not_true_eq_false, false_or]
      split
      · split
        · exact ih _ _
        · rw [Nat.zero_sub]
          exact ih _ _
      · rfl

theorem iovFromBufLoop_outside {buf : Bytes} {bytes : Nat} {iov : Qiov} {address : Nat}
    (outside : address ∉ iov.addresses) (done : Nat) (memory : Bytes) :
    (iovFromBufLoop buf bytes iov 0 done memory).1 address = memory address := by
  induction iov generalizing done memory with
  | nil => rfl
  | cons segment rest ih =>
      simp only [addresses_cons, List.mem_append, List.mem_range'_1, not_or] at outside
      simp only [iovFromBufLoop, ne_eq, not_true_eq_false, false_or]
      split
      · split
        · rw [ih outside.2]
          exact Region.copy_outside (by omega)
        · rw [Nat.zero_sub]
          exact ih outside.2 _ _
      · rfl

theorem iovFromBufLoop_inside (buf : Bytes) (bytes : Nat) {iov : Qiov} (done : Nat)
    {position address : Nat} (memory : Bytes) (below : done + position < bytes)
    (found : iov.addresses[position]? = some address)
    (last : address ∉ iov.addresses.drop (position + 1)) :
    (iovFromBufLoop buf bytes iov 0 done memory).1 address = buf (done + position) := by
  induction iov generalizing done position memory with
  | nil => simp at found
  | cons segment rest ih =>
      have more : done < bytes := by omega
      simp only [addresses_cons] at found last
      simp only [iovFromBufLoop, ne_eq, not_true_eq_false, false_or, more, if_true, Nat.sub_zero,
        Nat.add_zero]
      by_cases within : position < segment.len
      · -- The position belongs to this segment, and no later segment touches its address.
        rw [List.getElem?_append_left (by simpa using within)] at found
        rw [List.drop_append_of_le_length (by simp; omega)] at last
        obtain ⟨_, rfl⟩ := List.getElem?_eq_some_iff.mp found
        simp only [List.mem_append, not_or, List.getElem_range', Nat.one_mul] at last ⊢
        rw [if_pos (by omega), iovFromBufLoop_outside last.2,
          Region.copy_inside (by omega) (by omega)]
        congr 1
        omega
      · rw [List.getElem?_append_right (by simp; omega)] at found
        rw [List.drop_append, List.drop_eq_nil_of_le (by simp; omega), List.nil_append] at last
        simp only [List.length_range'] at found last
        have again : address ∉ (addresses rest).drop (position - segment.len + 1) := by
          rw [show position - segment.len + 1 = position + 1 - segment.len by omega]
          exact last
        split
        · have whole : min segment.len (bytes - done) = segment.len := by omega
          rw [whole, ih _ _ (by omega) found again]
          congr 1
          omega
        · rename_i empty
          rw [Nat.zero_sub, ih _ _ (by omega) found again]
          congr 1
          omega

/-- Scattering a buffer never fails, fills the vector, and leaves other memory alone. -/
theorem iovFromBuf_spec (iov : Qiov) (buf : Bytes) (bytes : Nat) (memory : Bytes) :
    ∃ filled, iovFromBuf iov 0 buf bytes memory = some filled ∧
      iov.Holds filled buf bytes ∧
      ∀ address, address ∉ iov.addresses → filled address = memory address := by
  have offset := iovFromBufLoop_offset buf bytes iov 0 memory
  refine ⟨(iovFromBufLoop buf bytes iov 0 0 memory).1, ?_, ?_, ?_⟩
  · unfold iovFromBuf
    split
    · rename_i equal
      rw [equal]
    · rename_i equal
      rw [equal] at offset
      simp at offset
  · intro position address below found last
    have filled := iovFromBufLoop_inside buf bytes 0 memory (by omega) found last
    rwa [Nat.zero_add] at filled
  · intro address outside
    exact iovFromBufLoop_outside outside 0 memory

theorem iovToBufLoop_offset (memory : Bytes) (bytes : Nat) (iov : Qiov) (done : Nat)
    (buf : Bytes) : (iovToBufLoop memory bytes iov 0 done buf).2.1 = 0 := by
  induction iov generalizing done buf with
  | nil => rfl
  | cons segment rest ih =>
      simp only [iovToBufLoop, ne_eq, not_true_eq_false, false_or]
      split
      · split
        · exact ih _ _
        · rw [Nat.zero_sub]
          exact ih _ _
      · rfl

theorem iovToBufLoop_full (memory : Bytes) (bytes : Nat) (iov : Qiov) (buf : Bytes) :
    (iovToBufLoop memory bytes iov 0 bytes buf).1 = buf := by
  cases iov <;> simp [iovToBufLoop]

theorem iovToBufLoop_before {memory : Bytes} {bytes : Nat} {iov : Qiov} {done index : Nat}
    {buf : Bytes} (before : index < done) :
    (iovToBufLoop memory bytes iov 0 done buf).1 index = buf index := by
  induction iov generalizing done buf with
  | nil => rfl
  | cons segment rest ih =>
      simp only [iovToBufLoop, ne_eq, not_true_eq_false, false_or]
      split
      · split
        · rw [ih (by omega)]
          exact Region.copy_outside (by omega)
        · rw [Nat.zero_sub]
          exact ih before
      · rfl

theorem iovToBufLoop_inside (memory : Bytes) (bytes : Nat) {iov : Qiov} (done : Nat)
    {position address : Nat} (buf : Bytes) (below : done + position < bytes)
    (found : iov.addresses[position]? = some address) :
    (iovToBufLoop memory bytes iov 0 done buf).1 (done + position) = memory address := by
  induction iov generalizing done position buf with
  | nil => simp at found
  | cons segment rest ih =>
      have more : done < bytes := by omega
      simp only [addresses_cons] at found
      simp only [iovToBufLoop, ne_eq, not_true_eq_false, false_or, more, if_true, Nat.sub_zero,
        Nat.add_zero]
      by_cases within : position < segment.len
      · rw [List.getElem?_append_left (by simpa using within)] at found
        obtain ⟨_, rfl⟩ := List.getElem?_eq_some_iff.mp found
        simp only [List.getElem_range', Nat.one_mul]
        rw [if_pos (by omega), iovToBufLoop_before (by omega), Region.copy_add _ _ _ _ _ (by omega)]
      · rw [List.getElem?_append_right (by simp; omega)] at found
        simp only [List.length_range'] at found
        split
        · have whole : min segment.len (bytes - done) = segment.len := by omega
          have next := ih (done + segment.len)
            (Region.copy buf done (fun index => memory (segment.base + index)) segment.len)
            (by omega) found
          have index : done + position = done + segment.len + (position - segment.len) := by omega
          rw [whole, index]
          exact next
        · have next := ih done buf (by omega) found
          have index : done + position = done + (position - segment.len) := by omega
          rw [Nat.zero_sub, index]
          exact next

theorem iovToBufLoop_behind (memory : Bytes) (bytes : Nat) {iov : Qiov} (done : Nat)
    {position : Nat} (buf : Bytes) (behind : iov.addresses[position]? = none) :
    (iovToBufLoop memory bytes iov 0 done buf).1 (done + position) = buf (done + position) := by
  induction iov generalizing done position buf with
  | nil => rfl
  | cons segment rest ih =>
      simp only [addresses_cons, List.getElem?_eq_none_iff, List.length_append,
        List.length_range'] at behind ih
      simp only [iovToBufLoop, ne_eq, not_true_eq_false, false_or, Nat.sub_zero, Nat.add_zero]
      split
      · rename_i more
        split
        · by_cases whole : segment.len ≤ bytes - done
          · have inner : (addresses rest).length ≤ position - segment.len := by omega
            have next := ih (done + segment.len)
              (Region.copy buf done (fun index => memory (segment.base + index)) segment.len) inner
            have index : done + segment.len + (position - segment.len) = done + position := by omega
            rw [index, Region.copy_outside (by omega)] at next
            rw [Nat.min_eq_left whole]
            exact next
          · -- The buffer ends inside this segment.
            rw [Nat.min_eq_right (by omega), show done + (bytes - done) = bytes by omega]
            rw [iovToBufLoop_full]
            exact Region.copy_outside (by omega)
        · rename_i empty
          rw [Nat.zero_sub]
          exact ih _ _ (by omega)
      · rfl

/-- Gathering never fails, and yields the flattened vector as far as the buffer goes. -/
theorem iovToBuf_spec (iov : Qiov) (buf : Bytes) (bytes : Nat) (memory : Bytes) :
    ∃ gathered, iovToBuf iov 0 buf bytes memory = some gathered ∧
      ∀ position, position < bytes → gathered position = iov.flatten memory buf position := by
  have offset := iovToBufLoop_offset memory bytes iov 0 buf
  refine ⟨(iovToBufLoop memory bytes iov 0 0 buf).1, ?_, ?_⟩
  · unfold iovToBuf
    split
    · rename_i equal
      rw [equal]
    · rename_i equal
      rw [equal] at offset
      simp at offset
  · intro position below
    unfold flatten
    cases found : iov.addresses[position]? with
    | none =>
        have kept := iovToBufLoop_behind memory bytes 0 buf found
        rwa [Nat.zero_add] at kept
    | some address =>
        have read := iovToBufLoop_inside memory bytes 0 buf (by omega) found
        rwa [Nat.zero_add] at read

end Cvbd
