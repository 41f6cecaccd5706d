import Cvbd.Iov
import Cvbd.Lib.Scatter

/-!
`iov_from_buf` and `iov_to_buf` with their return values, and with `size_t`
subtractions that are checked: both transfer one slice of the flattened vector.
-/

namespace Cvbd

/-- `left - right` in `size_t`, unless it wraps around. -/
def sizeSub (left right : Nat) : Option Nat :=
  if right ≤ left then some (left - right) else none

inductive IovFault
  | underflow
  | assertion
  deriving DecidableEq, Repr

def iovFromBufLoopChecked (buf : Bytes) (bytes : Nat) :
    Qiov → Nat → Nat → Bytes → Option (Bytes × Nat × Nat)
  | [], offset, done, memory => some (memory, offset, done)
  | segment :: rest, offset, done, memory =>
      if offset ≠ 0 ∨ done < bytes then
        if offset < segment.len then
          match sizeSub segment.len offset, sizeSub bytes done with
          | some left, some wanted =>
              let len := min left wanted
              iovFromBufLoopChecked buf bytes rest 0 (done + len)
                (Region.copy memory (segment.base + offset) (fun index => buf (done + index)) len)
          | _, _ => none
        else
          match sizeSub offset segment.len with
          | some offset => iovFromBufLoopChecked buf bytes rest offset done memory
          | none => none
      else some (memory, offset, done)

def iovToBufLoopChecked (memory : Bytes) (bytes : Nat) :
    Qiov → Nat → Nat → Bytes → Option (Bytes × Nat × Nat)
  | [], offset, done, buf => some (buf, offset, done)
  | segment :: rest, offset, done, buf =>
      if offset ≠ 0 ∨ done < bytes then
        if offset < segment.len then
          match sizeSub segment.len offset, sizeSub bytes done with
          | some left, some wanted =>
              let len := min left wanted
              iovToBufLoopChecked memory bytes rest 0 (done + len)
                (Region.copy buf done (fun index => memory (segment.base + offset + index)) len)
          | _, _ => none
        else
          match sizeSub offset segment.len with
          | some offset => iovToBufLoopChecked memory bytes rest offset done buf
          | none => none
      else some (buf, offset, done)

/-- The final assert, and the return value. -/
def iovReturn : Option (Bytes × Nat × Nat) → Except IovFault (Bytes × Nat)
  | none => .error .underflow
  | some (bytes, 0, done) => .ok (bytes, done)
  | some (_, _ + 1, _) => .error .assertion

def iovFromBufChecked (iov : Qiov) (offset : Nat) (buf : Bytes) (bytes : Nat) (memory : Bytes) :
    Except IovFault (Bytes × Nat) :=
  iovReturn (iovFromBufLoopChecked buf bytes iov offset 0 memory)

def iovToBufChecked (iov : Qiov) (offset : Nat) (buf : Bytes) (bytes : Nat) (memory : Bytes) :
    Except IovFault (Bytes × Nat) :=
  iovReturn (iovToBufLoopChecked memory bytes iov offset 0 buf)

/-! No subtraction wraps around. -/

theorem sizeSub_of_le {left right : Nat} (below : right ≤ left) :
    sizeSub left right = some (left - right) := if_pos below

theorem iovFromBufLoopChecked_eq (buf : Bytes) {bytes : Nat} (iov : Qiov) (offset : Nat) {done : Nat}
    (memory : Bytes) (within : done ≤ bytes) :
    iovFromBufLoopChecked buf bytes iov offset done memory =
      some (iovFromBufLoop buf bytes iov offset done memory) := by
  induction iov generalizing offset done memory with
  | nil => rfl
  | cons segment rest ih =>
      simp only [iovFromBufLoopChecked, iovFromBufLoop]
      split
      · split
        · rename_i inside
          rw [sizeSub_of_le inside.le, sizeSub_of_le within]
          exact ih 0 _ (by omega)
        · rename_i beyond
          rw [sizeSub_of_le (by omega : segment.len ≤ offset)]
          exact ih _ memory within
      · rfl

theorem iovToBufLoopChecked_eq (memory : Bytes) {bytes : Nat} (iov : Qiov) (offset : Nat) {done : Nat}
    (buf : Bytes) (within : done ≤ bytes) :
    iovToBufLoopChecked memory bytes iov offset done buf =
      some (iovToBufLoop memory bytes iov offset done buf) := by
  induction iov generalizing offset done buf with
  | nil => rfl
  | cons segment rest ih =>
      simp only [iovToBufLoopChecked, iovToBufLoop]
      split
      · split
        · rename_i inside
          rw [sizeSub_of_le inside.le, sizeSub_of_le within]
          exact ih 0 _ (by omega)
        · rename_i beyond
          rw [sizeSub_of_le (by omega : segment.len ≤ offset)]
          exact ih _ buf within
      · rfl

/-! What the loops transfer. -/

namespace Qiov

/-- The addresses of `count` positions from `offset` on, as far as the vector goes. -/
def slice (iov : Qiov) (offset count : Nat) : List Nat :=
  (iov.addresses.drop offset).take count

theorem length_slice (iov : Qiov) (offset count : Nat) :
    (iov.slice offset count).length = min count (iov.total - offset) := by
  simp [slice, total]

theorem slice_getElem? (iov : Qiov) {offset count index : Nat} (below : index < count) :
    (iov.slice offset count)[index]? = iov.addresses[offset + index]? := by
  simp [slice, below]

@[simp] theorem slice_zero (iov : Qiov) (offset : Nat) : iov.slice offset 0 = [] := by
  simp [slice]

theorem slice_nil (offset count : Nat) : slice [] offset count = [] := by
  simp [slice]

@[simp] theorem total_cons (segment : Segment) (rest : Qiov) :
    total (segment :: rest) = segment.len + total rest := by
  simp [total]

theorem slice_cons_inside {segment : Segment} {rest : Qiov} {offset count : Nat}
    (inside : offset < segment.len) :
    slice (segment :: rest) offset count =
      List.range' (segment.base + offset) (min (segment.len - offset) count) ++
        slice rest 0 (count - min (segment.len - offset) count) := by
  have remaining : count - (segment.len - offset) = count - min (segment.len - offset) count := by
    omega
  unfold slice
  rw [addresses_cons, List.drop_append, List.take_append, List.drop_range', List.length_range',
    List.length_range', Nat.mul_one, Nat.sub_eq_zero_of_le inside.le, remaining]
  congr 1
  by_cases short : segment.len - offset ≤ count
  · rw [List.take_range'_of_length_le short, Nat.min_eq_left short]
  · rw [List.take_range'_of_length_ge (by omega), Nat.min_eq_right (by omega)]

theorem slice_cons_behind {segment : Segment} {rest : Qiov} {offset count : Nat}
    (behind : segment.len ≤ offset) :
    slice (segment :: rest) offset count = slice rest (offset - segment.len) count := by
  unfold slice
  rw [addresses_cons, List.drop_append, List.length_range',
    List.drop_eq_nil_of_le (by simpa using behind), List.nil_append]

/-! What is left of the offset and how much is copied, when the first segment is copied from or
skipped. -/

theorem offset_cons_inside {segment : Segment} (rest : Qiov) {offset : Nat}
    (inside : offset < segment.len) : 0 - rest.total = offset - total (segment :: rest) := by
  rw [total_cons]
  omega

theorem offset_cons_behind (segment : Segment) (rest : Qiov) (offset : Nat) :
    offset - segment.len - rest.total = offset - total (segment :: rest) := by
  rw [total_cons, Nat.sub_add_eq]

theorem copied_cons_inside {segment : Segment} (rest : Qiov) {offset : Nat} (bytes done : Nat)
    (inside : offset < segment.len) :
    done + min (segment.len - offset) (bytes - done) +
      min (bytes - (done + min (segment.len - offset) (bytes - done))) (rest.total - 0) =
        done + min (bytes - done) (total (segment :: rest) - offset) := by
  rw [total_cons]
  omega

theorem copied_cons_behind {segment : Segment} (rest : Qiov) {offset : Nat} (bytes done : Nat)
    (behind : segment.len ≤ offset) :
    done + min (bytes - done) (rest.total - (offset - segment.len)) =
      done + min (bytes - done) (total (segment :: rest) - offset) := by
  rw [total_cons]
  omega

theorem slice_nodup {iov : Qiov} (disjoint : iov.addresses.Nodup) (offset count : Nat) :
    (iov.slice offset count).Nodup :=
  ((iov.addresses.drop offset).take_sublist count).nodup
    ((iov.addresses.drop_sublist offset).nodup disjoint)

end Qiov

open Qiov

theorem iovFromBufLoop_eq (buf : Bytes) {bytes : Nat} (iov : Qiov) (offset : Nat) {done : Nat}
    (memory : Bytes) (within : done ≤ bytes) :
    iovFromBufLoop buf bytes iov offset done memory =
      (Region.scatter memory (iov.slice offset (bytes - done)) (fun index => buf (done + index)),
        offset - iov.total, done + min (bytes - done) (iov.total - offset)) := by
  induction iov generalizing offset done memory with
  | nil => simp [iovFromBufLoop, slice_nil, total]
  | cons segment rest ih =>
      simp only [iovFromBufLoop]
      by_cases more : offset ≠ 0 ∨ done < bytes
      · rw [if_pos more]
        by_cases inside : offset < segment.len
        · -- The copy, from here on at offset 0.
          rw [if_pos inside, ih 0 _ (by omega), offset_cons_inside rest inside,
            copied_cons_inside rest bytes done inside, slice_cons_inside inside,
            Region.scatter_append, Region.scatter_range']
          simp only [List.length_range', Nat.sub_add_eq, Nat.add_assoc]
        · -- The segment is skipped.
          have behind : segment.len ≤ offset := by omega
          rw [if_neg inside, ih _ _ within, offset_cons_behind,
            copied_cons_behind rest bytes done behind, slice_cons_behind behind]
      · obtain ⟨rfl, full⟩ : offset = 0 ∧ bytes ≤ done := by omega
        rw [if_neg more, Nat.sub_eq_zero_of_le full]
        simp

theorem iovToBufLoop_eq (memory : Bytes) {bytes : Nat} (iov : Qiov) (offset : Nat) {done : Nat}
    (buf : Bytes) (within : done ≤ bytes) :
    iovToBufLoop memory bytes iov offset done buf =
      (Region.gather buf done (iov.slice offset (bytes - done)) memory,
        offset - iov.total, done + min (bytes - done) (iov.total - offset)) := by
  induction iov generalizing offset done buf with
  | nil => simp [iovToBufLoop, slice_nil, total]
  | cons segment rest ih =>
      simp only [iovToBufLoop]
      by_cases more : offset ≠ 0 ∨ done < bytes
      · rw [if_pos more]
        by_cases inside : offset < segment.len
        · rw [if_pos inside, ih 0 _ (by omega), offset_cons_inside rest inside,
            copied_cons_inside rest bytes done inside, slice_cons_inside inside,
            Region.gather_append, Region.gather_range']
          simp only [List.length_range', Nat.sub_add_eq]
        · have behind : segment.len ≤ offset := by omega
          rw [if_neg inside, ih _ _ within, offset_cons_behind,
            copied_cons_behind rest bytes done behind, slice_cons_behind behind]
      · obtain ⟨rfl, full⟩ : offset = 0 ∧ bytes ≤ done := by omega
        rw [if_neg more, Nat.sub_eq_zero_of_le full]
        simp

/-! The two functions. -/

theorem iovFromBufChecked_eq (iov : Qiov) (offset : Nat) (buf : Bytes) (bytes : Nat)
    (memory : Bytes) : iovFromBufChecked iov offset buf bytes memory =
      if offset ≤ iov.total then .ok (Region.scatter memory (iov.slice offset bytes) buf,
        min bytes (iov.total - offset))
      else .error .assertion := by
  have loop := iovFromBufLoop_eq buf iov offset memory (Nat.zero_le bytes)
  simp only [Nat.sub_zero, Nat.zero_add] at loop
  unfold iovFromBufChecked
  rw [iovFromBufLoopChecked_eq buf iov offset memory (Nat.zero_le bytes), loop]
  by_cases within : offset ≤ iov.total
  · rw [if_pos within, Nat.sub_eq_zero_of_le within]
    rfl
  · obtain ⟨rest, beyond⟩ := Nat.exists_eq_succ_of_ne_zero (by omega : offset - iov.total ≠ 0)
    rw [if_neg within, beyond]
    rfl

theorem iovToBufChecked_eq (iov : Qiov) (offset : Nat) (buf : Bytes) (bytes : Nat)
    (memory : Bytes) : iovToBufChecked iov offset buf bytes memory =
      if offset ≤ iov.total then .ok (Region.gather buf 0 (iov.slice offset bytes) memory,
        min bytes (iov.total - offset))
      else .error .assertion := by
  have loop := iovToBufLoop_eq memory iov offset buf (Nat.zero_le bytes)
  simp only [Nat.sub_zero, Nat.zero_add] at loop
  unfold iovToBufChecked
  rw [iovToBufLoopChecked_eq memory iov offset buf (Nat.zero_le bytes), loop]
  by_cases within : offset ≤ iov.total
  · rw [if_pos within, Nat.sub_eq_zero_of_le within]
    rfl
  · obtain ⟨rest, beyond⟩ := Nat.exists_eq_succ_of_ne_zero (by omega : offset - iov.total ≠ 0)
    rw [if_neg within, beyond]
    rfl

/-- Both functions transfer `min bytes (T - offset)` bytes of the flattened vector, whose length is
`T`, and are inverse to each other. -/
structure Qiov.Exact (iov : Qiov) (offset : Nat) (buf : Bytes) (bytes : Nat) (memory : Bytes) :
    Prop where
  toBufFails : iovToBufChecked iov offset buf bytes memory = .error .assertion ↔ iov.total < offset
  fromBufFails : iovFromBufChecked iov offset buf bytes memory = .error .assertion ↔
    iov.total < offset
  toBuf : offset ≤ iov.total → ∃ gathered,
    iovToBufChecked iov offset buf bytes memory =
      .ok (gathered, min bytes (iov.total - offset)) ∧
    ∀ index, gathered index = if index < min bytes (iov.total - offset)
      then iov.flatten memory buf (offset + index) else buf index
  fromBuf : offset ≤ iov.total → ∃ scattered,
    iovFromBufChecked iov offset buf bytes memory =
      .ok (scattered, min bytes (iov.total - offset)) ∧
    (∀ index, index < min bytes (iov.total - offset) →
      iov.flatten scattered buf (offset + index) = buf index) ∧
    ∀ address, address ∉ iov.slice offset bytes → scattered address = memory address
  fromTo : ∀ scattered count other,
    iovFromBufChecked iov offset buf bytes memory = .ok (scattered, count) →
    ∃ gathered, iovToBufChecked iov offset other bytes scattered = .ok (gathered, count) ∧
      ∀ index, index < count → gathered index = buf index
  toFrom : ∀ gathered count,
    iovToBufChecked iov offset buf bytes memory = .ok (gathered, count) →
    iovFromBufChecked iov offset gathered bytes memory = .ok (memory, count)

namespace Qiov

variable {iov : Qiov} {offset bytes index : Nat}

theorem slice_found (below : index < min bytes (iov.total - offset)) :
    ∃ address, (iov.slice offset bytes)[index]? = some address ∧
      iov.addresses[offset + index]? = some address := by
  have inSlice : index < (iov.slice offset bytes).length := by
    rw [length_slice]
    exact below
  have found := List.getElem?_eq_getElem inSlice
  refine ⟨_, found, ?_⟩
  rw [← slice_getElem? iov (by omega : index < bytes)]
  exact found

theorem flatten_found {memory old : Bytes} {address : Nat}
    (found : iov.addresses[index]? = some address) : iov.flatten memory old index = memory address := by
  simp [flatten, found]

theorem gather_scatter (disjoint : iov.addresses.Nodup) (memory buf other : Bytes)
    (below : index < min bytes (iov.total - offset)) :
    Region.gather other 0 (iov.slice offset bytes)
      (Region.scatter memory (iov.slice offset bytes) buf) index = buf index := by
  obtain ⟨address, found, _⟩ := slice_found below
  rw [Region.gather_zero other _ found]
  exact Region.scatter_inside (slice_nodup disjoint offset bytes) found

end Qiov

/-- Scatter and gather are exact and inverse. -/
theorem Qiov.scatterGather (iov : Qiov) (disjoint : iov.addresses.Nodup) (offset : Nat) (buf : Bytes)
    (bytes : Nat) (memory : Bytes) : iov.Exact offset buf bytes memory where
  toBufFails := by
    rw [iovToBufChecked_eq]
    split
    · simp
      omega
    · simp
      omega
  fromBufFails := by
    rw [iovFromBufChecked_eq]
    split
    · simp
      omega
    · simp
      omega
  toBuf := by
    intro within
    refine ⟨_, by rw [iovToBufChecked_eq, if_pos within], fun index => ?_⟩
    split
    · rename_i below
      obtain ⟨address, found, flat⟩ := slice_found below
      rw [flatten_found flat]
      exact Region.gather_zero buf memory found
    · exact Region.gather_outside (by rw [length_slice]; omega)
  fromBuf := by
    intro within
    refine ⟨_, by rw [iovFromBufChecked_eq, if_pos within], ?_, ?_⟩
    · intro index below
      obtain ⟨address, found, flat⟩ := slice_found below
      rw [flatten_found flat]
      exact Region.scatter_inside (slice_nodup disjoint offset bytes) found
    · exact fun address outside => Region.scatter_outside outside
  fromTo := by
    intro scattered count other scatters
    rw [iovFromBufChecked_eq] at scatters
    split at scatters
    · rename_i within
      obtain ⟨rfl, rfl⟩ := Prod.mk.inj (Except.ok.inj scatters)
      refine ⟨_, by rw [iovToBufChecked_eq, if_pos within], fun index below => ?_⟩
      exact gather_scatter disjoint memory buf other below
    · simp at scatters
  toFrom := by
    intro gathered count gathers
    rw [iovToBufChecked_eq] at gathers
    split at gathers
    · rename_i within
      obtain ⟨rfl, rfl⟩ := Prod.mk.inj (Except.ok.inj gathers)
      rw [iovFromBufChecked_eq, if_pos within, Region.scatter_same]
      intro index address found
      exact Region.gather_zero buf memory found
    · simp at gathers

/-- Three segments, one of them empty, an offset at the end of the first and a count beyond the
last. -/
theorem Qiov.sample_scatterGather :
    Qiov.Exact [⟨100, 4⟩, ⟨300, 0⟩, ⟨200, 3⟩] 4 (fun _ => 7) 9 (fun _ => 0) :=
  Qiov.scatterGather [⟨100, 4⟩, ⟨300, 0⟩, ⟨200, 3⟩] (by decide) 4 (fun _ => 7) 9 fun _ => 0

end Cvbd
