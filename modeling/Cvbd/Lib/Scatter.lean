import Mathlib.Data.List.Nodup
import Mathlib.Logic.Function.Basic
import Cvbd.Lib.Region

/-!
Transfers between an interval and the cells at a list of addresses, in the order
of the list. `scatter` writes to the addresses and `gather` reads from them.
-/

namespace Cvbd.Region

variable {α : Type}

/-- `dst` after `src 0`, `src 1` and so on have been written to the addresses. -/
def scatter (dst : Nat → α) : List Nat → (Nat → α) → Nat → α
  | [], _ => dst
  | address :: rest, src =>
      scatter (Function.update dst address (src 0)) rest fun index => src (index + 1)

/-- `dst` with the cells from `start` on replaced by those at the addresses. -/
def gather (dst : Nat → α) (start : Nat) (addresses : List Nat) (src : Nat → α) : Nat → α :=
  fun index =>
    if index < start then dst index
    else match addresses[index - start]? with
      | some address => src address
      | none => dst index

@[simp] theorem scatter_nil (dst src : Nat → α) : scatter dst [] src = dst := rfl

theorem scatter_append (dst : Nat → α) (first second : List Nat) (src : Nat → α) :
    scatter dst (first ++ second) src =
      scatter (scatter dst first src) second fun index => src (first.length + index) := by
  induction first generalizing dst src with
  | nil => simp
  | cons address rest ih =>
      simp only [List.cons_append, scatter, ih, List.length_cons]
      congr 1
      funext index
      congr 1
      omega

/-- Consecutive addresses are an interval. -/
theorem scatter_range' (dst : Nat → α) (start len : Nat) (src : Nat → α) :
    scatter dst (List.range' start len) src = copy dst start src len := by
  induction len generalizing dst start src with
  | zero => simp
  | succ len ih =>
      rw [List.range'_succ, scatter, ih]
      funext index
      by_cases first : index = start
      · subst first
        rw [copy_outside (by omega), copy_inside (by omega) (by omega)]
        simp
      · by_cases inside : start ≤ index ∧ index < start + (len + 1)
        · rw [copy_inside (by omega) (by omega), copy_inside inside.1 inside.2]
          congr 1
          omega
        · rw [copy_outside (by omega), copy_outside (by omega), Function.update_of_ne first]

theorem scatter_outside {dst : Nat → α} {addresses : List Nat} {src : Nat → α} {address : Nat}
    (outside : address ∉ addresses) : scatter dst addresses src address = dst address := by
  induction addresses generalizing dst src with
  | nil => rfl
  | cons first rest ih =>
      rw [List.mem_cons, not_or] at outside
      rw [scatter, ih outside.2, Function.update_of_ne outside.1]

theorem scatter_inside {dst : Nat → α} {addresses : List Nat} {src : Nat → α}
    {index address : Nat} (nodup : addresses.Nodup) (found : addresses[index]? = some address) :
    scatter dst addresses src address = src index := by
  induction addresses generalizing dst src index with
  | nil => simp at found
  | cons first rest ih =>
      obtain ⟨notAgain, restNodup⟩ := List.nodup_cons.mp nodup
      cases index with
      | zero =>
          obtain rfl : first = address := by simpa using found
          rw [scatter, scatter_outside notAgain, Function.update_self]
      | succ index =>
          rw [scatter]
          exact ih restNodup (by simpa using found)

/-- Writing what is there already changes nothing. -/
theorem scatter_same {dst : Nat → α} {addresses : List Nat} {src : Nat → α}
    (same : ∀ index address, addresses[index]? = some address → src index = dst address) :
    scatter dst addresses src = dst := by
  induction addresses generalizing src with
  | nil => rfl
  | cons first rest ih =>
      have unchanged : Function.update dst first (src 0) = dst := by
        rw [same 0 first rfl]
        exact Function.update_eq_self first dst
      rw [scatter, unchanged]
      exact ih fun index address found => same (index + 1) address (by simpa using found)

@[simp] theorem gather_nil (dst : Nat → α) (start : Nat) (src : Nat → α) :
    gather dst start [] src = dst := by
  funext index
  simp [gather]

theorem gather_inside {dst : Nat → α} {start : Nat} {addresses : List Nat} {src : Nat → α}
    {index address : Nat} (found : addresses[index]? = some address) :
    gather dst start addresses src (start + index) = src address := by
  unfold gather
  rw [if_neg (by omega), Nat.add_sub_cancel_left, found]

theorem gather_zero (dst src : Nat → α) {addresses : List Nat} {index address : Nat}
    (found : addresses[index]? = some address) : gather dst 0 addresses src index = src address := by
  rw [← Nat.zero_add index]
  exact gather_inside found

theorem gather_outside {dst : Nat → α} {start : Nat} {addresses : List Nat} {src : Nat → α}
    {index : Nat} (outside : index < start ∨ start + addresses.length ≤ index) :
    gather dst start addresses src index = dst index := by
  unfold gather
  split
  · rfl
  · rw [List.getElem?_eq_none (by omega)]

theorem gather_append (dst : Nat → α) (start : Nat) (first second : List Nat) (src : Nat → α) :
    gather dst start (first ++ second) src =
      gather (gather dst start first src) (start + first.length) second src := by
  funext index
  by_cases before : index < start
  · rw [gather_outside (Or.inl before), gather_outside (Or.inl (by omega)),
      gather_outside (Or.inl before)]
  · by_cases inFirst : index < start + first.length
    · have found : (first ++ second)[index - start]? = first[index - start]? :=
        List.getElem?_append_left (by omega)
      rw [gather_outside (Or.inl inFirst)]
      simp [gather, found]
    · have found : (first ++ second)[index - start]? = second[index - start - first.length]? :=
        List.getElem?_append_right (by omega)
      have none : first[index - start]? = none := List.getElem?_eq_none (by omega)
      simp [gather, before, inFirst, found, none, Nat.sub_sub]

theorem gather_range' (dst : Nat → α) (start first len : Nat) (src : Nat → α) :
    gather dst start (List.range' first len) src =
      copy dst start (fun index => src (first + index)) len := by
  funext index
  by_cases inside : start ≤ index ∧ index < start + len
  · have found : (List.range' first len)[index - start]? = some (first + (index - start)) := by
      rw [List.getElem?_eq_getElem (by simp; omega)]
      simp
    rw [copy_inside inside.1 inside.2]
    simp [gather, show ¬index < start by omega, found]
  · rw [gather_outside (by simp; omega), copy_outside (by omega)]

end Cvbd.Region
