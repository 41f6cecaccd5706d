import Cvbd.OutageTotal
import Cvbd.RecoveryDriver

/-! A write and a flush by the asynchronous driver, a power failure, and a READ after another OPEN. -/

namespace Cvbd

theorem File.size_applyAll {Client : Type} (requests : List (Envelope Client Request))
    (content : File) : content.size ≤ (content.applyAll requests).size := by
  induction requests generalizing content with
  | nil => exact Nat.le_refl _
  | cons request rest ih =>
      rw [applyAll_cons]
      refine Nat.le_trans ?_ (ih _)
      cases request.body with
      | write req =>
          simp only [Request.apply, File.pwrite]
          split <;> omega
      | read req => exact Nat.le_refl _
      | openVolume req => exact Nat.le_refl _
      | close req => exact Nat.le_refl _
      | getsize req => exact Nat.le_refl _
      | fsync req => exact Nat.le_refl _
      | stop header => exact Nat.le_refl _
      | unknown header => exact Nat.le_refl _

namespace AsyncState

def sampleFlushed (state : AsyncState Unit Unit) : Bool :=
  match (state.clients ()).coroutines 1 with
  | some ⟨.flush, _, _, .returned 0⟩ => decide ((state.clients ()).next = 2)
  | _ => false

end AsyncState

end Cvbd
