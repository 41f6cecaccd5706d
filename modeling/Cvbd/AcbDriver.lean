import Cvbd.AcbTotal
import Cvbd.AsyncDriver

/-! A write that returns and frees its control block, and a misaligned read that keeps it. -/

namespace Cvbd

namespace AsyncState

def allocates (state : AsyncState Unit Unit) : AsyncLabel Unit Unit → Bool
  | .client client (.inside (.call _ address _)) =>
      ((state.clients client).heap address).isNone
  | _ => true

theorem allocates_sound (state : AsyncState Unit Unit) (label : AsyncLabel Unit Unit)
    (passes : allocates state label = true) : state.Allocates label := by
  cases label with
  | client client label =>
      cases label with
      | inside label =>
          cases label with
          | call what address fresh => simpa [allocates, Allocates] using passes
          | sendFails => trivial
          | callback => trivial
          | yield => trivial
          | bottomHalf acb => trivial
          | resume => trivial
          | copy => trivial
          | finish => trivial
          | guest memory => trivial
      | send => trivial
      | receive => trivial
  | server label => trivial

theorem sample_unused : sample.Unused := ⟨fun _ _ => rfl, fun _ _ => rfl⟩

/-- The first call has returned, and its block is free. -/
def returnedFree (trace : List (Unit × AcbEvent)) (state : AsyncState Unit Unit) : Bool :=
  ((state.clients ()).coroutines 0).any (fun coroutine => coroutine.pc.isReturned) &&
    ((state.clients ()).heap 64).isNone && trace.any fun event => event.2.frees 0

theorem sample_balanced_iff : ∃ trace state,
    (acbMachine fun _ => .sample).Run Allocates sample trace state ∧
      returnedFree trace state = true ∧
      ((state.clients ()).AcbBalance (acbTrace () trace) ↔
        ∀ call coroutine, (state.clients ()).coroutines call = some coroutine →
          coroutine.call.aligned = true) := by
  obtain ⟨trace, state, run, test⟩ := Machine.Run.of_exec (acbMachine fun _ => .sample) sample
    allocates allocates_sound sampleWrite returnedFree (by decide +kernel)
  exact ⟨trace, state, run, test, sample_unused.balanced_iff run ()⟩

/-- A read of sector 1 is refused. -/
def sampleMisaligned : List (AsyncLabel Unit Unit) :=
  [.client () (.inside (.call (.readv 1 1 []) 64 ⟨0, 0, 0, none, false, false⟩))]

/-- The first call has returned, and nothing has been freed. -/
def returnedHeld (trace : List (Unit × AcbEvent)) (state : AsyncState Unit Unit) : Bool :=
  ((state.clients ()).coroutines 0).any (fun coroutine => coroutine.pc.isReturned) &&
    (acbTrace () trace).all fun event => !event.frees 0

theorem misaligned_unbalanced : ¬∀ trace state,
    (acbMachine fun _ => .sample).Run Allocates sample trace state →
      (state.clients ()).AcbBalance (acbTrace () trace) := by
  intro balanced
  obtain ⟨trace, state, run, test⟩ := Machine.Run.of_exec (acbMachine fun _ => .sample) sample
    allocates allocates_sound sampleMisaligned returnedHeld (by decide +kernel)
  simp only [returnedHeld, Bool.and_eq_true] at test
  obtain ⟨coroutine, found, returned⟩ := (Option.any_eq_true _ _).mp test.1
  have once := (balanced trace state run).freed 0 coroutine found
  have never : (acbTrace () trace).filter (AcbEvent.frees 0) = [] := by
    rw [List.filter_eq_nil_iff]
    intro event member
    simpa using List.all_eq_true.mp test.2 event member
  rw [never, returned] at once
  simp at once

end AsyncState

end Cvbd
