import Cvbd.OpenTotal
import Cvbd.ServerShutdownTotal

/-! A server with one queue that holds a CLOSE, shut down in two orders. -/

namespace Cvbd

def Request.isClose : Request → Bool
  | .close _ => true
  | _ => false

namespace ServerShutdown

def sampleClose : Envelope (Option Unit) Request :=
  ⟨some (), 1, .close ⟨⟨false, .reqClose, 1, 0, 0⟩⟩⟩

/-- The thread waits inside `receive`. -/
def sampleStart : ServerShutdown Unit where
  exchange := {
    world := IOHandler.sampleWorld
    requestMq := fun index => if index = 0 then [sampleClose] else []
    thread := fun _ => .idle
    replyMq := fun _ => []
    fault := none
    owner := fun _ => none }
  queues := 1
  live := fun _ => true
  receiving := fun index => index == 0
  destructor := .outside
  misuse := none
  arrived := fun index => if index = 0 then [sampleClose.body] else []
  handled := fun _ => []

theorem sampleStart_start : sampleStart.Start where
  live := fun _ => rfl
  running := by simp [sampleStart]
  hand := by simp [sampleStart]
  destructor := rfl
  misuse := rfl
  arrived := by
    intro index
    by_cases same : index = 0 <;> simp [sampleStart, same, inHand]
  handled := fun _ => rfl

def valid (state : ServerShutdown Unit) : ShutdownLabel Unit → Bool
  | .server (.handle index kernel) =>
      match state.exchange.thread index, kernel.open1, kernel.open2 with
      | .hand request, .error _, .error _ => request.body.isClose
      | _, _, _ => false
  | .push _ _ => false
  | _ => true

theorem valid_sound {state : ServerShutdown Unit} {label : ShutdownLabel Unit}
    (passes : valid state label = true) : state.Valid label := by
  cases label with
  | server label =>
      cases label with
      | handle index kernel =>
          intro request hand
          simp only [valid, hand] at passes
          split at passes
          · rename_i request' _ _ inHand open1 open2
            obtain rfl := Thread.hand.inj inHand
            refine ⟨by simp [open1], by simp [open2], ?_, ?_, ?_⟩
            · intro req body
              simp [Request.isClose, body] at passes
            · intro req volume count body
              simp [Request.isClose, body] at passes
            · intro req count body
              simp [Request.isClose, body] at passes
          · simp at passes
      | receive index => trivial
      | send index => trivial
      | close index => trivial
  | push index request => simp [valid] at passes
  | destruct => trivial
  | send => trivial
  | reset => trivial
  | remove => trivial
  | join => trivial
  | enter index => trivial

def awaits (state : ServerShutdown Unit) : ShutdownLabel Unit → Bool
  | .reset =>
      match state.destructor with
      | .resetting index =>
          match state.exchange.thread index with
          | .stopped => true
          | _ => false
      | _ => true
  | _ => true

theorem awaits_sound {state : ServerShutdown Unit} {label : ShutdownLabel Unit}
    (passes : awaits state label = true) : state.Awaits label := by
  cases label with
  | reset =>
      intro index resetting
      simp only [awaits, resetting] at passes
      split at passes
      · assumption
      · simp at passes
  | push index request => trivial
  | destruct => trivial
  | send => trivial
  | remove => trivial
  | join => trivial
  | enter index => trivial
  | server label => trivial

/-- The thread takes the CLOSE and the stop message before the queue is released. -/
def samplePatient : List (ShutdownLabel Unit) :=
  let kernel := IOHandler.sampleKernel (.error enoent) (.error enoent)
  [.server (.receive 0), .destruct, .send, .server (.handle 0 kernel), .enter 0,
    .server (.receive 0), .reset, .remove, .join]

def isFinished (state : ServerShutdown Unit) : Bool :=
  match state.destructor with
  | .finished => true
  | _ => false

/-- The queue is released while the thread handles the CLOSE; the stop message is in it. -/
def sampleHasty : List (ShutdownLabel Unit) :=
  let kernel := IOHandler.sampleKernel (.error enoent) (.error enoent)
  [.server (.receive 0), .destruct, .send, .reset, .server (.handle 0 kernel), .enter 0]

end ServerShutdown

end Cvbd
