import Cvbd.ExchangeCore
import Cvbd.Lib.Machine

/-!
`~SharedMemServer` beside the handler threads and the clients. The destructor
goes over the request queues once (`try_send` of the stop message, `reset` of
the `unique_ptr`, `remove` of the name) and then joins the threads. A thread is
inside `receive` or calls it next; a client has a mapping of its own and may
send at any time. What `reset` leaves to a thread is a null pointer, or a
destroyed queue when the thread is inside `receive` already.
-/

namespace Cvbd

/-- The statement of `~SharedMemServer` that comes next, with the position of the iterator. -/
inductive ServerDestructor
  | outside
  | sending (index : Nat)
  | resetting (index : Nat)
  | removing (index : Nat)
  | joining (index : Nat)
  | finished

inductive QueueMisuse
  | nullQueue
  | destroyedQueue

/-- The destructor is no client, so its messages have no sender. -/
structure ServerShutdown (Client : Type) where
  exchange : Exchange Nat (Option Client)
  queues : Nat
  /-- The `unique_ptr` in `request_mqs_` still holds the queue. -/
  live : Nat → Bool
  /-- The thread is inside `receive`. -/
  receiving : Nat → Bool
  destructor : ServerDestructor
  misuse : Option QueueMisuse
  /-- History: the requests in the order of the queue, and those that were handled. -/
  arrived : Nat → List Request
  handled : Nat → List Request

inductive ShutdownLabel (Client : Type)
  | destruct
  | send
  | reset
  | remove
  | join
  | enter (index : Nat)
  | server (label : ServerLabel Nat)
  | push (index : Nat) (request : Envelope (Option Client) Request)

/-- `getStopRequest<Header>()`. -/
def stopRequest : Request := .stop ⟨true, .reqUnknow, 0, 0, 0⟩

def ServerLabel.index {Index : Type} : ServerLabel Index → Index
  | .receive index => index
  | .handle index _ => index
  | .send index => index
  | .close index => index

namespace ServerShutdown

variable {Client : Type}

/-- The head of the loop over `request_threads_`. -/
def nextJoin (state : ServerShutdown Client) (index : Nat) : ServerDestructor :=
  if index < state.queues then .joining index else .finished

/-- The head of the loop over `request_mqs_`. -/
def nextQueue (state : ServerShutdown Client) (index : Nat) : ServerDestructor :=
  if index < state.queues then .sending index else state.nextJoin 0

def push (state : ServerShutdown Client) (index : Nat)
    (request : Envelope (Option Client) Request) : Option (ServerShutdown Client) :=
  (state.exchange.pushRequest index request).map fun exchange =>
    { state with
      exchange
      arrived := Function.update state.arrived index (state.arrived index ++ [request.body]) }

def destruct (state : ServerShutdown Client) : Option (ServerShutdown Client) :=
  match state.destructor with
  | .outside => some { state with destructor := state.nextQueue 0 }
  | _ => none

/-- A failed `try_send` is only logged. -/
def send (state : ServerShutdown Client) : Option (ServerShutdown Client) :=
  match state.destructor with
  | .sending index =>
      match state.push index ⟨none, 0, stopRequest⟩ with
      | some sent => some { sent with destructor := .resetting index }
      | none => some { state with destructor := .resetting index }
  | _ => none

def reset (state : ServerShutdown Client) : Option (ServerShutdown Client) :=
  match state.destructor with
  | .resetting index =>
      some { state with
        live := Function.update state.live index false
        destructor := .removing index }
  | _ => none

/-- Whether `message_queue::remove` succeeds or not, the loop goes on. -/
def remove (state : ServerShutdown Client) : Option (ServerShutdown Client) :=
  match state.destructor with
  | .removing index => some { state with destructor := state.nextQueue (index + 1) }
  | _ => none

def join (state : ServerShutdown Client) : Option (ServerShutdown Client) :=
  match state.destructor with
  | .joining index =>
      match state.exchange.thread index with
      | .stopped => some { state with destructor := state.nextJoin (index + 1) }
      | _ => none
  | _ => none

/-- A thread calls `request_mqs_.at(index)->receive`. -/
def enter (state : ServerShutdown Client) (index : Nat) : Option (ServerShutdown Client) :=
  match state.exchange.thread index, state.receiving index with
  | .idle, false =>
      if state.live index then
        some { state with receiving := Function.update state.receiving index true }
      else some { state with misuse := some .nullQueue }
  | _, _ => none

/-- A thread inside `receive` takes the oldest request, if the queue is still there. -/
def receive (state : ServerShutdown Client) (index : Nat) : Option (ServerShutdown Client) :=
  match state.exchange.thread index, state.receiving index with
  | .idle, true =>
      if state.live index then
        (state.exchange.serverStep (.receive index)).map fun exchange =>
          { state with exchange, receiving := Function.update state.receiving index false }
      else some { state with misuse := some .destroyedQueue }
  | _, _ => none

/-- A thread calls the handler for the request in its buffer; an abort does not return. -/
def handle (state : ServerShutdown Client) (index : Nat) (kernel : Kernel) :
    Option (ServerShutdown Client) :=
  match state.exchange.thread index with
  | .hand request =>
      (state.exchange.serverStep (.handle index kernel)).map fun exchange =>
        if exchange.fault.isSome then { state with exchange }
        else { state with
          exchange
          handled := Function.update state.handled index (state.handled index ++ [request.body]) }
  | _ => none

def serve (state : ServerShutdown Client) : ServerLabel Nat → Option (ServerShutdown Client)
  | .receive index => state.receive index
  | .handle index kernel => state.handle index kernel
  | label => (state.exchange.serverStep label).map fun exchange => { state with exchange }

/-- The server process has come to an end: by an abort, or by a use of a queue that is gone. -/
def down (state : ServerShutdown Client) : Bool :=
  state.exchange.fault.isSome || state.misuse.isSome

def step (state : ServerShutdown Client) (label : ShutdownLabel Client) :
    Option (ServerShutdown Client) :=
  match label with
  | .push index request => if index < state.queues then state.push index request else none
  | .destruct => if state.down then none else state.destruct
  | .send => if state.down then none else state.send
  | .reset => if state.down then none else state.reset
  | .remove => if state.down then none else state.remove
  | .join => if state.down then none else state.join
  | .enter index => if state.down ∨ state.queues ≤ index then none else state.enter index
  | .server label => if state.down ∨ state.queues ≤ label.index then none else state.serve label

def machine (Client : Type) : Machine (ServerShutdown Client) (ShutdownLabel Client) Empty where
  step := fun state label => (state.step label).map fun after => (after, [])

/-- The request in the buffer of a thread. -/
def inHand : Thread (Option Client) → List Request
  | .hand request => [request.body]
  | _ => []

/-- The moment before `~SharedMemServer` starts: threads and queues are in any state. -/
structure Start (state : ServerShutdown Client) : Prop where
  live : ∀ index, state.live index = true
  running : ∀ index, state.exchange.thread index ≠ .stopped
  hand : ∀ index request header, state.exchange.thread index = .hand request →
    request.body ≠ .stop header
  destructor : state.destructor = .outside
  misuse : state.misuse = none
  arrived : ∀ index, state.arrived index =
    inHand (state.exchange.thread index) ++ (state.exchange.requestMq index).map Envelope.body
  handled : ∀ index, state.handled index = []

/-- The kernel answers as POSIX allows, and clients send no stop message. -/
def Valid (state : ServerShutdown Client) : ShutdownLabel Client → Prop
  | .server label => state.exchange.ValidLabel label
  | .push _ request => ∀ header, request.body ≠ .stop header
  | _ => True

/-- A queue is reset when its thread has ended. -/
def Awaits (state : ServerShutdown Client) : ShutdownLabel Client → Prop
  | .reset => ∀ index, state.destructor = .resetting index → state.exchange.thread index = .stopped
  | _ => True

/-- What a clean shutdown keeps at every moment. -/
structure Clean (state : ServerShutdown Client) : Prop where
  noMisuse : state.misuse = none
  ended : ∀ index, state.exchange.thread index = .stopped → ∃ header later,
    state.arrived index = state.handled index ++ .stop header :: later ∧
      ∀ request ∈ state.handled index, ∀ other, request ≠ .stop other
  joinable : ∀ index, state.destructor = .joining index →
    state.exchange.thread index = .stopped ∨
      ∃ envelope ∈ state.exchange.requestMq index, ∃ header, envelope.body = .stop header

end ServerShutdown

end Cvbd
