import Cvbd.ServerCore

/-!
The message queues and the server threads that work on them. A thread receives
a request, handles it, sends the reply and, after a failed OPEN, closes the
`VolumeState`; these are separate steps, so clients and other threads may act in
between. An abort of the server ends all its threads.

Envelopes name the client and the call a message belongs to. They are history
variables, as is `owner`: no step reads them.
-/

namespace Cvbd

structure Envelope (Client Body : Type) where
  sender : Client
  call : Nat
  body : Body

inductive Thread (Client : Type)
  | idle
  | hand (request : Envelope Client Request)
  | sending (mq : Nat) (reply : Envelope Client Reply) (closing : Option UInt64)
  | closing (volume : UInt64)
  | stopped

structure Exchange (Index Client : Type) where
  world : World
  requestMq : Index → List (Envelope Client Request)
  thread : Index → Thread Client
  replyMq : Nat → List (Envelope Client Reply)
  fault : Option Fault
  /-- The client whose OPEN created the `VolumeState` last allocated at an address. -/
  owner : UInt64 → Option Client

/-- One step of the thread that serves queue `index`. -/
inductive ServerLabel (Index : Type)
  | receive (index : Index)
  | handle (index : Index) (kernel : Kernel)
  | send (index : Index)
  | close (index : Index)

namespace Exchange

variable {Index Client : Type} [DecidableEq Index]

def setThread (exchange : Exchange Index Client) (index : Index) (thread : Thread Client) :
    Exchange Index Client :=
  { exchange with thread := Function.update exchange.thread index thread }

/-- `message_queue::send` of a client; it blocks while the queue is full. -/
def pushRequest (exchange : Exchange Index Client) (index : Index)
    (request : Envelope Client Request) : Option (Exchange Index Client) :=
  if (exchange.requestMq index).length < maxQueueSize then
    some { exchange with
      requestMq := Function.update exchange.requestMq index (exchange.requestMq index ++ [request]) }
  else none

/-- `message_queue::receive` of a client; it blocks while the queue is empty. -/
def popReply (exchange : Exchange Index Client) (mq : Nat) :
    Option (Envelope Client Reply × Exchange Index Client) :=
  match exchange.replyMq mq with
  | [] => none
  | reply :: rest =>
      some (reply, { exchange with replyMq := Function.update exchange.replyMq mq rest })

def receiveStep (exchange : Exchange Index Client) (index : Index) :
    Option (Exchange Index Client) :=
  match exchange.thread index, exchange.requestMq index with
  | .idle, request :: rest =>
      let popped := { exchange with requestMq := Function.update exchange.requestMq index rest }
      match request.body with
      | .stop _ => some (popped.setThread index .stopped)
      | _ => some (popped.setThread index (.hand request))
  | _, _ => none

/-- The owner map after a request has been handled: an answered OPEN created a `VolumeState`. -/
def ownerAfter (exchange : Exchange Index Client) (kernel : Kernel)
    (request : Envelope Client Request) (outcome : Outcome) : UInt64 → Option Client :=
  match request.body, outcome with
  | .openVolume _, .reply .. =>
      Function.update exchange.owner kernel.newVolume (some request.sender)
  | _, _ => exchange.owner

def handleStep (exchange : Exchange Index Client) (index : Index) (kernel : Kernel) :
    Option (Exchange Index Client) :=
  match exchange.thread index with
  | .hand request =>
      let outcome := IOHandler.handle exchange.world kernel request.body
      let owner := exchange.ownerAfter kernel request outcome
      match outcome with
      | .done world => some (({ exchange with world, owner }).setThread index .idle)
      | .reply world mq message closing =>
          some (({ exchange with world, owner }).setThread index
            (.sending mq ⟨request.sender, request.call, message⟩ closing))
      | .fault world fault => some { exchange with world, owner, fault := some fault }
  | _ => none

def sendStep (exchange : Exchange Index Client) (index : Index) :
    Option (Exchange Index Client) :=
  match exchange.thread index with
  | .sending mq reply closing =>
      if (exchange.replyMq mq).length < maxQueueSize then
        let sent := { exchange with
          replyMq := Function.update exchange.replyMq mq (exchange.replyMq mq ++ [reply]) }
        match closing with
        | none => some (sent.setThread index .idle)
        | some volume => some (sent.setThread index (.closing volume))
      else none
  | _ => none

def closeStep (exchange : Exchange Index Client) (index : Index) :
    Option (Exchange Index Client) :=
  match exchange.thread index with
  | .closing volume =>
      match IOHandler.closeVolume exchange.world volume with
      | .fault world fault => some { exchange with world, fault := some fault }
      | .done world | .reply world _ _ _ => some (({ exchange with world }).setThread index .idle)
  | _ => none

def serverStep (exchange : Exchange Index Client) (label : ServerLabel Index) :
    Option (Exchange Index Client) :=
  if exchange.fault.isSome then none
  else match label with
    | .receive index => exchange.receiveStep index
    | .handle index kernel => exchange.handleStep index kernel
    | .send index => exchange.sendStep index
    | .close index => exchange.closeStep index

/-- The kernel answers as POSIX allows. -/
def ValidLabel (exchange : Exchange Index Client) : ServerLabel Index → Prop
  | .handle index kernel => ∀ request, exchange.thread index = .hand request →
      kernel.Valid exchange.world request.body
  | _ => True

def FullTransfers (exchange : Exchange Index Client) : ServerLabel Index → Prop
  | .handle index kernel => ∀ request volume, exchange.thread index = .hand request →
      exchange.world.volumes request.body.header.volume = some volume →
      kernel.Full (exchange.world.content volume.fd) request.body
  | _ => True

end Exchange

end Cvbd
