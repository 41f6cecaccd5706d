import Cvbd.PlainReadCore
import Cvbd.SequencerCore

/-!
The exchange with its messages as bytes. Each client has one request object and
one reply object, each server thread as well, and none of them is ever cleared:
what a handler or a client reads is what its object holds after the last message
has been received over the older ones.
-/

namespace Cvbd

/-- Where a server thread is; its request and its reply are in its two objects. -/
inductive TransportStage (Client : Type)
  | idle
  | hand (sender : Client) (call : Nat)
  | sending (mq : Nat) (message : Envelope Client Message) (closing : Option UInt64)
  | closing (volume : UInt64)
  | stopped

structure TransportThread (Client : Type) where
  requestMsg : Bytes
  replyMsg : Bytes
  stage : TransportStage Client

structure Transport (Index Client : Type) where
  world : World
  requestMq : Index → List (Envelope Client Message)
  thread : Index → TransportThread Client
  replyMq : Nat → List (Envelope Client Message)
  fault : Option Fault
  /-- `request_msg_` and `reply_msg_` of the clients. -/
  requestMsg : Client → Bytes
  replyMsg : Client → Bytes

/-- The arguments of a `send_*` function. -/
structure SendCall where
  id : UInt64
  volume : UInt64
  acb : UInt64
  sent : Wire.Sent

inductive TransportLabel (Index Client : Type)
  | send (index : Index) (client : Client) (call : Nat) (args : SendCall)
  | halt (index : Index) (sender : Client) (call : Nat) (memory : Bytes)
  | receive (client : Client) (mq : Nat)
  | rename (name : Name) (queue : Option Nat)
  | server (label : ServerLabel Index)

inductive TransportEvent (Index Client : Type)
  | sent (index : Index) (client : Client) (call : Nat) (args : SendCall)
  | halted (index : Index) (sender : Client) (call : Nat)
  | served (index : Index) (request : Envelope Client Request) (volume : Option Name)
      (effects : List IOHandler.Effect) (replies : List (Nat × Envelope Client Reply))
  | received (client : Client) (mq : Nat) (reply : Envelope Client Reply)

namespace Wire

/-- `getStopRequest`: a static `Header`, and the memory behind it up to `request_size`. -/
def stopHeader : Header := ⟨true, .reqUnknow, 0, 0, 0⟩

def stopMessage (memory : Bytes) : Message := ⟨storeHeader memory stopHeader, requestSize⟩

/-- `send_read` and `send_readv` have checked the size; the bytes left over in the request object
complete the names of an OPEN. -/
def Sent.Sendable (old : Bytes) : Sent → Prop
  | .read _ sizeInBytes => sizeInBytes.toNat ≤ maxDataSize
  | sent => sent.NamesCompleted old

end Wire

def SendCall.message (old : Bytes) (args : SendCall) : Message :=
  args.sent.message old args.id args.volume args.acb

namespace Transport

variable {Index Client : Type} [DecidableEq Index]

def setThread (transport : Transport Index Client) (index : Index)
    (thread : TransportThread Client) : Transport Index Client :=
  { transport with thread := Function.update transport.thread index thread }

def pushRequest (transport : Transport Index Client) (index : Index)
    (message : Envelope Client Message) : Option (Transport Index Client) :=
  if (transport.requestMq index).length < maxQueueSize then
    some { transport with
      requestMq :=
        Function.update transport.requestMq index (transport.requestMq index ++ [message]) }
  else none

/-- A `send_*` function builds its message over what the request object held. -/
def sendStep [DecidableEq Client] (transport : Transport Index Client) (index : Index)
    (client : Client) (call : Nat) (args : SendCall) : Option (Transport Index Client) :=
  let message := args.message (transport.requestMsg client)
  ({ transport with
    requestMsg := Function.update transport.requestMsg client message.bytes }).pushRequest index
      ⟨client, call, message⟩

/-- A client receives over its reply object and reads the reply there. -/
def receiveReply [DecidableEq Client] (transport : Transport Index Client) (client : Client)
    (mq : Nat) : Option (Envelope Client Reply × Transport Index Client) :=
  match transport.replyMq mq with
  | [] => none
  | message :: rest =>
      let replyMsg := Wire.receive (transport.replyMsg client) message.body
      some (⟨message.sender, message.call, Wire.viewReply (Wire.viewHeader replyMsg) replyMsg⟩,
        { transport with
          replyMq := Function.update transport.replyMq mq rest
          replyMsg := Function.update transport.replyMsg client replyMsg })

def receiveStep (transport : Transport Index Client) (index : Index) :
    Option (Transport Index Client) :=
  let thread := transport.thread index
  match thread.stage, transport.requestMq index with
  | .idle, message :: rest =>
      let requestMsg := Wire.receive thread.requestMsg message.body
      let popped := { transport with requestMq := Function.update transport.requestMq index rest }
      if (Wire.viewHeader requestMsg).stop then
        some (popped.setThread index { thread with requestMsg, stage := .stopped })
      else
        some (popped.setThread index
          { thread with requestMsg, stage := .hand message.sender message.call })
  | _, _ => none

end Transport

/-- `pread` reads into the reply object itself. -/
def TransportThread.kernelAt {Client : Type} (thread : TransportThread Client) (kernel : Kernel) :
    Kernel :=
  { kernel with stale := fun position => thread.replyMsg (40 + position) }

/-- The reply object when a handler has stored a reply that is not sent. -/
def TransportThread.leftover {Client : Type} (thread : TransportThread Client) (kernel : Kernel)
    (request : Request) : Bytes :=
  match ServerThread.unsent kernel request with
  | none => thread.replyMsg
  | some reply => (Wire.replyMessage thread.replyMsg reply).bytes

namespace Transport

variable {Index Client : Type} [DecidableEq Index]

def handleStep (transport : Transport Index Client) (index : Index) (kernel : Kernel) :
    Option (Transport Index Client) :=
  let thread := transport.thread index
  match thread.stage with
  | .hand sender call =>
      let request := Wire.viewRequest thread.requestMsg
      match IOHandler.handle transport.world (thread.kernelAt kernel) request with
      | .done world =>
          some (({ transport with world }).setThread index
            { thread with replyMsg := thread.leftover kernel request, stage := .idle })
      | .reply world mq reply closing =>
          let message := Wire.replyMessage thread.replyMsg reply
          some (({ transport with world }).setThread index
            { thread with
              replyMsg := message.bytes
              stage := .sending mq ⟨sender, call, message⟩ closing })
      | .fault world fault => some { transport with world, fault := some fault }
  | _ => none

def sendReply (transport : Transport Index Client) (index : Index) :
    Option (Transport Index Client) :=
  let thread := transport.thread index
  match thread.stage with
  | .sending mq message closing =>
      if (transport.replyMq mq).length < maxQueueSize then
        let sent := { transport with
          replyMq := Function.update transport.replyMq mq (transport.replyMq mq ++ [message]) }
        match closing with
        | none => some (sent.setThread index { thread with stage := .idle })
        | some volume => some (sent.setThread index { thread with stage := .closing volume })
      else none
  | _ => none

def closeStep (transport : Transport Index Client) (index : Index) :
    Option (Transport Index Client) :=
  let thread := transport.thread index
  match thread.stage with
  | .closing volume =>
      match IOHandler.closeVolume transport.world volume with
      | .fault world fault => some { transport with world, fault := some fault }
      | .done world | .reply world _ _ _ =>
          some (({ transport with world }).setThread index { thread with stage := .idle })
  | _ => none

def serverStep (transport : Transport Index Client) (label : ServerLabel Index) :
    Option (Transport Index Client) :=
  if transport.fault.isSome then none
  else match label with
    | .receive index => transport.receiveStep index
    | .handle index kernel => transport.handleStep index kernel
    | .send index => transport.sendReply index
    | .close index => transport.closeStep index

def served (transport : Transport Index Client) : ServerLabel Index →
    List (TransportEvent Index Client)
  | .handle index kernel =>
      let thread := transport.thread index
      match thread.stage with
      | .hand sender call =>
          let request := ⟨sender, call, Wire.viewRequest thread.requestMsg⟩
          let kernel := thread.kernelAt kernel
          match IOHandler.handle transport.world kernel request.body with
          | .fault _ _ => []
          | outcome => [.served index request (transport.world.served request.body)
              (IOHandler.effects transport.world kernel request.body)
              (outcome.replies.map request.answer)]
      | _ => []
  | .receive _ | .send _ | .close _ => []

def system [DecidableEq Client] : Machine (Transport Index Client) (TransportLabel Index Client)
    (TransportEvent Index Client) where
  step transport label :=
    match label with
    | .send index client call args =>
        (transport.sendStep index client call args).map (·, [.sent index client call args])
    | .halt index sender call memory =>
        (transport.pushRequest index ⟨sender, call, Wire.stopMessage memory⟩).map
          (·, [.halted index sender call])
    | .receive client mq =>
        (transport.receiveReply client mq).map fun received =>
          (received.2, [.received client mq received.1])
    | .rename name queue =>
        some ({ transport with world := transport.world.setQueue name queue }, [])
    | .server label => (transport.serverStep label).map (·, transport.served label)

/-- The kernel answers as POSIX allows, and the messages are ones the clients send. -/
def Lawful (transport : Transport Index Client) : TransportLabel Index Client → Prop
  | .send _ client _ args => args.sent.Sendable (transport.requestMsg client)
  | .server (.handle index kernel) =>
      kernel.Valid transport.world (Wire.viewRequest (transport.thread index).requestMsg)
  | _ => True

/-- No message has been sent yet; the objects hold anything. -/
structure Started (transport : Transport Index Client) : Prop where
  idle : ∀ index, (transport.thread index).stage = .idle
  noRequests : ∀ index, transport.requestMq index = []
  noReplies : ∀ mq, transport.replyMq mq = []

/-- The exchange before the first message. -/
def exchange (transport : Transport Index Client) : Exchange Index Client where
  world := transport.world
  requestMq := fun _ => []
  thread := fun _ => .idle
  replyMq := fun _ => []
  fault := transport.fault
  owner := fun _ => none

end Transport

/-- The same sender and the same call, and bodies that are related. -/
structure Envelope.Related {Client Left Right : Type} (related : Left → Right → Prop)
    (left : Envelope Client Left) (right : Envelope Client Right) : Prop where
  sender : left.sender = right.sender
  call : left.call = right.call
  body : related left.body right.body

/-- What a client reads is the reply it was sent. -/
inductive Reply.ReadAs : Reply → Reply → Prop
  | read {header sizeInBytes data seen} (small : sizeInBytes.toNat ≤ maxDataSize)
      (same : ∀ position, position < sizeInBytes.toNat → seen position = data position) :
      ReadAs (.read ⟨header, sizeInBytes, data⟩) (.read ⟨header, sizeInBytes, seen⟩)
  | openVolume (reply : OpenReply) : ReadAs (.openVolume reply) (.openVolume reply)
  | getsize (reply : GetSizeReply) : ReadAs (.getsize reply) (.getsize reply)
  | fsync (reply : FsyncReply) : ReadAs (.fsync reply) (.fsync reply)

def SendCall.ReadBack (args : SendCall) (request : Request) : Prop :=
  args.sent.ReadBack args.id args.volume args.acb request

/-- What the bytes mean: a request carries the arguments of its `send_*` function, and a reply is
read as it was given. -/
inductive TransportEvent.Means {Index Client : Type} :
    TransportEvent Index Client → SystemEvent Index Client → Prop
  | sent {index client call args request}
      (readBack : args.ReadBack request) :
      Means (.sent index client call args) (.submitted index ⟨client, call, request⟩)
  | halted {index sender call} :
      Means (.halted index sender call) (.submitted index ⟨sender, call, .stop Wire.stopHeader⟩)
  | served {index request volume effects replies} :
      Means (.served index request volume effects replies)
        (.served index request volume effects replies)
  | received {client mq sender call reply seen} (readAs : reply.ReadAs seen) :
      Means (.received client mq ⟨sender, call, seen⟩) (.taken mq ⟨sender, call, reply⟩)

namespace TransportEvent

variable {Index Client : Type}

def sentOf (trace : List (TransportEvent Index Client)) : List (Envelope Client SendCall) :=
  trace.filterMap fun
    | .sent _ client call args => some ⟨client, call, args⟩
    | .halted .. | .served .. | .received .. => none

def servedOf (trace : List (TransportEvent Index Client)) : List (Envelope Client Request) :=
  trace.filterMap fun
    | .served _ request _ _ _ => some request
    | .sent .. | .halted .. | .received .. => none

def effectsOf (trace : List (TransportEvent Index Client)) : List IOHandler.Effect :=
  trace.flatMap fun
    | .served _ _ _ effects _ => effects
    | .sent .. | .halted .. | .received .. => []

/-- The bytes of a file after the requests served so far, if their effects are taken one by one. -/
def replay (initial : World) (trace : List (TransportEvent Index Client)) (name : Name) : File :=
  (effectsOf trace).foldl (IOHandler.Effect.apply name) (initial.bytes name)

def isHalt : TransportEvent Index Client → Bool
  | .halted .. => true
  | .sent .. | .served .. | .received .. => false

/-- The n-th request served is the n-th one sent, a WRITE stores the bytes it was sent with, and a
READ reply that a client finds in its object shows the file as it was when the READ was served. -/
structure Observed (initial : World) (trace : List (TransportEvent Index Client)) : Prop where
  order : ∀ before index request volume effects replies after,
    trace = before ++ .served index request volume effects replies :: after →
    ∃ handled, handled <+: sentOf before ∧
      List.Forall₂ (Envelope.Related SendCall.ReadBack) handled (servedOf before ++ [request])
  writes : ∀ before index request name effects replies after req,
    trace = before ++ .served index request (some name) effects replies :: after →
    request.body = .write req →
    effects = [.stored name req.offset.toInt.toNat req.sizeInBytes.toNat req.data]
  reads : ∀ before client mq sender call seen after,
    trace = before ++ .received client mq ⟨sender, call, .read seen⟩ :: after →
    ∃ earlier index req name effects reply between,
      before = earlier ++ .served index ⟨sender, call, .read req⟩ (some name) effects
        [(mq, reply)] :: between ∧
      seen.header = req.header ∧ seen.sizeInBytes = req.sizeInBytes ∧
      ∀ position, position < seen.sizeInBytes.toNat →
        seen.data position =
          (replay initial earlier name).byte (req.offset.toInt.toNat + position)

end TransportEvent

end Cvbd
