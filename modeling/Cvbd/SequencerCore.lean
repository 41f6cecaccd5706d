import Cvbd.DriverOpen
import Cvbd.ExchangeMoves
import Cvbd.IsolationCore
import Cvbd.Storage

/-!
The message queues as a system of its own: clients submit requests and take
replies at any time, and reply queues get and lose their names. With one request
queue, as `max_queue_num` has it, nobody can tell this system from a server that
takes the submitted requests one by one and handles each at once.
-/

namespace Cvbd

inductive SystemLabel (Index Client : Type)
  | submit (index : Index) (request : Envelope Client Request)
  | take (mq : Nat)
  | rename (name : Name) (queue : Option Nat)
  | server (label : ServerLabel Index)

/-- A served request comes with the volume it was about, what it did to the bytes of the files, and
the replies it was given. -/
inductive SystemEvent (Index Client : Type)
  | submitted (index : Index) (request : Envelope Client Request)
  | served (index : Index) (request : Envelope Client Request) (volume : Option Name)
      (effects : List IOHandler.Effect) (replies : List (Nat × Envelope Client Reply))
  | taken (mq : Nat) (reply : Envelope Client Reply)

/-- The reply under the name and the number of its request. -/
def Envelope.answer {Client : Type} (request : Envelope Client Request) (reply : Nat × Reply) :
    Nat × Envelope Client Reply :=
  (reply.1, ⟨request.sender, request.call, reply.2⟩)

def Outcome.replies : Outcome → Replies
  | .reply _ mq message _ => [(mq, message)]
  | .done _ | .fault _ _ => []

namespace Exchange

variable {Index Client : Type} [DecidableEq Index]

/-- The request that a thread has in hand is served, unless its handler aborts. -/
def served (exchange : Exchange Index Client) : ServerLabel Index →
    List (SystemEvent Index Client)
  | .handle index kernel =>
      match exchange.thread index with
      | .hand request =>
          match IOHandler.handle exchange.world kernel request.body with
          | .fault _ _ => []
          | outcome => [.served index request (exchange.world.served request.body)
              (IOHandler.effects exchange.world kernel request.body)
              (outcome.replies.map request.answer)]
      | _ => []
  | .receive _ | .send _ | .close _ => []

def system : Machine (Exchange Index Client) (SystemLabel Index Client)
    (SystemEvent Index Client) where
  step exchange label :=
    match label with
    | .submit index request =>
        (exchange.pushRequest index request).map (·, [.submitted index request])
    | .take mq => (exchange.popReply mq).map fun taken => (taken.2, [.taken mq taken.1])
    | .rename name queue =>
        some ({ exchange with world := exchange.world.setQueue name queue }, [])
    | .server label => (exchange.serverStep label).map (·, exchange.served label)

/-- The kernel answers as POSIX allows. -/
def Lawful (exchange : Exchange Index Client) : SystemLabel Index Client → Prop
  | .server label => exchange.ValidLabel label
  | _ => True

end Exchange

/-- The server as one object: what it has been asked and has not served yet, and what it has
answered and nobody has taken yet. It is halted by a stop message and ended by a fault. -/
structure Sequencer (Client : Type) where
  server : Except Fault World
  halted : Bool
  pending : List (Envelope Client Request)
  outbox : Nat → List (Envelope Client Reply)

inductive SequencerLabel (Client : Type)
  | submit (request : Envelope Client Request)
  | take (mq : Nat)
  | rename (name : Name) (queue : Option Nat)
  | stop
  | turn (kernel : Kernel)

namespace Sequencer

variable {Client : Type}

def post (outbox : Nat → List (Envelope Client Reply))
    (replies : List (Nat × Envelope Client Reply)) : Nat → List (Envelope Client Reply) :=
  replies.foldl (fun outbox reply =>
    Function.update outbox reply.1 (outbox reply.1 ++ [reply.2])) outbox

/-- The oldest request is received, handled and answered at once. -/
def turn (sequencer : Sequencer Client) (kernel : Kernel) :
    Option (Sequencer Client × List (SystemEvent Unit Client)) :=
  match sequencer.server, sequencer.halted, sequencer.pending with
  | .ok world, false, request :: rest =>
      match request.body with
      | .stop _ => none
      | body =>
          match IOHandler.turn world kernel body with
          | .error fault => some ({ sequencer with server := .error fault }, [])
          | .ok (after, replies) => some ({ sequencer with
              server := .ok after
              pending := rest
              outbox := post sequencer.outbox (replies.map request.answer) },
              [.served () request (world.served body) (IOHandler.effects world kernel body)
                (replies.map request.answer)])
  | _, _, _ => none

def stop (sequencer : Sequencer Client) : Option (Sequencer Client) :=
  match sequencer.server, sequencer.halted, sequencer.pending with
  | .ok _, false, request :: rest =>
      match request.body with
      | .stop _ => some { sequencer with halted := true, pending := rest }
      | _ => none
  | _, _, _ => none

def take (sequencer : Sequencer Client) (mq : Nat) :
    Option (Envelope Client Reply × Sequencer Client) :=
  match sequencer.outbox mq with
  | [] => none
  | reply :: rest =>
      some (reply, { sequencer with outbox := Function.update sequencer.outbox mq rest })

def machine : Machine (Sequencer Client) (SequencerLabel Client) (SystemEvent Unit Client) where
  step sequencer label :=
    match label with
    | .submit request =>
        some ({ sequencer with pending := sequencer.pending ++ [request] }, [.submitted () request])
    | .take mq => (sequencer.take mq).map fun taken => (taken.2, [.taken mq taken.1])
    | .rename name queue =>
        some ({ sequencer with server := sequencer.server.map (·.setQueue name queue) }, [])
    | .stop => sequencer.stop.map (·, [])
    | .turn kernel => sequencer.turn kernel

def Lawful (sequencer : Sequencer Client) : SequencerLabel Client → Prop
  | .turn kernel => ∀ world request, sequencer.server = .ok world →
      sequencer.pending.head? = some request → kernel.Valid world request.body
  | _ => True

end Sequencer

/-- The bytes of a file; a file that does not exist has none. -/
def World.bytes (world : World) (name : Name) : File :=
  ((world.files name).map VolumeFile.content).getD File.empty

namespace SystemEvent

variable {Index Client : Type}

def submittedOf (trace : List (SystemEvent Index Client)) : List (Envelope Client Request) :=
  trace.filterMap fun
    | .submitted _ request => some request
    | .served .. | .taken .. => none

def servedOf (trace : List (SystemEvent Index Client)) : List (Envelope Client Request) :=
  trace.filterMap fun
    | .served _ request _ _ _ => some request
    | .submitted .. | .taken .. => none

def effectsOf (trace : List (SystemEvent Index Client)) : List IOHandler.Effect :=
  trace.flatMap fun
    | .served _ _ _ effects _ => effects
    | .submitted .. | .taken .. => []

/-- The replies given for a queue. -/
def repliesTo (mq : Nat) (trace : List (SystemEvent Index Client)) : List (Envelope Client Reply) :=
  trace.flatMap fun
    | .served _ _ _ _ replies => (replies.filter fun reply => reply.1 = mq).map Prod.snd
    | .submitted .. | .taken .. => []

/-- The replies taken from a queue. -/
def takenFrom (mq : Nat) (trace : List (SystemEvent Index Client)) : List (Envelope Client Reply) :=
  trace.flatMap fun
    | .taken other reply => if other = mq then [reply] else []
    | .submitted .. | .served .. => []

/-- The bytes of a file after the requests served so far, if their effects are taken one by one. -/
def replay (initial : World) (trace : List (SystemEvent Index Client)) (name : Name) : File :=
  (effectsOf trace).foldl (IOHandler.Effect.apply name) (initial.bytes name)

/-- Requests are served in the order of their submission, each reply is delivered once and in order,
and what a READ finds are the writes submitted before it, whichever clients made them. -/
structure Linear (initial : World) (trace : List (SystemEvent Index Client)) : Prop where
  order : servedOf trace <+: submittedOf trace
  backlog : (submittedOf trace).length ≤ (servedOf trace).length + maxQueueSize + 1
  replies : ∀ mq, takenFrom mq trace <+: repliesTo mq trace
  reads : ∀ before index request name effects mq reply after req,
    trace = before ++ .served index request (some name) effects [(mq, reply)] :: after →
    request.body = .read req → req.sizeInBytes.toNat ≤ maxDataSize →
    servedOf before ++ [request] <+: submittedOf before ∧
      ∃ answer, reply = ⟨request.sender, request.call, .read answer⟩ ∧ answer.header = req.header ∧
        answer.sizeInBytes = req.sizeInBytes ∧ ∀ position, position < req.sizeInBytes.toNat →
          answer.data position =
            (replay initial before name).byte (req.offset.toInt.toNat + position)
  writes : ∀ before index request name effects replies after req,
    trace = before ++ .served index request (some name) effects replies :: after →
    request.body = .write req → req.sizeInBytes.toNat ≤ maxDataSize →
    servedOf before ++ [request] <+: submittedOf before ∧
      effects = [.stored name req.offset.toInt.toNat req.sizeInBytes.toNat req.data] ∧ replies = []

end SystemEvent

/-- The server thread waits for its first request. -/
structure Exchange.Fresh {Client : Type} (exchange : Exchange Unit Client) : Prop where
  idle : exchange.thread () = .idle
  running : exchange.fault = none
  noRequests : exchange.requestMq () = []
  noReplies : ∀ mq, exchange.replyMq mq = []
  sound : exchange.world.Sound

/-! What a client can see of the exchange. -/

namespace Thread

variable {Client : Type}

/-- The request in hand. -/
def current : Thread Client → List (Envelope Client Request)
  | .hand request => [request]
  | _ => []

/-- The reply on its way to a queue. -/
def leaving (thread : Thread Client) (mq : Nat) : List (Envelope Client Reply) :=
  match thread with
  | .sending queue reply _ => if queue = mq then [reply] else []
  | _ => []

/-- The `VolumeState` of a failed OPEN that is still to be deleted. -/
def doomed : Thread Client → Option UInt64
  | .sending _ _ next => next
  | .closing volume => some volume
  | _ => none

def isStopped : Thread Client → Bool
  | .stopped => true
  | _ => false

end Thread

/-- The world when a failed OPEN has been cleared away. -/
def World.settle (world : World) (doomed : Option UInt64) : World :=
  doomed.elim world fun volume => (IOHandler.closeVolume world volume).world

def Exchange.sequencer {Client : Type} (exchange : Exchange Unit Client) : Sequencer Client where
  server :=
    match exchange.fault with
    | some fault => .error fault
    | none => .ok (exchange.world.settle (exchange.thread ()).doomed)
  halted := (exchange.thread ()).isStopped
  pending := (exchange.thread ()).current ++ exchange.requestMq ()
  outbox := fun mq => exchange.replyMq mq ++ (exchange.thread ()).leaving mq

end Cvbd
