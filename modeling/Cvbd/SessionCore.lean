import Cvbd.DriverOpen
import Cvbd.ExchangeCore
import Cvbd.Lib.Machine

/-!
Any number of clients and the server, from before the first constructor to after
the last destructor. A constructor drops the name of its reply queue and makes a
new queue under it in two steps, so others may act in between. `answers` and
`deleted` are history: the replies the server has given to a client's OPEN, and
how many of the `VolumeState` objects made for it have been deleted.
-/

namespace Cvbd

/-- The class `SharedMemClient` of `SharedMemClient.cpp` or the one of `SharedMemClientASync.cpp`. -/
inductive ClientKind
  | sync
  | async
  deriving DecidableEq

/-- What a driver asks of an open volume. -/
inductive Call
  | getsize
  | write (message : Bytes) (sizeInBytes : UInt64) (offset : Int64)
  | read (sizeInBytes : UInt64) (offset : Int64)
  | writev (offset : Int64) (size acb : UInt64) (gathered : Bytes)
  | readv (offset : Int64) (size acb : UInt64)
  | fsync (acb : UInt64)

namespace Call

def madeBy : Call → ClientKind → Bool
  | .getsize, _ => true
  | .write .., .sync | .read .., .sync => true
  | .writev .., .async | .readv .., .async | .fsync _, .async => true
  | _, _ => false

/-- The request of the call; none where the assert on its size aborts. -/
def send (client : SharedMemClient) : Call → Option (Request × SharedMemClient)
  | .getsize => some client.sendGetsize
  | .write message sizeInBytes offset => client.sendWrite message sizeInBytes offset
  | .read sizeInBytes offset => client.sendRead sizeInBytes offset
  | .writev offset size acb gathered => client.sendWritev offset size acb gathered
  | .readv offset size acb => client.sendReadv offset size acb
  | .fsync acb => some (client.sendFsync acb)

end Call

namespace SharedMemClient

/-- The part of `send_open` after the receive: its assert, the result, and the volume it keeps. -/
def acceptOpen (client : SharedMemClient) : Reply → Option (Int32 × SharedMemClient)
  | .openVolume reply =>
      if reply.header.type = .reqOpen then
        some (reply.err, if reply.err = 0 then { client with volume := reply.volume } else client)
      else none
  | .read _ | .getsize _ | .fsync _ => none

/-- The part of `send_getsize` after the receive. -/
def acceptGetsize : Reply → Option Int64
  | .getsize reply => if reply.header.type = .reqGetsize then some reply.sizeInBytes else none
  | .read _ | .openVolume _ | .fsync _ => none

end SharedMemClient

/-- The asserts behind the receive of a synchronous call. -/
def Request.accepts : Request → Reply → Bool
  | .read req, reply => (SharedMemClient.acceptRead req.sizeInBytes reply).isSome
  | .getsize _, reply => (SharedMemClient.acceptGetsize reply).isSome
  | _, _ => false

/-- Where a client stands. `failed` is a constructor that has thrown, `aborted` an assert on an
argument and `mismatched` an assert on a reply. -/
inductive Stage
  | outside
  | removed
  | made
  | opening (request : Request)
  | refused
  | opened
  | waiting (request : Request)
  | closed
  | destroyed
  | failed
  | aborted
  | mismatched

/-- The objects hold in `volume_` and in the request buffer what the memory held before. -/
structure Setting (Client : Type) where
  queues : Nat
  kind : Client → ClientKind
  allocated : Client → SharedMemClient

/-- `volume_name.at(length - 1) % max_queue_num`; the character is signed. -/
def queueNum (queues : Nat) (volumeName : Name) : Nat :=
  match volumeName.getLast? with
  | none => 0
  | some last => (last.toInt8.toInt64.toUInt64 % UInt64.ofNat queues).toNat

namespace Setting

variable {Client : Type} (setting : Setting Client)

def volumeName (client : Client) : Name := (setting.allocated client).volumeName
def index (client : Client) : Nat := queueNum setting.queues (setting.volumeName client)

end Setting

structure Session (Client : Type) where
  exchange : Exchange Nat Client
  shared : Client → SharedMemClient
  stage : Client → Stage
  /-- The reply queue the client has made. -/
  mq : Client → Option Nat
  answers : Client → List OpenReply
  deleted : Client → Nat

inductive SessionLabel (Client : Type)
  | remove (client : Client)
  | create (client : Client) (queue : Option Nat)
  | sendOpen (client : Client)
  | call (client : Client) (call : Call)
  | sendClose (client : Client)
  | receive (client : Client)
  | destroy (client : Client)
  | server (label : ServerLabel Nat)

/-- The `VolumeState` a step of the server deletes. -/
def Exchange.deletes {Client : Type} (exchange : Exchange Nat Client) : ServerLabel Nat → Option UInt64
  | .handle index _ =>
      match exchange.thread index with
      | .hand ⟨_, _, .close req⟩ => some req.header.volume
      | _ => none
  | .close index =>
      match exchange.thread index with
      | .closing volume => some volume
      | _ => none
  | .receive _ | .send _ => none

namespace Session

variable {Client : Type} [DecidableEq Client]

def start (setting : Setting Client) (files : Name → Option VolumeFile)
    (mqNames : Name → Option Nat) : Session Client where
  exchange := {
    world := World.started files mqNames
    requestMq := fun _ => []
    thread := fun _ => .idle
    replyMq := fun _ => []
    fault := none
    owner := fun _ => none }
  shared := setting.allocated
  stage := fun _ => .outside
  mq := fun _ => none
  answers := fun _ => []
  deleted := fun _ => 0

def setStage (session : Session Client) (client : Client) (stage : Stage) : Session Client :=
  { session with stage := Function.update session.stage client stage }

/-- `message_queue::remove`, or the end of `create_only`. -/
def setQueue (session : Session Client) (name : Name) (queue : Option Nat) : Session Client :=
  { session with
    exchange := { session.exchange with world := session.exchange.world.setQueue name queue } }

/-- The constructor as far as the removal of an old queue. -/
def remove (session : Session Client) (client : Client) : Option (Session Client) :=
  match session.stage client with
  | .outside =>
      if (session.shared client).volumeName = [] then some (session.setStage client .aborted)
      else some ((session.setQueue (session.shared client).volumeName none).setStage client .removed)
  | _ => none

/-- `create_only` has made a new, empty queue. -/
def makeQueue (session : Session Client) (client : Client) (mq : Nat) : Session Client :=
  let named := session.setQueue (session.shared client).volumeName (some mq)
  { named with
    exchange := { named.exchange with replyMq := Function.update named.exchange.replyMq mq [] }
    mq := Function.update session.mq client (some mq)
    stage := Function.update session.stage client .made }

/-- The rest of the constructor; it throws when the name is taken or a resource is missing. -/
def create (session : Session Client) (client : Client) (queue : Option Nat) :
    Option (Session Client) :=
  match session.stage client with
  | .removed =>
      match queue, session.exchange.world.mqNames (session.shared client).volumeName with
      | some mq, none => some (session.makeQueue client mq)
      | _, _ => some (session.setStage client .failed)
  | _ => none

/-- The blocking send of a request. -/
def post (setting : Setting Client) (session : Session Client) (client : Client)
    (sent : Request × SharedMemClient) (stage : Stage) : Option (Session Client) :=
  (session.exchange.pushRequest (setting.index client) ⟨client, 0, sent.1⟩).map fun exchange =>
    { session with
      exchange
      shared := Function.update session.shared client sent.2
      stage := Function.update session.stage client stage }

def sendOpen (setting : Setting Client) (session : Session Client) (client : Client) :
    Option (Session Client) :=
  match session.stage client with
  | .made =>
      let sent := (session.shared client).sendOpen
      session.post setting client sent (.opening sent.1)
  | _ => none

/-- The asynchronous class does not wait for the answers of its calls. -/
def afterCall (kind : ClientKind) (request : Request) : Stage :=
  match kind, request.answered with
  | .sync, true => .waiting request
  | _, _ => .opened

def call (setting : Setting Client) (session : Session Client) (client : Client) (call : Call) :
    Option (Session Client) :=
  match session.stage client, call.madeBy (setting.kind client) with
  | .opened, true =>
      match call.send (session.shared client) with
      | none => some (session.setStage client .aborted)
      | some sent => session.post setting client sent (afterCall (setting.kind client) sent.1)
  | _, _ => none

def sendClose (setting : Setting Client) (session : Session Client) (client : Client) :
    Option (Session Client) :=
  match session.stage client with
  | .opened => session.post setting client (session.shared client).sendClose .closed
  | _ => none

/-- What becomes of a client that has taken a reply. The reply thread of the asynchronous class
takes replies at any time and passes those of READ and FSYNC on. -/
def received (kind : ClientKind) (client : SharedMemClient) (stage : Stage) (reply : Reply) :
    Option (SharedMemClient × Stage) :=
  match stage, kind with
  | .opening request, kind =>
      match client.acceptOpen reply with
      | some (err, client) => some (client, if err = 0 then .opened else .refused)
      | none =>
          match kind, reply with
          | .async, .read _ | .async, .fsync _ => some (client, .opening request)
          | _, _ => some (client, .mismatched)
  | .waiting request, _ => some (client, if request.accepts reply then .opened else .mismatched)
  | .made, .async | .opened, .async | .refused, .async | .closed, .async => some (client, stage)
  | _, _ => none

def receive (setting : Setting Client) (session : Session Client) (client : Client) :
    Option (Session Client) :=
  match session.mq client with
  | none => none
  | some mq =>
      match session.exchange.popReply mq with
      | none => none
      | some (reply, exchange) =>
          (received (setting.kind client) (session.shared client) (session.stage client)
            reply.body).map fun outcome => { session with
              exchange
              shared := Function.update session.shared client outcome.1
              stage := Function.update session.stage client outcome.2 }

/-- A client whose volume is not open may be destroyed. -/
def destroy (session : Session Client) (client : Client) : Option (Session Client) :=
  match session.stage client with
  | .made | .refused | .closed =>
      some ((session.setQueue (session.shared client).volumeName none).setStage client .destroyed)
  | _ => none

/-- The answers given, when the server has gone on to `after`. -/
def answersAfter (session : Session Client) (label : ServerLabel Nat) (after : Exchange Nat Client) :
    Client → List OpenReply :=
  match label with
  | .handle index _ =>
      match after.thread index with
      | .sending _ ⟨sender, _, .openVolume reply⟩ _ =>
          Function.update session.answers sender (session.answers sender ++ [reply])
      | _ => session.answers
  | .receive _ | .send _ | .close _ => session.answers

/-- The client whose `VolumeState` a step of the server deletes. -/
def deletedFor (session : Session Client) (label : ServerLabel Nat) : Option Client :=
  (session.exchange.deletes label).bind fun volume =>
    (session.exchange.world.volumes volume).bind fun _ => session.exchange.owner volume

def deletedAfter (session : Session Client) (label : ServerLabel Nat) : Client → Nat :=
  match session.deletedFor label with
  | some client => Function.update session.deleted client (session.deleted client + 1)
  | none => session.deleted

def serve (session : Session Client) (label : ServerLabel Nat) : Option (Session Client) :=
  (session.exchange.serverStep label).map fun exchange =>
    { session with
      exchange
      answers := session.answersAfter label exchange
      deleted := session.deletedAfter label }

def step (setting : Setting Client) (session : Session Client) :
    SessionLabel Client → Option (Session Client)
  | .remove client => session.remove client
  | .create client queue => session.create client queue
  | .sendOpen client => session.sendOpen setting client
  | .call client call => session.call setting client call
  | .sendClose client => session.sendClose setting client
  | .receive client => session.receive setting client
  | .destroy client => session.destroy client
  | .server label => session.serve label

def machine (setting : Setting Client) : Machine (Session Client) (SessionLabel Client) Empty where
  step session label := (session.step setting label).map (·, [])

/-- The kernel answers as POSIX allows, and `create_only` makes a queue that is nobody's. -/
def Valid (session : Session Client) : SessionLabel Client → Prop
  | .server label => session.exchange.ValidLabel label
  | .create _ (some mq) => (∀ name, session.exchange.world.mqNames name ≠ some mq) ∧
      ∀ client, session.mq client ≠ some mq
  | _ => True

/-- The `VolumeState` at the address was made for the OPEN of the client and is not deleted. -/
def Holds (session : Session Client) (client : Client) (volume : UInt64) : Prop :=
  (∃ volState, session.exchange.world.volumes volume = some volState) ∧
    session.exchange.owner volume = some client

end Session

end Cvbd
