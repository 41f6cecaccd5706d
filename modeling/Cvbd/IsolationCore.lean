import Cvbd.Lib.TwoRuns
import Cvbd.MessageCore
import Cvbd.WireReply

/-!
A server thread with its reply object. `handle_requests` allocates one `Reply`
for all its clients and never clears it, and each message is a prefix of that
object; so bytes of one volume's READ may still lie in a message to another.
-/

namespace Cvbd

/-- What one turn of the loop takes from outside: the request, the answers of the kernel, and the
message queues the clients have created by then. -/
structure Arrival where
  mqNames : Name → Option Nat
  kernel : Kernel
  request : Request

structure ServerThread where
  world : World
  reply : Bytes
  /-- A history variable: the volume whose READ data was put at a position last. -/
  origin : Nat → Option Name

/-- A message with the volume it is about and the history of its bytes. -/
structure SentReply where
  volume : Option Name
  mq : Nat
  reply : Reply
  message : Message
  origin : Nat → Option Name

namespace Wire

/-- Positions that hold the data of a READ. -/
def isData : Reply → Nat → Bool
  | .read reply, position => decide (40 ≤ position ∧ position < 40 + reply.sizeInBytes.toNat)
  | .openVolume _, _ | .getsize _, _ | .fsync _, _ => false

/-- Positions of the other fields a handler stores; the padding behind `stop` is not among them. -/
def isField (reply : Reply) (position : Nat) : Bool :=
  decide (position = 0 ∨ 4 ≤ position ∧ position < 32) ||
    match reply with
    | .read _ | .getsize _ => decide (32 ≤ position ∧ position < 40)
    | .openVolume _ => decide (32 ≤ position ∧ position < 44)
    | .fsync _ => decide (32 ≤ position ∧ position < 36)

end Wire

/-- The volume a request is about. -/
def World.served (world : World) : Request → Option Name
  | .openVolume req => req.volumeName
  | request => (world.volumes request.header.volume).map VolumeState.volumeName

namespace ServerThread

def start (files : Name → Option VolumeFile) (reply : Bytes) : ServerThread :=
  ⟨.started files fun _ => none, reply, fun _ => none⟩

def worldAt (thread : ServerThread) (arrival : Arrival) : World :=
  { thread.world with mqNames := arrival.mqNames }

/-- `pread` reads into the reply object itself. -/
def kernelAt (thread : ServerThread) (arrival : Arrival) : Kernel :=
  { arrival.kernel with stale := fun index => thread.reply (40 + index) }

/-- A handler stores a reply in the reply object. -/
def fill (thread : ServerThread) (world : World) (volume : Option Name) (reply : Reply) :
    ServerThread where
  world := world
  reply := (Wire.replyMessage thread.reply reply).bytes
  origin := fun position =>
    if Wire.isData reply position then volume
    else if Wire.isField reply position then none
    else thread.origin position

/-- Where both `::open` calls fail, the reply is stored and not sent. -/
def unsent (kernel : Kernel) : Request → Option Reply
  | .openVolume req =>
      match IOHandler.descriptor kernel, kernel.open2 with
      | none, .error errno => some (.openVolume ⟨{ req.header with volume := 0 }, 0, errno.negative⟩)
      | _, _ => none
  | _ => none

/-- One turn of the loop in `handle_requests`. -/
def handle (thread : ServerThread) (arrival : Arrival) :
    Except Fault (ServerThread × List SentReply) :=
  let world := thread.worldAt arrival
  match IOHandler.turn world (thread.kernelAt arrival) arrival.request with
  | .error fault => .error fault
  | .ok (after, []) =>
      match unsent arrival.kernel arrival.request with
      | none => .ok ({ thread with world := after }, [])
      | some reply => .ok (thread.fill after none reply, [])
  | .ok (after, (mq, reply) :: _) =>
      let volume := world.served arrival.request
      let filled := thread.fill after volume reply
      .ok (filled,
        [⟨volume, mq, reply, Wire.replyMessage thread.reply reply, filled.origin⟩])

def machine : Machine ServerThread Arrival SentReply where
  step thread arrival :=
    match thread.handle arrival with
    | .error _ => none
    | .ok result => some result

/-- The kernel answers as POSIX allows, and `send_read` or `send_readv` has checked the size. -/
structure Permitted (thread : ServerThread) (arrival : Arrival) : Prop where
  kernel : (thread.kernelAt arrival).Valid (thread.worldAt arrival) arrival.request
  size : ∀ req, arrival.request = .read req → req.sizeInBytes.toNat ≤ maxDataSize

end ServerThread

/-- The requests are the same, except that the data of WRITEs for the volume `secret` may differ. -/
inductive Request.SameBut (secret : Name) (world : World) : Request → Request → Prop
  | same (request : Request) : SameBut secret world request request
  | write {header offset sizeInBytes data other}
      (visible : (world.volumes header.volume).map VolumeState.volumeName ≠ some secret →
        ∀ index, index < sizeInBytes.toNat → data index = other index) :
      SameBut secret world (.write ⟨header, offset, sizeInBytes, data⟩)
        (.write ⟨header, offset, sizeInBytes, other⟩)

/-- The same queues, the same answers of the kernel and the same request, up to the data of the
volume `secret`. What a failed `fsync` leaves on the disk does not matter. -/
inductive Arrival.SameBut (secret : Name) (world : World) : Arrival → Arrival → Prop
  | mk (mqNames : Name → Option Nat) (kernel : Kernel) (durable : File) {request other : Request}
      (same : request.SameBut secret world other) :
      SameBut secret world ⟨mqNames, kernel, request⟩
        ⟨mqNames, { kernel with durableAfterFailure := durable }, other⟩

/-- Two runs of a server thread on the same requests, over files of which only that of the volume
`secret` differs. -/
def ServerThread.TwoRuns (secret : Name) (files other : Name → Option VolumeFile) (reply : Bytes)
    (traceLeft traceRight : List SentReply) : Prop :=
  (∀ name, name ≠ secret → files name = other name) ∧
    ∃ left right, machine.TwoRuns Permitted (fun left _ => Arrival.SameBut secret left.world)
      (start files reply) (start other reply) traceLeft traceRight left right

/-- The messages that went to one queue. -/
def SentReply.toQueue (mq : Nat) (trace : List SentReply) : List SentReply :=
  trace.filter fun sent => sent.mq = mq

end Cvbd
