import Cvbd.ExchangeCore

/-!
What one client sees of the server: a private FIFO service over one volume
file. `Exchange.service` reads this view off the shared queues and threads.
-/

namespace Cvbd

/-- The result of serving one I/O request on an open volume. -/
inductive Served
  | done (file : VolumeFile)
  | reply (file : VolumeFile) (reply : Reply)
  | fault (file : VolumeFile) (fault : Fault)

def Served.file : Served → VolumeFile
  | .done file => file
  | .reply file _ => file
  | .fault file _ => file

def Request.isIo : Request → Bool
  | .write _ | .read _ | .getsize _ | .fsync _ => true
  | .stop _ | .openVolume _ | .close _ | .unknown _ => false

/-- Serving an I/O request needs nothing but the volume's file. -/
def VolumeFile.serve (file : VolumeFile) (kernel : Kernel) : Request → Served
  | .write req =>
      let stored := { file with
        content := kernel.written file.content req.offset.toInt.toNat req.data }
      if (transferResult kernel.pwrite).toUInt64 = req.sizeInBytes then .done stored
      else .fault stored .assertion
  | .read req =>
      let dataSize := transferResult kernel.pread
      let data := kernel.readData file.content req.offset.toInt.toNat
      if dataSize.toUInt64 = req.sizeInBytes then
        .reply file (.read ⟨req.header, dataSize.toUInt64, data⟩)
      else .fault file .assertion
  | .getsize req =>
      .reply file (.getsize ⟨req.header, kernel.statSize file.content⟩)
  | .fsync req =>
      match kernel.fsync with
      | .ok _ => .reply { file with durable := file.content } (.fsync ⟨req.header, 0⟩)
      | .error errno =>
        .reply { file with durable := kernel.durableAfterFailure }
          (.fsync ⟨req.header, errno.negative⟩)
  | .stop _ | .openVolume _ | .close _ | .unknown _ => .done file

/-- Where a client that has completed its open is connected: its request queue, its
`VolumeState`, the file behind it and its reply queue. -/
structure Endpoint (Index : Type) where
  index : Index
  volume : UInt64
  name : Name
  fd : Nat
  mq : Nat

def World.setFile (world : World) (name : Name) (file : VolumeFile) : World :=
  { world with files := Function.update world.files name (some file) }

/-- The endpoint refers to a live `VolumeState` over an open descriptor of an existing file. -/
structure Endpoint.Open {Index : Type} (endpoint : Endpoint Index) (world : World) : Prop where
  nonzero : endpoint.volume ≠ 0
  live : world.volumes endpoint.volume = some ⟨endpoint.name, endpoint.fd, endpoint.mq⟩
  fdOpen : world.fds endpoint.fd = some endpoint.name
  exists_file : ∃ file, world.files endpoint.name = some file

/-- The private view of one client. -/
structure Service (Client : Type) where
  requests : List (Envelope Client Request)
  replies : List (Envelope Client Reply)
  file : VolumeFile
  alive : Bool

/-- The server takes the oldest request of the client. -/
def Service.serve {Client : Type} (service : Service Client) (kernel : Kernel) :
    Option (Service Client) :=
  match service.alive, service.requests with
  | true, request :: rest =>
      match service.file.serve kernel request.body with
      | .done file => some { service with requests := rest, file }
      | .reply file reply => some { service with
          requests := rest
          replies := service.replies ++ [⟨request.sender, request.call, reply⟩]
          file }
      | .fault file _ => some { service with file, alive := false }
  | _, _ => none

variable {Index Client : Type} [DecidableEq Client]

def Thread.requestsOf (thread : Thread Client) (client : Client) : List (Envelope Client Request) :=
  match thread with
  | .hand request => if request.sender = client then [request] else []
  | _ => []

def Thread.repliesOf (thread : Thread Client) (client : Client) : List (Envelope Client Reply) :=
  match thread with
  | .sending _ reply _ => if reply.sender = client then [reply] else []
  | _ => []

/-- The client's requests not yet handled, oldest first, its replies not yet received, oldest
first, and its file. -/
def Exchange.service (exchange : Exchange Index Client) (endpoint : Endpoint Index)
    (client : Client) : Service Client where
  requests := (exchange.thread endpoint.index).requestsOf client ++
    (exchange.requestMq endpoint.index).filter fun request => request.sender = client
  replies := exchange.replyMq endpoint.mq ++ (exchange.thread endpoint.index).repliesOf client
  file := (exchange.world.files endpoint.name).getD ⟨File.empty, File.empty⟩
  alive := exchange.fault.isNone

/-- The client a message belongs to is the one its header and its queue say. -/
structure Belongs (endpoints : Client → Endpoint Index) (index : Index)
    (request : Envelope Client Request) : Prop where
  index : index = (endpoints request.sender).index
  volume : request.body.header.volume = (endpoints request.sender).volume
  io : request.body.isIo = true

/-- All clients are connected to pairwise distinct files and reply queues, and every message is
where it belongs. -/
structure Exchange.Wired (exchange : Exchange Index Client) (endpoints : Client → Endpoint Index) :
    Prop where
  isOpen : ∀ client, (endpoints client).Open exchange.world
  nameInjective : ∀ left right, (endpoints left).name = (endpoints right).name → left = right
  mqInjective : ∀ left right, (endpoints left).mq = (endpoints right).mq → left = right
  queued : ∀ index request, request ∈ exchange.requestMq index → Belongs endpoints index request
  inHand : ∀ index request, exchange.thread index = .hand request → Belongs endpoints index request
  sending : ∀ index mq reply closing, exchange.thread index = .sending mq reply closing →
    index = (endpoints reply.sender).index ∧ mq = (endpoints reply.sender).mq ∧ closing = none
  notClosing : ∀ index volume, exchange.thread index ≠ .closing volume
  notStopped : ∀ index, exchange.thread index ≠ .stopped
  replied : ∀ mq reply, reply ∈ exchange.replyMq mq → mq = (endpoints reply.sender).mq

end Cvbd
