import Cvbd.SyncDriver

/-!
Any number of virtual machines, each with a volume of its own, that call
`cvbd_read` and `cvbd_write` of `cvbd_syncio.c` over the same server. Above them
the disk that each of them should see: a file that is read and written in one
piece.
-/

namespace Cvbd

/-- The block driver of one virtual machine: its client object, the memory of the process, the
call that was made last, and where the thread stands in it. -/
structure Disk where
  client : SharedMemClient
  memory : Bytes
  call : SyncCall
  pc : SyncPc

inductive DiskEvent
  | entered (call : SyncCall) (memory : Bytes)
  | returned (ret : Int32) (memory : Bytes)

namespace Disk

/-- The driver beside an exchange of its own. -/
def toSync (disk : Disk) (exchange : Exchange Unit Unit) (mq : Nat) : SyncState :=
  ⟨exchange, disk.client, mq, disk.memory, disk.pc⟩

/-- The loop body up to the blocking send, which touches no queue. -/
def iterate (disk : Disk) (copy : NonAlignedCopy) : Disk :=
  let empty : World := ⟨fun _ => none, fun _ => none, fun _ => none, fun _ => none⟩
  let idle : Exchange Unit Unit :=
    ⟨empty, fun _ => [], fun _ => .idle, fun _ => [], none, fun _ => none⟩
  let next := disk.call.iterate (disk.toSync idle 0) copy
  { disk with client := next.client, pc := next.pc }

/-- The event of a call that has just returned. -/
def finished (disk : Disk) : List DiskEvent :=
  match disk.pc with
  | .returned ret => [.returned ret disk.memory]
  | .looping _ | .sending .. | .receiving .. | .aborted => []

end Disk

structure DisksState (Index Client : Type) where
  exchange : Exchange Index Client
  disks : Client → Disk

/-- QEMU calls the driver of a machine, with `memory` as the guest has left it, or a thread takes
a step. -/
inductive DisksLabel (Index Client : Type)
  | enter (client : Client) (call : SyncCall) (memory : Bytes)
  | client (client : Client)
  | server (label : ServerLabel Index)

namespace DisksState

variable {Index Client : Type} [DecidableEq Index] [DecidableEq Client]

def setDisk (state : DisksState Index Client) (client : Client) (disk : Disk) :
    DisksState Index Client :=
  { state with disks := Function.update state.disks client disk }

/-- The thread is outside of the driver, or its last call is over. -/
def enterStep (state : DisksState Index Client) (client : Client) (call : SyncCall)
    (memory : Bytes) : Option (DisksState Index Client × List (Client × DiskEvent)) :=
  let disk := state.disks client
  match disk.pc with
  | .returned _ =>
      let entered := { disk with memory, call, pc := call.start }
      some (state.setDisk client entered,
        (client, .entered call memory) :: entered.finished.map (client, ·))
  | .looping _ | .sending .. | .receiving .. | .aborted => none

def clientStep (endpoints : Client → Endpoint Index) (state : DisksState Index Client)
    (client : Client) : Option (DisksState Index Client × List (Client × DiskEvent)) :=
  let disk := state.disks client
  match disk.pc with
  | .looping copy =>
      let next := disk.iterate copy
      some (state.setDisk client next, next.finished.map (client, ·))
  | .sending request copy reply =>
      match state.exchange.pushRequest (endpoints client).index ⟨client, 0, request⟩, reply with
      | some exchange, none =>
          some ({ state with exchange }.setDisk client { disk with pc := .looping copy }, [])
      | some exchange, some (message, sizeInBytes) =>
          some ({ state with exchange }.setDisk client
            { disk with pc := .receiving copy message sizeInBytes }, [])
      | none, _ => none
  | .receiving copy message sizeInBytes =>
      match state.exchange.popReply (endpoints client).mq with
      | some (reply, exchange) =>
          match SharedMemClient.acceptRead sizeInBytes reply.body with
          | some data => some ({ state with exchange }.setDisk client { disk with
              memory := Region.copy disk.memory message data sizeInBytes.toNat
              pc := .looping copy }, [])
          | none => some ({ state with exchange }.setDisk client { disk with pc := .aborted }, [])
      | none => none
  | .returned _ | .aborted => none

def machine (endpoints : Client → Endpoint Index) :
    Machine (DisksState Index Client) (DisksLabel Index Client) (Client × DiskEvent) where
  step state label :=
    match label with
    | .enter client call memory => state.enterStep client call memory
    | .client client => state.clientStep endpoints client
    | .server label => (state.exchange.serverStep label).map fun exchange =>
        ({ state with exchange }, [])

/-- QEMU asks for sectors of the volume, and the kernel transfers what lies in a file. -/
def Permitted (endpoints : Client → Endpoint Index) (state : DisksState Index Client) :
    DisksLabel Index Client → Prop
  | .enter client call _ => isRequestAligned call.sectorNum call.nbSectors = true →
      SectorsInside call.sectorNum call.nbSectors
        (state.exchange.service (endpoints client) client).file.content.size
  | .client _ => True
  | .server label => state.exchange.ValidLabel label ∧ state.exchange.FullTransfers label

/-- What a client sees of an event. -/
def visible (client : Client) (event : Client × DiskEvent) : List DiskEvent :=
  if event.1 = client then [event.2] else []

end DisksState

/-- A disk: its bytes, and the call that it is asked to carry out on the caller's memory. -/
structure PlainDisk where
  content : File
  busy : Option (SyncCall × Bytes)

inductive PlainLabel
  | enter (call : SyncCall) (memory : Bytes)
  | finish

namespace PlainDisk

/-- One call on the whole range at once; one that is not aligned is refused. -/
def carryOut (content : File) (call : SyncCall) (memory : Bytes) : File × Int32 × Bytes :=
  if isRequestAligned call.sectorNum call.nbSectors then
    (call.fileAfter content memory call.length, 0, call.memoryAfter content memory call.length)
  else (content, einval.negative, memory)

def machine : Machine PlainDisk PlainLabel DiskEvent where
  step disk label :=
    match label, disk.busy with
    | .enter call memory, none =>
        some ({ disk with busy := some (call, memory) }, [.entered call memory])
    | .finish, some (call, memory) =>
        let (content, ret, memory) := carryOut disk.content call memory
        some (⟨content, none⟩, [.returned ret memory])
    | _, _ => none

end PlainDisk

end Cvbd
