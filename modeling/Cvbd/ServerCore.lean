import Mathlib.Logic.Function.Basic
import Cvbd.PosixCore

/-!
The server process: `VolumeState`, the handlers of `IOHandler` and the dispatch
of `handle_requests`. Addresses of `VolumeState` objects travel to the clients
and back as plain integers, so a handler looks the integer up in the heap of
live objects; what the C++ program leaves undefined is a fault here.
-/

namespace Cvbd

structure VolumeState where
  volumeName : Name
  fd : Nat
  replyMq : Nat
  deriving DecidableEq, Repr

/-- Server memory and the kernel objects it reaches: the files under `/ssdfs/vdisk0/`, the open
descriptors, the live `VolumeState` objects and the message queues by name. -/
structure World where
  files : Name → Option VolumeFile
  fds : Nat → Option Name
  volumes : UInt64 → Option VolumeState
  mqNames : Name → Option Nat

inductive Fault
  | assertion
  | nullVolume
  | deadVolume
  | overrun
  | exception
  deriving DecidableEq, Repr

/-- How a handler ends. `reply` still has to send `message` to the queue `mq`, and afterwards to
close the `VolumeState` at `closing`, if there is one. -/
inductive Outcome
  | done (world : World)
  | reply (world : World) (mq : Nat) (message : Reply) (closing : Option UInt64)
  | fault (world : World) (fault : Fault)

namespace World

def volumeFile (world : World) (fd : Nat) : Option VolumeFile :=
  (world.fds fd).bind world.files

/-- The bytes a descriptor reads; empty for a descriptor that is not open. -/
def content (world : World) (fd : Nat) : File :=
  match world.volumeFile fd with
  | none => File.empty
  | some file => file.content

def updateFile (world : World) (fd : Nat) (change : VolumeFile → VolumeFile) : World :=
  match world.fds fd with
  | none => world
  | some name => { world with files := Function.update world.files name ((world.files name).map change) }

/-- A successful `::open` with or without `O_CREAT`. -/
def openFile (world : World) (name : Name) (fd : Nat) : World where
  files := Function.update world.files name
    (some ((world.files name).getD ⟨File.empty, File.empty⟩))
  fds := Function.update world.fds fd (some name)
  volumes := world.volumes
  mqNames := world.mqNames

end World

/-- What POSIX and the allocator promise about the answers to one request. -/
structure Kernel.Valid (kernel : Kernel) (world : World) (request : Request) : Prop where
  open1 : ∀ fd, kernel.open1 = .ok fd → world.fds fd = none
  open2 : ∀ fd, kernel.open2 = .ok fd → world.fds fd = none
  newVolume : ∀ req, request = .openVolume req →
    kernel.newVolume ≠ 0 ∧ world.volumes kernel.newVolume = none
  pread : ∀ req volume count, request = .read req → world.volumes req.header.volume = some volume →
    kernel.pread = .ok count → 0 ≤ req.offset.toInt ∧
      count ≤ (world.content volume.fd).available req.offset.toInt.toNat req.sizeInBytes.toNat
  pwrite : ∀ req count, request = .write req → kernel.pwrite = .ok count →
    0 ≤ req.offset.toInt ∧ count ≤ req.sizeInBytes.toNat

namespace IOHandler

/-- `close(VolumeState *)`. -/
def closeVolume (world : World) (volume : UInt64) : Outcome :=
  if volume = 0 then .done world
  else match world.volumes volume with
    | none => .fault world .deadVolume
    | some state => .done { world with
        fds := Function.update world.fds state.fd none
        volumes := Function.update world.volumes volume none }

/-- `open` from the moment a descriptor `fd` has been obtained. -/
def attach (world : World) (kernel : Kernel) (req : OpenRequest) (volumeName : Name) (fd : Nat) :
    Outcome :=
  match req.replyMqName with
  | none => .fault world .overrun
  | some replyMqName =>
    match world.mqNames replyMqName with
    | none => .fault world .exception
    | some replyMq =>
      let vol := kernel.newVolume
      let opened := { world with
        volumes := Function.update world.volumes vol (some ⟨volumeName, fd, replyMq⟩) }
      let header := { req.header with volume := vol }
      match kernel.ftruncate with
      | .ok _ =>
        .reply (opened.updateFile fd fun file => { file with content := file.content.truncate (2 ^ 34) })
          replyMq (.openVolume ⟨header, vol, 0⟩) none
      | .error errno =>
        .reply opened replyMq (.openVolume ⟨header, vol, errno.negative⟩) (some vol)

/-- When both `::open` calls fail, `reply_mq` is still null and nothing is sent. -/
def openVolume (world : World) (kernel : Kernel) (req : OpenRequest) : Outcome :=
  match req.volumeName with
  | none => .fault world .overrun
  | some volumeName =>
    match kernel.open1 with
    | .ok fd => attach (world.openFile volumeName fd) kernel req volumeName fd
    | .error errno =>
      if errno.code = enoent.code then
        match kernel.open2 with
        | .ok fd => attach (world.openFile volumeName fd) kernel req volumeName fd
        | .error _ => .done world
      else .fault world .assertion

def close (world : World) (req : HeaderRequest) : Outcome :=
  closeVolume world req.header.volume

/-- GETSIZE and FSYNC test for a null `VolumeState` and then use it for the reply all the same. -/
def getsize (world : World) (kernel : Kernel) (req : HeaderRequest) : Outcome :=
  if req.header.volume = 0 then .fault world .nullVolume
  else match world.volumes req.header.volume with
    | none => .fault world .deadVolume
    | some volState =>
      let sizeInBytes := kernel.statSize (world.content volState.fd)
      .reply world volState.replyMq (.getsize ⟨req.header, sizeInBytes⟩) none

def fsync (world : World) (kernel : Kernel) (req : HeaderRequest) : Outcome :=
  if req.header.volume = 0 then .fault world .nullVolume
  else match world.volumes req.header.volume with
    | none => .fault world .deadVolume
    | some volState =>
      match kernel.fsync with
      | .ok _ =>
        .reply (world.updateFile volState.fd fun file => { file with durable := file.content })
          volState.replyMq (.fsync ⟨req.header, 0⟩) none
      | .error errno =>
        .reply (world.updateFile volState.fd
            fun file => { file with durable := kernel.durableAfterFailure })
          volState.replyMq (.fsync ⟨req.header, errno.negative⟩) none

def write (world : World) (kernel : Kernel) (req : WriteRequest) : Outcome :=
  if req.header.volume = 0 then .done world
  else match world.volumes req.header.volume with
    | none => .fault world .deadVolume
    | some volState =>
      let stored := world.updateFile volState.fd fun file =>
        { file with content := kernel.written file.content req.offset.toInt.toNat req.data }
      if (transferResult kernel.pwrite).toUInt64 = req.sizeInBytes then .done stored
      else .fault stored .assertion

def read (world : World) (kernel : Kernel) (req : ReadRequest) : Outcome :=
  if req.header.volume = 0 then .fault world .nullVolume
  else match world.volumes req.header.volume with
    | none => .fault world .deadVolume
    | some volState =>
      let dataSize := transferResult kernel.pread
      let data := kernel.readData (world.content volState.fd) req.offset.toInt.toNat
      if dataSize.toUInt64 = req.sizeInBytes then
        .reply world volState.replyMq (.read ⟨req.header, dataSize.toUInt64, data⟩) none
      else .fault world .assertion

/-- The dispatch on the request type in `handle_requests`; an unknown type is only logged. -/
def handle (world : World) (kernel : Kernel) : Request → Outcome
  | .write req => write world kernel req
  | .read req => read world kernel req
  | .openVolume req => openVolume world kernel req
  | .close req => close world req
  | .getsize req => getsize world kernel req
  | .fsync req => fsync world kernel req
  | .stop _ | .unknown _ => .done world

end IOHandler

end Cvbd
