import Cvbd.Storage

/-!
The server on a machine that may fail. Its process may be killed, or end itself
in the middle of a request, and the next one starts on the files that are left;
a power failure leaves of them what is on disk. What has happened to a byte so
far promises what a READ will find there.
-/

namespace Cvbd

/-- Asserts, null pointers and exceptions that leave a thread end the process; of the other faults
nothing is known. -/
def Fault.ends : Fault → Bool
  | .assertion | .nullVolume | .exception => true
  | .deadVolume | .overrun => false

inductive HostEvent
  | effect (effect : IOHandler.Effect)
  | synced (name : Name)
  | notSynced (name : Name)
  | read (name : Name) (offset size : Nat) (data : Nat → UInt8)
  | restarted
  | powerFailed

/-- Which bytes of the files have been changed since the last `::fsync`. A failed one says nothing
about the file any more. -/
def HostEvent.touch (touched : Name → Nat → Bool) : HostEvent → Name → Nat → Bool
  | .effect change => fun name position =>
      touched name position || change.covers name position || change.discards name position
  | .synced file => Function.update touched file fun _ => false
  | .notSynced file => Function.update touched file fun _ => true
  | .powerFailed => fun _ _ => false
  | .read .. | .restarted => touched

structure Host where
  world : World
  touched : Name → Nat → Bool

/-- `abort` is a request whose handler ends the process, `names` whatever clients do to the names of
their reply queues, and `powerFailure` gives the files that are found afterwards. -/
inductive HostLabel
  | turn (kernel : Kernel) (request : Request)
  | abort (kernel : Kernel) (request : Request)
  | kill
  | names (mqNames : Name → Option Nat)
  | powerFailure (image : Name → Option File)

namespace IOHandler

/-- What a handler that ends the process has done to the bytes before. -/
def effectsOfAbort (world : World) (kernel : Kernel) : Request → List Effect
  | .write req => effects world kernel (.write req)
  | .openVolume _ | .read _ | .getsize _ | .fsync _ | .close _ | .stop _ | .unknown _ => []

def observed (world : World) (kernel : Kernel) : Request → Replies → List HostEvent
  | .fsync req, _ =>
      match world.volumes req.header.volume, kernel.fsync with
      | some volState, .ok _ => [.synced volState.volumeName]
      | some volState, .error _ => [.notSynced volState.volumeName]
      | none, _ => []
  | .read req, [(_, .read reply)] =>
      match world.volumes req.header.volume with
      | some volState =>
          [.read volState.volumeName req.offset.toInt.toNat reply.sizeInBytes.toNat reply.data]
      | none => []
  | _, _ => []

end IOHandler

namespace Host

def turn (host : Host) (kernel : Kernel) (request : Request) : Option (Host × List HostEvent) :=
  match IOHandler.turn host.world kernel request with
  | .error _ => none
  | .ok (after, replies) =>
      let events := (IOHandler.effects host.world kernel request).map .effect ++
        IOHandler.observed host.world kernel request replies
      some (⟨after, events.foldl HostEvent.touch host.touched⟩, events)

def abort (host : Host) (kernel : Kernel) (request : Request) : Option (Host × List HostEvent) :=
  match IOHandler.handle host.world kernel request with
  | .fault left fault =>
      let events := (IOHandler.effectsOfAbort host.world kernel request).map .effect ++ [.restarted]
      if fault.ends then
        some (⟨World.started left.files left.mqNames, events.foldl HostEvent.touch host.touched⟩,
          events)
      else none
  | .done _ | .reply .. => none

/-- The queues are in memory, so their names do not outlive the power. -/
def powerFailure (image : Name → Option File) : Host where
  world := World.started (fun name => (image name).map fun file => ⟨file, file⟩) fun _ => none
  touched := fun _ _ => false

def machine : Machine Host HostLabel HostEvent where
  step host label :=
    match label with
    | .turn kernel request => host.turn kernel request
    | .abort kernel request => host.abort kernel request
    | .kill => some (⟨World.started host.world.files host.world.mqNames, host.touched⟩, [.restarted])
    | .names mqNames => some (⟨{ host.world with mqNames := mqNames }, host.touched⟩, [])
    | .powerFailure image => some (powerFailure image, [.powerFailed])

/-- What is found after a power failure: the synced bytes that have not been touched since, and
anything besides. -/
def MayLeave (host : Host) (image : Name → Option File) : Prop :=
  ∀ name file position, host.world.files name = some file → position < file.durable.size →
    host.touched name position = false →
    ∃ left, image name = some left ∧ position < left.size ∧
      left.byte position = file.durable.byte position

/-- The kernel answers as POSIX allows, and no READ asks for more than the reply has room for. -/
def Permitted (host : Host) : HostLabel → Prop
  | .turn kernel request => kernel.Valid host.world request ∧
      ∀ req, request = .read req → req.sizeInBytes.toNat ≤ maxDataSize
  | .abort kernel request => kernel.Valid host.world request
  | .powerFailure image => host.MayLeave image
  | .kill | .names _ => True

end Host

/-- What has been made sure of one byte of a file: nothing, its value until the power fails, or its
value for good. -/
inductive Promise
  | nothing
  | stored (value : UInt8)
  | durable (value : UInt8)
  deriving DecidableEq, Repr

namespace Promise

def value : Promise → Option UInt8
  | .nothing => none
  | .stored value | .durable value => some value

def sync : Promise → Promise
  | .stored value => .durable value
  | promise => promise

def doubt : Promise → Promise
  | .durable value => .stored value
  | promise => promise

def powerFail : Promise → Promise
  | .stored _ => .nothing
  | promise => promise

def after (name : Name) (position : Nat) (promise : Promise) : HostEvent → Promise
  | .effect (.stored other offset size data) =>
      if other = name ∧ offset ≤ position ∧ position < offset + size then
        .stored (data (position - offset))
      else promise
  | .effect (.resized other) => if other = name ∧ 2 ^ 34 ≤ position then .nothing else promise
  | .synced other => if other = name then promise.sync else promise
  | .notSynced other => if other = name then promise.doubt else promise
  | .powerFailed => promise.powerFail
  | .read .. | .restarted => promise

/-- The byte is in the file and, where that is promised, on disk. -/
def Kept (name : Name) (position : Nat) (host : Host) : Promise → Prop
  | .nothing => True
  | .stored value => IOHandler.HasByte host.world name position value
  | .durable value => IOHandler.HasByte host.world name position value ∧
      host.touched name position = false ∧
      ∃ file, host.world.files name = some file ∧ position < file.durable.size ∧
        file.durable.byte position = value

end Promise

end Cvbd
