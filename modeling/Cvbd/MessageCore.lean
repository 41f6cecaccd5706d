import Cvbd.Lib.Machine
import Cvbd.ServerCore

/-!
One turn of the loop in `handle_requests`: a message is handled, its reply sent
and, after a failed OPEN, the `VolumeState` closed. A server thread is the
machine that takes one such turn after the other; an abort ends it.
-/

namespace Cvbd

/-- Messages with the number of the queue they are sent to. -/
abbrev Replies := List (Nat × Reply)

namespace IOHandler

def turn (world : World) (kernel : Kernel) (request : Request) : Except Fault (World × Replies) :=
  match handle world kernel request with
  | .done after => .ok (after, [])
  | .reply after mq message none => .ok (after, [(mq, message)])
  | .reply after mq message (some volume) =>
      match closeVolume after volume with
      | .done closed | .reply closed _ _ _ => .ok (closed, [(mq, message)])
      | .fault _ fault => .error fault
  | .fault _ fault => .error fault

/-- The descriptor the two `::open` calls obtain. -/
def descriptor (kernel : Kernel) : Option Nat :=
  match kernel.open1, kernel.open2 with
  | .ok fd, _ => some fd
  | .error errno, .ok fd => if errno.code = enoent.code then some fd else none
  | .error _, .error _ => none

/-- What a turn does to the bytes of the volume files: `stored` when a WRITE has put `size` bytes
at `offset`, `resized` when an OPEN has set the length. -/
inductive Effect
  | stored (name : Name) (offset size : Nat) (data : Nat → UInt8)
  | resized (name : Name)

def effects (world : World) (kernel : Kernel) : Request → List Effect
  | .write req =>
      match world.volumes req.header.volume, kernel.pwrite with
      | some volState, .ok count =>
          [.stored volState.volumeName req.offset.toInt.toNat count req.data]
      | _, _ => []
  | .openVolume req =>
      match req.volumeName, descriptor kernel, kernel.ftruncate with
      | some name, some _, .ok _ => [.resized name]
      | _, _, _ => []
  | _ => []

inductive TurnEvent
  | sent (mq : Nat) (reply : Reply)
  | effect (effect : Effect)

/-- A label gives the message taken next and the answers of the kernel to it. -/
def machine : Machine World (Kernel × Request) TurnEvent where
  step world label :=
    match turn world label.1 label.2 with
    | .error _ => none
    | .ok (after, replies) => some (after,
        (effects world label.1 label.2).map .effect ++
          replies.map fun reply => .sent reply.1 reply.2)

/-- The kernel answers as POSIX allows. -/
def Permitted (world : World) (label : Kernel × Request) : Prop := label.1.Valid world label.2

end IOHandler

/-- Live `VolumeState` objects have pairwise distinct descriptors, which are open on their files. -/
structure World.Sound (world : World) : Prop where
  null : world.volumes 0 = none
  fdOpen : ∀ volume volState, world.volumes volume = some volState →
    world.fds volState.fd = some volState.volumeName
  fdDistinct : ∀ volume other volState otherState, world.volumes volume = some volState →
    world.volumes other = some otherState → volState.fd = otherState.fd → volume = other
  existsFile : ∀ fd name, world.fds fd = some name → ∃ file, world.files name = some file

/-- The server process when its threads start: no volume is open. -/
def World.started (files : Name → Option VolumeFile) (mqNames : Name → Option Nat) : World where
  files := files
  fds := fun _ => none
  volumes := fun _ => none
  mqNames := mqNames

theorem World.started_sound (files : Name → Option VolumeFile) (mqNames : Name → Option Nat) :
    (started files mqNames).Sound where
  null := rfl
  fdOpen := by simp [started]
  fdDistinct := by simp [started]
  existsFile := by simp [started]

end Cvbd
