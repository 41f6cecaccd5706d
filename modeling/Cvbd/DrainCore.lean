import Mathlib.Algebra.Order.BigOperators.Group.Finset
import Cvbd.MatchingTotal
import Cvbd.ReleaseTotal

/-!
What happens when the synchronous clients ask for nothing more: the server works
off what is queued, the clients take their replies, and then everything is at
rest. Each step that is left can only use up work.
-/

namespace Cvbd

/-- The transfer lies in the length that OPEN gives a volume; a WRITE may go beyond it. -/
def Request.InVolume : Request → Prop
  | .read req => 0 ≤ req.offset.toInt ∧ req.offset.toInt.toNat + req.sizeInBytes.toNat ≤ 2 ^ 34
  | .write req => 0 ≤ req.offset.toInt
  | _ => True

/-- Every system call succeeds; the files and the memory given out are `fd` and `volume`. -/
def Kernel.obliging (fd : Nat) (volume size : UInt64) : Kernel where
  open1 := .ok fd
  open2 := .ok fd
  ftruncate := .ok ()
  newVolume := volume
  fstat := .ok ()
  fsync := .ok ()
  durableAfterFailure := File.empty
  pread := .ok size.toNat
  pwrite := .ok size.toNat
  stale := fun _ => 0

def Request.size : Request → UInt64
  | .read req => req.sizeInBytes
  | .write req => req.sizeInBytes
  | _ => 0

namespace Thread

variable {Client : Type}

/-- The steps a thread has still to take. -/
def work : Thread Client → Nat
  | .hand _ => 3
  | .sending .. => 2
  | .closing _ => 1
  | .idle | .stopped => 0

end Thread

/-- A request that is queued has to be received, handled, answered and cleared away. -/
def Exchange.work {Index Client : Type} (exchange : Exchange Index Client) (index : Index) : Nat :=
  4 * (exchange.requestMq index).length + (exchange.thread index).work

namespace Session

variable {Client : Type} [DecidableEq Client]

/-- The server works on, and clients take replies. -/
def Drains : SessionLabel Client → Prop
  | .server _ | .receive _ => True
  | .remove _ | .create .. | .sendOpen _ | .call .. | .sendClose _ | .destroy _ => False

/-- The replies that wait for a client. -/
def backlog (session : Session Client) (client : Client) : Nat :=
  (session.mq client).elim 0 fun mq => (session.exchange.replyMq mq).length

/-- What is queued lies in the volumes. -/
def InVolumes (setting : Setting Client) (session : Session Client) : Prop :=
  ∀ client, ∀ request ∈ session.requests setting client, request.InVolume

/-- Nothing is queued or in hand, every call has been answered, and of the volumes just those are
open that clients have open. -/
structure AtRest (setting : Setting Client) (session : Session Client) : Prop where
  quiet : session.Quiet setting
  alive : session.exchange.fault = none
  answered : ∀ client, (session.stage client).waitsFor = none
  noReplies : ∀ client mq, session.mq client = some mq → session.exchange.replyMq mq = []
  descriptors : ∀ fd name, session.exchange.world.fds fd = some name →
    ∃ volume volState, session.exchange.world.volumes volume = some volState ∧ volState.fd = fd ∧
      volState.volumeName = name
  volumes : ∀ volume volState, session.exchange.world.volumes volume = some volState →
    ∃ client, session.exchange.owner volume = some client ∧
      (session.stage client = .opened ∨ session.stage client = .aborted)

section Measure

variable [Fintype Client]

def indices (setting : Setting Client) : Finset Nat := Finset.univ.image setting.index

def measure (setting : Setting Client) (session : Session Client) : Nat :=
  2 * ∑ index ∈ indices setting, session.exchange.work index + ∑ client, session.backlog client

end Measure

/-- All that is known of a session of synchronous clients. -/
structure Working (setting : Setting Client) (session : Session Client) : Prop where
  inv : session.Inv setting
  routes : session.Routes setting
  matching : session.Matching setting
  releasing : session.Releasing setting
  serving : ∀ index, session.exchange.thread index ≠ .stopped

structure Draining (setting : Setting Client) (session : Session Client) : Prop
    extends session.Working setting where
  inVolumes : session.InVolumes setting

end Session

end Cvbd
