import Cvbd.AsyncDriver
import Cvbd.AsyncProgress
import Cvbd.SyncDriver

/-!
The two block drivers side by side: one transfer by `cvbd_read` or `cvbd_write`
of `cvbd_syncio.c` on a flat buffer, and the same transfer by `cvbd_co_readv` or
`cvbd_co_writev` of `cvbd.c` on an I/O vector, each against a server of its own.
-/

namespace Cvbd

/-- `count` bytes of the memory from `base` on. -/
def flatBytes (memory : Bytes) (base count : Nat) : List UInt8 :=
  (List.range count).map fun index => memory (base + index)

/-- The bytes of the flattened vector. -/
def Qiov.gather (iov : Qiov) (memory : Bytes) : List UInt8 := iov.addresses.map memory

/-- Positions with one address are to hold one byte. -/
def Qiov.Consistent (iov : Qiov) (data : Bytes) : Prop :=
  ∀ left right address, iov.addresses[left]? = some address →
    iov.addresses[right]? = some address → data left = data right

/-- What a transfer leaves behind: its return value, the caller's bytes and the file. -/
structure TransferOutcome where
  ret : Int32
  bytes : List UInt8
  content : File

/-- `cvbd_write` or `cvbd_read`. -/
def cvbdTransfer (write : Bool) (sectorNum : Int64) (nbSectors : Int32) (buffer : Nat) : SyncCall :=
  if write then cvbdWrite sectorNum nbSectors buffer else cvbdRead sectorNum nbSectors buffer

/-- `cvbd_co_writev` or `cvbd_co_readv`. -/
def cvbdCoTransfer (write : Bool) (sectorNum : Int64) (nbSectors : Int32) (qiov : Qiov) : CoCall :=
  if write then .writev sectorNum nbSectors qiov else .readv sectorNum nbSectors qiov

/-- Every schedule completes the call, with this outcome. -/
def SyncState.Completes (state : SyncState) (endpoint : Endpoint Unit) (call : SyncCall)
    (outcome : TransferOutcome) : Prop :=
  call.machine.Settles SyncState.Permitted (fun after =>
    after.pc = .returned outcome.ret ∧ (after.service endpoint).requests = [] ∧
    flatBytes after.memory call.buffer call.length = outcome.bytes ∧
    (after.service endpoint).file.content = outcome.content) (state.enter call)

namespace AsyncState

/-- The state in which a coroutine has entered the driver function and `g_slice_new` has handed out
its control block. -/
def enter (state : AsyncState Unit Unit) (what : CoCall) (address : UInt64) (fresh : Acb) :
    AsyncState Unit Unit :=
  { state with
    clients := Function.update state.clients () ((state.clients ()).enter address fresh what).1 }

/-- Every schedule of the code completes the first call of the client, with this outcome. -/
def Completes (state : AsyncState Unit Unit) (endpoint : Endpoint Unit) (what : CoCall)
    (address : UInt64) (fresh : Acb) (qiov : Qiov) (outcome : TransferOutcome) : Prop :=
  (machine fun _ => endpoint).Settles (fun state label => state.Valid label ∧ state.Internal label)
    (fun after => after.Finished (fun _ => endpoint) ∧
      (∃ coroutine, (after.clients ()).coroutines 0 = some coroutine ∧
        coroutine.pc = .returned outcome.ret) ∧
      qiov.gather (after.clients ()).memory = outcome.bytes ∧
      after.content (fun _ => endpoint) () = outcome.content)
    (state.enter what address fresh)

end AsyncState

/-- Two idle clients, each with a volume of the same content, about to make the same transfer. -/
structure SameTransfer (sync : SyncState) (syncEnd : Endpoint Unit) (async : AsyncState Unit Unit)
    (asyncEnd : Endpoint Unit) (write : Bool) (sectorNum : Int64) (nbSectors : Int32) (buffer : Nat)
    (qiov : Qiov) : Prop where
  ready : sync.Ready syncEnd
  idle : (sync.service syncEnd).requests = []
  started : async.Started fun _ => asyncEnd
  content : async.content (fun _ => asyncEnd) () = (sync.service syncEnd).file.content
  aligned : isRequestAligned sectorNum nbSectors = true
  inside : SectorsInside sectorNum nbSectors (sync.service syncEnd).file.content.size
  total : qiov.total = nbSectors.toInt.toNat * 512
  data : write = true → flatBytes sync.memory buffer (nbSectors.toInt.toNat * 512) =
    qiov.gather (async.clients ()).memory

end Cvbd
