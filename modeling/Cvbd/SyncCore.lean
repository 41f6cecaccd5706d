import Cvbd.Lib.Machine
import Cvbd.ClientCore
import Cvbd.DriverCore
import Cvbd.ExchangeCore
import Cvbd.NonAlignedCopy

/-!
`cvbd_read` and `cvbd_write` of `cvbd_syncio.c` as a small-step machine: one
client thread running the chunk loop against the server threads.
-/

namespace Cvbd

/-- `MSGQ_MAX_SIZE` of `cvbd_syncio.c`. -/
def msgqMaxSize : Int64 := 4096 * 128

/-- A call of the driver; `buffer` is the address of the caller's buffer. -/
structure SyncCall where
  write : Bool
  sectorNum : Int64
  nbSectors : Int32
  buffer : Nat

def cvbdRead (sectorNum : Int64) (nbSectors : Int32) (buffer : Nat) : SyncCall :=
  ⟨false, sectorNum, nbSectors, buffer⟩

def cvbdWrite (sectorNum : Int64) (nbSectors : Int32) (buffer : Nat) : SyncCall :=
  ⟨true, sectorNum, nbSectors, buffer⟩

/-- Where the client thread stands. `sending` is blocked in `request_mq_->send` and then goes on
to receive `reply` bytes to an address, or to the next chunk. -/
inductive SyncPc
  | looping (copy : NonAlignedCopy)
  | sending (request : Request) (copy : NonAlignedCopy) (reply : Option (Nat × UInt64))
  | receiving (copy : NonAlignedCopy) (message : Nat) (sizeInBytes : UInt64)
  | returned (ret : Int32)
  | aborted

structure SyncState where
  exchange : Exchange Unit Unit
  client : SharedMemClient
  mq : Nat
  memory : Bytes
  pc : SyncPc

inductive SyncLabel
  | client
  | server (label : ServerLabel Unit)

namespace SyncCall

/-- The code before the loop. -/
def start (call : SyncCall) : SyncPc :=
  if isRequestAligned call.sectorNum call.nbSectors then
    .looping (nonAlignedCopyInit (byteOffset call.sectorNum) (byteSize call.nbSectors).toInt64
      msgqMaxSize)
  else .returned einval.negative

/-- The loop body up to the blocking send. -/
def iterate (call : SyncCall) (state : SyncState) (copy : NonAlignedCopy) : SyncState :=
  if nonAlignedCopyIsValid copy then
    match nonAlignedCopyNext copy with
    | (retOff, retSz, copy) =>
      let relativeOff := (retOff.toUInt64 - call.sectorNum.toUInt64 * bdrvSectorSize).toInt64
      if relativeOff.toUInt64 < byteSize call.nbSectors then
        let actualBuf := call.buffer + relativeOff.toInt.toNat
        if call.write then
          match state.client.sendWrite (fun index => state.memory (actualBuf + index))
              retSz.toUInt64 retOff with
          | some (request, client) => { state with client, pc := .sending request copy none }
          | none => { state with pc := .aborted }
        else
          match state.client.sendRead retSz.toUInt64 retOff with
          | some (request, client) =>
            { state with client, pc := .sending request copy (some (actualBuf, retSz.toUInt64)) }
          | none => { state with pc := .aborted }
      else { state with pc := .aborted }
  else { state with pc := .returned 0 }

def clientStep (call : SyncCall) (state : SyncState) : Option SyncState :=
  match state.pc with
  | .looping copy => some (call.iterate state copy)
  | .sending request copy reply =>
      match state.exchange.pushRequest () ⟨(), 0, request⟩, reply with
      | some exchange, none => some { state with exchange, pc := .looping copy }
      | some exchange, some (message, sizeInBytes) =>
          some { state with exchange, pc := .receiving copy message sizeInBytes }
      | none, _ => none
  | .receiving copy message sizeInBytes =>
      match state.exchange.popReply state.mq with
      | some (reply, exchange) =>
          match SharedMemClient.acceptRead sizeInBytes reply.body with
          | some data => some { state with
              exchange
              memory := Region.copy state.memory message data sizeInBytes.toNat
              pc := .looping copy }
          | none => some { state with exchange, pc := .aborted }
      | none => none
  | .returned _ | .aborted => none

def machine (call : SyncCall) : Machine SyncState SyncLabel Empty where
  step state label :=
    match label with
    | .client => (call.clientStep state).map (·, [])
    | .server label => (state.exchange.serverStep label).map fun exchange =>
        ({ state with exchange }, [])

end SyncCall

def SyncState.Permitted (state : SyncState) : SyncLabel → Prop
  | .client => True
  | .server label => state.exchange.ValidLabel label ∧ state.exchange.FullTransfers label

end Cvbd
