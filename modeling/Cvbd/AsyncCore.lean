import Cvbd.ClientCore
import Cvbd.DriverCore
import Cvbd.Iov
import Cvbd.Lib.Machine
import Cvbd.ServiceCore

/-!
The asynchronous driver: `cvbd_co_rw`, `cvbd_co_flush_to_disk` and their
callbacks of `cvbd.c`, and the reply thread of `SharedMemClientASync.cpp`. A
client is one event-loop thread and one reply thread over a heap of control
blocks. Control blocks travel as raw addresses, and an access to one that has
been freed is a fault here.

The fields of `CVBDAIOCB` are those the two files use; its `ret` is taken to be
as wide as `ssize_t`.
-/

namespace Cvbd

/-- A call of `cvbd_co_readv`, `cvbd_co_writev` or `cvbd_co_flush_to_disk`. -/
inductive CoCall
  | readv (sectorNum : Int64) (nbSectors : Int32) (qiov : Qiov)
  | writev (sectorNum : Int64) (nbSectors : Int32) (qiov : Qiov)
  | flush

/-- What the vector of a call holds. -/
def CoCall.data (memory old : Bytes) : CoCall → Bytes
  | .readv _ _ qiov => qiov.flatten memory old
  | .writev _ _ qiov => qiov.flatten memory old
  | .flush => old

/-- The `CVBDAIOCB` of one call; `bh` and `callback` are pointers that may be null. -/
structure Acb where
  size : UInt64
  ret : Int64
  coroutine : Nat
  qiov : Option Qiov
  callback : Bool
  bh : Bool

inductive CoPc
  | sending (request : Request)
  | callback
  | yielding
  | yielded
  | entered
  | returned (ret : Int32)

/-- A coroutine: its arguments, its local variable `acb` and its position. `data` is a history
variable: what the vector held at the call. -/
structure Coroutine where
  call : CoCall
  data : Bytes
  acb : UInt64
  pc : CoPc

/-- The reply thread. `hand` holds a reply not looked at yet; `finishing` is about to call
`acb->callback(ret, acb)`. -/
inductive ReplyThread
  | idle
  | hand (call : Nat) (reply : Reply)
  | finishing (acb : UInt64) (ret : Int32)
  | stopped

/-- The control block whose callback a reply asks for. -/
def Reply.callbacks (reply : Reply) : List UInt64 :=
  match reply.header.type with
  | .reqRead | .reqFsync => [reply.header.acb]
  | _ => []

/-- The callbacks of the reply in the reply thread. -/
def ReplyThread.pending : ReplyThread → List UInt64
  | .hand _ reply => reply.callbacks
  | .finishing acb _ => [acb]
  | .idle | .stopped => []

inductive ClientFault
  | assertion
  | deadAcb
  | nullQiov
  | notYielded
  deriving DecidableEq, Repr

structure AsyncClient where
  shared : SharedMemClient
  memory : Bytes
  heap : UInt64 → Option Acb
  /-- All coroutines so far, numbered in the order of their calls. -/
  coroutines : Nat → Option Coroutine
  next : Nat
  /-- The coroutine the event loop executes. -/
  current : Option Nat
  /-- The scheduled bottom halves, by their opaque pointer. -/
  bhs : List UInt64
  replyThread : ReplyThread
  fault : Option ClientFault

/-- What a step tells about a call. -/
inductive CallEvent
  | submitted (call : Nat) (request : Request)
  | served (call : Nat) (request : Request) (kernel : Kernel) (file : VolumeFile)
  | yielded (call : Nat)
  | entered (call : Nat)
  | returned (call : Nat) (ret : Int32)

/-- Steps of a client other than its two blocking queue operations. -/
inductive LocalLabel
  | call (what : CoCall) (address : UInt64) (fresh : Acb)
  | sendFails
  | callback
  | yield
  | bottomHalf (acb : UInt64)
  | resume
  | copy
  | finish
  | guest (memory : Bytes)

inductive ClientLabel
  | send
  | receive
  | inside (label : LocalLabel)

/-- `cvbd_finish_aio` up to the scheduling of the bottom half. -/
def cvbdFinishAio (ret : Int32) (acb : Acb) : Acb :=
  if ret = 0 ∨ acb.ret.toUInt64 = acb.size then { acb with ret := 0, bh := true }
  else if ret < 0 then { acb with ret := ret.toInt64, bh := true }
  else { acb with ret := eio.negative.toInt64, bh := true }

namespace AsyncClient

def setAcb (client : AsyncClient) (address : UInt64) (acb : Option Acb) : AsyncClient :=
  { client with heap := Function.update client.heap address acb }

def setCoroutine (client : AsyncClient) (call : Nat) (coroutine : Coroutine) : AsyncClient :=
  { client with coroutines := Function.update client.coroutines call (some coroutine) }

/-- The coroutine that is being executed. -/
def running (client : AsyncClient) : Option (Nat × Coroutine) :=
  client.current.bind fun call => (client.coroutines call).map (call, ·)

/-- The data area of the request buffer. -/
def oldData (client : AsyncClient) : Bytes := fun index => client.shared.requestMsg (48 + index)

def newCoroutine (client : AsyncClient) (what : CoCall) (address : UInt64) (pc : CoPc) : Coroutine :=
  ⟨what, what.data client.memory client.oldData, address, pc⟩

/-- A coroutine has filled its control block and comes to the blocking send. -/
def enterSend (client : AsyncClient) (what : CoCall) (address : UInt64) (acb : Acb) :
    Option (Request × SharedMemClient) → AsyncClient
  | none => { client with fault := some .assertion }
  | some (request, shared) => { client with
      shared
      heap := Function.update client.heap address (some acb)
      coroutines := Function.update client.coroutines client.next
        (some (client.newCoroutine what address (.sending request)))
      next := client.next + 1
      current := some client.next }

/-- `is_request_aligned` refuses the call behind `g_slice_new`. -/
def refuse (client : AsyncClient) (what : CoCall) (address : UInt64) (fresh : Acb) : AsyncClient :=
  { client with
    heap := Function.update client.heap address (some fresh)
    coroutines := Function.update client.coroutines client.next
      (some (client.newCoroutine what address (.returned einval.negative)))
    next := client.next + 1 }

/-- `cvbd_co_rw` up to its send. -/
def cvbdCoRw (client : AsyncClient) (address : UInt64) (fresh : Acb) (write : Bool)
    (sectorNum : Int64) (nbSectors : Int32) (qiov : Qiov) : AsyncClient × List CallEvent :=
  let what := if write then CoCall.writev sectorNum nbSectors qiov
    else CoCall.readv sectorNum nbSectors qiov
  let size := byteSize nbSectors
  let offset := byteOffset sectorNum
  if isRequestAligned sectorNum nbSectors then
    let acb : Acb := { fresh with
      size, ret := 0, coroutine := client.next, qiov := some qiov, callback := true }
    let posted :=
      if write then
        (iovToBuf qiov 0 client.oldData size.toNat client.memory).bind
          (client.shared.sendWritev offset size address)
      else client.shared.sendReadv offset size address
    (client.enterSend what address acb posted, [])
  else (client.refuse what address fresh, [.returned client.next einval.negative])

/-- `cvbd_co_flush_to_disk` up to its send. -/
def cvbdCoFlushToDisk (client : AsyncClient) (address : UInt64) (fresh : Acb) : AsyncClient :=
  let acb : Acb := { fresh with
    size := 0, ret := 0, coroutine := client.next, qiov := none, callback := true }
  client.enterSend .flush address acb (some (client.shared.sendFsync address))

def enter (client : AsyncClient) (address : UInt64) (fresh : Acb) :
    CoCall → AsyncClient × List CallEvent
  | .readv sectorNum nbSectors qiov => client.cvbdCoRw address fresh false sectorNum nbSectors qiov
  | .writev sectorNum nbSectors qiov => client.cvbdCoRw address fresh true sectorNum nbSectors qiov
  | .flush => (client.cvbdCoFlushToDisk address fresh, [])

/-- A control block is handed to `cvbd_finish_aio` and its bottom half scheduled. -/
def finishAio (client : AsyncClient) (address : UInt64) (ret : Int32) (acb : Acb) : AsyncClient :=
  { client.setAcb address (some (cvbdFinishAio ret acb)) with bhs := client.bhs ++ [address] }

/-- `send_writev` behind the send: the write is completed at once. -/
def writeCallback (client : AsyncClient) (call : Nat) (coroutine : Coroutine) : AsyncClient :=
  match client.heap coroutine.acb with
  | none => { client with fault := some .deadAcb }
  | some acb =>
      if acb.callback then
        (client.finishAio coroutine.acb 0 { acb with ret := acb.size.toInt64 }).setCoroutine call
          { coroutine with pc := .yielding }
      else { client with fault := some .assertion }

/-- `cvbd_complete_aio`. -/
def completeAio (client : AsyncClient) (address : UInt64) : AsyncClient × List CallEvent :=
  match client.heap address with
  | none => ({ client with fault := some .deadAcb }, [])
  | some acb =>
      match client.coroutines acb.coroutine with
      | some ⟨what, data, localAcb, .yielded⟩ =>
          ({ (client.setAcb address (some { acb with bh := false })).setCoroutine acb.coroutine
              ⟨what, data, localAcb, .entered⟩ with
            current := some acb.coroutine }, [.entered acb.coroutine])
      | _ => ({ client with fault := some .notYielded }, [])

/-- A coroutine behind `qemu_coroutine_yield`. -/
def resume (client : AsyncClient) (call : Nat) (coroutine : Coroutine) :
    AsyncClient × List CallEvent :=
  match client.heap coroutine.acb with
  | none => ({ client with fault := some .deadAcb }, [])
  | some acb =>
      let ret := acb.ret.toInt32
      ({ (client.setAcb coroutine.acb none).setCoroutine call
          { coroutine with pc := .returned ret } with
        current := none }, [.returned call ret])

/-- `handle_co_reply` from the receipt of a reply to the call of the callback. -/
def handleCoReply (client : AsyncClient) (reply : Reply) : AsyncClient :=
  let header := reply.header
  if header.stop then { client with replyThread := .stopped }
  else match header.type, reply with
    | .reqRead, .read reply =>
        if header.acb = 0 then { client with fault := some .assertion }
        else match client.heap header.acb with
          | none => { client with fault := some .deadAcb }
          | some acb =>
            match acb.qiov with
            | none => { client with fault := some .nullQiov }
            | some qiov =>
              match iovFromBuf qiov 0 reply.data reply.sizeInBytes.toNat client.memory with
              | none => { client with fault := some .assertion }
              | some memory => { client.setAcb header.acb
                  (some { acb with ret := reply.sizeInBytes.toInt64 }) with
                memory
                replyThread := .finishing header.acb 0 }
    | .reqFsync, .fsync reply =>
        if header.acb = 0 then { client with fault := some .assertion }
        else match client.heap header.acb with
          | none => { client with fault := some .deadAcb }
          | some acb => { client.setAcb header.acb (some { acb with ret := reply.err.toInt64 }) with
              replyThread := .finishing header.acb reply.err }
    | .reqOpen, _ | .reqGetsize, _ => { client with replyThread := .idle }
    | _, _ => { client with fault := some .assertion }

/-- `acb->callback(ret, acb)` of the reply thread. -/
def finish (client : AsyncClient) (address : UInt64) (ret : Int32) : AsyncClient :=
  match client.heap address with
  | none => { client with fault := some .deadAcb }
  | some acb =>
      if acb.callback then { client.finishAio address ret acb with replyThread := .idle }
      else { client with fault := some .assertion }

/-- The steps that need nothing but the client itself. -/
def localStep (client : AsyncClient) (label : LocalLabel) :
    Option (AsyncClient × List CallEvent) :=
  if client.fault.isSome then none
  else match label with
    | .call what address fresh =>
        match client.current with
        | none => some (client.enter address fresh what)
        | some _ => none
    | .sendFails =>
        match client.running with
        | some (call, ⟨.flush, data, acb, .sending _⟩) =>
            -- `rc < 0` never holds of a `bool`, so the flush goes on to wait.
            some (client.setCoroutine call ⟨.flush, data, acb, .yielding⟩, [])
        | some (_, ⟨_, _, _, .sending _⟩) => some ({ client with fault := some .assertion }, [])
        | _ => none
    | .callback =>
        match client.running with
        | some (call, ⟨what, data, acb, .callback⟩) =>
            some (client.writeCallback call ⟨what, data, acb, .callback⟩, [])
        | _ => none
    | .yield =>
        match client.running with
        | some (call, ⟨what, data, acb, .yielding⟩) =>
            some ({ client.setCoroutine call ⟨what, data, acb, .yielded⟩ with current := none },
              [.yielded call])
        | _ => none
    | .bottomHalf acb =>
        match client.current with
        | none =>
            if acb ∈ client.bhs then
              some (({ client with bhs := client.bhs.erase acb } : AsyncClient).completeAio acb)
            else none
        | some _ => none
    | .resume =>
        match client.running with
        | some (call, ⟨what, data, acb, .entered⟩) =>
            some (client.resume call ⟨what, data, acb, .entered⟩)
        | _ => none
    | .copy =>
        match client.replyThread with
        | .hand _ reply => some (client.handleCoReply reply, [])
        | _ => none
    | .finish =>
        match client.replyThread with
        | .finishing acb ret => some (client.finish acb ret, [])
        | _ => none
    | .guest memory => some ({ client with memory }, [])

/-- The client's side of a successful send: the call, its message, and what follows. -/
def takeSend (client : AsyncClient) : Option (Nat × Request × AsyncClient) :=
  if client.fault.isSome then none
  else match client.running with
    | some (call, ⟨.writev sectorNum nbSectors qiov, data, acb, .sending request⟩) =>
        some (call, request,
          client.setCoroutine call ⟨.writev sectorNum nbSectors qiov, data, acb, .callback⟩)
    | some (call, ⟨what, data, acb, .sending request⟩) =>
        some (call, request, client.setCoroutine call ⟨what, data, acb, .yielding⟩)
    | _ => none

/-- The reply thread takes a message. -/
def takeReply (client : AsyncClient) (call : Nat) (reply : Reply) : Option AsyncClient :=
  if client.fault.isSome then none
  else match client.replyThread with
    | .idle => some { client with replyThread := .hand call reply }
    | _ => none

end AsyncClient

/-! The system of all asynchronous clients and the server threads. -/

structure Event (Client : Type) where
  client : Client
  what : CallEvent

structure AsyncState (Index Client : Type) where
  exchange : Exchange Index Client
  clients : Client → AsyncClient

inductive AsyncLabel (Index Client : Type)
  | client (client : Client) (label : ClientLabel)
  | server (label : ServerLabel Index)

namespace AsyncState

variable {Index Client : Type} [DecidableEq Index] [DecidableEq Client]

/-- Handling a request is told to its sender. -/
def servedEvents (endpoints : Client → Endpoint Index) (before after : Exchange Index Client) :
    ServerLabel Index → List (Event Client)
  | .handle index kernel =>
      match before.thread index with
      | .hand request => [⟨request.sender, .served request.call request.body kernel
          (after.service (endpoints request.sender) request.sender).file⟩]
      | _ => []
  | _ => []

def clientStep (endpoints : Client → Endpoint Index) (state : AsyncState Index Client)
    (client : Client) : ClientLabel → Option (AsyncState Index Client × List (Event Client))
  | .send =>
      match (state.clients client).takeSend with
      | some (call, request, after) =>
          match state.exchange.pushRequest (endpoints client).index ⟨client, call, request⟩ with
          | some exchange => some (⟨exchange, Function.update state.clients client after⟩,
              [⟨client, .submitted call request⟩])
          | none => none
      | none => none
  | .receive =>
      match state.exchange.popReply (endpoints client).mq with
      | some (reply, exchange) =>
          match (state.clients client).takeReply reply.call reply.body with
          | some after => some (⟨exchange, Function.update state.clients client after⟩, [])
          | none => none
      | none => none
  | .inside label =>
      match (state.clients client).localStep label with
      | some (after, events) =>
          some ({ state with clients := Function.update state.clients client after },
            events.map (⟨client, ·⟩))
      | none => none

def machine (endpoints : Client → Endpoint Index) :
    Machine (AsyncState Index Client) (AsyncLabel Index Client) (Event Client) where
  step state label :=
    match label with
    | .client client label => state.clientStep endpoints client label
    | .server label =>
        match state.exchange.serverStep label with
        | some exchange => some ({ state with exchange },
            servedEvents endpoints state.exchange exchange label)
        | none => none

end AsyncState

/-- The allocator hands out an address that is not in use, and sends succeed. -/
def LocalLabel.Valid (client : AsyncClient) : LocalLabel → Prop
  | .call _ address _ => address ≠ 0 ∧ client.heap address = none
  | .sendFails => False
  | _ => True

def AsyncState.Valid {Index Client : Type} (state : AsyncState Index Client) :
    AsyncLabel Index Client → Prop
  | .client client (.inside label) => label.Valid (state.clients client)
  | .client _ _ => True
  | .server label => state.exchange.ValidLabel label

end Cvbd
