import Cvbd.ClientCore
import Cvbd.ServiceCore
import Cvbd.Lib.Machine
import Cvbd.WireReply

/-!
The control calls of an asynchronous client: `send_open`, which waits on a
condition variable, and `send_getsize`, which does not wait, against the reply
thread. Both read the one reply object that the reply thread receives into.

The thread is started by the constructor. The mutex of the condition variable is
taken by `WAIT_TO_COMPLETE` alone, so locking it never blocks; a signal is issued
without it. Reads and flushes in flight are followed as far as the reply object.
-/

namespace Cvbd

inductive Operation
  | openVolume
  | getsize
  deriving DecidableEq, Repr

/-- The calling thread. From `locking` to `waking` it is inside `WAIT_TO_COMPLETE`; `opened` and
`sized` carry the value the call has returned. -/
inductive Caller
  | constructing
  | sending (operation : Operation) (request : Request)
  | locking
  | entering
  | waiting
  | waking
  | reading (operation : Operation)
  | opened (err : Int32)
  | sized (length : Int64)

/-- `handle_co_reply`: blocked in the receive, with a reply it has not looked at, or about to
signal. -/
inductive ReplyLoop
  | receiving
  | received
  | signalling
  | stopped
  deriving DecidableEq, Repr

structure ControlState (Index Client : Type) where
  exchange : Exchange Index Client
  shared : SharedMemClient
  replyMsg : Bytes
  caller : Caller
  replyLoop : ReplyLoop
  /-- The number of the caller's latest message, a history variable. -/
  call : Nat
  /-- An assert has fired. -/
  aborted : Bool

inductive CallerLabel
  | construct
  | getsize
  | send
  | lock
  | wait
  | spurious
  | unlock
  | read

/-- `serverOld` is what the server's reply object held before it was filled. -/
inductive ReplyLabel
  | receive (serverOld : Bytes)
  | dispatch
  | signal

/-- Besides the two threads and the server, other clients use the same queues. -/
inductive ControlLabel (Index Client : Type)
  | caller (label : CallerLabel)
  | replyThread (label : ReplyLabel)
  | server (label : ServerLabel Index)
  | push (index : Index) (request : Envelope Client Request)
  | pop (mq : Nat)

inductive ControlEvent (Client : Type)
  | answered (reply : Envelope Client Reply)
  | received (reply : Envelope Client Reply)
  | signalled

/-- `cvbd_getlength` keeps the size in a `uint64_t` on its way to QEMU. -/
def cvbdGetlength (size : Int64) : Int64 := size.toUInt64.toInt64

/-- Where the caller goes on behind its send. -/
def Operation.afterSend : Operation → Caller
  | .openVolume => .locking
  | .getsize => .reading .getsize

namespace ControlState

variable {Index Client : Type} [DecidableEq Index]

/-- What `send_open` and `send_getsize` do with the reply object. -/
def readReply (state : ControlState Index Client) : Operation → ControlState Index Client
  | .openVolume =>
      if (Wire.viewHeader state.replyMsg).type = .reqOpen then
        let err := Wire.viewOpenErr state.replyMsg
        if err = 0 then
          { state with
            shared := { state.shared with volume := Wire.viewVolume state.replyMsg }
            caller := .opened err }
        else { state with caller := .opened err }
      else { state with aborted := true }
  | .getsize => { state with caller := .sized (cvbdGetlength (Wire.viewGetsize state.replyMsg)) }

def callerStep (self : Client) (endpoint : Endpoint Index) (state : ControlState Index Client) :
    CallerLabel → Option (ControlState Index Client)
  | .construct =>
      match state.caller with
      | .constructing =>
          let (request, shared) := state.shared.sendOpen
          some { state with shared, caller := .sending .openVolume request, call := state.call + 1 }
      | _ => none
  | .getsize =>
      match state.caller with
      | .opened 0 | .sized _ =>
          let (request, shared) := state.shared.sendGetsize
          some { state with shared, caller := .sending .getsize request, call := state.call + 1 }
      | _ => none
  | .send =>
      match state.caller with
      | .sending operation request =>
          match state.exchange.pushRequest endpoint.index ⟨self, state.call, request⟩ with
          | some exchange => some { state with exchange, caller := operation.afterSend }
          | none => none
      | _ => none
  | .lock =>
      match state.caller with
      | .locking => some { state with caller := .entering }
      | _ => none
  | .wait =>
      match state.caller with
      | .entering => some { state with caller := .waiting }
      | _ => none
  | .spurious =>
      match state.caller with
      | .waiting => some { state with caller := .waking }
      | _ => none
  | .unlock =>
      match state.caller with
      | .waking => some { state with caller := .reading .openVolume }
      | _ => none
  | .read =>
      match state.caller with
      | .reading operation => some (state.readReply operation)
      | _ => none

/-- The tests of `handle_co_reply` on the header it finds in the reply object. For reads and flushes
the control block's callback follows, which uses neither the reply object nor the condition. -/
def handleCoReply (state : ControlState Index Client) : ControlState Index Client :=
  let header := Wire.viewHeader state.replyMsg
  if header.stop then { state with replyLoop := .stopped }
  else match header.type with
    | .reqRead | .reqFsync =>
        if header.acb = 0 then { state with aborted := true }
        else { state with replyLoop := .receiving }
    | .reqOpen | .reqGetsize => { state with replyLoop := .signalling }
    | .reqUnknow | .reqWrite | .reqClose => { state with aborted := true }

/-- `pthread_cond_signal`: without a waiter it has no effect. -/
def signal (state : ControlState Index Client) : ControlState Index Client :=
  match state.caller with
  | .waiting => { state with caller := .waking }
  | _ => state

def replyStep (endpoint : Endpoint Index) (state : ControlState Index Client) :
    ReplyLabel → Option (ControlState Index Client × List (ControlEvent Client))
  | .receive serverOld =>
      match state.replyLoop with
      | .receiving =>
          match state.exchange.popReply endpoint.mq with
          | some (reply, exchange) => some ({ state with
              exchange
              replyMsg := Wire.receive state.replyMsg (Wire.replyMessage serverOld reply.body)
              replyLoop := .received }, [.received reply])
          | none => none
      | _ => none
  | .dispatch =>
      match state.replyLoop with
      | .received => some (state.handleCoReply, [])
      | _ => none
  | .signal =>
      match state.replyLoop with
      | .signalling => some ({ state.signal with replyLoop := .receiving }, [.signalled])
      | _ => none

/-- A request that has been handled and is being answered. -/
def answers (after : Exchange Index Client) : ServerLabel Index → List (ControlEvent Client)
  | .handle index _ =>
      match after.thread index with
      | .sending _ reply _ => [.answered reply]
      | _ => []
  | _ => []

def machine (self : Client) (endpoint : Endpoint Index) :
    Machine (ControlState Index Client) (ControlLabel Index Client) (ControlEvent Client) where
  step state label :=
    if state.aborted then none
    else match label with
      | .caller label => (state.callerStep self endpoint label).map (·, [])
      | .replyThread label => state.replyStep endpoint label
      | .server label =>
          match state.exchange.serverStep label with
          | some exchange => some ({ state with exchange }, answers exchange label)
          | none => none
      | .push index request =>
          match state.exchange.pushRequest index request with
          | some exchange => some ({ state with exchange }, [])
          | none => none
      | .pop mq =>
          match state.exchange.popReply mq with
          | some (_, exchange) => some ({ state with exchange }, [])
          | none => none

end ControlState

end Cvbd
