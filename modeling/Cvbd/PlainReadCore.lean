import Cvbd.AsyncCore
import Cvbd.Separate
import Cvbd.WireReply

/-!
`shared_mem_read` on an asynchronous client. `send_read` receives from the reply
queue itself, beside the reply thread, and both receive into the one reply
object. The thread that makes the call is the event loop, so meanwhile only the
two receivers and the server work on the client's messages; other clients use
the server too.

The reply thread looks at the header first and takes the rest of the message
from the reply object later, so what it handles is put together from both.
-/

namespace Cvbd

namespace Wire

def viewReadSize (bytes : Bytes) : UInt64 := UInt64.ofNat (LittleEndian.load bytes 32 8)
def viewReadData (bytes : Bytes) : Bytes := fun index => bytes (40 + index)
def viewFsyncErr (bytes : Bytes) : Int32 := (UInt32.ofNat (LittleEndian.load bytes 32 4)).toInt32

/-- The reply that `handle_co_reply` works on after it has looked at `header`. -/
def viewReply (header : Header) (bytes : Bytes) : Reply :=
  match header.type with
  | .reqOpen => .openVolume ⟨header, viewVolume bytes, viewOpenErr bytes⟩
  | .reqGetsize => .getsize ⟨header, viewGetsize bytes⟩
  | .reqFsync => .fsync ⟨header, viewFsyncErr bytes⟩
  | .reqUnknow | .reqRead | .reqWrite | .reqClose =>
      .read ⟨header, viewReadSize bytes, viewReadData bytes⟩

end Wire

/-- Where `send_read` is. -/
inductive PlainCaller
  | outside
  | sending (request : Request)
  | receiving
  | received
  | checked
  | returned

/-- What the reply thread still takes from the reply object. -/
inductive ReplyWindow
  | closed
  | received
  | tested (header : Header)

structure PlainRead (Index Client : Type) where
  exchange : Exchange Index Client
  client : AsyncClient
  replyMsg : Bytes
  caller : PlainCaller
  window : ReplyWindow
  /-- The caller's buffer. -/
  message : Bytes
  /-- An assert of `send_read` has fired. -/
  aborted : Bool
  /-- History: the messages that `send_read` and the reply thread have received, and those the
  latter has seen in the reply object. -/
  taken : List (Envelope Client Reply)
  threadTaken : List (Envelope Client Reply)
  seen : List Reply
  /-- History: the callbacks that are due, and those made. -/
  owed : List UInt64
  called : List UInt64

inductive PlainCallerLabel
  | begin
  | send
  | receive (serverOld : Bytes)
  | check
  | copy

inductive PlainReplyLabel
  | receive (serverOld : Bytes)
  | test
  | copy
  | finish

inductive PlainReadLabel (Index Client : Type)
  | caller (label : PlainCallerLabel)
  | replyThread (label : PlainReplyLabel)
  | server (label : ServerLabel Index)
  | push (index : Index) (request : Envelope Client Request)
  | pop (mq : Nat)

/-- One call of `shared_mem_read`; `call` numbers its messages. -/
structure PlainCall (Index Client : Type) where
  self : Client
  endpoint : Endpoint Index
  call : Nat
  sizeInBytes : UInt64
  offset : Int64

namespace PlainRead

variable {Index Client : Type} [DecidableEq Index]

def callerStep (plain : PlainCall Index Client) (state : PlainRead Index Client) :
    PlainCallerLabel → Option (PlainRead Index Client)
  | .begin =>
      match state.caller with
      | .outside =>
          match state.client.shared.sendRead plain.sizeInBytes plain.offset with
          | none => some { state with aborted := true }
          | some (request, shared) =>
              some { state with
                client := { state.client with shared }
                caller := .sending request }
      | _ => none
  | .send =>
      match state.caller with
      | .sending request =>
          match state.exchange.pushRequest plain.endpoint.index ⟨plain.self, plain.call, request⟩ with
          | some exchange => some { state with exchange, caller := .receiving }
          | none => none
      | _ => none
  | .receive serverOld =>
      match state.caller with
      | .receiving =>
          match state.exchange.popReply plain.endpoint.mq with
          | some (reply, exchange) =>
              some { state with
                exchange
                replyMsg := Wire.receive state.replyMsg (Wire.replyMessage serverOld reply.body)
                caller := .received
                taken := state.taken ++ [reply] }
          | none => none
      | _ => none
  | .check =>
      match state.caller with
      | .received =>
          if (Wire.viewHeader state.replyMsg).type = .reqRead ∧
              plain.sizeInBytes = Wire.viewReadSize state.replyMsg then
            some { state with caller := .checked }
          else some { state with aborted := true }
      | _ => none
  | .copy =>
      match state.caller with
      | .checked =>
          some { state with
            message := Region.copy state.message 0 (Wire.viewReadData state.replyMsg)
              plain.sizeInBytes.toNat
            caller := .returned }
      | _ => none

def replyStep (endpoint : Endpoint Index) (state : PlainRead Index Client) :
    PlainReplyLabel → Option (PlainRead Index Client)
  | .receive serverOld =>
      match state.client.replyThread, state.window with
      | .idle, .closed =>
          match state.exchange.popReply endpoint.mq with
          | some (reply, exchange) =>
              some { state with
                exchange
                replyMsg := Wire.receive state.replyMsg (Wire.replyMessage serverOld reply.body)
                window := .received
                threadTaken := state.threadTaken ++ [reply] }
          | none => none
      | _, _ => none
  | .test =>
      match state.window with
      | .received => some { state with window := .tested (Wire.viewHeader state.replyMsg) }
      | _ => none
  | .copy =>
      match state.window with
      | .tested header =>
          let reply := Wire.viewReply header state.replyMsg
          some { state with
            client := state.client.handleCoReply reply
            window := .closed
            seen := state.seen ++ [reply]
            owed := state.owed ++ reply.callbacks }
      | _ => none
  | .finish =>
      match state.client.replyThread with
      | .finishing acb ret =>
          some { state with client := state.client.finish acb ret, called := state.called ++ [acb] }
      | _ => none

/-- After an assert of the client has failed, only the server and the other clients go on. -/
def step (plain : PlainCall Index Client) (state : PlainRead Index Client)
    (label : PlainReadLabel Index Client) : Option (PlainRead Index Client) :=
  match label with
  | .caller label =>
      if state.aborted || state.client.fault.isSome then none else state.callerStep plain label
  | .replyThread label =>
      if state.aborted || state.client.fault.isSome then none
      else state.replyStep plain.endpoint label
  | .server label =>
      (state.exchange.serverStep label).map fun exchange => { state with exchange }
  | .push index request =>
      (state.exchange.pushRequest index request).map fun exchange => { state with exchange }
  | .pop mq =>
      (state.exchange.popReply mq).map fun popped => { state with exchange := popped.2 }

def machine (plain : PlainCall Index Client) :
    Machine (PlainRead Index Client) (PlainReadLabel Index Client) Empty where
  step := fun state label => (state.step plain label).map fun after => (after, [])

/-- The messages of the client in flight. -/
def own [DecidableEq Client] (plain : PlainCall Index Client) (state : PlainRead Index Client) :
    Service Client :=
  state.exchange.service plain.endpoint plain.self

/-- The kernel answers as POSIX allows. Other clients may use the server, but are not answered in
this client's queue. -/
def Valid (plain : PlainCall Index Client) (state : PlainRead Index Client) :
    PlainReadLabel Index Client → Prop
  | .caller _ | .replyThread _ => True
  | .server label =>
      state.exchange.ValidLabel label ∧ state.exchange.Apart plain.endpoint plain.self label
  | .push _ request => request.sender ≠ plain.self
  | .pop mq => mq ≠ plain.endpoint.mq

/-- A reply that the reply thread can complete: the control block of a read or a flush is live. -/
def Completes (heap : UInt64 → Option Acb) (reply : Reply) : Prop :=
  reply.header.stop = false ∧
    match reply with
    | .read reply => reply.header.type = .reqRead ∧ reply.header.acb ≠ 0 ∧
        reply.sizeInBytes.toNat ≤ maxDataSize ∧
        ∃ acb, heap reply.header.acb = some acb ∧ acb.callback = true ∧ acb.qiov ≠ none
    | .fsync reply => reply.header.type = .reqFsync ∧ reply.header.acb ≠ 0 ∧
        ∃ acb, heap reply.header.acb = some acb ∧ acb.callback = true
    | .getsize reply => reply.header.type = .reqGetsize
    | .openVolume reply => reply.header.type = .reqOpen

/-- The reply thread has got from the reply object what the server had sent. -/
def SeenAs : Reply → Reply → Prop
  | .read sent, .read got => got.header = sent.header ∧ got.sizeInBytes = sent.sizeInBytes ∧
      ∀ index, index < sent.sizeInBytes.toNat → got.data index = sent.data index
  | .fsync sent, .fsync got => got.header = sent.header ∧ got.err = sent.err
  | .getsize sent, .getsize got => got.header = sent.header
  | .openVolume sent, .openVolume got => got.header = sent.header
  | _, _ => False

/-- The reply thread works on the messages listed: none, or the one whose rest it still takes from
the reply object. -/
inductive Working (plain : PlainCall Index Client) (state : PlainRead Index Client) :
    List (Envelope Client Reply) → Prop
  | nothing (window : state.window = .closed) : Working plain state []
  | received {reply} (window : state.window = .received) (idle : state.client.replyThread = .idle)
      (foreign : reply.call ≠ plain.call) (completes : Completes state.client.heap reply.body)
      (header : Wire.viewHeader state.replyMsg = reply.body.header)
      (rest : SeenAs reply.body (Wire.viewReply reply.body.header state.replyMsg)) :
      Working plain state [reply]
  | tested {reply} (window : state.window = .tested reply.body.header)
      (idle : state.client.replyThread = .idle) (foreign : reply.call ≠ plain.call)
      (completes : Completes state.client.heap reply.body)
      (rest : SeenAs reply.body (Wire.viewReply reply.body.header state.replyMsg)) :
      Working plain state [reply]

/-- The reply thread has not ended, and the control block of its callback is live. -/
def ThreadLive (client : AsyncClient) : Prop :=
  client.replyThread = .idle ∨ ∃ address ret acb, client.replyThread = .finishing address ret ∧
    client.heap address = some acb ∧ acb.callback = true

/-- Any moment before the call. Reads, flushes and control requests may be outstanding, and the
reply thread may be anywhere. -/
structure Start [DecidableEq Client] (plain : PlainCall Index Client)
    (state : PlainRead Index Client) : Prop where
  separate : state.exchange.Separate plain.endpoint plain.self
  requests : ∀ envelope, envelope ∈ (state.own plain).requests → envelope.call ≠ plain.call ∧
    ∀ reply, RepliesTo envelope.body reply → Completes state.client.heap reply
  replies : ∀ envelope, envelope ∈ (state.own plain).replies → envelope.sender = plain.self ∧
    envelope.call ≠ plain.call ∧ Completes state.client.heap envelope.body
  small : plain.sizeInBytes.toNat ≤ maxDataSize
  fault : state.client.fault = none
  aborted : state.aborted = false
  caller : state.caller = .outside
  thread : ThreadLive state.client
  taken : state.taken = []
  threadTaken : Working plain state state.threadTaken
  seen : state.seen = []
  owed : state.owed = state.client.replyThread.pending
  called : state.called = []

/-- Each receiver takes its own messages, and none over something in the reply object that the
other one has still to read. An `FsyncReply` ends where the data of a `ReadReply` begins. -/
def Ordered (plain : PlainCall Index Client) (state : PlainRead Index Client) :
    PlainReadLabel Index Client → Prop
  | .caller (.receive _) => ∀ reply rest, state.exchange.replyMq plain.endpoint.mq = reply :: rest →
      reply.call = plain.call ∧ state.window = .closed
  | .replyThread (.receive serverOld) =>
      ∀ reply rest, state.exchange.replyMq plain.endpoint.mq = reply :: rest →
        reply.call ≠ plain.call ∧ state.caller ≠ .received ∧
          (state.caller = .checked → (Wire.replyMessage serverOld reply.body).size ≤ 40)
  | _ => True

/-- What `shared_mem_read` and the reply thread owe their callers. -/
structure OwnReplies (plain : PlainCall Index Client) (state : PlainRead Index Client) : Prop where
  healthy : state.client.fault = none ∧ state.aborted = false
  mine : ∀ reply, reply ∈ state.taken → reply.sender = plain.self ∧ reply.call = plain.call
  others : ∀ reply, reply ∈ state.threadTaken → reply.call ≠ plain.call
  /-- The reply thread sees its messages as sent, and makes the callbacks they ask for. -/
  completed : ∃ done working, state.threadTaken = done ++ working ∧ working.length ≤ 1 ∧
    (state.window = .closed → working = []) ∧
      List.Forall₂ (fun reply got => SeenAs reply.body got) done state.seen
  callbacks : state.owed = state.called ++ state.client.replyThread.pending
  returned : state.caller = .returned → ∃ reply : ReadReply,
    state.taken = [⟨plain.self, plain.call, .read reply⟩] ∧
      ∀ index, index < plain.sizeInBytes.toNat → state.message index = reply.data index

end PlainRead

end Cvbd
