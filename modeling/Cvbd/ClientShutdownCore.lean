import Cvbd.AsyncCore

/-!
`cvbd_close` of an asynchronous client beside its reply thread, the server and
the other clients: `release_volume`, then `~SharedMemClient`. The reply object
and the reply queue belong to the object that is destroyed, and nothing joins
the reply thread; what it does with either after its release is recorded and the
run goes on.
-/

namespace Cvbd

/-- The next statement of `cvbd_close`. -/
inductive ClientDestructor
  | outside
  | closing (request : Request)
  | resettingRequest
  | resettingReply
  | removing
  | stopping
  | destroying
  | finished

inductive ReplyMisuse
  | releasedReply
  | destroyedQueue

structure ClientShutdown (Index Client : Type) where
  async : AsyncState Index Client
  /-- The reply thread is inside `receive`. -/
  receiving : Bool
  /-- `reply_msg_` and `reply_mq_` still hold their objects. -/
  replyMsg : Bool
  replyMq : Bool
  destructor : ClientDestructor
  misuse : Option ReplyMisuse
  /-- History: the callbacks that the replies ahead of the stop message ask for, the callbacks
  made, and whether the stop message was queued. -/
  owed : List UInt64
  called : List UInt64
  stopQueued : Bool

inductive ClientShutdownLabel (Index Client : Type)
  | async (label : AsyncLabel Index Client)
  | enter
  | close
  | sendClose
  | closeFails
  | resetRequest
  | resetReply
  | remove
  | stop
  | destroy

/-- `getStopRequest<Header>()`; the reply thread looks at nothing but the flag. -/
def stopReply : Reply := .fsync ⟨⟨true, .reqUnknow, 0, 0, 0⟩, 0⟩

/-- Steps of the event loop, the thread that calls `cvbd_close`. -/
def ClientLabel.inEventLoop : ClientLabel → Bool
  | .send => true
  | .receive => false
  | .inside label =>
      match label with
      | .copy | .finish | .guest _ => false
      | _ => true

namespace ClientShutdown

variable {Index Client : Type} [DecidableEq Index] [DecidableEq Client]

/-- The reply thread uses the reply object. -/
def useReply (state : ClientShutdown Index Client) : ClientShutdown Index Client :=
  if state.replyMsg then state else { state with misuse := some .releasedReply }

/-- The reply thread uses the reply queue. -/
def useQueue (state : ClientShutdown Index Client) : ClientShutdown Index Client :=
  if state.replyMq then state else { state with misuse := some .destroyedQueue }

section

variable (self : Client) (endpoints : Client → Endpoint Index)

def client (state : ClientShutdown Index Client) : AsyncClient := state.async.clients self

/-- The reply thread calls `reply_mq_->receive(reply_msg_.get(), ..)`. -/
def enter (state : ClientShutdown Index Client) : Option (ClientShutdown Index Client) :=
  match (state.client self).replyThread, state.receiving with
  | .idle, false => some { state.useQueue with receiving := true }
  | _, _ => none

/-- The client's own threads. The message is copied into the reply object, whose header and data
are read when the reply is looked at; the callback uses neither. -/
def selfStep (state : ClientShutdown Index Client) (label : ClientLabel) :
    Option (ClientShutdown Index Client) :=
  match state.async.clientStep endpoints self label with
  | none => none
  | some (async, _) =>
      match label with
      | .receive =>
          if state.receiving then some { state.useQueue.useReply with async, receiving := false }
          else none
      | .inside .copy => some { state.useReply with async }
      | .inside .finish =>
          match (state.client self).replyThread with
          | .finishing acb _ => some { state with async, called := state.called ++ [acb] }
          | _ => none
      | label =>
          match label.inEventLoop, state.destructor with
          | false, _ | true, .outside => some { state with async }
          | true, _ => none

/-- The replies that a step of the server adds to the queue `mq`. -/
def arriving (exchange : Exchange Index Client) (mq : Nat) : ServerLabel Index → List Reply
  | .send index =>
      match exchange.thread index with
      | .sending target reply _ => if target = mq then [reply.body] else []
      | _ => []
  | _ => []

/-- Another client or the server. -/
def otherStep (state : ClientShutdown Index Client) (label : AsyncLabel Index Client) :
    Option (ClientShutdown Index Client) :=
  match (AsyncState.machine endpoints).step state.async label with
  | none => none
  | some (async, _) =>
      match label with
      | .client _ _ => some { state with async }
      | .server label =>
          let arrived := arriving state.async.exchange (endpoints self).mq label
          if state.stopQueued then some { state with async }
          else some { state with async, owed := state.owed ++ arrived.flatMap Reply.callbacks }

/-- `release_volume`: `send_close` fills its message. -/
def close (state : ClientShutdown Index Client) : Option (ClientShutdown Index Client) :=
  match state.destructor, (state.client self).current with
  | .outside, none =>
      let (request, shared) := (state.client self).shared.sendClose
      let client := { state.client self with shared }
      some { state with
        async := { state.async with clients := Function.update state.async.clients self client }
        destructor := .closing request }
  | _, _ => none

def sendClose (state : ClientShutdown Index Client) : Option (ClientShutdown Index Client) :=
  match state.destructor with
  | .closing request =>
      match state.async.exchange.pushRequest (endpoints self).index
          ⟨self, (state.client self).next, request⟩ with
      | none => none
      | some exchange =>
          some { state with
            async := { state.async with exchange }
            destructor := .resettingRequest }
  | _ => none

/-- The send throws; `release_volume` returns false, and `cvbd_close` does not look at it. -/
def closeFails (state : ClientShutdown Index Client) : Option (ClientShutdown Index Client) :=
  match state.destructor with
  | .closing _ => some { state with destructor := .resettingRequest }
  | _ => none

def resetRequest (state : ClientShutdown Index Client) : Option (ClientShutdown Index Client) :=
  match state.destructor with
  | .resettingRequest => some { state with destructor := .resettingReply }
  | _ => none

def resetReply (state : ClientShutdown Index Client) : Option (ClientShutdown Index Client) :=
  match state.destructor with
  | .resettingReply => some { state with replyMsg := false, destructor := .removing }
  | _ => none

/-- `message_queue::remove(volume_name_.c_str())`. -/
def remove (state : ClientShutdown Index Client) : Option (ClientShutdown Index Client) :=
  match state.destructor with
  | .removing =>
      let exchange := state.async.exchange
      let world := { exchange.world with
        mqNames := Function.update exchange.world.mqNames (state.client self).shared.volumeName none }
      some { state with
        async := { state.async with exchange := { exchange with world } }
        destructor := .stopping }
  | _ => none

/-- A failed `try_send` is only logged. -/
def stop (state : ClientShutdown Index Client) : Option (ClientShutdown Index Client) :=
  match state.destructor with
  | .stopping =>
      let exchange := state.async.exchange
      let mq := (endpoints self).mq
      if (exchange.replyMq mq).length < maxQueueSize then
        let queue := exchange.replyMq mq ++ [⟨self, (state.client self).next, stopReply⟩]
        let exchange := { exchange with replyMq := Function.update exchange.replyMq mq queue }
        some { state with
          async := { state.async with exchange }
          destructor := .destroying
          stopQueued := true }
      else some { state with destructor := .destroying }
  | _ => none

/-- Behind the body the members go: `reply_mq_`, and the thread object, which detaches. -/
def destroy (state : ClientShutdown Index Client) : Option (ClientShutdown Index Client) :=
  match state.destructor with
  | .destroying => some { state with replyMq := false, destructor := .finished }
  | _ => none

/-- After an assert of the client has failed, only the server and the other clients go on. -/
def step (state : ClientShutdown Index Client) (label : ClientShutdownLabel Index Client) :
    Option (ClientShutdown Index Client) :=
  match label with
  | .async (.client client label) =>
      if client = self then state.selfStep self endpoints label
      else state.otherStep self endpoints (.client client label)
  | .async (.server label) => state.otherStep self endpoints (.server label)
  | label =>
      if (state.client self).fault.isSome then none
      else match label with
        | .enter => state.enter self
        | .close => state.close self
        | .sendClose => state.sendClose self endpoints
        | .closeFails => state.closeFails
        | .resetRequest => state.resetRequest
        | .resetReply => state.resetReply
        | .remove => state.remove self
        | .stop => state.stop self endpoints
        | .destroy => state.destroy
        | .async _ => none

def machine : Machine (ClientShutdown Index Client) (ClientShutdownLabel Index Client) Empty where
  step := fun state label => (state.step self endpoints label).map fun after => (after, [])

end

def Valid (state : ClientShutdown Index Client) : ClientShutdownLabel Index Client → Prop
  | .async label => state.async.Valid label
  | _ => True

/-- No message carries the stop flag. -/
structure Unstopped (state : AsyncState Index Client) : Prop where
  posting : ∀ client call coroutine request, (state.clients client).coroutines call =
    some coroutine → coroutine.pc = .sending request → request.header.stop = false
  queued : ∀ index envelope, envelope ∈ state.exchange.requestMq index →
    envelope.body.header.stop = false
  hand : ∀ index envelope, state.exchange.thread index = .hand envelope →
    envelope.body.header.stop = false
  sending : ∀ index mq envelope closing, state.exchange.thread index = .sending mq envelope closing →
    envelope.body.header.stop = false

/-- Any moment before `cvbd_close`, with any replies on their way. -/
structure Start (closer : Client) (endpoints : Client → Endpoint Index)
    (state : ClientShutdown Index Client) : Prop where
  unstopped : Unstopped state.async
  replies : ∀ envelope, envelope ∈ state.async.exchange.replyMq (endpoints closer).mq →
    envelope.body.header.stop = false
  taken : ∀ call reply, (state.client closer).replyThread = .hand call reply →
    reply.header.stop = false
  running : (state.client closer).replyThread ≠ .stopped
  replyMsg : state.replyMsg = true
  replyMq : state.replyMq = true
  destructor : state.destructor = .outside
  misuse : state.misuse = none
  owed : state.owed = (state.client closer).replyThread.pending ++
    (state.async.exchange.replyMq (endpoints closer).mq).flatMap fun envelope => envelope.body.callbacks
  called : state.called = []
  stopQueued : state.stopQueued = false

/-- What a clean shutdown keeps at every moment. -/
structure Clean (closer : Client) (endpoints : Client → Endpoint Index)
    (state : ClientShutdown Index Client) : Prop where
  noMisuse : state.misuse = none
  delivered : (state.client closer).replyThread = .stopped → state.called = state.owed
  /-- The reply thread has exited, or can still take a stop message, as it should be. -/
  exits : state.destructor = .finished → ∃ trace later,
    (machine closer endpoints).Run Valid state trace later ∧
      (later.client closer).replyThread = .stopped ∧ later.misuse = none

end ClientShutdown

end Cvbd
