import Cvbd.AsyncDriver
import Cvbd.ClientShutdownTotal

/-! The shutdown of a client that has completed its open. -/

namespace Cvbd

namespace ClientShutdown

variable {Index Client : Type} [DecidableEq Index] [DecidableEq Client]
variable {endpoints : Client → Endpoint Index} {async : AsyncState Index Client}

/-- The driver with nothing of the client released. -/
def ofAsync (async : AsyncState Index Client) (receiving : Bool) : ClientShutdown Index Client where
  async := async
  receiving := receiving
  replyMsg := true
  replyMq := true
  destructor := .outside
  misuse := none
  owed := []
  called := []
  stopQueued := false

omit [DecidableEq Index] in
/-- No message is on its way when all clients have completed their opens. -/
theorem unstopped_of_started (started : async.Started endpoints) : Unstopped async where
  posting := by
    intro client call coroutine request found
    simp [(started.clients client).coroutines] at found
  queued := by
    intro index envelope member
    have none := started.requests envelope.sender
    rw [(started.wired.queued index envelope member).index] at member
    simp only [AsyncState.view, Exchange.service, List.append_eq_nil_iff,
      List.filter_eq_nil_iff] at none
    simpa using none.2 envelope member
  hand := by
    intro index envelope holds
    have none := started.requests envelope.sender
    rw [(started.wired.inHand index envelope holds).index] at holds
    simp [AsyncState.view, Exchange.service, Thread.requestsOf, holds] at none
  sending := by
    intro index mq envelope closing holds
    have none := started.replies envelope.sender
    rw [(started.wired.sending index mq envelope closing holds).1] at holds
    simp [AsyncState.view, Exchange.service, Thread.repliesOf, holds] at none

omit [DecidableEq Index] in
/-- From there, runs with any calls, and a `cvbd_close` at any moment, start. -/
theorem start_of_started (started : async.Started endpoints) (self : Client) (receiving : Bool) :
    (ofAsync async receiving).Start self endpoints := by
  have idle : (async.clients self).replyThread = .idle := (started.clients self).replyThread
  have none : async.exchange.replyMq (endpoints self).mq = [] := by
    have quiet := started.replies self
    simp only [AsyncState.view, Exchange.service, List.append_eq_nil_iff] at quiet
    exact quiet.1
  refine ⟨unstopped_of_started started, ?_, ?_, ?_, rfl, rfl, rfl, rfl, ?_, rfl, rfl⟩
  · simp [ofAsync, none]
  · simp [ofAsync, client, idle]
  · simp [ofAsync, client, idle]
  · simp [ofAsync, client, idle, none, ReplyThread.pending]

end ClientShutdown

/-! The client waits for replies and is closed. -/

namespace ClientShutdown

def sampleStart : ClientShutdown Unit Unit := ofAsync .sample true

theorem sampleStart_start : sampleStart.Start () fun _ => .sample :=
  start_of_started AsyncState.sample_started () true

def sampleStop : List (ClientShutdownLabel Unit Unit) :=
  [.close, .sendClose, .resetRequest, .resetReply, .remove, .stop]

/-- The labels of these runs need no promise. -/
def plain : ClientShutdownLabel Unit Unit → Bool
  | .async (.client _ .receive) => true
  | .async _ => false
  | _ => true

theorem plain_sound {state : ClientShutdown Unit Unit} {label : ClientShutdownLabel Unit Unit}
    (passes : plain label = true) : state.Valid label := by
  cases label with
  | async label =>
      cases label with
      | client client label =>
          cases label with
          | receive => trivial
          | send => simp [plain] at passes
          | inside label => simp [plain] at passes
      | server label => simp [plain] at passes
  | enter => trivial
  | close => trivial
  | sendClose => trivial
  | closeFails => trivial
  | resetRequest => trivial
  | resetReply => trivial
  | remove => trivial
  | stop => trivial
  | destroy => trivial

def isFinished (state : ClientShutdown Unit Unit) : Bool :=
  match state.destructor with
  | .finished => true
  | _ => false

theorem isFinished_sound {state : ClientShutdown Unit Unit} (test : isFinished state = true) :
    state.destructor = .finished := by
  unfold isFinished at test
  split at test
  · assumption
  · simp at test

theorem sample_notClean : ∃ trace state,
    (machine () fun _ => .sample).Run Valid sampleStart trace state ∧
      state.destructor = .finished ∧ ¬state.Clean () fun _ => .sample := by
  obtain ⟨trace, state, run, test⟩ := Machine.Run.of_exec
    (machine () fun _ : Unit => .sample) sampleStart (fun _ label => plain label)
    (fun state label passes => (plain_sound passes : state.Valid label)) (sampleStop ++ [.destroy])
    (fun _ state => isFinished state) (by decide +kernel)
  have finished := isFinished_sound test
  exact ⟨trace, state, run, finished, Start.notClean sampleStart_start run finished⟩

/-- The reply thread, which was inside `receive` all the time, gets the stop message into the
reply object that is gone. -/
theorem stop_intoReleased : ¬∀ (start : ClientShutdown Unit Unit) trace state,
    start.Start () (fun _ => .sample) →
    (machine () fun _ => .sample).Run Valid start trace state → state.Clean () fun _ => .sample := by
  intro clean
  obtain ⟨trace, state, run, test⟩ := Machine.Run.of_exec
    (machine () fun _ : Unit => .sample) sampleStart (fun _ label => plain label)
    (fun state label passes => (plain_sound passes : state.Valid label))
    (sampleStop ++ [.async (.client () .receive)])
    (fun _ state => state.misuse.isSome) (by decide +kernel)
  have kept := clean sampleStart trace state sampleStart_start run
  simp [kept.noMisuse] at test

end ClientShutdown

end Cvbd
