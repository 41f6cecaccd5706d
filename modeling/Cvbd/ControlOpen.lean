import Cvbd.Control
import Cvbd.OpenTotal
import Cvbd.Separate

/-!
The handshake of `send_open` with the reply thread. Nothing but the order of the
steps ties the signal to the wait: the wake-up is lost when the signal comes
first, and a spurious wake-up passes the wait before the reply is there.
-/

namespace Cvbd

namespace Caller

/-- Inside `WAIT_TO_COMPLETE`, but not yet a waiter of the condition variable. -/
def aboutToWait : Caller → Bool
  | .locking | .entering => true
  | .constructing | .sending .. | .waiting | .waking | .reading _ | .opened _ | .sized _ => false

/-- Waiting for a signal, or about to. -/
def inWait : Caller → Bool
  | .locking | .entering | .waiting => true
  | .constructing | .sending .. | .waking | .reading _ | .opened _ | .sized _ => false

/-- Behind `pthread_cond_wait` in `send_open`. -/
def pastWait : Caller → Bool
  | .waking | .reading .openVolume | .opened _ => true
  | .constructing | .sending .. | .locking | .entering | .waiting | .reading .getsize
  | .sized _ => false

theorem notPast {caller : Caller} (inWait : caller.inWait = true) : caller.pastWait = false := by
  cases caller <;> simp_all [Caller.inWait, Caller.pastWait]

end Caller

/-- The messages of the client in flight: at most its OPEN or the answer to it. -/
structure InFlight {Client : Type} (sender : Client) (call : Nat) (service : Service Client) :
    Prop where
  single : service.requests.length + service.replies.length ≤ 1
  requests : ∀ request ∈ service.requests, ∃ req : OpenRequest,
    request = ⟨sender, call, .openVolume req⟩ ∧ req.header.type = .reqOpen ∧ req.header.stop = false
  replies : ∀ reply ∈ service.replies, ∃ opened : OpenReply,
    reply = ⟨sender, call, .openVolume opened⟩ ∧ opened.header.type = .reqOpen ∧
      opened.header.stop = false

theorem InFlight.moves {Client : Type} {self : Client} {call : Nat} {before after : Service Client}
    (flight : InFlight self call before) (moves : Exchange.Moves before after) :
    InFlight self call after := by
  have single := flight.single
  cases moves with
  | silent requests replies =>
      exact ⟨by rw [requests, replies]; exact single, by rw [requests]; exact flight.requests,
        by rw [replies]; exact flight.replies⟩
  | dropped queue requests replies =>
      rw [queue, List.length_cons] at single
      refine ⟨by rw [requests, replies]; omega, ?_, by rw [replies]; exact flight.replies⟩
      intro request member
      exact flight.requests request (by rw [queue, ← requests]; exact List.mem_cons_of_mem _ member)
  | @answered request rest reply queue requests replies answers =>
      rw [queue, List.length_cons] at single
      obtain ⟨req, rfl, type, stop⟩ := flight.requests request (by simp [queue])
      obtain ⟨opened, rfl, header⟩ := answers.openVolume
      refine ⟨?_, ?_, ?_⟩
      · rw [requests, replies, List.length_append, List.length_singleton]
        omega
      · intro other member
        exact flight.requests other (by rw [queue, ← requests]; exact List.mem_cons_of_mem _ member)
      · intro other member
        rw [replies, List.mem_append, List.mem_singleton] at member
        rcases member with old | rfl
        · exact flight.replies other old
        · exact ⟨opened, rfl, by rw [header]; exact type, by rw [header]; exact stop⟩
  | elsewhere queue requests replies =>
      rw [queue, List.length_append, List.length_singleton] at single
      refine ⟨by rw [requests, replies]; omega, by rw [requests]; exact flight.requests, ?_⟩
      intro reply member
      exact flight.replies reply (by rw [queue, ← replies]; exact List.mem_append_left _ member)

/-- A client without messages in flight gets none from the server. -/
theorem Exchange.Moves.quiet {Client : Type} {before after : Service Client}
    (moves : Exchange.Moves before after)
    (quiet : before.requests = [] ∧ before.replies = []) :
    after.requests = [] ∧ after.replies = [] := by
  cases moves with
  | silent requests replies => exact ⟨requests.trans quiet.1, replies.trans quiet.2⟩
  | dropped queue requests replies => simp [quiet.1] at queue
  | answered queue requests replies answers => simp [quiet.1] at queue
  | elsewhere queue requests replies => simp [quiet.2] at queue

def ControlEvent.isSignal {Client : Type} : ControlEvent Client → Bool
  | .signalled => true
  | .answered _ | .received _ => false

namespace ControlState

variable {Index Client : Type} [DecidableEq Index] [DecidableEq Client]
variable {self : Client} {endpoint : Endpoint Index}
variable {initial state after : ControlState Index Client}
variable {label : ControlLabel Index Client} {trace events : List (ControlEvent Client)}

/-- The messages of the client in flight. -/
def own (self : Client) (endpoint : Endpoint Index) (state : ControlState Index Client) :
    Service Client :=
  state.exchange.service endpoint self

/-- No request or reply of the client is in flight. -/
def Quiet (self : Client) (endpoint : Endpoint Index) (state : ControlState Index Client) : Prop :=
  (state.own self endpoint).requests = [] ∧ (state.own self endpoint).replies = []

/-- The constructor has created the reply queue and started the reply thread. -/
structure Constructing (sender : Client) (endpoint : Endpoint Index)
    (state : ControlState Index Client) : Prop where
  separate : state.exchange.Separate endpoint sender
  quiet : state.Quiet sender endpoint
  caller : state.caller = .constructing
  replyLoop : state.replyLoop = .receiving

/-- A run of `send_open`. Other clients may use the server, but are not answered in this client's
queue. -/
def Opening (self : Client) (endpoint : Endpoint Index) (state : ControlState Index Client) :
    ControlLabel Index Client → Prop
  | .caller .getsize => False
  | .caller _ | .replyThread _ => True
  | .server label => state.exchange.Apart endpoint self label
  | .push _ request => request.sender ≠ self
  | .pop mq => mq ≠ endpoint.mq

/-- The signal is not issued before the wait, and the wait does not wake up by itself before the
reply has been received. -/
def Timely (state : ControlState Index Client) : ControlLabel Index Client → Prop
  | .replyThread .signal => state.caller.aboutToWait = false
  | .caller .spurious => state.replyLoop ≠ .receiving
  | _ => True

/-- A lost wake-up: the reply has been consumed and its signal issued, `send_open` waits or is about
to, and no further signal will come. -/
def Stranded (self : Client) (endpoint : Endpoint Index) (trace : List (ControlEvent Client))
    (state : ControlState Index Client) : Prop :=
  state.caller.inWait = true ∧ .signalled ∈ trace ∧ state.replyLoop = .receiving ∧
    state.Quiet self endpoint

/-- What the handshake is to ensure. -/
structure Handshake (sender : Client) (endpoint : Endpoint Index) (volume : UInt64)
    (trace : List (ControlEvent Client)) (state : ControlState Index Client) : Prop where
  notStranded : ¬state.Stranded sender endpoint trace
  /-- Behind the wait the reply to the caller's own request is there, and it gives the results. -/
  reply : state.caller.pastWait = true → ∃ reply : OpenReply,
    .received ⟨sender, state.call, .openVolume reply⟩ ∈ trace ∧
      ∀ err, state.caller = .opened err → err = reply.err ∧
        state.shared.volume = if reply.err = 0 then reply.volume else volume

/-- The reply is in the reply object. -/
structure Arrived (sender : Client) (reply : OpenReply) (trace : List (ControlEvent Client))
    (state : ControlState Index Client) : Prop where
  received : .received ⟨sender, state.call, .openVolume reply⟩ ∈ trace
  type : reply.header.type = .reqOpen
  stop : reply.header.stop = false
  object : ∃ old serverOld,
    state.replyMsg = Wire.receive old (Wire.replyMessage serverOld (.openVolume reply))

omit [DecidableEq Index] [DecidableEq Client] in
theorem Arrived.views {reply : OpenReply} (arrived : state.Arrived self reply trace) :
    Wire.viewHeader state.replyMsg = reply.header ∧ Wire.viewOpenErr state.replyMsg = reply.err ∧
      Wire.viewVolume state.replyMsg = reply.volume := by
  obtain ⟨old, serverOld, object⟩ := arrived.object
  rw [object]
  exact ⟨Wire.viewHeader_reply old serverOld (.openVolume reply),
    Wire.viewOpenErr_openReply old serverOld reply, Wire.viewVolume_openReply old serverOld reply⟩

/-- What `send_open` has taken from the reply so far. -/
def Taken (reply : OpenReply) (volume : UInt64) (state : ControlState Index Client) : Prop :=
  match state.caller with
  | .opened err => err = reply.err ∧
      state.shared.volume = if reply.err = 0 then reply.volume else volume
  | _ => state.shared.volume = volume

/-- How far the handshake has come. -/
inductive Phase (self : Client) (endpoint : Endpoint Index) (volume : UInt64)
    (trace : List (ControlEvent Client)) (state : ControlState Index Client) : Prop
  | constructing (caller : state.caller = .constructing) (quiet : state.Quiet self endpoint)
      (replyLoop : state.replyLoop = .receiving) (silent : .signalled ∉ trace)
      (unchanged : state.shared.volume = volume)
  | sending {req : OpenRequest} (caller : state.caller = .sending .openVolume (.openVolume req))
      (type : req.header.type = .reqOpen) (stop : req.header.stop = false)
      (quiet : state.Quiet self endpoint) (replyLoop : state.replyLoop = .receiving)
      (silent : .signalled ∉ trace) (unchanged : state.shared.volume = volume)
  | pending (caller : state.caller.inWait = true)
      (flight : InFlight self state.call (state.own self endpoint))
      (replyLoop : state.replyLoop = .receiving) (silent : .signalled ∉ trace)
      (unchanged : state.shared.volume = volume)
  | unsignalled {reply : OpenReply} (arrived : state.Arrived self reply trace)
      (caller : state.caller.inWait = true ∨ state.caller.pastWait = true)
      (quiet : state.Quiet self endpoint)
      (replyLoop : state.replyLoop = .received ∨ state.replyLoop = .signalling)
      (silent : .signalled ∉ trace)
      (taken : state.Taken reply volume)
  | signalled {reply : OpenReply} (arrived : state.Arrived self reply trace)
      (caller : state.caller.pastWait = true) (quiet : state.Quiet self endpoint)
      (replyLoop : state.replyLoop = .receiving)
      (taken : state.Taken reply volume)

namespace Phase

variable {volume : UInt64}

omit [DecidableEq Index] in
/-- The reply is where the wait has been passed. -/
theorem handshake (phase : state.Phase self endpoint volume trace) :
    state.Handshake self endpoint volume trace := by
  cases phase with
  | constructing caller quiet replyLoop silent unchanged =>
      exact ⟨by simp [Stranded, silent], by simp [caller, Caller.pastWait]⟩
  | sending caller type stop quiet replyLoop silent unchanged =>
      exact ⟨by simp [Stranded, silent], by simp [caller, Caller.pastWait]⟩
  | pending caller flight replyLoop silent unchanged =>
      exact ⟨by simp [Stranded, silent], by simp [Caller.notPast caller]⟩
  | @unsignalled reply arrived caller quiet replyLoop silent taken =>
      refine ⟨by simp [Stranded, silent], fun _ => ⟨reply, arrived.received, ?_⟩⟩
      intro err opened
      simpa [Taken, opened] using taken
  | @signalled reply arrived caller quiet replyLoop taken =>
      refine ⟨?_, fun _ => ⟨reply, arrived.received, ?_⟩⟩
      · rintro ⟨inWait, _⟩
        simp [Caller.notPast inWait] at caller
      · intro err opened
        simpa [Taken, opened] using taken

omit [DecidableEq Index] in
theorem moves {exchange : Exchange Index Client} (phase : state.Phase self endpoint volume trace)
    (moves : Exchange.Moves (state.own self endpoint) (exchange.service endpoint self))
    (extra : List (ControlEvent Client)) (silentExtra : .signalled ∉ extra) :
    ({ state with exchange } : ControlState Index Client).Phase self endpoint volume
      (trace ++ extra) := by
  have silently (silent : .signalled ∉ trace) : .signalled ∉ trace ++ extra := by
    simp [silent, silentExtra]
  cases phase with
  | constructing caller quiet replyLoop silent unchanged =>
      exact .constructing caller (moves.quiet quiet) replyLoop (silently silent) unchanged
  | sending caller type stop quiet replyLoop silent unchanged =>
      exact .sending caller type stop (moves.quiet quiet) replyLoop (silently silent) unchanged
  | pending caller flight replyLoop silent unchanged =>
      exact .pending caller (flight.moves moves) replyLoop (silently silent) unchanged
  | unsignalled arrived caller quiet replyLoop silent taken =>
      exact .unsignalled ⟨List.mem_append_left _ arrived.received, arrived.type, arrived.stop,
        arrived.object⟩ caller (moves.quiet quiet) replyLoop (silently silent) taken
  | signalled arrived caller quiet replyLoop taken =>
      exact .signalled ⟨List.mem_append_left _ arrived.received, arrived.type, arrived.stop,
        arrived.object⟩ caller (moves.quiet quiet) replyLoop taken

end Phase

/-! The steps of the caller. -/

theorem Quiet.pushed {exchange : Exchange Index Client} {req : OpenRequest}
    (quiet : state.Quiet self endpoint) (type : req.header.type = .reqOpen)
    (stop : req.header.stop = false)
    (pushed : state.exchange.pushRequest endpoint.index ⟨self, state.call, .openVolume req⟩ =
      some exchange) : InFlight self state.call (exchange.service endpoint self) := by
  obtain ⟨requests, replies⟩ := Exchange.push_own self pushed
  obtain ⟨noRequests, noReplies⟩ := quiet
  simp only [own] at noRequests noReplies
  rw [noRequests, List.nil_append] at requests
  rw [noReplies] at replies
  refine ⟨by simp [requests, replies], ?_, by simp [replies]⟩
  intro request member
  rw [requests, List.mem_singleton] at member
  exact ⟨req, member, type, stop⟩

namespace Phase

variable {volume : UInt64}

theorem construct (phase : state.Phase self endpoint volume trace)
    (stepped : state.callerStep self endpoint .construct = some after) :
    after.Phase self endpoint volume trace := by
  simp only [callerStep] at stepped
  split at stepped
  · rename_i constructing
    obtain rfl := Option.some.inj stepped
    cases phase with
    | constructing caller quiet replyLoop silent unchanged =>
        exact .sending (by rw [SharedMemClient.sendOpen_request]) rfl rfl quiet replyLoop silent
          unchanged
    | sending caller => simp [caller] at constructing
    | pending caller => simp [constructing, Caller.inWait] at caller
    | unsignalled arrived caller => simp [constructing, Caller.inWait, Caller.pastWait] at caller
    | signalled arrived caller => simp [constructing, Caller.pastWait] at caller
  · simp at stepped

theorem send (phase : state.Phase self endpoint volume trace)
    (stepped : state.callerStep self endpoint .send = some after) :
    after.Phase self endpoint volume trace := by
  simp only [callerStep] at stepped
  split at stepped
  · rename_i operation request sending
    split at stepped
    · rename_i exchange pushed
      obtain rfl := Option.some.inj stepped
      cases phase with
      | constructing caller => simp [caller] at sending
      | sending caller type stop quiet replyLoop silent unchanged =>
          obtain ⟨rfl, rfl⟩ := Caller.sending.inj (caller.symm.trans sending)
          have flight := Quiet.pushed quiet type stop pushed
          exact .pending rfl flight replyLoop silent unchanged
      | pending caller => simp [sending, Caller.inWait] at caller
      | unsignalled arrived caller => simp [sending, Caller.inWait, Caller.pastWait] at caller
      | signalled arrived caller => simp [sending, Caller.pastWait] at caller
    · simp at stepped
  · simp at stepped

omit [DecidableEq Index] in
theorem stays {next : Caller} (phase : state.Phase self endpoint volume trace)
    (inWait : state.caller.inWait = true) (stillWaits : next.inWait = true) :
    ({ state with caller := next } : ControlState Index Client).Phase self endpoint volume trace := by
  cases phase with
  | constructing caller => simp [caller, Caller.inWait] at inWait
  | sending caller => simp [caller, Caller.inWait] at inWait
  | pending caller flight replyLoop silent unchanged =>
      exact .pending stillWaits flight replyLoop silent unchanged
  | unsignalled arrived caller quiet replyLoop silent taken =>
      refine .unsignalled ⟨arrived.received, arrived.type, arrived.stop, arrived.object⟩
        (Or.inl stillWaits) quiet replyLoop silent ?_
      cases was : state.caller <;> cases next <;> simp_all [Caller.inWait, Taken]
  | signalled arrived caller => simp [Caller.notPast inWait] at caller

omit [DecidableEq Index] in
/-- A step behind the wake-up that does not return yet, when the reply is there. -/
theorem passes {next : Caller} (phase : state.Phase self endpoint volume trace)
    (received : state.caller.inWait = true → state.replyLoop ≠ .receiving)
    (inside : state.caller.inWait = true ∨ state.caller = .waking)
    (past : next = .waking ∨ next = .reading .openVolume) :
    ({ state with caller := next } : ControlState Index Client).Phase self endpoint volume trace := by
  have nextPast : next.pastWait = true := by
    rcases past with rfl | rfl <;> rfl
  have kept {reply : OpenReply} (taken : state.Taken reply volume) :
      ({ state with caller := next } : ControlState Index Client).Taken reply volume := by
    have unchanged : state.shared.volume = volume := by
      cases caller : state.caller <;> simp_all [Caller.inWait, Taken]
    rcases past with rfl | rfl <;> exact unchanged
  cases phase with
  | constructing caller => simp [caller, Caller.inWait] at inside
  | sending caller => simp [caller, Caller.inWait] at inside
  | pending caller flight replyLoop => exact (received caller replyLoop).elim
  | unsignalled arrived caller quiet replyLoop silent taken =>
      exact .unsignalled ⟨arrived.received, arrived.type, arrived.stop, arrived.object⟩
        (Or.inr nextPast) quiet replyLoop silent (kept taken)
  | signalled arrived caller quiet replyLoop taken =>
      exact .signalled ⟨arrived.received, arrived.type, arrived.stop, arrived.object⟩ nextPast quiet
        replyLoop (kept taken)

theorem read (phase : state.Phase self endpoint volume trace)
    (stepped : state.callerStep self endpoint .read = some after) :
    after.Phase self endpoint volume trace := by
  simp only [callerStep] at stepped
  split at stepped
  · rename_i operation reading
    obtain rfl := Option.some.inj stepped
    -- Only a reply that has arrived is read.
    have opens {reply : OpenReply} (arrived : state.Arrived self reply trace)
        (past : state.caller.pastWait = true) (taken : state.Taken reply volume) :
        ∃ shared, state.readReply operation = { state with shared, caller := .opened reply.err } ∧
          shared.volume = if reply.err = 0 then reply.volume else volume := by
      obtain ⟨header, err, given⟩ := arrived.views
      have unchanged : state.shared.volume = volume := by
        simpa [Taken, reading] using taken
      cases operation with
      | getsize => simp [reading, Caller.pastWait] at past
      | openVolume =>
          simp only [readReply, header, arrived.type, if_true, err, given]
          by_cases success : reply.err = 0
          · exact ⟨{ state.shared with volume := reply.volume }, by simp [success],
              by simp [success]⟩
          · exact ⟨state.shared, by simp [success], by simp [success, unchanged]⟩
    cases phase with
    | constructing caller => simp [caller] at reading
    | sending caller => simp [caller] at reading
    | pending caller => simp [reading, Caller.inWait] at caller
    | unsignalled arrived caller quiet replyLoop silent taken =>
        have past : state.caller.pastWait = true := by
          simpa [reading, Caller.inWait] using caller
        obtain ⟨shared, equal, given⟩ := opens arrived past taken
        rw [equal]
        exact .unsignalled ⟨arrived.received, arrived.type, arrived.stop, arrived.object⟩ (Or.inr rfl)
          quiet replyLoop silent ⟨rfl, given⟩
    | signalled arrived caller quiet replyLoop taken =>
        obtain ⟨shared, equal, given⟩ := opens arrived caller taken
        rw [equal]
        exact .signalled ⟨arrived.received, arrived.type, arrived.stop, arrived.object⟩ rfl quiet
          replyLoop ⟨rfl, given⟩
  · simp at stepped

theorem callerStep {label : CallerLabel} (phase : state.Phase self endpoint volume trace)
    (opening : state.Opening self endpoint (.caller label)) (timely : state.Timely (.caller label))
    (stepped : state.callerStep self endpoint label = some after) :
    after.Phase self endpoint volume trace := by
  cases label with
  | construct => exact phase.construct stepped
  | getsize => exact opening.elim
  | send => exact phase.send stepped
  | lock =>
      simp only [ControlState.callerStep] at stepped
      split at stepped
      · rename_i locking
        obtain rfl := Option.some.inj stepped
        exact phase.stays (by rw [locking]; rfl) rfl
      · simp at stepped
  | wait =>
      simp only [ControlState.callerStep] at stepped
      split at stepped
      · rename_i entering
        obtain rfl := Option.some.inj stepped
        exact phase.stays (by rw [entering]; rfl) rfl
      · simp at stepped
  | spurious =>
      simp only [ControlState.callerStep] at stepped
      split at stepped
      · rename_i waiting
        obtain rfl := Option.some.inj stepped
        exact phase.passes (fun _ => timely) (Or.inl (by rw [waiting]; rfl)) (Or.inl rfl)
      · simp at stepped
  | unlock =>
      simp only [ControlState.callerStep] at stepped
      split at stepped
      · rename_i waking
        obtain rfl := Option.some.inj stepped
        exact phase.passes (by simp [waking, Caller.inWait]) (Or.inr waking) (Or.inr rfl)
      · simp at stepped
  | read => exact phase.read stepped

/-! The steps of the reply thread. -/

omit [DecidableEq Index] in
theorem receive {serverOld : Bytes} (phase : state.Phase self endpoint volume trace)
    (stepped : state.replyStep endpoint (.receive serverOld) = some (after, events)) :
    after.Phase self endpoint volume (trace ++ events) := by
  simp only [replyStep] at stepped
  split at stepped
  · split at stepped
    · rename_i reply exchange popped
      obtain ⟨rfl, rfl⟩ := Prod.mk.inj (Option.some.inj stepped)
      obtain ⟨requests, replies⟩ := Exchange.pop_own self popped
      cases phase with
      | constructing caller quiet =>
          have none : _ = [] := quiet.2
          simp [own, replies] at none
      | sending caller type stop quiet =>
          have none : _ = [] := quiet.2
          simp [own, replies] at none
      | pending caller flight replyLoop silent unchanged =>
          have single := flight.single
          simp only [own, replies, List.length_cons] at single
          obtain ⟨opened, rfl, type, stop⟩ := flight.replies reply (by simp [own, replies])
          have arrived : ({ state with
              exchange
              replyMsg := Wire.receive state.replyMsg
                (Wire.replyMessage serverOld (.openVolume opened))
              replyLoop := .received } : ControlState Index Client).Arrived self opened
                (trace ++ [.received ⟨self, state.call, .openVolume opened⟩]) :=
            ⟨by simp, type, stop, _, serverOld, rfl⟩
          refine .unsignalled arrived (Or.inl caller) ⟨?_, ?_⟩ (Or.inl rfl) (by simp [silent]) ?_
          · rw [own, requests]
            exact List.length_eq_zero_iff.mp (by omega)
          · exact List.length_eq_zero_iff.mp (by simp only [own]; omega)
          · cases was : state.caller <;> simp_all [Caller.inWait, Taken]
      | unsignalled arrived caller quiet =>
          have none : _ = [] := quiet.2
          simp [own, replies] at none
      | signalled arrived caller quiet =>
          have none : _ = [] := quiet.2
          simp [own, replies] at none
    · simp at stepped
  · simp at stepped

omit [DecidableEq Index] in
theorem dispatch (phase : state.Phase self endpoint volume trace)
    (stepped : state.replyStep endpoint .dispatch = some (after, events)) :
    after.Phase self endpoint volume (trace ++ events) := by
  simp only [replyStep] at stepped
  split at stepped
  · rename_i received
    obtain ⟨rfl, rfl⟩ := Prod.mk.inj (Option.some.inj stepped)
    rw [List.append_nil]
    cases phase with
    | constructing caller quiet replyLoop => simp [received] at replyLoop
    | sending caller type stop quiet replyLoop => simp [received] at replyLoop
    | pending caller flight replyLoop => simp [received] at replyLoop
    | unsignalled arrived caller quiet replyLoop silent taken =>
        have header := arrived.views.1
        have signalling : state.handleCoReply = { state with replyLoop := .signalling } := by
          simp [handleCoReply, header, arrived.type, arrived.stop]
        rw [signalling]
        exact .unsignalled ⟨arrived.received, arrived.type, arrived.stop, arrived.object⟩ caller
          quiet (Or.inr rfl) silent taken
    | signalled arrived caller quiet replyLoop => simp [received] at replyLoop
  · simp at stepped

omit [DecidableEq Index] in
theorem signal (phase : state.Phase self endpoint volume trace)
    (timely : state.caller.aboutToWait = false)
    (stepped : state.replyStep endpoint .signal = some (after, events)) :
    after.Phase self endpoint volume (trace ++ events) := by
  simp only [replyStep] at stepped
  split at stepped
  · rename_i signalling
    obtain ⟨rfl, rfl⟩ := Prod.mk.inj (Option.some.inj stepped)
    cases phase with
    | constructing caller quiet replyLoop => simp [signalling] at replyLoop
    | sending caller type stop quiet replyLoop => simp [signalling] at replyLoop
    | pending caller flight replyLoop => simp [signalling] at replyLoop
    | unsignalled arrived caller quiet replyLoop silent taken =>
        have there := List.mem_append_left [.signalled] arrived.received
        rcases caller with inWait | past
        · have waiting : state.caller = .waiting := by
            cases was : state.caller <;> simp_all [Caller.inWait, Caller.aboutToWait]
          simp only [ControlState.signal, waiting]
          refine .signalled ⟨there, arrived.type, arrived.stop, arrived.object⟩ rfl quiet rfl ?_
          simpa [Taken, waiting] using taken
        · have same : state.signal = state := by
            unfold ControlState.signal
            cases was : state.caller <;> simp_all [Caller.pastWait]
          rw [same]
          exact .signalled ⟨there, arrived.type, arrived.stop, arrived.object⟩ past quiet rfl taken
    | signalled arrived caller quiet replyLoop => simp [signalling] at replyLoop
  · simp at stepped

omit [DecidableEq Index] in
theorem replyStep {label : ReplyLabel} (phase : state.Phase self endpoint volume trace)
    (timely : state.Timely (.replyThread label))
    (stepped : state.replyStep endpoint label = some (after, events)) :
    after.Phase self endpoint volume (trace ++ events) := by
  cases label with
  | receive serverOld => exact phase.receive stepped
  | dispatch => exact phase.dispatch stepped
  | signal => exact phase.signal timely stepped

end Phase

/-! Whole runs. -/

theorem separate_step (separate : state.exchange.Separate endpoint self)
    (opening : state.Opening self endpoint label)
    (stepped : (machine self endpoint).step state label = some (after, events)) :
    after.exchange.Separate endpoint self := by
  cases machine_cases stepped with
  | caller next =>
      rcases callerStep_exchange next with same | ⟨operation, request, _, pushed, _⟩
      · rw [same]
        exact separate
      · exact separate.push (fun _ => rfl) pushed
  | replyThread next =>
      rcases replyStep_exchange next with same | ⟨reply, popped⟩
      · rw [same]
        exact separate
      · exact separate.pop popped
  | server served => exact (separate.serverStep opening served).1
  | push pushed => exact separate.push (fun sender => (opening sender).elim) pushed
  | pop popped => exact separate.pop popped

omit [DecidableEq Client] [DecidableEq Index] in
theorem signalled_answers (exchange : Exchange Index Client) (label : ServerLabel Index) :
    .signalled ∉ answers exchange label := by
  cases label with
  | handle index kernel =>
      simp only [answers]
      split <;> simp
  | receive index => simp [answers]
  | send index => simp [answers]
  | close index => simp [answers]

theorem Phase.step {volume : UInt64} (phase : state.Phase self endpoint volume trace)
    (separate : state.exchange.Separate endpoint self)
    (opening : state.Opening self endpoint label) (timely : state.Timely label)
    (stepped : (machine self endpoint).step state label = some (after, events)) :
    after.Phase self endpoint volume (trace ++ events) := by
  cases machine_cases stepped with
  | caller next =>
      rw [List.append_nil]
      exact phase.callerStep opening timely next
  | replyThread next => exact phase.replyStep timely next
  | @server label exchange served =>
      exact phase.moves (separate.serverStep opening served).2 _ (signalled_answers exchange label)
  | push pushed =>
      obtain ⟨requests, replies⟩ := Exchange.push_other endpoint opening pushed
      exact phase.moves (.silent requests replies) [] (by simp)
  | pop popped =>
      obtain ⟨requests, replies⟩ := Exchange.pop_other self opening popped
      exact phase.moves (.silent requests replies) [] (by simp)

/-- When the signal finds `send_open` waiting and no wake-up comes before the reply, the wake-up is
never lost and never early. -/
theorem Constructing.openHandshake (constructing : initial.Constructing self endpoint)
    (run : (machine self endpoint).Run
      (fun state label => state.Opening self endpoint label ∧ state.Timely label) initial trace
      state) :
    state.Handshake self endpoint initial.shared.volume trace := by
  have phases : state.exchange.Separate endpoint self ∧
      state.Phase self endpoint initial.shared.volume trace := by
    refine run.invariant (fun trace current => current.exchange.Separate endpoint self ∧
      current.Phase self endpoint initial.shared.volume trace) ⟨constructing.separate, ?_⟩ ?_
    · exact .constructing constructing.caller constructing.quiet constructing.replyLoop (by simp) rfl
    · rintro trace current label after events ⟨separate, phase⟩ ⟨opening, timely⟩ stepped
      exact ⟨separate_step separate opening stepped, phase.step separate opening timely stepped⟩
  exact phases.2.handshake

/-! One client against a server without open volumes. -/

def sampleConstructing : ControlState Unit Unit where
  exchange := {
    world := IOHandler.sampleWorld
    requestMq := fun _ => []
    thread := fun _ => .idle
    replyMq := fun _ => []
    fault := none
    owner := fun _ => none }
  shared := ⟨[118], 0, 0, fun _ => 0⟩
  replyMsg := fun _ => 0
  caller := .constructing
  replyLoop := .receiving
  call := 0
  aborted := false

theorem sample_constructing : sampleConstructing.Constructing () Endpoint.sample where
  separate := ⟨by simp [sampleConstructing], by simp [sampleConstructing],
    by simp [sampleConstructing]⟩
  quiet := ⟨rfl, rfl⟩
  caller := rfl
  replyLoop := rfl

/-- Steps of the open, without other clients. -/
def opens : ControlLabel Unit Unit → Bool
  | .caller .getsize | .push .. | .pop _ => false
  | .caller _ | .replyThread _ | .server _ => true

def timely (state : ControlState Unit Unit) : ControlLabel Unit Unit → Bool
  | .replyThread .signal => !state.caller.aboutToWait
  | .caller .spurious => state.replyLoop != .receiving
  | _ => true

theorem opens_opening {state : ControlState Unit Unit} {label : ControlLabel Unit Unit}
    (passes : opens label = true) : state.Opening () Endpoint.sample label := by
  cases label with
  | caller label =>
      cases label with
      | getsize => simp [opens] at passes
      | construct | send | lock | wait | spurious | unlock | read => trivial
  | replyThread label => trivial
  | server label =>
      cases label with
      | handle index kernel =>
          intro request _ foreign
          exact absurd rfl foreign
      | receive index => trivial
      | send index => trivial
      | close index => trivial
  | push index request => simp [opens] at passes
  | pop mq => simp [opens] at passes

theorem timely_sound {state : ControlState Unit Unit} {label : ControlLabel Unit Unit}
    (passes : state.timely label = true) : state.Timely label := by
  unfold timely at passes
  split at passes
  · simpa [Timely] using passes
  · simpa [Timely] using passes
  · rename_i notSignal notSpurious
    unfold Timely
    split
    · exact absurd rfl notSignal
    · exact absurd rfl notSpurious
    · trivial

theorem opens_timely {state : ControlState Unit Unit} {label : ControlLabel Unit Unit}
    (passes : (opens label && state.timely label) = true) :
    state.Opening () Endpoint.sample label ∧ state.Timely label := by
  rw [Bool.and_eq_true] at passes
  exact ⟨opens_opening passes.1, timely_sound passes.2⟩

/-- The server takes the OPEN, creates the volume file and sends its reply. -/
def sampleServed : List (ControlLabel Unit Unit) :=
  [.server (.receive ()),
    .server (.handle () (IOHandler.sampleKernel (.error enoent) (.ok 3))), .server (.send ())]

def sampleSignal : List (ControlLabel Unit Unit) :=
  [.replyThread (.receive fun _ => 0), .replyThread .dispatch, .replyThread .signal]

def sampleHandshake : List (ControlLabel Unit Unit) :=
  [.caller .construct, .caller .send, .caller .lock, .caller .wait] ++ sampleServed ++
    sampleSignal ++ [.caller .unlock, .caller .read]

def opened (state : ControlState Unit Unit) : Bool :=
  match state.caller with
  | .opened 0 => state.shared.volume == 4096
  | _ => false

theorem sample_handshake : ∃ trace state, (machine () Endpoint.sample).Run
      (fun state label => state.Opening () Endpoint.sample label ∧ state.Timely label)
      sampleConstructing trace state ∧
    state.opened = true ∧ state.Handshake () Endpoint.sample 0 trace := by
  obtain ⟨trace, state, run, passes⟩ := Machine.Run.of_exec
    (machine () Endpoint.sample) sampleConstructing
    (fun state label => opens label && state.timely label) (fun _ _ => opens_timely)
    sampleHandshake (fun _ state => state.opened) (by decide +kernel)
  exact ⟨trace, state, run, passes, sample_constructing.openHandshake run⟩

def sampleLost : List (ControlLabel Unit Unit) :=
  [.caller .construct, .caller .send] ++ sampleServed ++ sampleSignal ++
    [.caller .lock, .caller .wait]

def sampleEarly : List (ControlLabel Unit Unit) :=
  [.caller .construct, .caller .send, .caller .lock, .caller .wait, .caller .spurious]

/-- The reply thread's signal is over, and nothing of the client is in flight. -/
def waitsForEver (trace : List (ControlEvent Unit)) (state : ControlState Unit Unit) : Bool :=
  state.caller.inWait && trace.any ControlEvent.isSignal && state.replyLoop == .receiving &&
    (state.own () Endpoint.sample).requests.isEmpty && (state.own () Endpoint.sample).replies.isEmpty

theorem waitsForEver_stranded {state : ControlState Unit Unit} {trace : List (ControlEvent Unit)}
    (waits : state.waitsForEver trace = true) : state.Stranded () Endpoint.sample trace := by
  simp only [waitsForEver, Bool.and_eq_true, beq_iff_eq, List.isEmpty_iff, List.any_eq_true] at waits
  obtain ⟨⟨⟨⟨inWait, event, member, signal⟩, receiving⟩, requests⟩, replies⟩ := waits
  refine ⟨inWait, ?_, receiving, requests, replies⟩
  cases event with
  | signalled => exact member
  | answered reply => simp [ControlEvent.isSignal] at signal
  | received reply => simp [ControlEvent.isSignal] at signal

/-- The wait is over, and nothing has been received. -/
def passedEarly (trace : List (ControlEvent Unit)) (state : ControlState Unit Unit) : Bool :=
  state.caller.pastWait && trace.isEmpty

/-- The signal can come before the wait, which then lasts for ever, and a spurious wake-up can pass
the wait before the reply. -/
theorem lost_and_early :
    (∃ trace state, (machine () Endpoint.sample).Run (fun state label =>
        state.Opening () Endpoint.sample label) sampleConstructing trace state ∧
      state.Stranded () Endpoint.sample trace) ∧
    ¬∀ trace state, (machine () Endpoint.sample).Run (fun state label =>
        state.Opening () Endpoint.sample label) sampleConstructing trace state →
      state.Handshake () Endpoint.sample 0 trace := by
  obtain ⟨trace, state, run, waits⟩ := Machine.Run.of_exec
    (machine () Endpoint.sample) sampleConstructing
    (fun _ label => opens label) (fun _ _ => opens_opening) sampleLost
    (fun trace state => state.waitsForEver trace) (by decide +kernel)
  refine ⟨⟨trace, state, run, waitsForEver_stranded waits⟩, fun claim => ?_⟩
  obtain ⟨early, woken, earlyRun, passed⟩ := Machine.Run.of_exec
    (machine () Endpoint.sample) sampleConstructing
    (fun _ label => opens label) (fun _ _ => opens_opening) sampleEarly
    (fun trace state => state.passedEarly trace) (by decide +kernel)
  simp only [passedEarly, Bool.and_eq_true, List.isEmpty_iff] at passed
  obtain ⟨reply, received, _⟩ := (claim early woken earlyRun).reply passed.1
  simp [passed.2] at received

end ControlState

end Cvbd
