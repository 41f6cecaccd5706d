import Cvbd.Control
import Cvbd.Transfer

/-!
`send_getsize` does not wait for its reply. It returns what the reply object
holds behind the header, which is the size only once the reply thread has
received the answer to this very request.
-/

namespace Cvbd

namespace ControlState

variable {Index Client : Type} [DecidableEq Index] [DecidableEq Client]
variable {endpoints : Client → Endpoint Index} {self : Client}
variable {initial state after : ControlState Index Client}
variable {label : ControlLabel Index Client} {trace events : List (ControlEvent Client)}

/-- What a step of the server does to the messages of one client, and which answers it gives. -/
inductive Handled (self : Client) (before after : Service Client)
    (events : List (ControlEvent Client)) : Prop
  | silent (requests : after.requests = before.requests) (replies : after.replies = before.replies)
      (foreign : ∀ reply, .answered reply ∈ events → reply.sender ≠ self)
  | done {request rest file kernel stored} (queue : before.requests = request :: rest)
      (requests : after.requests = rest) (replies : after.replies = before.replies)
      (served : VolumeFile.serve file kernel request.body = .done stored) (none : events = [])
  | replied {request rest reply file kernel stored} (queue : before.requests = request :: rest)
      (requests : after.requests = rest)
      (replies : after.replies = before.replies ++ [⟨self, request.call, reply⟩])
      (served : VolumeFile.serve file kernel request.body = .reply stored reply)
      (one : events = [.answered ⟨self, request.call, reply⟩])

theorem handled_handle {exchange next : Exchange Index Client} {index : Index} {kernel : Kernel}
    (wired : exchange.Wired endpoints) (running : exchange.fault = none)
    (stepped : exchange.handleStep index kernel = some next) (self : Client) :
    Handled self (exchange.service (endpoints self) self) (next.service (endpoints self) self)
      (answers next (.handle index kernel)) := by
  obtain ⟨request, hand, belongs, file, found, equal⟩ := Exchange.handleStep_spec wired stepped
  obtain ⟨other, rest, handOther, queue, serves, others⟩ :=
    Exchange.handleStep_service wired running stepped
  obtain rfl := Thread.hand.inj (hand.symm.trans handOther)
  -- The thread holds the answer, if there is one.
  have answer : ∀ reply, .answered reply ∈ answers next (.handle index kernel) →
      reply.sender = request.sender := by
    intro reply member
    cases served : file.serve kernel request.body with
    | done stored => simp [answers, equal, served] at member
    | reply stored body =>
        simp only [answers, equal, served, Function.update_self, List.mem_singleton,
          ControlEvent.answered.injEq] at member
        rw [member]
    | fault stored fault => simp [answers, equal, served, hand] at member
  by_cases own : request.sender = self
  · subst own
    have alive : (exchange.service (endpoints request.sender) request.sender).alive = true := by
      simp [Exchange.service, running]
    have file_eq : (exchange.service (endpoints request.sender) request.sender).file = file :=
      Exchange.service_file found
    simp only [Service.serve, alive, queue, file_eq] at serves
    cases served : file.serve kernel request.body with
    | done stored =>
        simp only [served] at serves
        have next_eq := Option.some.inj serves
        exact .done queue (by rw [← next_eq]) (by rw [← next_eq]) served
          (by simp [answers, equal, served])
    | reply stored body =>
        simp only [served] at serves
        have next_eq := Option.some.inj serves
        exact .replied queue (by rw [← next_eq]) (by rw [← next_eq]) served
          (by simp [answers, equal, served])
    | fault stored fault =>
        simp only [served] at serves
        have next_eq := Option.some.inj serves
        refine .silent (by rw [← next_eq, queue]) (by rw [← next_eq]) ?_
        simp [answers, equal, served, hand]
  · have view := others self (fun same => own same.symm)
    refine .silent (by rw [view]) (by rw [view]) ?_
    intro reply member sender
    exact own ((answer reply member).symm.trans sender)

theorem handled_server {exchange next : Exchange Index Client} {label : ServerLabel Index}
    (wired : exchange.Wired endpoints) (stepped : exchange.serverStep label = some next)
    (self : Client) :
    Handled self (exchange.service (endpoints self) self) (next.service (endpoints self) self)
      (answers next label) := by
  rcases Exchange.serverStep_service wired stepped with ⟨same, notHandle⟩ | ⟨index, kernel, rfl, handled⟩
  · refine .silent (by rw [same]) (by rw [same]) ?_
    cases label with
    | handle index kernel => exact absurd rfl (notHandle index kernel)
    | receive index => simp [answers]
    | send index => simp [answers]
    | close index => simp [answers]
  · exact handled_handle wired (Exchange.serverStep_running stepped) handled self

/-! The states of a client that has been opened. -/

/-- The client's open has succeeded. Any of its requests may be in flight, and its reply object may
hold anything. -/
structure Opened (endpoints : Client → Endpoint Index) (sender : Client)
    (state : ControlState Index Client) : Prop where
  wired : state.exchange.Wired endpoints
  caller : state.caller = .opened 0
  volume_eq : state.shared.volume = (endpoints sender).volume
  numbered : ∀ request ∈ (state.exchange.service (endpoints sender) sender).requests,
    request.call ≤ state.call

/-- What the other clients do: they send I/O requests on their own volumes and receive their own
replies. -/
def Sharing (endpoints : Client → Endpoint Index) (self : Client) :
    ControlLabel Index Client → Prop
  | .push index request => request.sender ≠ self ∧ Belongs endpoints index request
  | .pop mq => ∃ other, other ≠ self ∧ mq = (endpoints other).mq
  | _ => True

/-- The caller's latest message or the answer to it is in flight. -/
def Outstanding (endpoint : Endpoint Index) (self : Client) (state : ControlState Index Client) :
    Prop :=
  (∃ request ∈ (state.exchange.service endpoint self).requests, request.call = state.call) ∨
    ∃ reply ∈ (state.exchange.service endpoint self).replies, reply.call = state.call

/-- `send_getsize` reads the reply object only when the answer to its request has been received. -/
def Awaited (endpoint : Endpoint Index) (self : Client) (state : ControlState Index Client) :
    ControlLabel Index Client → Prop
  | .caller .read => ¬state.Outstanding endpoint self
  | _ => True

/-- The value returned is the size in the one reply the server has sent for this request. -/
def Reports (self : Client) (trace : List (ControlEvent Client))
    (state : ControlState Index Client) : Prop :=
  ∀ length, state.caller = .sized length → ∃ reply : GetSizeReply,
    .answered ⟨self, state.call, .getsize reply⟩ ∈ trace ∧
      (∀ body, .answered ⟨self, state.call, body⟩ ∈ trace → body = .getsize reply) ∧
      length = reply.sizeInBytes

/-- The requests in flight and the answers given have numbers below the bound. -/
structure Below (sender : Client) (bound : Nat) (service : Service Client)
    (trace : List (ControlEvent Client)) : Prop where
  requests : ∀ request ∈ service.requests, request.call < bound
  answered : ∀ reply, .answered reply ∈ trace → reply.sender = sender → reply.call < bound

omit [DecidableEq Client] in
theorem Below.handled {bound : Nat} {before next : Service Client}
    (below : Below self bound before trace) (handled : Handled self before next events) :
    Below self bound next (trace ++ events) := by
  cases handled with
  | silent requests replies foreign =>
      refine ⟨by rw [requests]; exact below.requests, fun reply member sender => ?_⟩
      rcases List.mem_append.mp member with old | new
      · exact below.answered reply old sender
      · exact (foreign reply new sender).elim
  | done queue requests replies served none =>
      refine ⟨fun request member => ?_, fun reply member sender => ?_⟩
      · exact below.requests request (by rw [queue, ← requests]; exact List.mem_cons_of_mem _ member)
      · rw [none, List.append_nil] at member
        exact below.answered reply member sender
  | replied queue requests replies served one =>
      refine ⟨fun request member => ?_, fun reply member sender => ?_⟩
      · exact below.requests request (by rw [queue, ← requests]; exact List.mem_cons_of_mem _ member)
      · rw [one, List.mem_append, List.mem_singleton, ControlEvent.answered.injEq] at member
        rcases member with old | rfl
        · exact below.answered reply old sender
        · exact below.requests _ (by simp [queue])

/-- How far the caller's GETSIZE has come: it is the client's last message. -/
inductive Progress (self : Client) (call : Nat) (service : Service Client)
    (trace : List (ControlEvent Client)) (replyMsg : Bytes) : Prop
  | queued {before : List (Envelope Client Request)} {req : HeaderRequest}
      (queue : service.requests = before ++ [⟨self, call, .getsize req⟩])
      (earlier : ∀ request ∈ before, request.call < call)
      (answered : ∀ reply, .answered reply ∈ trace → reply.sender = self → reply.call < call)
  | replied {before : List (Envelope Client Reply)} {reply : GetSizeReply}
      (requests : service.requests = [])
      (queue : service.replies = before ++ [⟨self, call, .getsize reply⟩])
      (answered : .answered ⟨self, call, .getsize reply⟩ ∈ trace)
      (once : ∀ body, .answered ⟨self, call, body⟩ ∈ trace → body = .getsize reply)
  | received {reply : GetSizeReply} (requests : service.requests = [])
      (replies : service.replies = [])
      (answered : .answered ⟨self, call, .getsize reply⟩ ∈ trace)
      (once : ∀ body, .answered ⟨self, call, body⟩ ∈ trace → body = .getsize reply)
      (object : Wire.viewGetsize replyMsg = reply.sizeInBytes)

namespace Progress

variable {call : Nat} {service next : Service Client} {replyMsg : Bytes}

omit [DecidableEq Client] in
theorem silent (progress : Progress self call service trace replyMsg)
    (requests : next.requests = service.requests) (replies : next.replies = service.replies)
    (foreign : ∀ reply, .answered reply ∈ events → reply.sender ≠ self) :
    Progress self call next (trace ++ events) replyMsg := by
  have old {body : Reply} (once : .answered ⟨self, call, body⟩ ∈ trace ++ events) :
      .answered ⟨self, call, body⟩ ∈ trace := by
    rcases List.mem_append.mp once with member | new
    · exact member
    · exact absurd rfl (foreign _ new)
  cases progress with
  | queued queue earlier answered =>
      refine .queued (requests.trans queue) earlier fun reply member sender => ?_
      rcases List.mem_append.mp member with before | new
      · exact answered reply before sender
      · exact absurd sender (foreign reply new)
  | replied none queue answered once =>
      exact .replied (requests.trans none) (replies.trans queue) (List.mem_append_left _ answered)
        fun body member => once body (old member)
  | received none quiet answered once object =>
      exact .received (requests.trans none) (replies.trans quiet) (List.mem_append_left _ answered)
        (fun body member => once body (old member)) object

omit [DecidableEq Client] in
theorem handled (progress : Progress self call service trace replyMsg)
    (handled : Handled self service next events) :
    Progress self call next (trace ++ events) replyMsg := by
  cases handled with
  | silent requests replies foreign => exact progress.silent requests replies foreign
  | @done request rest file kernel stored queue requests replies served none =>
      subst none
      rw [List.append_nil]
      cases progress with
      | @queued before req queue' earlier answered =>
          cases before with
          | nil =>
              obtain ⟨rfl, _⟩ := List.cons.inj (queue.symm.trans queue')
              simp [VolumeFile.serve] at served
          | cons first before =>
              obtain ⟨rfl, rest_eq⟩ := List.cons.inj (queue.symm.trans queue')
              exact .queued (requests.trans rest_eq)
                (fun request member => earlier request (List.mem_cons_of_mem _ member)) answered
      | replied none queue' answered once => simp [none] at queue
      | received none quiet answered once object => simp [none] at queue
  | @replied request rest reply file kernel stored queue requests replies served one =>
      subst one
      cases progress with
      | @queued before req queue' earlier answered =>
          cases before with
          | nil =>
              obtain ⟨rfl, rfl⟩ := List.cons.inj (queue.symm.trans queue')
              simp only [VolumeFile.serve, Served.reply.injEq] at served
              obtain ⟨_, rfl⟩ := served
              refine .replied requests replies (by simp) fun body member => ?_
              rcases List.mem_append.mp member with old | new
              · exact absurd (answered _ old rfl) (Nat.lt_irrefl call)
              · simpa using new
          | cons first before =>
              obtain ⟨rfl, rest_eq⟩ := List.cons.inj (queue.symm.trans queue')
              refine .queued (requests.trans rest_eq)
                (fun request member => earlier request (List.mem_cons_of_mem _ member)) ?_
              intro other member sender
              rcases List.mem_append.mp member with old | new
              · exact answered other old sender
              · obtain rfl := ControlEvent.answered.inj (List.mem_singleton.mp new)
                exact earlier request List.mem_cons_self
      | replied none queue' answered once => simp [none] at queue
      | received none quiet answered once object => simp [none] at queue

omit [DecidableEq Client] in
theorem receive {reply : Envelope Client Reply} (serverOld : Bytes)
    (progress : Progress self call service trace replyMsg)
    (requests : next.requests = service.requests) (queue : service.replies = reply :: next.replies) :
    Progress self call next (trace ++ [.received reply])
      (Wire.receive replyMsg (Wire.replyMessage serverOld reply.body)) := by
  cases progress with
  | queued queue' earlier answered =>
      refine .queued (requests.trans queue') earlier fun other member sender => ?_
      exact answered other (by simpa using member) sender
  | @replied before getsize none queue' answered once =>
      have once' : ∀ body, .answered ⟨self, call, body⟩ ∈ trace ++ [.received reply] →
          body = .getsize getsize := fun body member => once body (by simpa using member)
      cases before with
      | nil =>
          obtain ⟨rfl, rest⟩ := List.cons.inj (queue.symm.trans queue')
          exact .received (requests.trans none) rest (List.mem_append_left _ answered) once'
            (Wire.viewGetsize_getsizeReply _ _ _)
      | cons first before =>
          obtain ⟨rfl, rest⟩ := List.cons.inj (queue.symm.trans queue')
          exact .replied (requests.trans none) rest (List.mem_append_left _ answered) once'
  | received none quiet answered once object => simp [quiet] at queue

omit [DecidableEq Client] in
/-- Once the answer is not in flight any more, it is in the reply object. -/
theorem settled (progress : Progress self call service trace replyMsg)
    (notRequested : ∀ request ∈ service.requests, request.call ≠ call)
    (notReplied : ∀ reply ∈ service.replies, reply.call ≠ call) :
    service.requests = [] ∧ ∃ reply : GetSizeReply,
      .answered ⟨self, call, .getsize reply⟩ ∈ trace ∧
      (∀ body, .answered ⟨self, call, body⟩ ∈ trace → body = .getsize reply) ∧
      Wire.viewGetsize replyMsg = reply.sizeInBytes := by
  cases progress with
  | @queued before req queue earlier answered =>
      exact absurd rfl (notRequested ⟨self, call, .getsize req⟩ (by simp [queue]))
  | @replied before reply none queue answered once =>
      exact absurd rfl (notReplied ⟨self, call, .getsize reply⟩ (by simp [queue]))
  | received none quiet answered once object => exact ⟨none, _, answered, once, object⟩

end Progress

/-- Where the calling thread can be after the open. -/
inductive Stage (self : Client) (endpoint : Endpoint Index) (trace : List (ControlEvent Client))
    (state : ControlState Index Client) : Prop
  | idle (caller : state.caller = .opened 0)
      (below : Below self (state.call + 1) (state.exchange.service endpoint self) trace)
  | sending {req : HeaderRequest} (caller : state.caller = .sending .getsize (.getsize req))
      (volume : req.header.volume = endpoint.volume)
      (below : Below self state.call (state.exchange.service endpoint self) trace)
  | reading (caller : state.caller = .reading .getsize)
      (below : Below self (state.call + 1) (state.exchange.service endpoint self) trace)
      (progress : Progress self state.call (state.exchange.service endpoint self) trace
        state.replyMsg)
  | sized (caller : ∃ length, state.caller = .sized length)
      (below : Below self (state.call + 1) (state.exchange.service endpoint self) trace)
      (none : (state.exchange.service endpoint self).requests = [])
      (reports : state.Reports self trace)

omit [DecidableEq Client] in
/-- Without requests of its own in flight, the client is not answered any more. -/
theorem Handled.quiet {before next : Service Client} (handled : Handled self before next events)
    (none : before.requests = []) :
    next.requests = [] ∧ ∀ reply, .answered reply ∈ events → reply.sender ≠ self := by
  cases handled with
  | silent requests replies foreign => exact ⟨requests.trans none, foreign⟩
  | done queue requests replies served silent => simp [none] at queue
  | replied queue requests replies served one => simp [none] at queue

omit [DecidableEq Index] [DecidableEq Client] in
theorem Reports.silent (reports : state.Reports self trace)
    (same : after.caller = state.caller ∧ after.call = state.call)
    (foreign : ∀ reply, .answered reply ∈ events → reply.sender ≠ self) :
    after.Reports self (trace ++ events) := by
  intro length sized
  rw [same.1] at sized
  obtain ⟨reply, answered, once, equal⟩ := reports length sized
  rw [same.2]
  refine ⟨reply, List.mem_append_left _ answered, fun body member => ?_, equal⟩
  rcases List.mem_append.mp member with old | new
  · exact once body old
  · exact absurd rfl (foreign _ new)

omit [DecidableEq Index] in
theorem Stage.handled {endpoint : Endpoint Index} {exchange : Exchange Index Client}
    (stage : state.Stage self endpoint trace)
    (handled : Handled self (state.exchange.service endpoint self) (exchange.service endpoint self)
      events) :
    ({ state with exchange } : ControlState Index Client).Stage self endpoint (trace ++ events) := by
  cases stage with
  | idle caller below => exact .idle caller (below.handled handled)
  | sending caller volume below => exact .sending caller volume (below.handled handled)
  | reading caller below progress =>
      exact .reading caller (below.handled handled) (progress.handled handled)
  | sized caller below none reports =>
      obtain ⟨quiet, foreign⟩ := handled.quiet none
      exact .sized caller (below.handled handled) quiet (reports.silent ⟨rfl, rfl⟩ foreign)

omit [DecidableEq Index] in
theorem Stage.receive {endpoint : Endpoint Index} {exchange : Exchange Index Client}
    {reply : Envelope Client Reply} (serverOld : Bytes) (stage : state.Stage self endpoint trace)
    (requests : (exchange.service endpoint self).requests =
      (state.exchange.service endpoint self).requests)
    (queue : (state.exchange.service endpoint self).replies =
      reply :: (exchange.service endpoint self).replies) :
    ({ state with
      exchange
      replyMsg := Wire.receive state.replyMsg (Wire.replyMessage serverOld reply.body)
      replyLoop := .received } : ControlState Index Client).Stage self endpoint
        (trace ++ [.received reply]) := by
  have lower {bound : Nat} (below : Below self bound (state.exchange.service endpoint self) trace) :
      Below self bound (exchange.service endpoint self) (trace ++ [.received reply]) :=
    ⟨by rw [requests]; exact below.requests,
      fun other member sender => below.answered other (by simpa using member) sender⟩
  cases stage with
  | idle caller below => exact .idle caller (lower below)
  | sending caller volume below => exact .sending caller volume (lower below)
  | reading caller below progress =>
      exact .reading caller (lower below) (progress.receive serverOld requests queue)
  | sized caller below none reports =>
      exact .sized caller (lower below) (requests.trans none)
        (reports.silent ⟨rfl, rfl⟩ (by simp))

omit [DecidableEq Index] in
theorem Stage.keep {endpoint : Endpoint Index} (stage : state.Stage self endpoint trace)
    (caller_eq : after.caller = state.caller) (call : after.call = state.call)
    (object : after.replyMsg = state.replyMsg)
    (requests : (after.exchange.service endpoint self).requests =
      (state.exchange.service endpoint self).requests)
    (replies : (after.exchange.service endpoint self).replies =
      (state.exchange.service endpoint self).replies)
    (silent : ∀ reply, .answered reply ∉ events) : after.Stage self endpoint (trace ++ events) := by
  have foreign : ∀ reply, .answered reply ∈ events → reply.sender ≠ self :=
    fun reply member => (silent reply member).elim
  have lower {bound : Nat} (below : Below self bound (state.exchange.service endpoint self) trace) :
      Below self bound (after.exchange.service endpoint self) (trace ++ events) :=
    below.handled (.silent requests replies foreign)
  cases stage with
  | idle caller below => exact .idle (caller_eq.trans caller) (by rw [call]; exact lower below)
  | sending caller volume below =>
      exact .sending (caller_eq.trans caller) volume (by rw [call]; exact lower below)
  | reading caller below progress =>
      refine .reading (caller_eq.trans caller) (by rw [call]; exact lower below) ?_
      rw [call, object]
      exact progress.silent requests replies foreign
  | sized caller below none reports =>
      obtain ⟨length, is⟩ := caller
      exact .sized ⟨length, caller_eq.trans is⟩ (by rw [call]; exact lower below)
        (requests.trans none) (reports.silent ⟨caller_eq, call⟩ foreign)

/-- What holds in every run after the open. -/
structure Sized (endpoints : Client → Endpoint Index) (sender : Client)
    (trace : List (ControlEvent Client)) (state : ControlState Index Client) : Prop where
  wired : state.exchange.Wired endpoints
  volume_eq : state.shared.volume = (endpoints sender).volume
  stage : state.Stage sender (endpoints sender) trace

theorem Sized.getsize (sized : state.Sized endpoints self trace)
    (stepped : state.callerStep self (endpoints self) .getsize = some after) :
    after.Sized endpoints self trace := by
  have volume : (state.shared.sendGetsize).2.volume = (endpoints self).volume := sized.volume_eq
  have next (below : Below self (state.call + 1)
      (state.exchange.service (endpoints self) self) trace) :
      ({ state with
        shared := state.shared.sendGetsize.2
        caller := .sending .getsize state.shared.sendGetsize.1
        call := state.call + 1 } : ControlState Index Client).Sized endpoints self trace :=
    ⟨sized.wired, volume, .sending (by rw [SharedMemClient.sendGetsize_request]) sized.volume_eq below⟩
  simp only [callerStep] at stepped
  split at stepped
  · rename_i idle
    obtain rfl := Option.some.inj stepped
    cases sized.stage with
    | idle caller below => exact next below
    | sending caller => simp [caller] at idle
    | reading caller => simp [caller] at idle
    | sized caller =>
        obtain ⟨length, is⟩ := caller
        simp [is] at idle
  · rename_i was
    obtain rfl := Option.some.inj stepped
    cases sized.stage with
    | idle caller => simp [caller] at was
    | sending caller => simp [caller] at was
    | reading caller => simp [caller] at was
    | sized caller below => exact next below
  · simp at stepped

theorem Sized.send (sized : state.Sized endpoints self trace)
    (stepped : state.callerStep self (endpoints self) .send = some after) :
    after.Sized endpoints self trace := by
  simp only [callerStep] at stepped
  split at stepped
  · rename_i operation request sending
    split at stepped
    · rename_i exchange pushed
      obtain rfl := Option.some.inj stepped
      cases sized.stage with
      | idle caller => simp [caller] at sending
      | @sending req caller volume below =>
          obtain ⟨rfl, rfl⟩ := Caller.sending.inj (caller.symm.trans sending)
          have belongs : Belongs endpoints (endpoints self).index
              (⟨self, state.call, .getsize req⟩ : Envelope Client Request) := ⟨rfl, volume, rfl⟩
          obtain ⟨own, _⟩ := Exchange.pushRequest_service endpoints ⟨self, state.call, .getsize req⟩
            pushed
          simp only at own
          refine ⟨sized.wired.pushRequest belongs pushed, sized.volume_eq, .reading rfl ⟨?_, ?_⟩ ?_⟩
          · intro queued member
            simp only [own, List.mem_append, List.mem_singleton] at member
            rcases member with old | rfl
            · exact Nat.lt_succ_of_lt (below.requests queued old)
            · exact Nat.lt_succ_self state.call
          · intro reply member sender
            exact Nat.lt_succ_of_lt (below.answered reply member sender)
          · exact .queued (by rw [own]) below.requests below.answered
      | reading caller => simp [caller] at sending
      | sized caller =>
          obtain ⟨length, is⟩ := caller
          simp [is] at sending
    · simp at stepped
  · simp at stepped

theorem cvbdGetlength_eq (size : Int64) : cvbdGetlength size = size := by
  simp [cvbdGetlength, UInt64.toInt64]

theorem Sized.read (sized : state.Sized endpoints self trace)
    (awaited : ¬state.Outstanding (endpoints self) self)
    (stepped : state.callerStep self (endpoints self) .read = some after) :
    after.Sized endpoints self trace := by
  simp only [callerStep] at stepped
  split at stepped
  · rename_i operation reading
    obtain rfl := Option.some.inj stepped
    cases sized.stage with
    | idle caller => simp [caller] at reading
    | sending caller => simp [caller] at reading
    | reading caller below progress =>
        obtain rfl := Caller.reading.inj (caller.symm.trans reading)
        obtain ⟨none, reply, answered, once, object⟩ := progress.settled
          (fun request member same => awaited (Or.inl ⟨request, member, same⟩))
          (fun reply member same => awaited (Or.inr ⟨reply, member, same⟩))
        refine ⟨sized.wired, sized.volume_eq, .sized ⟨_, rfl⟩ below none ?_⟩
        intro length is
        obtain rfl := Caller.sized.inj is
        exact ⟨reply, answered, once, by rw [cvbdGetlength_eq, object]⟩
    | sized caller =>
        obtain ⟨length, is⟩ := caller
        simp [is] at reading
  · simp at stepped

omit [DecidableEq Index] in
theorem Stage.notWaiting {endpoint : Endpoint Index} (stage : state.Stage self endpoint trace) :
    state.caller ≠ .constructing ∧ state.caller ≠ .locking ∧ state.caller ≠ .entering ∧
      state.caller ≠ .waiting ∧ state.caller ≠ .waking := by
  cases stage with
  | idle caller => simp [caller]
  | sending caller => simp [caller]
  | reading caller => simp [caller]
  | sized caller =>
      obtain ⟨length, is⟩ := caller
      simp [is]

theorem Sized.callerStep {label : CallerLabel} (sized : state.Sized endpoints self trace)
    (awaited : state.Awaited (endpoints self) self (.caller label))
    (stepped : state.callerStep self (endpoints self) label = some after) :
    after.Sized endpoints self trace := by
  obtain ⟨notConstructing, notLocking, notEntering, notWaiting, notWaking⟩ := sized.stage.notWaiting
  cases label with
  | getsize => exact sized.getsize stepped
  | send => exact sized.send stepped
  | read => exact sized.read awaited stepped
  | construct => simp [ControlState.callerStep] at stepped
  | lock => simp [ControlState.callerStep] at stepped
  | wait => simp [ControlState.callerStep] at stepped
  | spurious => simp [ControlState.callerStep] at stepped
  | unlock => simp [ControlState.callerStep] at stepped

omit [DecidableEq Index] in
theorem Sized.silent {label : ReplyLabel} (sized : state.Sized endpoints self trace)
    (notReceive : ∀ serverOld, label ≠ .receive serverOld)
    (stepped : state.replyStep (endpoints self) label = some (after, events)) :
    after.Sized endpoints self (trace ++ events) := by
  have notWaiting := sized.stage.notWaiting.2.2.2.1
  obtain ⟨⟨replyLoop, aborted, rfl⟩, silent⟩ := replyStep_silent notWaiting notReceive stepped
  exact ⟨sized.wired, sized.volume_eq, sized.stage.keep rfl rfl rfl rfl rfl silent⟩

omit [DecidableEq Index] in
theorem Sized.replyStep {label : ReplyLabel} (sized : state.Sized endpoints self trace)
    (stepped : state.replyStep (endpoints self) label = some (after, events)) :
    after.Sized endpoints self (trace ++ events) := by
  cases label with
  | receive serverOld =>
      obtain ⟨reply, popped, rfl, equal⟩ := receive_spec stepped
      obtain ⟨_, queue, rest, _⟩ := Exchange.popReply_service sized.wired self popped
      have requests : (after.exchange.service (endpoints self) self).requests =
          (state.exchange.service (endpoints self) self).requests := by rw [rest]
      have received := sized.stage.receive serverOld requests queue
      rw [equal]
      exact ⟨sized.wired.popReply popped, sized.volume_eq, received⟩
  | dispatch => exact sized.silent (by simp) stepped
  | signal => exact sized.silent (by simp) stepped

theorem Sized.step (sized : state.Sized endpoints self trace)
    (sharing : Sharing endpoints self label) (awaited : state.Awaited (endpoints self) self label)
    (stepped : (machine self (endpoints self)).step state label = some (after, events)) :
    after.Sized endpoints self (trace ++ events) := by
  cases machine_cases stepped with
  | caller next =>
      rw [List.append_nil]
      exact sized.callerStep awaited next
  | replyThread next => exact sized.replyStep next
  | server served =>
      exact ⟨sized.wired.serverStep served, sized.volume_eq,
        sized.stage.handled (handled_server sized.wired served self)⟩
  | @push index request exchange pushed =>
      obtain ⟨foreign, belongs⟩ := sharing
      have wired := sized.wired.pushRequest belongs pushed
      rw [belongs.index] at pushed
      have same := (Exchange.pushRequest_service endpoints request pushed).2 self
        (Ne.symm foreign)
      exact ⟨wired, sized.volume_eq, sized.stage.keep rfl rfl rfl (congrArg Service.requests same)
        (congrArg Service.replies same) (by simp)⟩
  | pop popped =>
      obtain ⟨other, foreign, rfl⟩ := sharing
      have same := (Exchange.popReply_service sized.wired other popped).2.2.2 self
        (Ne.symm foreign)
      exact ⟨sized.wired.popReply popped, sized.volume_eq, sized.stage.keep rfl rfl rfl
        (congrArg Service.requests same) (congrArg Service.replies same) (by simp)⟩

/-- When `send_getsize` reads the reply object only after its answer has been received, every
value it returns is the size the server has sent for that request. -/
theorem Opened.getlength (opened : initial.Opened endpoints self)
    (run : (machine self (endpoints self)).Run (fun state label =>
      Sharing endpoints self label ∧ state.Awaited (endpoints self) self label) initial trace state) :
    state.Reports self trace := by
  have sized : state.Sized endpoints self trace := by
    refine run.invariant (Sized endpoints self) ⟨opened.wired, opened.volume_eq, ?_⟩ ?_
    · refine .idle opened.caller ⟨fun request member => ?_, by simp⟩
      exact Nat.lt_succ_of_le (opened.numbered request member)
    · rintro trace current label after events sized ⟨sharing, awaited⟩ stepped
      exact sized.step sharing awaited stepped
  intro length is
  cases sized.stage with
  | idle caller => simp [caller] at is
  | sending caller => simp [caller] at is
  | reading caller => simp [caller] at is
  | sized caller below none reports => exact reports length is

/-! A client that has just opened a volume of two blocks. -/

def sampleOpenReply : OpenReply := ⟨⟨false, .reqOpen, 1, 4096, 0⟩, 4096, 0⟩

def sampleOpened : ControlState Unit Unit where
  exchange := .sample 8192 []
  shared := ⟨[118], 4096, 1, fun _ => 0⟩
  replyMsg := Wire.receive (fun _ => 0)
    (Wire.replyMessage (fun _ => 0) (.openVolume sampleOpenReply))
  caller := .opened 0
  replyLoop := .receiving
  call := 1
  aborted := false

theorem sample_opened : sampleOpened.Opened (fun _ => .sample) () where
  wired := Exchange.sample_wired 8192 [] (by simp)
  caller := rfl
  volume_eq := rfl
  numbered := by
    intro request member
    rw [sampleOpened, Exchange.sample_service] at member
    simp at member

/-- A label of the client or the server; a read must find its answer received. -/
def awaits (state : ControlState Unit Unit) : ControlLabel Unit Unit → Bool
  | .caller .read =>
      ((state.exchange.service Endpoint.sample ()).requests.all fun request =>
        request.call != state.call) &&
      (state.exchange.service Endpoint.sample ()).replies.all fun reply => reply.call != state.call
  | .caller _ | .replyThread _ | .server _ => true
  | .push .. | .pop _ => false

theorem awaits_sound {state : ControlState Unit Unit} {label : ControlLabel Unit Unit}
    (passes : state.awaits label = true) :
    Sharing (fun _ => Endpoint.sample) () label ∧ state.Awaited Endpoint.sample () label := by
  cases label with
  | caller label =>
      refine ⟨trivial, ?_⟩
      cases label with
      | read =>
          simp only [awaits, Bool.and_eq_true, List.all_eq_true, bne_iff_ne] at passes
          rintro (⟨request, member, same⟩ | ⟨reply, member, same⟩)
          · exact passes.1 request member same
          · exact passes.2 reply member same
      | construct | getsize | send | lock | wait | spurious | unlock => trivial
  | replyThread label => exact ⟨trivial, trivial⟩
  | server label => exact ⟨trivial, trivial⟩
  | push index request => simp [awaits] at passes
  | pop mq => simp [awaits] at passes

def sampleGetsize : List (ControlLabel Unit Unit) :=
  [.caller .getsize, .caller .send, .server (.receive ()),
    .server (.handle () (Kernel.transfer (File.filled 8192 1) 0 0)), .server (.send ()),
    .replyThread (.receive fun _ => 0), .caller .read]

/-- The call has returned `length`, and the server has answered it if `answered` says so. -/
def sizedAs (length : Int64) (answered : Bool) (trace : List (ControlEvent Unit))
    (state : ControlState Unit Unit) : Bool :=
  match state.caller with
  | .sized found => found == length && (trace.isEmpty != answered)
  | _ => false

theorem sample_getlength : ∃ trace state, (machine () Endpoint.sample).Run (fun state label =>
      Sharing (fun _ => Endpoint.sample) () label ∧ state.Awaited Endpoint.sample () label)
      sampleOpened trace state ∧
    state.sizedAs 8192 true trace = true ∧ state.Reports () trace := by
  obtain ⟨trace, state, run, passes⟩ := Machine.Run.of_exec
    (machine () Endpoint.sample) sampleOpened (fun state label => state.awaits label)
    (fun _ _ => awaits_sound) sampleGetsize (fun trace state => state.sizedAs 8192 true trace)
    (by decide +kernel)
  exact ⟨trace, state, run, passes, sample_opened.getlength run⟩

/-- A step of the client's two threads or the server. -/
def unshared : ControlLabel Unit Unit → Bool
  | .caller _ | .replyThread _ | .server _ => true
  | .push .. | .pop _ => false

theorem unshared_sound {label : ControlLabel Unit Unit} (passes : unshared label = true) :
    Sharing (fun _ => Endpoint.sample) () label := by
  cases label with
  | caller label => trivial
  | replyThread label => trivial
  | server label => trivial
  | push index request => simp [unshared] at passes
  | pop mq => simp [unshared] at passes

/-- Read at once, the reply object still holds the answer to the OPEN: the length is the address of
the `VolumeState`, and no size has been sent. -/
theorem volume_notReported : ¬∀ trace state, (machine () Endpoint.sample).Run
      (fun _ label => Sharing (fun _ => Endpoint.sample) () label) sampleOpened trace state →
    state.Reports () trace := by
  intro claim
  have early : ∃ trace state, (machine () Endpoint.sample).Run
      (fun _ label => Sharing (fun _ => Endpoint.sample) () label) sampleOpened trace state ∧
      state.sizedAs 4096 false trace = true := by
    refine Machine.Run.of_exec (machine () Endpoint.sample) sampleOpened
      (fun _ label => unshared label) (fun _ _ => unshared_sound)
      [.caller .getsize, .caller .send, .caller .read]
      (fun trace state => state.sizedAs 4096 false trace) (by decide +kernel)
  obtain ⟨trace, state, run, passes⟩ := early
  simp only [sizedAs] at passes
  split at passes
  · rename_i found is
    simp only [Bool.and_eq_true, beq_iff_eq, bne_iff_ne] at passes
    obtain ⟨reply, answered, _⟩ := claim trace state run found is
    have empty : trace = [] := by simpa using passes.2
    simp [empty] at answered
  · simp at passes

end ControlState

end Cvbd
