import Cvbd.Service

/-!
The messages of one client in a server that other clients use too, from before
its volume is open. As long as the server answers nobody else in the client's
reply queue, each step of the server leaves the client's messages alone, handles
the oldest request, or puts a reply elsewhere.
-/

namespace Cvbd

variable {Index Client : Type} [DecidableEq Client]

/-- The handler answers the request with the reply. -/
def RepliesTo (request : Request) (reply : Reply) : Prop :=
  ∃ world kernel after mq closing,
    IOHandler.handle world kernel request = .reply after mq reply closing

/-- The reply to an OPEN is an open reply under the same header, but for the volume. -/
theorem RepliesTo.openVolume {req : OpenRequest} {reply : Reply}
    (replies : RepliesTo (.openVolume req) reply) :
    ∃ opened : OpenReply, reply = .openVolume opened ∧
      opened.header = { req.header with volume := opened.volume } := by
  obtain ⟨world, kernel, after, mq, closing, handled⟩ := replies
  have attached {world : World} {name : Name} {fd : Nat}
      (reply_eq : IOHandler.attach world kernel req name fd = .reply after mq reply closing) :
      ∃ opened : OpenReply, reply = .openVolume opened ∧
        opened.header = { req.header with volume := opened.volume } := by
    unfold IOHandler.attach at reply_eq
    split at reply_eq
    · simp at reply_eq
    · split at reply_eq
      · simp at reply_eq
      · split at reply_eq
        · simp only [Outcome.reply.injEq] at reply_eq
          exact ⟨_, reply_eq.2.2.1.symm, rfl⟩
        · simp only [Outcome.reply.injEq] at reply_eq
          exact ⟨_, reply_eq.2.2.1.symm, rfl⟩
  simp only [IOHandler.handle, IOHandler.openVolume] at handled
  split at handled
  · simp at handled
  · split at handled
    · exact attached handled
    · split at handled
      · split at handled
        · exact attached handled
        · simp at handled
      · simp at handled

namespace Exchange

/-- The client's requests are in one request queue, and nobody else is answered in its reply
queue. -/
structure Separate (exchange : Exchange Index Client) (endpoint : Endpoint Index) (owner : Client) :
    Prop where
  queued : ∀ index request, request ∈ exchange.requestMq index → request.sender = owner →
    index = endpoint.index
  inHand : ∀ index request, exchange.thread index = .hand request → request.sender = owner →
    index = endpoint.index
  sending : ∀ index mq reply closing, exchange.thread index = .sending mq reply closing →
    reply.sender = owner ∧ index = endpoint.index ∨ reply.sender ≠ owner ∧ mq ≠ endpoint.mq

/-- The server answers no other client in this client's reply queue. -/
def Apart (exchange : Exchange Index Client) (endpoint : Endpoint Index) (self : Client) :
    ServerLabel Index → Prop
  | .handle index kernel => ∀ request, exchange.thread index = .hand request →
      request.sender ≠ self → ∀ world mq reply closing,
      IOHandler.handle exchange.world kernel request.body = .reply world mq reply closing →
      mq ≠ endpoint.mq
  | _ => True

/-- What a step of the server does to the messages of the client. -/
inductive Moves (before after : Service Client) : Prop
  | silent (requests : after.requests = before.requests) (replies : after.replies = before.replies)
  | dropped {request rest} (queue : before.requests = request :: rest)
      (requests : after.requests = rest) (replies : after.replies = before.replies)
  | answered {request rest reply} (queue : before.requests = request :: rest)
      (requests : after.requests = rest)
      (replies : after.replies = before.replies ++ [⟨request.sender, request.call, reply⟩])
      (answers : RepliesTo request.body reply)
  | elsewhere {front reply} (queue : before.replies = front ++ [reply])
      (requests : after.requests = before.requests) (replies : after.replies = front)

variable {exchange after : Exchange Index Client} {endpoint : Endpoint Index} {self : Client}
variable [DecidableEq Index]

/-! The ends of the queues. -/

omit [DecidableEq Client] in
theorem Separate.push {index : Index} {request : Envelope Client Request}
    (separate : exchange.Separate endpoint self)
    (own : request.sender = self → index = endpoint.index)
    (pushed : exchange.pushRequest index request = some after) :
    after.Separate endpoint self := by
  obtain ⟨_, rfl⟩ := pushRequest_spec pushed
  refine { separate with queued := ?_ }
  intro other queued member sender
  by_cases same : other = index
  · subst same
    simp only [Function.update_self, List.mem_append, List.mem_singleton] at member
    rcases member with old | rfl
    · exact separate.queued _ _ old sender
    · exact own sender
  · simp only [Function.update_of_ne same] at member
    exact separate.queued _ _ member sender

variable (self) in
theorem push_own {call : Nat} {body : Request}
    (pushed : exchange.pushRequest endpoint.index ⟨self, call, body⟩ = some after) :
    (after.service endpoint self).requests =
        (exchange.service endpoint self).requests ++ [⟨self, call, body⟩] ∧
      (after.service endpoint self).replies = (exchange.service endpoint self).replies := by
  obtain ⟨_, rfl⟩ := pushRequest_spec pushed
  simp [service, List.append_assoc]

variable (endpoint) in
theorem push_other {index : Index} {request : Envelope Client Request}
    (other : request.sender ≠ self)
    (pushed : exchange.pushRequest index request = some after) :
    (after.service endpoint self).requests = (exchange.service endpoint self).requests ∧
      (after.service endpoint self).replies = (exchange.service endpoint self).replies := by
  obtain ⟨_, rfl⟩ := pushRequest_spec pushed
  by_cases same : endpoint.index = index
  · simp [service, same, List.filter_append, other]
  · simp [service, same]

omit [DecidableEq Index] [DecidableEq Client] in
theorem Separate.pop {mq : Nat} {reply : Envelope Client Reply}
    (separate : exchange.Separate endpoint self)
    (popped : exchange.popReply mq = some (reply, after)) : after.Separate endpoint self := by
  obtain ⟨rest, queue, rfl⟩ := popReply_spec popped
  exact { separate with }

variable (self) in
omit [DecidableEq Index] in
theorem pop_own {reply : Envelope Client Reply}
    (popped : exchange.popReply endpoint.mq = some (reply, after)) :
    (after.service endpoint self).requests = (exchange.service endpoint self).requests ∧
      (exchange.service endpoint self).replies = reply :: (after.service endpoint self).replies := by
  obtain ⟨rest, queue, rfl⟩ := popReply_spec popped
  simp [service, queue]

variable (self) in
omit [DecidableEq Index] in
theorem pop_other {mq : Nat} {reply : Envelope Client Reply} (other : mq ≠ endpoint.mq)
    (popped : exchange.popReply mq = some (reply, after)) :
    (after.service endpoint self).requests = (exchange.service endpoint self).requests ∧
      (after.service endpoint self).replies = (exchange.service endpoint self).replies := by
  obtain ⟨rest, queue, rfl⟩ := popReply_spec popped
  simp [service, Ne.symm other]

/-! Steps of a server thread. -/

omit [DecidableEq Client] in
theorem Separate.setThread (separate : exchange.Separate endpoint self) (index : Index)
    (thread : Thread Client)
    (inHand : ∀ request, thread = .hand request → request.sender = self → index = endpoint.index)
    (sending : ∀ mq reply closing, thread = .sending mq reply closing →
      reply.sender = self ∧ index = endpoint.index ∨ reply.sender ≠ self ∧ mq ≠ endpoint.mq) :
    (exchange.setThread index thread).Separate endpoint self where
  queued := separate.queued
  inHand := by
    intro other request held sender
    by_cases same : other = index
    · subst same
      exact inHand request (by simpa [Exchange.setThread] using held) sender
    · exact separate.inHand other request (by simpa [Exchange.setThread, same] using held) sender
  sending := by
    intro other mq reply closing sends
    by_cases same : other = index
    · subst same
      exact sending mq reply closing (by simpa [Exchange.setThread] using sends)
    · exact separate.sending other mq reply closing (by simpa [Exchange.setThread, same] using sends)

omit [DecidableEq Client] in
theorem Separate.dropRequest {index : Index} {request : Envelope Client Request}
    {rest : List (Envelope Client Request)} (separate : exchange.Separate endpoint self)
    (queue : exchange.requestMq index = request :: rest) :
    ({ exchange with requestMq := Function.update exchange.requestMq index rest } :
      Exchange Index Client).Separate endpoint self := by
  refine { separate with queued := ?_ }
  intro other queued member sender
  by_cases same : other = index
  · subst same
    simp only [Function.update_self] at member
    exact separate.queued _ _ (by rw [queue]; exact List.mem_cons_of_mem _ member) sender
  · simp only [Function.update_of_ne same] at member
    exact separate.queued _ _ member sender

theorem Separate.receiveStep {index : Index} (separate : exchange.Separate endpoint self)
    (stepped : exchange.receiveStep index = some after) :
    after.Separate endpoint self ∧
      Moves (exchange.service endpoint self) (after.service endpoint self) := by
  unfold Exchange.receiveStep at stepped
  split at stepped
  · rename_i request rest idle queue
    have dropped := separate.dropRequest queue
    have place (sender : request.sender = self) : index = endpoint.index :=
      separate.queued index request (by simp [queue]) sender
    split at stepped
    · obtain rfl := Option.some.inj stepped
      refine ⟨dropped.setThread index .stopped (by simp) (by simp), ?_⟩
      by_cases sender : request.sender = self
      · obtain rfl := place sender
        have oldest : (exchange.service endpoint self).requests =
            request :: rest.filter fun queued => queued.sender = self := by
          simp [service, Thread.requestsOf, idle, queue, sender]
        refine .dropped oldest ?_ ?_
        · simp [service, Exchange.setThread, Thread.requestsOf]
        · simp [service, Exchange.setThread, Thread.repliesOf, idle]
      · by_cases same : endpoint.index = index
        · refine .silent ?_ ?_
          · simp [service, Exchange.setThread, Thread.requestsOf, same, idle, queue, sender]
          · simp [service, Exchange.setThread, Thread.repliesOf, same, idle]
        · exact .silent (by simp [service, Exchange.setThread, same])
            (by simp [service, Exchange.setThread, same])
    · obtain rfl := Option.some.inj stepped
      refine ⟨dropped.setThread index (.hand request) ?_ (by simp), ?_⟩
      · rintro _ ⟨⟩
        exact place
      · refine .silent ?_ ?_
        · by_cases same : endpoint.index = index
          · by_cases sender : request.sender = self <;>
              simp [service, Exchange.setThread, Thread.requestsOf, same, idle, queue, sender]
          · simp [service, Exchange.setThread, same]
        · by_cases same : endpoint.index = index
          · simp [service, Exchange.setThread, Thread.repliesOf, same, idle]
          · simp [service, Exchange.setThread, same]
  · simp at stepped

theorem service_handled {index : Index} {request : Envelope Client Request} (world : World)
    (owner : UInt64 → Option Client) (thread : Thread Client)
    (hand : exchange.thread index = .hand request)
    (place : request.sender = self → index = endpoint.index) :
    let after := ({ exchange with world, owner } : Exchange Index Client).setThread index thread
    (request.sender = self → thread.requestsOf self = [] → ∃ rest,
      (exchange.service endpoint self).requests = request :: rest ∧
      (after.service endpoint self).requests = rest ∧
      (after.service endpoint self).replies =
        (exchange.service endpoint self).replies ++ thread.repliesOf self) ∧
    (request.sender ≠ self → thread.requestsOf self = [] → thread.repliesOf self = [] →
      (after.service endpoint self).requests = (exchange.service endpoint self).requests ∧
      (after.service endpoint self).replies = (exchange.service endpoint self).replies) := by
  intro after
  constructor
  · intro sender silent
    obtain rfl := place sender
    refine ⟨(exchange.requestMq endpoint.index).filter fun queued => queued.sender = self, ?_, ?_, ?_⟩
    · simp [service, hand, Thread.requestsOf, sender]
    · simp [after, service, Exchange.setThread, silent]
    · simp [after, service, Exchange.setThread, hand, Thread.repliesOf]
  · intro sender noRequests noReplies
    by_cases same : endpoint.index = index
    · have handRequests : (Thread.hand request).requestsOf self = [] := by
        simp [Thread.requestsOf, sender]
      simp [after, service, Exchange.setThread, same, hand, handRequests, noRequests, noReplies]
    · simp [after, service, Exchange.setThread, same]

theorem Separate.handleStep {index : Index} {kernel : Kernel}
    (separate : exchange.Separate endpoint self)
    (apart : exchange.Apart endpoint self (.handle index kernel))
    (stepped : exchange.handleStep index kernel = some after) :
    after.Separate endpoint self ∧
      Moves (exchange.service endpoint self) (after.service endpoint self) := by
  unfold Exchange.handleStep at stepped
  split at stepped
  · rename_i request hand
    have place := separate.inHand index request hand
    cases handled : IOHandler.handle exchange.world kernel request.body with
    | done world =>
        simp only [handled] at stepped
        obtain rfl := Option.some.inj stepped
        have kept : ({ exchange with
            world, owner := exchange.ownerAfter kernel request (.done world) } :
            Exchange Index Client).Separate endpoint self := { separate with }
        refine ⟨kept.setThread index .idle (by simp) (by simp), ?_⟩
        obtain ⟨own, foreign⟩ := service_handled world
          (exchange.ownerAfter kernel request (.done world)) .idle hand place
        by_cases sender : request.sender = self
        · obtain ⟨rest, queue, requests, replies⟩ := own sender rfl
          exact .dropped queue requests (by simpa using replies)
        · obtain ⟨requests, replies⟩ := foreign sender rfl rfl
          exact .silent requests replies
    | reply world mq reply closing =>
        simp only [handled] at stepped
        obtain rfl := Option.some.inj stepped
        have foreignQueue (sender : request.sender ≠ self) : mq ≠ endpoint.mq :=
          apart request hand sender world mq reply closing handled
        have kept : ({ exchange with
            world, owner := exchange.ownerAfter kernel request (.reply world mq reply closing) } :
            Exchange Index Client).Separate endpoint self := { separate with }
        constructor
        · refine kept.setThread index _ (by simp) ?_
          rintro _ _ _ ⟨⟩
          by_cases sender : request.sender = self
          · exact Or.inl ⟨sender, place sender⟩
          · exact Or.inr ⟨sender, foreignQueue sender⟩
        · obtain ⟨own, foreign⟩ := service_handled world
            (exchange.ownerAfter kernel request (.reply world mq reply closing))
            (.sending mq ⟨request.sender, request.call, reply⟩ closing) hand place
          by_cases sender : request.sender = self
          · subst sender
            obtain ⟨rest, queue, requests, replies⟩ := own rfl rfl
            simp only [Thread.repliesOf, if_true] at replies
            exact .answered queue requests replies ⟨_, _, _, _, _, handled⟩
          · obtain ⟨requests, replies⟩ := foreign sender rfl (by simp [Thread.repliesOf, sender])
            exact .silent requests replies
    | fault world fault =>
        simp only [handled] at stepped
        obtain rfl := Option.some.inj stepped
        exact ⟨{ separate with }, .silent rfl rfl⟩
  · simp at stepped

theorem Separate.sendStep {index : Index} (separate : exchange.Separate endpoint self)
    (stepped : exchange.sendStep index = some after) :
    after.Separate endpoint self ∧
      Moves (exchange.service endpoint self) (after.service endpoint self) := by
  unfold Exchange.sendStep at stepped
  split at stepped
  · rename_i mq reply closing sends
    have place := separate.sending index mq reply closing sends
    -- The reply has left the thread; what the thread does next concerns nobody's messages.
    have moved (thread : Thread Client) (noRequests : thread.requestsOf self = [])
        (noReplies : thread.repliesOf self = []) :
        Moves (exchange.service endpoint self) ((({ exchange with
          replyMq := Function.update exchange.replyMq mq (exchange.replyMq mq ++ [reply]) } :
          Exchange Index Client).setThread index thread).service endpoint self) := by
      rcases place with ⟨sender, rfl⟩ | ⟨sender, foreignQueue⟩
      · have own : (Thread.sending mq reply closing).repliesOf self = [reply] := by
          simp [Thread.repliesOf, sender]
        by_cases ownQueue : mq = endpoint.mq
        · subst ownQueue
          refine .silent ?_ ?_
          · simp [service, Exchange.setThread, noRequests, sends]
          · simp [service, Exchange.setThread, noReplies, sends, own]
        · have last : (exchange.service endpoint self).replies =
              exchange.replyMq endpoint.mq ++ [reply] := by
            simp [service, sends, own]
          refine .elsewhere last ?_ ?_
          · simp [service, Exchange.setThread, noRequests, sends]
          · simp [service, Exchange.setThread, noReplies, Ne.symm ownQueue]
      · have own : (Thread.sending mq reply closing).repliesOf self = [] := by
          simp [Thread.repliesOf, sender]
        by_cases same : endpoint.index = index
        · refine .silent ?_ ?_
          · simp [service, Exchange.setThread, same, noRequests, sends]
          · simp [service, Exchange.setThread, same, noReplies, sends, own, Ne.symm foreignQueue]
        · refine .silent ?_ ?_
          · simp [service, Exchange.setThread, same]
          · simp [service, Exchange.setThread, same, Ne.symm foreignQueue]
    have kept : ({ exchange with
        replyMq := Function.update exchange.replyMq mq (exchange.replyMq mq ++ [reply]) } :
        Exchange Index Client).Separate endpoint self := { separate with }
    split at stepped
    · split at stepped
      · obtain rfl := Option.some.inj stepped
        exact ⟨kept.setThread index .idle (by simp) (by simp), moved .idle rfl rfl⟩
      · rename_i volume
        obtain rfl := Option.some.inj stepped
        exact ⟨kept.setThread index (.closing volume) (by simp) (by simp),
          moved (.closing volume) rfl rfl⟩
    · simp at stepped
  · simp at stepped

theorem Separate.closeStep {index : Index} (separate : exchange.Separate endpoint self)
    (stepped : exchange.closeStep index = some after) :
    after.Separate endpoint self ∧
      Moves (exchange.service endpoint self) (after.service endpoint self) := by
  unfold Exchange.closeStep at stepped
  split at stepped
  · rename_i volume closing
    have idle (world : World) :
        (({ exchange with world } : Exchange Index Client).setThread index .idle).Separate
            endpoint self ∧
          Moves (exchange.service endpoint self)
            ((({ exchange with world } : Exchange Index Client).setThread index .idle).service
              endpoint self) := by
      have kept : ({ exchange with world } : Exchange Index Client).Separate endpoint self :=
        { separate with }
      refine ⟨kept.setThread index .idle (by simp) (by simp), ?_⟩
      by_cases same : endpoint.index = index
      · refine .silent ?_ ?_
        · simp [service, Exchange.setThread, same, closing, Thread.requestsOf]
        · simp [service, Exchange.setThread, same, closing, Thread.repliesOf]
      · exact .silent (by simp [service, Exchange.setThread, same])
          (by simp [service, Exchange.setThread, same])
    split at stepped
    · obtain rfl := Option.some.inj stepped
      exact ⟨{ separate with }, .silent rfl rfl⟩
    · obtain rfl := Option.some.inj stepped
      exact idle _
    · obtain rfl := Option.some.inj stepped
      exact idle _
  · simp at stepped

/-- Every step of the server keeps the client's messages separate and moves them as said. -/
theorem Separate.serverStep {label : ServerLabel Index} (separate : exchange.Separate endpoint self)
    (apart : exchange.Apart endpoint self label) (stepped : exchange.serverStep label = some after) :
    after.Separate endpoint self ∧
      Moves (exchange.service endpoint self) (after.service endpoint self) := by
  have running := serverStep_running stepped
  simp only [Exchange.serverStep, running, Option.isSome_none, Bool.false_eq_true, if_false] at stepped
  cases label with
  | receive index => exact separate.receiveStep stepped
  | handle index kernel => exact separate.handleStep apart stepped
  | send index => exact separate.sendStep stepped
  | close index => exact separate.closeStep stepped

end Exchange

end Cvbd
