import Cvbd.PlainReadChecks

/-! In an order in which neither receiver takes the other one's messages or disturbs its use of the
reply object, `shared_mem_read` returns its own data. -/

namespace Cvbd

namespace PlainRead

variable {Index Client : Type} [DecidableEq Index] [DecidableEq Client]
variable {plain : PlainCall Index Client} {state after : PlainRead Index Client}

/-- The reply to the call's READ. -/
def PlainReply (size : UInt64) (reply : Reply) : Prop :=
  ∃ answer : ReadReply, reply = .read answer ∧ answer.header.type = .reqRead ∧
    answer.sizeInBytes = size

/-- Messages under the call's number are its own; the reply thread can complete all others. -/
structure Fits (plain : PlainCall Index Client) (heap : UInt64 → Option Acb) (call : Nat)
    (reply : Reply) : Prop where
  own : call = plain.call → PlainReply plain.sizeInBytes reply
  foreign : call ≠ plain.call → Completes heap reply

/-- What `send_read` has done so far. -/
inductive Phase (plain : PlainCall Index Client) (state : PlainRead Index Client) : Prop
  | outside (caller : state.caller = .outside) (taken : state.taken = [])
  | sending {request} (caller : state.caller = .sending request) (taken : state.taken = [])
      (asks : ∀ reply, RepliesTo request reply → PlainReply plain.sizeInBytes reply)
  | receiving (caller : state.caller = .receiving) (taken : state.taken = [])
  | received {reply} (caller : state.caller = .received)
      (taken : state.taken = [⟨plain.self, plain.call, .read reply⟩])
      (type : (Wire.viewHeader state.replyMsg).type = .reqRead)
      (size : Wire.viewReadSize state.replyMsg = plain.sizeInBytes)
      (data : ∀ index, index < plain.sizeInBytes.toNat →
        Wire.viewReadData state.replyMsg index = reply.data index)
  | checked {reply} (caller : state.caller = .checked)
      (taken : state.taken = [⟨plain.self, plain.call, .read reply⟩])
      (data : ∀ index, index < plain.sizeInBytes.toNat →
        Wire.viewReadData state.replyMsg index = reply.data index)
  | returned {reply} (caller : state.caller = .returned)
      (taken : state.taken = [⟨plain.self, plain.call, .read reply⟩])
      (data : ∀ index, index < plain.sizeInBytes.toNat → state.message index = reply.data index)

structure Inv (plain : PlainCall Index Client) (state : PlainRead Index Client) : Prop where
  separate : state.exchange.Separate plain.endpoint plain.self
  small : plain.sizeInBytes.toNat ≤ maxDataSize
  requests : ∀ envelope, envelope ∈ (state.own plain).requests → envelope.sender = plain.self ∧
    ∀ reply, RepliesTo envelope.body reply → Fits plain state.client.heap envelope.call reply
  replies : ∀ envelope, envelope ∈ (state.own plain).replies → envelope.sender = plain.self ∧
    Fits plain state.client.heap envelope.call envelope.body
  healthy : state.client.fault = none ∧ state.aborted = false
  thread : ThreadLive state.client
  callbacks : state.owed = state.called ++ state.client.replyThread.pending
  working : ∃ done working, state.threadTaken = done ++ working ∧ Working plain state working ∧
    (∀ reply, reply ∈ done → reply.call ≠ plain.call) ∧
      List.Forall₂ (fun reply got => SeenAs reply.body got) done state.seen
  phase : Phase plain state

omit [DecidableEq Index] [DecidableEq Client] in
theorem Fits.kept {before after : UInt64 → Option Acb} {call : Nat} {reply : Reply}
    (fits : Fits plain before call reply) (heap : HeapKept before after) :
    Fits plain after call reply :=
  ⟨fits.own, fun other => heap.completes (fits.foreign other)⟩

omit [DecidableEq Index] in
theorem Inv.messages (inv : Inv plain state) {heap : UInt64 → Option Acb}
    (kept : HeapKept state.client.heap heap) :
    (∀ envelope, envelope ∈ (state.own plain).requests → envelope.sender = plain.self ∧
      ∀ reply, RepliesTo envelope.body reply → Fits plain heap envelope.call reply) ∧
    ∀ envelope, envelope ∈ (state.own plain).replies → envelope.sender = plain.self ∧
      Fits plain heap envelope.call envelope.body := by
  constructor
  · intro envelope member
    obtain ⟨sender, fits⟩ := inv.requests envelope member
    exact ⟨sender, fun answer replies => (fits answer replies).kept kept⟩
  · intro envelope member
    obtain ⟨sender, fits⟩ := inv.replies envelope member
    exact ⟨sender, fits.kept kept⟩

omit [DecidableEq Index] in
theorem service_requests_sender (exchange : Exchange Index Client) (endpoint : Endpoint Index)
    (self : Client) {envelope : Envelope Client Request}
    (member : envelope ∈ (exchange.service endpoint self).requests) : envelope.sender = self := by
  simp only [Exchange.service, List.mem_append, List.mem_filter, decide_eq_true_eq] at member
  rcases member with hand | ⟨_, sender⟩
  · unfold Thread.requestsOf at hand
    split at hand
    · split at hand
      · rename_i sender
        obtain rfl := List.mem_singleton.mp hand
        exact sender
      · simp at hand
    · simp at hand
  · exact sender

omit [DecidableEq Index] in
theorem Start.inv (start : Start plain state) : Inv plain state where
  separate := start.separate
  small := start.small
  requests := by
    intro envelope member
    obtain ⟨foreign, completes⟩ := start.requests envelope member
    refine ⟨service_requests_sender _ _ _ member, fun reply replies => ?_⟩
    exact ⟨fun own => (foreign own).elim, fun _ => completes reply replies⟩
  replies := by
    intro envelope member
    obtain ⟨sender, foreign, completes⟩ := start.replies envelope member
    exact ⟨sender, fun own => (foreign own).elim, fun _ => completes⟩
  healthy := ⟨start.fault, start.aborted⟩
  thread := start.thread
  callbacks := by rw [start.owed, start.called, List.nil_append]
  working := by
    refine ⟨[], state.threadTaken, rfl, start.threadTaken, by simp, ?_⟩
    rw [start.seen]
    exact List.Forall₂.nil
  phase := .outside start.caller start.taken

omit [DecidableEq Index] [DecidableEq Client] in
theorem Working.transfer {messages : List (Envelope Client Reply)}
    (working : Working plain state messages) (window : after.window = state.window)
    (thread : after.client.replyThread = state.client.replyThread)
    (heap : after.client.heap = state.client.heap) (replyMsg : after.replyMsg = state.replyMsg) :
    Working plain after messages := by
  cases working with
  | nothing closed => exact .nothing (window.trans closed)
  | received held idle foreign completes header rest =>
      refine .received (window.trans held) (thread.trans idle) foreign ?_ ?_ ?_
      · rwa [heap]
      · rwa [replyMsg]
      · rwa [replyMsg]
  | tested held idle foreign completes rest =>
      refine .tested (window.trans held) (thread.trans idle) foreign ?_ ?_
      · rwa [heap]
      · rwa [replyMsg]

omit [DecidableEq Index] [DecidableEq Client] in
theorem Phase.transfer (phase : Phase plain state) (caller : after.caller = state.caller)
    (taken : after.taken = state.taken) (message : after.message = state.message)
    (replyMsg : after.replyMsg = state.replyMsg) : Phase plain after := by
  cases phase with
  | outside place none => exact .outside (caller.trans place) (taken.trans none)
  | sending place none asks => exact .sending (caller.trans place) (taken.trans none) asks
  | receiving place none => exact .receiving (caller.trans place) (taken.trans none)
  | received place one type size data =>
      exact .received (caller.trans place) (taken.trans one) (by rwa [replyMsg])
        (by rwa [replyMsg]) (by rwa [replyMsg])
  | checked place one data =>
      exact .checked (caller.trans place) (taken.trans one) (by rwa [replyMsg])
  | returned place one data =>
      exact .returned (caller.trans place) (taken.trans one) (by rwa [message])

omit [DecidableEq Index] [DecidableEq Client] in
/-- Before its own receive `send_read` has taken nothing. -/
theorem Phase.nothingTaken (phase : Phase plain state)
    (early : state.caller = .outside ∨ state.caller = .receiving) : state.taken = [] := by
  cases phase with
  | outside caller taken => exact taken
  | sending caller taken asks => exact taken
  | receiving caller taken => exact taken
  | received caller => simp [caller] at early
  | checked caller => simp [caller] at early
  | returned caller => simp [caller] at early

omit [DecidableEq Index] [DecidableEq Client] in
theorem Working.facts {messages : List (Envelope Client Reply)}
    (working : Working plain state messages) :
    messages.length ≤ 1 ∧ (state.window = .closed → messages = []) ∧
      ∀ reply, reply ∈ messages → reply.call ≠ plain.call := by
  cases working with
  | nothing window => simp
  | received window idle foreign => simpa [window] using foreign
  | tested window idle foreign => simpa [window] using foreign

omit [DecidableEq Index] in
theorem Inv.honoured (inv : Inv plain state) : OwnReplies plain state := by
  obtain ⟨done, working, equal, works, foreign, seen⟩ := inv.working
  obtain ⟨short, closed, foreignToo⟩ := works.facts
  have mine : ∀ reply, reply ∈ state.taken →
      reply.sender = plain.self ∧ reply.call = plain.call := by
    cases inv.phase with
    | outside caller taken => simp [taken]
    | sending caller taken => simp [taken]
    | receiving caller taken => simp [taken]
    | received caller taken => simp [taken]
    | checked caller taken => simp [taken]
    | returned caller taken => simp [taken]
  refine ⟨inv.healthy, mine, ?_, ⟨done, working, equal, short, closed, seen⟩, inv.callbacks, ?_⟩
  · intro reply member
    rw [equal, List.mem_append] at member
    rcases member with old | new
    · exact foreign reply old
    · exact foreignToo reply new
  · intro returned
    cases inv.phase with
    | outside caller => simp [caller] at returned
    | sending caller => simp [caller] at returned
    | receiving caller => simp [caller] at returned
    | received caller => simp [caller] at returned
    | checked caller => simp [caller] at returned
    | @returned reply caller taken data => exact ⟨reply, taken, data⟩

omit [DecidableEq Index] in
/-- Messages move, and the client's two threads stay where they are. -/
theorem Inv.relay (inv : Inv plain state) {exchange : Exchange Index Client}
    (separate : exchange.Separate plain.endpoint plain.self)
    (requests : ∀ envelope, envelope ∈ (exchange.service plain.endpoint plain.self).requests →
      envelope.sender = plain.self ∧
        ∀ reply, RepliesTo envelope.body reply → Fits plain state.client.heap envelope.call reply)
    (replies : ∀ envelope, envelope ∈ (exchange.service plain.endpoint plain.self).replies →
      envelope.sender = plain.self ∧ Fits plain state.client.heap envelope.call envelope.body) :
    Inv plain { state with exchange } := by
  obtain ⟨done, working, equal, works, foreign, seen⟩ := inv.working
  exact ⟨separate, inv.small, requests, replies, inv.healthy, inv.thread, inv.callbacks,
    ⟨done, working, equal, works.transfer rfl rfl rfl rfl, foreign, seen⟩,
    inv.phase.transfer rfl rfl rfl rfl⟩

omit [DecidableEq Index] in
theorem Inv.moves (inv : Inv plain state) {exchange : Exchange Index Client}
    (separate : exchange.Separate plain.endpoint plain.self)
    (moves : Exchange.Moves (state.own plain) (exchange.service plain.endpoint plain.self)) :
    Inv plain { state with exchange } := by
  cases moves with
  | silent requests replies =>
      refine inv.relay separate ?_ ?_
      · exact fun envelope member => inv.requests envelope (by rwa [← requests])
      · exact fun envelope member => inv.replies envelope (by rwa [← replies])
  | dropped queue requests replies =>
      refine inv.relay separate ?_ ?_
      · intro envelope member
        refine inv.requests envelope ?_
        rw [queue]
        exact List.mem_cons_of_mem _ (by rwa [← requests])
      · exact fun envelope member => inv.replies envelope (by rwa [← replies])
  | @answered request rest reply queue requests replies answers =>
      obtain ⟨sender, fits⟩ := inv.requests request (by simp [queue])
      refine inv.relay separate ?_ ?_
      · intro envelope member
        refine inv.requests envelope ?_
        rw [queue]
        exact List.mem_cons_of_mem _ (by rwa [← requests])
      · intro envelope member
        rw [replies, List.mem_append, List.mem_singleton] at member
        rcases member with old | rfl
        · exact inv.replies envelope old
        · exact ⟨sender, fits reply answers⟩
  | elsewhere queue requests replies =>
      refine inv.relay separate ?_ ?_
      · exact fun envelope member => inv.requests envelope (by rwa [← requests])
      · intro envelope member
        refine inv.replies envelope ?_
        rw [queue]
        exact List.mem_append_left _ (by rwa [← replies])

omit [DecidableEq Index] in
/-- The head of the reply queue, and what is left when it has been received. -/
theorem Inv.popped (inv : Inv plain state) {reply : Envelope Client Reply}
    {exchange : Exchange Index Client}
    (popped : state.exchange.popReply plain.endpoint.mq = some (reply, exchange)) :
    (∃ rest, state.exchange.replyMq plain.endpoint.mq = reply :: rest) ∧
      reply.sender = plain.self ∧ Fits plain state.client.heap reply.call reply.body ∧
      Inv plain { state with exchange } := by
  obtain ⟨requests, replies⟩ := Exchange.pop_own plain.self popped
  obtain ⟨sender, fits⟩ := inv.replies reply (by rw [own, replies]; simp)
  have kept : Inv plain { state with exchange } := by
    refine inv.relay (inv.separate.pop popped) ?_ ?_
    · exact fun envelope member => inv.requests envelope (by rwa [own, ← requests])
    · intro envelope member
      exact inv.replies envelope (by rw [own, replies]; exact List.mem_cons_of_mem _ member)
  obtain ⟨rest, queue, _⟩ := Exchange.popReply_spec popped
  exact ⟨⟨rest, queue⟩, sender, fits, kept⟩

omit [DecidableEq Index] in
theorem Inv.advance (inv : Inv plain state) {caller : PlainCaller} {message : Bytes}
    (phase : Phase plain { state with caller, message }) :
    Inv plain { state with caller, message } := by
  obtain ⟨done, working, equal, works, foreign, seen⟩ := inv.working
  exact ⟨inv.separate, inv.small, inv.requests, inv.replies, inv.healthy, inv.thread,
    inv.callbacks, ⟨done, working, equal, works.transfer rfl rfl rfl rfl, foreign, seen⟩, phase⟩

omit [DecidableEq Index] [DecidableEq Client] in
/-- The request of the call asks for a plain reply. -/
theorem sendRead_asks (client : SharedMemClient) {size : UInt64} (offset : Int64)
    (small : size.toNat ≤ maxDataSize) :
    ∃ request shared, client.sendRead size offset = some (request, shared) ∧
      ∀ reply, RepliesTo request reply → PlainReply size reply := by
  refine ⟨_, _, if_pos small, fun reply replies => ?_⟩
  have sent := client.post_readMessage client.volume 0 offset size
  simp only [SharedMemClient.post] at sent
  rw [sent] at replies
  obtain ⟨answer, rfl, header, sizeInBytes⟩ := replies.read
  exact ⟨answer, rfl, by rw [header], sizeInBytes⟩

omit [DecidableEq Index] in
theorem Inv.begin (inv : Inv plain state) (outside : state.caller = .outside)
    {request : Request} {shared : SharedMemClient}
    (asks : ∀ reply, RepliesTo request reply → PlainReply plain.sizeInBytes reply) :
    Inv plain { state with
      client := { state.client with shared }
      caller := .sending request } := by
  have none := inv.phase.nothingTaken (Or.inl outside)
  obtain ⟨done, working, equal, works, foreign, seen⟩ := inv.working
  exact ⟨inv.separate, inv.small, inv.requests, inv.replies, inv.healthy, inv.thread,
    inv.callbacks, ⟨done, working, equal, works.transfer rfl rfl rfl rfl, foreign, seen⟩,
    .sending rfl none asks⟩

theorem Inv.send (inv : Inv plain state) {request : Request} {exchange : Exchange Index Client}
    (sending : state.caller = .sending request)
    (pushed : state.exchange.pushRequest plain.endpoint.index ⟨plain.self, plain.call, request⟩ =
      some exchange) : Inv plain { state with exchange, caller := .receiving } := by
  obtain ⟨none, asks⟩ : state.taken = [] ∧
      ∀ reply, RepliesTo request reply → PlainReply plain.sizeInBytes reply := by
    cases inv.phase with
    | sending caller taken asks =>
        obtain rfl := PlainCaller.sending.inj (sending.symm.trans caller)
        exact ⟨taken, asks⟩
    | outside caller => simp [sending] at caller
    | receiving caller => simp [sending] at caller
    | received caller => simp [sending] at caller
    | checked caller => simp [sending] at caller
    | returned caller => simp [sending] at caller
  obtain ⟨requests, replies⟩ := Exchange.push_own plain.self pushed
  have kept : Inv plain { state with exchange } := by
    refine inv.relay (inv.separate.push (fun _ => rfl) pushed) ?_ ?_
    · intro envelope member
      rw [requests, List.mem_append, List.mem_singleton] at member
      rcases member with old | rfl
      · exact inv.requests envelope old
      · refine ⟨rfl, fun reply replies => ?_⟩
        exact ⟨fun _ => asks reply replies, fun other => (other rfl).elim⟩
    · exact fun envelope member => inv.replies envelope (by rwa [own, ← replies])
  exact kept.advance (.receiving rfl none)

omit [DecidableEq Index] in
/-- `send_read` receives the reply to its READ while the reply thread needs nothing from the reply
object. -/
theorem Inv.callerReceive (inv : Inv plain state) {serverOld : Bytes}
    (ordered : Ordered plain state (.caller (.receive serverOld)))
    (receiving : state.caller = .receiving) {reply : Envelope Client Reply}
    {exchange : Exchange Index Client}
    (popped : state.exchange.popReply plain.endpoint.mq = some (reply, exchange)) :
    Inv plain { state with
      exchange
      replyMsg := Wire.receive state.replyMsg (Wire.replyMessage serverOld reply.body)
      caller := .received
      taken := state.taken ++ [reply] } := by
  obtain ⟨⟨rest, queue⟩, sender, fits, kept⟩ := inv.popped popped
  obtain ⟨mine, closed⟩ := ordered reply rest queue
  obtain ⟨answer, body, type, size⟩ := fits.own mine
  have none := inv.phase.nothingTaken (Or.inr receiving)
  obtain ⟨done, working, equal, works, foreign, seen⟩ := kept.working
  have idle : working = [] := works.facts.2.1 closed
  refine ⟨kept.separate, inv.small, kept.requests, kept.replies, inv.healthy, inv.thread,
    inv.callbacks, ⟨done, working, equal, ?_, foreign, seen⟩, ?_⟩
  · rw [idle]
    exact .nothing closed
  · have envelope : reply = ⟨plain.self, plain.call, .read answer⟩ := by
      obtain ⟨origin, number, content⟩ := reply
      simp only at sender mine body
      rw [sender, mine, body]
    have small : answer.sizeInBytes.toNat ≤ maxDataSize := by
      rw [size]
      exact inv.small
    refine .received rfl (by rw [none, envelope, List.nil_append]) ?_ ?_ ?_
    · rw [Wire.viewHeader_reply, body]
      exact type
    · rw [body, Wire.viewReadSize_readReply, size]
    · intro index below
      rw [body]
      exact Wire.viewReadData_readReply _ _ small (by rwa [size])

theorem Inv.callerStep (inv : Inv plain state) {label : PlainCallerLabel}
    (ordered : Ordered plain state (.caller label))
    (stepped : state.callerStep plain label = some after) : Inv plain after := by
  cases label with
  | begin =>
      simp only [PlainRead.callerStep] at stepped
      split at stepped
      · rename_i outside
        obtain ⟨request, shared, filled, asks⟩ :=
          sendRead_asks state.client.shared plain.offset inv.small
        rw [filled] at stepped
        obtain rfl := Option.some.inj stepped
        exact inv.begin outside asks
      · simp at stepped
  | send =>
      simp only [PlainRead.callerStep] at stepped
      split at stepped
      · rename_i request sending
        split at stepped
        · rename_i exchange pushed
          obtain rfl := Option.some.inj stepped
          exact inv.send sending pushed
        · simp at stepped
      · simp at stepped
  | receive serverOld =>
      simp only [PlainRead.callerStep] at stepped
      split at stepped
      · rename_i receiving
        split at stepped
        · rename_i reply exchange popped
          obtain rfl := Option.some.inj stepped
          exact inv.callerReceive ordered receiving popped
        · simp at stepped
      · simp at stepped
  | check =>
      simp only [PlainRead.callerStep] at stepped
      split at stepped
      · rename_i received
        cases inv.phase with
        | received caller taken type size data =>
            rw [if_pos ⟨type, size.symm⟩] at stepped
            obtain rfl := Option.some.inj stepped
            exact inv.advance (.checked rfl taken data)
        | outside caller => simp [received] at caller
        | sending caller => simp [received] at caller
        | receiving caller => simp [received] at caller
        | checked caller => simp [received] at caller
        | returned caller => simp [received] at caller
      · simp at stepped
  | copy =>
      simp only [PlainRead.callerStep] at stepped
      split at stepped
      · rename_i checked
        cases inv.phase with
        | checked caller taken data =>
            obtain rfl := Option.some.inj stepped
            refine inv.advance (.returned rfl taken ?_)
            intro index below
            rw [← data index below]
            exact Region.copy_prefix below
        | outside caller => simp [checked] at caller
        | sending caller => simp [checked] at caller
        | receiving caller => simp [checked] at caller
        | received caller => simp [checked] at caller
        | returned caller => simp [checked] at caller
      · simp at stepped

omit [DecidableEq Index] in
/-- The reply thread receives a message of its own; what `send_read` has still to read stays. -/
theorem Inv.threadReceive (inv : Inv plain state) {serverOld : Bytes}
    (ordered : Ordered plain state (.replyThread (.receive serverOld)))
    (idle : state.client.replyThread = .idle) (closed : state.window = .closed)
    {reply : Envelope Client Reply} {exchange : Exchange Index Client}
    (popped : state.exchange.popReply plain.endpoint.mq = some (reply, exchange)) :
    Inv plain { state with
      exchange
      replyMsg := Wire.receive state.replyMsg (Wire.replyMessage serverOld reply.body)
      window := .received
      threadTaken := state.threadTaken ++ [reply] } := by
  obtain ⟨⟨rest, queue⟩, _, fits, kept⟩ := inv.popped popped
  obtain ⟨foreign, notReceived, short⟩ := ordered reply rest queue
  have completes := fits.foreign foreign
  obtain ⟨done, working, equal, works, others, seen⟩ := kept.working
  have nothing : working = [] := works.facts.2.1 closed
  refine ⟨kept.separate, inv.small, kept.requests, kept.replies, inv.healthy, inv.thread,
    inv.callbacks, ⟨done, [reply], ?_, ?_, others, seen⟩, ?_⟩
  · rw [equal, nothing, List.append_nil]
  · exact .received rfl idle foreign completes (Wire.viewHeader_reply _ _ _)
      (seenAs_receive _ _ completes)
  · cases inv.phase with
    | outside caller taken => exact .outside caller taken
    | sending caller taken asks => exact .sending caller taken asks
    | receiving caller taken => exact .receiving caller taken
    | received caller => exact (notReceived caller).elim
    | checked caller taken data =>
        refine .checked caller taken fun index below => ?_
        rw [Wire.viewReadData_short _ (short caller)]
        exact data index below
    | returned caller taken data => exact .returned caller taken data

omit [DecidableEq Index] in
theorem Inv.threadCopy (inv : Inv plain state) {header : Header}
    (tested : state.window = .tested header) :
    Inv plain { state with
      client := state.client.handleCoReply (Wire.viewReply header state.replyMsg)
      window := .closed
      seen := state.seen ++ [Wire.viewReply header state.replyMsg]
      owed := state.owed ++ (Wire.viewReply header state.replyMsg).callbacks } := by
  obtain ⟨done, working, equal, works, others, seen⟩ := inv.working
  cases works with
  | nothing window => simp [tested] at window
  | received window => simp [tested] at window
  | @tested reply window idle foreign completes rest =>
      obtain rfl := ReplyWindow.tested.inj (tested.symm.trans window)
      obtain ⟨fault, heap, thread, pending⟩ :=
        AsyncClient.handleCoReply_completes (completes.seenAs rest).1
      obtain ⟨requests, replies⟩ := inv.messages heap
      refine ⟨inv.separate, inv.small, requests, replies, ?_, thread, ?_, ?_,
        inv.phase.transfer rfl rfl rfl rfl⟩
      · exact ⟨fault.trans inv.healthy.1, inv.healthy.2⟩
      · have before := inv.callbacks
        rw [idle, ReplyThread.pending, List.append_nil] at before
        rw [pending, before]
      · refine ⟨done ++ [reply], [], by rw [equal, List.append_nil], .nothing rfl, ?_, ?_⟩
        · intro other member
          rw [List.mem_append, List.mem_singleton] at member
          rcases member with old | rfl
          · exact others other old
          · exact foreign
        · exact List.rel_append seen (List.Forall₂.cons rest List.Forall₂.nil)

omit [DecidableEq Index] in
theorem Inv.threadFinish (inv : Inv plain state) {address : UInt64} {ret : Int32}
    (finishing : state.client.replyThread = .finishing address ret) :
    Inv plain { state with
      client := state.client.finish address ret
      called := state.called ++ [address] } := by
  obtain ⟨acb, found, callback⟩ : ∃ acb, state.client.heap address = some acb ∧
      acb.callback = true := by
    rcases inv.thread with idle | ⟨target, value, acb, thread, found, callback⟩
    · simp [finishing] at idle
    · obtain ⟨rfl, rfl⟩ := ReplyThread.finishing.inj (finishing.symm.trans thread)
      exact ⟨acb, found, callback⟩
  obtain ⟨fault, heap, idle⟩ :=
    AsyncClient.finish_completes ret found callback
  obtain ⟨requests, replies⟩ := inv.messages heap
  refine ⟨inv.separate, inv.small, requests, replies, ?_, Or.inl idle, ?_, ?_,
    inv.phase.transfer rfl rfl rfl rfl⟩
  · exact ⟨fault.trans inv.healthy.1, inv.healthy.2⟩
  · have before := inv.callbacks
    rw [finishing, ReplyThread.pending] at before
    rw [idle, ReplyThread.pending, List.append_nil, before]
  · obtain ⟨done, working, equal, works, others, seen⟩ := inv.working
    refine ⟨done, working, equal, ?_, others, seen⟩
    cases works with
    | nothing window => exact .nothing window
    | received window free => simp [finishing] at free
    | tested window free => simp [finishing] at free

omit [DecidableEq Index] in
theorem Inv.replyStep (inv : Inv plain state) {label : PlainReplyLabel}
    (ordered : Ordered plain state (.replyThread label))
    (stepped : state.replyStep plain.endpoint label = some after) : Inv plain after := by
  cases label with
  | receive serverOld =>
      simp only [PlainRead.replyStep] at stepped
      split at stepped
      · rename_i idle closed
        split at stepped
        · rename_i reply exchange popped
          obtain rfl := Option.some.inj stepped
          exact inv.threadReceive ordered idle closed popped
        · simp at stepped
      · simp at stepped
  | test =>
      simp only [PlainRead.replyStep] at stepped
      split at stepped
      · rename_i received
        obtain rfl := Option.some.inj stepped
        obtain ⟨done, working, equal, works, others, seen⟩ := inv.working
        refine ⟨inv.separate, inv.small, inv.requests, inv.replies, inv.healthy, inv.thread,
          inv.callbacks, ⟨done, working, equal, ?_, others, seen⟩,
          inv.phase.transfer rfl rfl rfl rfl⟩
        cases works with
        | nothing window => simp [received] at window
        | tested window => simp [received] at window
        | received window idle foreign completes header rest =>
            exact .tested (by rw [header]) idle foreign completes rest
      · simp at stepped
  | copy =>
      simp only [PlainRead.replyStep] at stepped
      split at stepped
      · rename_i header tested
        obtain rfl := Option.some.inj stepped
        exact inv.threadCopy tested
      · simp at stepped
  | finish =>
      simp only [PlainRead.replyStep] at stepped
      split at stepped
      · rename_i address ret finishing
        obtain rfl := Option.some.inj stepped
        exact inv.threadFinish finishing
      · simp at stepped

theorem Inv.step (inv : Inv plain state) {label : PlainReadLabel Index Client}
    (valid : Valid plain state label) (ordered : Ordered plain state label)
    (stepped : state.step plain label = some after) : Inv plain after := by
  cases label with
  | caller label => exact inv.callerStep ordered (Option.ite_none_left_eq_some.mp stepped).2
  | replyThread label => exact inv.replyStep ordered (Option.ite_none_left_eq_some.mp stepped).2
  | server label =>
      obtain ⟨exchange, served, rfl⟩ := Option.map_eq_some_iff.mp stepped
      obtain ⟨separate, moves⟩ := inv.separate.serverStep valid.2 served
      exact inv.moves separate moves
  | push index request =>
      obtain ⟨exchange, pushed, rfl⟩ := Option.map_eq_some_iff.mp stepped
      obtain ⟨requests, replies⟩ := Exchange.push_other plain.endpoint valid pushed
      exact inv.moves (inv.separate.push (fun own => (valid own).elim) pushed)
        (.silent requests replies)
  | pop mq =>
      obtain ⟨⟨reply, exchange⟩, popped, rfl⟩ := Option.map_eq_some_iff.mp stepped
      obtain ⟨requests, replies⟩ := Exchange.pop_other plain.self valid popped
      exact inv.moves (inv.separate.pop popped) (.silent requests replies)

/-- A call of `shared_mem_read` beside any outstanding reads and flushes: as long as each receiver
takes its own messages and overwrites nothing the other one needs, everybody gets what the server
sent to it. -/
theorem Start.ownReplies {start : PlainRead Index Client} (initial : Start plain start)
    {trace : List Empty}
    (run : (machine plain).Run
      (fun state label => Valid plain state label ∧ Ordered plain state label) start trace state) :
    OwnReplies plain state := by
  refine Inv.honoured (run.invariant (fun _ state => Inv plain state) initial.inv ?_)
  intro _ state label after _ inv permitted stepped
  obtain ⟨next, moved, equal⟩ := Option.map_eq_some_iff.mp stepped
  obtain rfl := congrArg Prod.fst equal
  exact inv.step permitted.1 permitted.2 moved

end PlainRead

end Cvbd
