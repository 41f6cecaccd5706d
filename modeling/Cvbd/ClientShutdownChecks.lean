import Cvbd.AsyncSteps
import Cvbd.Client
import Cvbd.ClientShutdownCore
import Cvbd.MatchingChecks

/-! No message of the asynchronous clients or of the server carries the stop flag. -/

namespace Cvbd

theorem Request.AnsweredBy.stop {request : Request} {reply : Reply}
    (answers : request.AnsweredBy reply) : reply.header.stop = request.header.stop := by
  cases request <;> cases reply <;> simp_all [AnsweredBy, Request.header, Reply.header]

namespace AsyncClient

variable {client after : AsyncClient}

/-- The requests that the coroutines are about to send. -/
def Posts (client : AsyncClient) (request : Request) : Prop :=
  ∃ call coroutine, client.coroutines call = some coroutine ∧ coroutine.pc = .sending request

theorem Posts.of_same {request : Request} (same : after.coroutines = client.coroutines)
    (posts : after.Posts request) : client.Posts request := by
  obtain ⟨call, coroutine, found, sending⟩ := posts
  exact ⟨call, coroutine, by rw [← same]; exact found, sending⟩

theorem Posts.of_update {request : Request} {call : Nat} {coroutine : Coroutine}
    (table : after.coroutines = Function.update client.coroutines call (some coroutine))
    (quiet : coroutine.pc ≠ .sending request) (posts : after.Posts request) :
    client.Posts request := by
  obtain ⟨other, found, lookup, sending⟩ := posts
  rw [table] at lookup
  by_cases same : other = call
  · subst same
    obtain rfl : coroutine = found := by simpa using lookup
    exact (quiet sending).elim
  · exact ⟨other, found, by simpa [same] using lookup, sending⟩

theorem sendReadv_stop {offset : Int64} {size acb : UInt64} {request : Request}
    {shared after : SharedMemClient} (sent : shared.sendReadv offset size acb = some (request, after)) :
    request.header.stop = false := by
  unfold SharedMemClient.sendReadv at sent
  split at sent
  · obtain rfl := congrArg Prod.fst (Option.some.inj sent)
    rw [shared.post_readMessage]
    rfl
  · simp at sent

theorem sendWritev_stop {offset : Int64} {size acb : UInt64} {gathered : Bytes} {request : Request}
    {shared after : SharedMemClient}
    (sent : shared.sendWritev offset size acb gathered = some (request, after)) :
    request.header.stop = false := by
  unfold SharedMemClient.sendWritev at sent
  split at sent
  · rename_i fits
    obtain rfl := congrArg Prod.fst (Option.some.inj sent)
    obtain ⟨received, equal, _⟩ :=
      shared.post_writeMessage shared.volume acb offset size gathered fits
    rw [equal]
    rfl
  · simp at sent

theorem Posts.of_enterSend {what : CoCall} {address : UInt64} {acb : Acb} {request : Request}
    {posted : Option (Request × SharedMemClient)}
    (unstopped : ∀ sent shared, posted = some (sent, shared) → sent.header.stop = false)
    (posts : (client.enterSend what address acb posted).Posts request) :
    client.Posts request ∨ request.header.stop = false := by
  cases filled : posted with
  | none =>
      rw [filled] at posts
      exact Or.inl posts
  | some outcome =>
      obtain ⟨sent, shared⟩ := outcome
      rw [filled] at posts
      by_cases same : sent = request
      · subst same
        exact Or.inr (unstopped sent shared filled)
      · left
        refine posts.of_update rfl ?_
        simpa [newCoroutine] using same

theorem Posts.of_refuse {what : CoCall} {address : UInt64} {fresh : Acb} {request : Request}
    (posts : (client.refuse what address fresh).Posts request) : client.Posts request :=
  posts.of_update rfl (by simp [newCoroutine])

theorem Posts.of_enter {what : CoCall} {address : UInt64} {fresh : Acb} {request : Request}
    (posts : (client.enter address fresh what).1.Posts request) :
    client.Posts request ∨ request.header.stop = false := by
  cases what with
  | readv sectorNum nbSectors qiov =>
      simp only [enter, cvbdCoRw] at posts
      split at posts
      · refine posts.of_enterSend ?_
        intro sent shared filled
        exact sendReadv_stop (by simpa using filled)
      · exact Or.inl posts.of_refuse
  | writev sectorNum nbSectors qiov =>
      simp only [enter, cvbdCoRw] at posts
      split at posts
      · refine posts.of_enterSend ?_
        intro sent shared filled
        simp only [if_true, Option.bind_eq_some_iff] at filled
        obtain ⟨gathered, _, written⟩ := filled
        exact sendWritev_stop written
      · exact Or.inl posts.of_refuse
  | flush =>
      simp only [enter, cvbdCoFlushToDisk] at posts
      refine posts.of_enterSend ?_
      intro sent shared filled
      obtain rfl := congrArg Prod.fst (Option.some.inj filled)
      rw [SharedMemClient.sendFsync_request]
      rfl

/-- The reply thread ends at a stop flag only. -/
theorem handleCoReply_spec (reply : Reply) :
    (client.handleCoReply reply).coroutines = client.coroutines ∧
      ((client.handleCoReply reply).replyThread = .stopped →
        reply.header.stop = true ∨ client.replyThread = .stopped) ∧
      ∀ call taken, (client.handleCoReply reply).replyThread = .hand call taken →
        client.replyThread = .hand call taken := by
  unfold handleCoReply
  simp only
  split
  · rename_i stop
    exact ⟨rfl, fun _ => Or.inl stop, by simp⟩
  · split
    · split
      · exact ⟨rfl, Or.inr, fun _ _ => id⟩
      · split
        · exact ⟨rfl, Or.inr, fun _ _ => id⟩
        · split
          · exact ⟨rfl, Or.inr, fun _ _ => id⟩
          · split
            · exact ⟨rfl, Or.inr, fun _ _ => id⟩
            · exact ⟨rfl, by simp, by simp⟩
    · split
      · exact ⟨rfl, Or.inr, fun _ _ => id⟩
      · split
        · exact ⟨rfl, Or.inr, fun _ _ => id⟩
        · exact ⟨rfl, by simp, by simp⟩
    · exact ⟨rfl, by simp, by simp⟩
    · exact ⟨rfl, by simp, by simp⟩
    · exact ⟨rfl, Or.inr, fun _ _ => id⟩

/-- The steps inside a client post no stop message. -/
theorem Posts.of_localStep {label : LocalLabel} {events : List CallEvent} {request : Request}
    (stepped : client.localStep label = some (after, events)) (posts : after.Posts request) :
    client.Posts request ∨ request.header.stop = false := by
  cases localStep_cases stepped with
  | call idle => exact posts.of_enter
  | flushSendFails running => exact Or.inl (posts.of_update rfl (by simp))
  | sendFails notFlush running => exact Or.inl (posts.of_same rfl)
  | callback running =>
      left
      unfold writeCallback at posts
      split at posts
      · exact posts.of_same rfl
      · split at posts
        · exact posts.of_update rfl (by simp)
        · exact posts.of_same rfl
  | yield running => exact Or.inl (posts.of_update rfl (by simp))
  | bottomHalf idle scheduled =>
      left
      unfold completeAio at posts
      split at posts
      · exact posts.of_same rfl
      · split at posts
        · exact posts.of_update rfl (by simp)
        · exact posts.of_same rfl
  | resume running =>
      left
      unfold resume at posts
      split at posts
      · exact posts.of_same rfl
      · exact posts.of_update rfl (by simp)
  | copy hand => exact Or.inl (posts.of_same (handleCoReply_spec _).1)
  | finish finishing =>
      left
      refine posts.of_same ?_
      unfold finish
      split
      · rfl
      · split <;> rfl
  | guest => exact Or.inl (posts.of_same rfl)

theorem enter_replyThread (what : CoCall) (address : UInt64) (fresh : Acb) :
    (client.enter address fresh what).1.replyThread = client.replyThread := by
  have filled (call : CoCall) (acb : Acb) (posted : Option (Request × SharedMemClient)) :
      (client.enterSend call address acb posted).replyThread = client.replyThread := by
    cases posted <;> rfl
  cases what with
  | readv sectorNum nbSectors qiov =>
      simp only [enter, cvbdCoRw]
      split
      · exact filled _ _ _
      · rfl
  | writev sectorNum nbSectors qiov =>
      simp only [enter, cvbdCoRw]
      split
      · exact filled _ _ _
      · rfl
  | flush => exact filled _ _ _

theorem localStep_replyThread {label : LocalLabel} {events : List CallEvent}
    (stepped : client.localStep label = some (after, events)) (copy : label ≠ .copy)
    (finish : label ≠ .finish) : after.replyThread = client.replyThread := by
  cases localStep_cases stepped with
  | call idle => exact enter_replyThread _ _ _
  | flushSendFails running => rfl
  | sendFails notFlush running => rfl
  | callback running =>
      unfold writeCallback
      split
      · rfl
      · split <;> rfl
  | yield running => rfl
  | bottomHalf idle scheduled =>
      unfold completeAio
      split
      · rfl
      · split <;> rfl
  | resume running =>
      unfold resume
      split <;> rfl
  | copy hand => exact (copy rfl).elim
  | finish finishing => exact (finish rfl).elim
  | guest => rfl

/-- The callback neither ends the thread nor gives it a reply. -/
theorem finish_spec (address : UInt64) (ret : Int32) :
    (client.finish address ret).replyThread = .idle ∨
      (client.finish address ret).replyThread = client.replyThread := by
  unfold finish
  split
  · exact Or.inr rfl
  · split
    · exact Or.inl rfl
    · exact Or.inr rfl

end AsyncClient

namespace ClientShutdown

variable {Index Client : Type} [DecidableEq Index] [DecidableEq Client]
variable {endpoints : Client → Endpoint Index} {state after : AsyncState Index Client}

omit [DecidableEq Index] [DecidableEq Client] in
theorem Unstopped.posts (unstopped : Unstopped state) {client : Client} {request : Request}
    (posts : (state.clients client).Posts request) : request.header.stop = false := by
  obtain ⟨call, coroutine, found, sending⟩ := posts
  exact unstopped.posting client call coroutine request found sending

omit [DecidableEq Index] in
/-- A client that posts nothing new with a stop flag may take the place of the old one. -/
theorem Unstopped.client (unstopped : Unstopped state) {client : Client} {next : AsyncClient}
    (posts : ∀ request, next.Posts request →
      (state.clients client).Posts request ∨ request.header.stop = false) :
    Unstopped { state with clients := Function.update state.clients client next } where
  posting := by
    intro other call coroutine request found sending
    by_cases same : other = client
    · subst same
      simp only [Function.update_self] at found
      exact (posts request ⟨call, coroutine, found, sending⟩).elim unstopped.posts id
    · exact unstopped.posting other call coroutine request (by simpa [same] using found) sending
  queued := unstopped.queued
  hand := unstopped.hand
  sending := unstopped.sending

omit [DecidableEq Client] in
theorem Unstopped.push (unstopped : Unstopped state) {index : Index}
    {envelope : Envelope Client Request} {exchange : Exchange Index Client}
    (plain : envelope.body.header.stop = false)
    (pushed : state.exchange.pushRequest index envelope = some exchange) :
    Unstopped { state with exchange } := by
  obtain ⟨_, rfl⟩ := Exchange.pushRequest_spec pushed
  refine ⟨unstopped.posting, ?_, unstopped.hand, unstopped.sending⟩
  intro other queued member
  by_cases same : other = index
  · subst same
    simp only [Function.update_self, List.mem_append, List.mem_singleton] at member
    rcases member with old | rfl
    · exact unstopped.queued other queued old
    · exact plain
  · exact unstopped.queued other queued (by simpa [same] using member)

omit [DecidableEq Client] in
theorem Unstopped.thread (unstopped : Unstopped state) (index : Index) {thread : Thread Client}
    {exchange : Exchange Index Client}
    (threads : exchange.thread = Function.update state.exchange.thread index thread)
    (queued : ∀ other envelope, envelope ∈ exchange.requestMq other →
      envelope ∈ state.exchange.requestMq other)
    (hand : ∀ envelope, thread = .hand envelope → envelope.body.header.stop = false)
    (sending : ∀ mq envelope closing, thread = .sending mq envelope closing →
      envelope.body.header.stop = false) : Unstopped { state with exchange } where
  posting := unstopped.posting
  queued := fun other envelope member => unstopped.queued other envelope (queued other envelope member)
  hand := by
    intro other envelope holds
    simp only [threads] at holds
    by_cases same : other = index
    · subst same
      exact hand envelope (by simpa using holds)
    · exact unstopped.hand other envelope (by simpa [same] using holds)
  sending := by
    intro other mq envelope closing holds
    simp only [threads] at holds
    by_cases same : other = index
    · subst same
      exact sending mq envelope closing (by simpa using holds)
    · exact unstopped.sending other mq envelope closing (by simpa [same] using holds)

omit [DecidableEq Client] in
theorem Unstopped.serve (unstopped : Unstopped state) {label : ServerLabel Index}
    {exchange : Exchange Index Client} (move : state.exchange.ServerMove label exchange) :
    Unstopped { state with exchange } := by
  cases move with
  | @received index request rest idle queue notStop =>
      refine unstopped.thread index rfl ?_ ?_ (by simp)
      · intro other envelope member
        by_cases same : other = index
        · subst same
          rw [queue]
          exact List.mem_cons_of_mem _ (by simpa [Exchange.setThread] using member)
        · simpa [Exchange.setThread, same] using member
      · rintro envelope ⟨⟩
        exact unstopped.queued index request (by simp [queue])
  | @stopped index request rest header idle queue stop =>
      refine unstopped.thread index rfl ?_ (by simp) (by simp)
      intro other envelope member
      by_cases same : other = index
      · subst same
        rw [queue]
        exact List.mem_cons_of_mem _ (by simpa [Exchange.setThread] using member)
      · simpa [Exchange.setThread, same] using member
  | @done index kernel request world hand handling =>
      exact unstopped.thread index rfl (fun _ _ => id) (by simp) (by simp)
  | @replied index kernel request world mq reply closing hand handling =>
      refine unstopped.thread index rfl (fun _ _ => id) (by simp) ?_
      rintro _ _ _ ⟨⟩
      exact (handling.answers.stop).trans (unstopped.hand index request hand)
  | aborted =>
      exact ⟨unstopped.posting, unstopped.queued, unstopped.hand, unstopped.sending⟩
  | @sent index mq reply closing sends room =>
      refine unstopped.thread index rfl (fun _ _ => id) ?_ ?_
      · cases closing <;> simp [Exchange.afterSend]
      · cases closing <;> simp [Exchange.afterSend]
  | @closed index volume volState closing live =>
      exact unstopped.thread index rfl (fun _ _ => id) (by simp) (by simp)
  | @closedNull index closing =>
      exact unstopped.thread index rfl (fun _ _ => id) (by simp) (by simp)
  | closedDead =>
      exact ⟨unstopped.posting, unstopped.queued, unstopped.hand, unstopped.sending⟩

theorem Unstopped.clientStep (unstopped : Unstopped state) {client : Client} {label : ClientLabel}
    {events : List (Event Client)}
    (stepped : state.clientStep endpoints client label = some (after, events)) :
    Unstopped after := by
  cases AsyncState.clientStep_cases stepped with
  | @sent call request next exchange taken pushed =>
      obtain ⟨what, data, acb, _, found, rfl⟩ := AsyncClient.takeSend_spec taken
      have plain := unstopped.posts ⟨call, _, found, rfl⟩
      refine (unstopped.push plain pushed).client fun other posts => Or.inl ?_
      refine posts.of_update rfl ?_
      cases what <;> simp [CoCall.isWrite]
  | @received reply exchange next popped taken =>
      obtain ⟨_, _, rfl⟩ := Exchange.popReply_spec popped
      obtain ⟨_, rfl⟩ := AsyncClient.takeReply_spec taken
      have kept := unstopped.client fun request
        (posts : ({ state.clients client with
          replyThread := .hand reply.call reply.body } : AsyncClient).Posts request) =>
            Or.inl (posts.of_same rfl)
      exact ⟨kept.posting, kept.queued, kept.hand, kept.sending⟩
  | inside taken => exact unstopped.client fun request posts => posts.of_localStep taken

/-- A client's step adds no reply and leaves the other clients alone. -/
theorem clientStep_frame {client : Client} {label : ClientLabel} {events : List (Event Client)}
    (stepped : state.clientStep endpoints client label = some (after, events)) :
    (∀ mq envelope, envelope ∈ after.exchange.replyMq mq → envelope ∈ state.exchange.replyMq mq) ∧
      ∀ other, other ≠ client → after.clients other = state.clients other := by
  cases AsyncState.clientStep_cases stepped with
  | sent taken pushed =>
      obtain ⟨_, rfl⟩ := Exchange.pushRequest_spec pushed
      exact ⟨fun _ _ => id, fun other different => by simp [different]⟩
  | received popped taken =>
      obtain ⟨rest, queue, rfl⟩ := Exchange.popReply_spec popped
      refine ⟨fun mq envelope member => ?_, fun other different => by simp [different]⟩
      by_cases same : mq = (endpoints client).mq
      · subst same
        rw [queue]
        exact List.mem_cons_of_mem _ (by simpa using member)
      · simpa [same] using member
  | inside taken => exact ⟨fun _ _ => id, fun other different => by simp [different]⟩

/-! What the steps of the reply thread do to it, and that the others leave it alone. -/

theorem clientStep_received {client : Client} {events : List (Event Client)}
    (stepped : state.clientStep endpoints client .receive = some (after, events)) :
    ∃ oldest rest, state.exchange.replyMq (endpoints client).mq = oldest :: rest ∧
      (after.clients client).replyThread = .hand oldest.call oldest.body := by
  cases AsyncState.clientStep_cases stepped with
  | @received oldest exchange next popped taken =>
      obtain ⟨rest, queue, _⟩ := Exchange.popReply_spec popped
      obtain ⟨_, rfl⟩ := AsyncClient.takeReply_spec taken
      exact ⟨oldest, rest, queue, by simp⟩

theorem clientStep_copied {client : Client} {events : List (Event Client)}
    (stepped : state.clientStep endpoints client (.inside .copy) = some (after, events)) :
    ∃ call reply, (state.clients client).replyThread = .hand call reply ∧
      after.clients client = (state.clients client).handleCoReply reply := by
  cases AsyncState.clientStep_cases stepped with
  | inside taken =>
      cases AsyncClient.localStep_cases taken with
      | copy hand => exact ⟨_, _, hand, by simp⟩

theorem clientStep_finished {client : Client} {events : List (Event Client)}
    (stepped : state.clientStep endpoints client (.inside .finish) = some (after, events)) :
    ∃ acb ret, (state.clients client).replyThread = .finishing acb ret ∧
      after.clients client = (state.clients client).finish acb ret := by
  cases AsyncState.clientStep_cases stepped with
  | inside taken =>
      cases AsyncClient.localStep_cases taken with
      | finish finishing => exact ⟨_, _, finishing, by simp⟩

theorem clientStep_elsewhere {client : Client} {label : ClientLabel} {events : List (Event Client)}
    (receive : label ≠ .receive) (copy : label ≠ .inside .copy) (finish : label ≠ .inside .finish)
    (stepped : state.clientStep endpoints client label = some (after, events)) :
    (after.clients client).replyThread = (state.clients client).replyThread := by
  cases AsyncState.clientStep_cases stepped with
  | sent taken pushed =>
      obtain ⟨_, _, _, _, _, rfl⟩ := AsyncClient.takeSend_spec taken
      simp
  | received popped taken => exact (receive rfl).elim
  | inside taken =>
      have kept := AsyncClient.localStep_replyThread taken (fun same => copy (by rw [same]))
        fun same => finish (by rw [same])
      simpa using kept

omit [DecidableEq Client] in
theorem Unstopped.replies (unstopped : Unstopped state) {label : ServerLabel Index}
    {exchange : Exchange Index Client} (move : state.exchange.ServerMove label exchange) {mq : Nat}
    {envelope : Envelope Client Reply} (member : envelope ∈ exchange.replyMq mq) :
    envelope ∈ state.exchange.replyMq mq ∨ envelope.body.header.stop = false := by
  cases move with
  | @sent index target reply closing sends room =>
      by_cases same : mq = target
      · subst same
        simp only [Exchange.setThread, Function.update_self, List.mem_append,
          List.mem_singleton] at member
        rcases member with old | rfl
        · exact Or.inl old
        · exact Or.inr (unstopped.sending index mq envelope closing sends)
      · exact Or.inl (by simpa [Exchange.setThread, same] using member)
  | received => exact Or.inl member
  | stopped => exact Or.inl member
  | done => exact Or.inl member
  | replied => exact Or.inl member
  | aborted => exact Or.inl member
  | closed => exact Or.inl member
  | closedNull => exact Or.inl member
  | closedDead => exact Or.inl member

end ClientShutdown

end Cvbd
