import Cvbd.MatchingChecks

/-! Every step of the server keeps requests and replies matched. -/

namespace Cvbd

namespace Exchange

variable {Index Client : Type} [DecidableEq Index] [DecidableEq Client]
variable {exchange : Exchange Index Client}

omit [DecidableEq Index] in
/-- The replies in the client's queue and on the way to it, oldest first. -/
def replies (exchange : Exchange Index Client) (mq : Option Nat) (index : Index) (client : Client) :
    List (Envelope Client Reply) :=
  mq.elim [] exchange.replyMq ++ (exchange.thread index).repliesOf client

theorem replies_setThread {index : Index} {thread : Thread Client} (own : Option Nat)
    (place : Index) (client : Client) (before : (exchange.thread index).repliesOf client = [])
    (behind : thread.repliesOf client = []) :
    (exchange.setThread index thread).replies own place client =
      exchange.replies own place client := by
  by_cases same : place = index
  · subst same
    simp [replies, setThread, before, behind]
  · simp [replies, setThread, same]

theorem replies_sent {index : Index} {mq : Nat} {envelope : Envelope Client Reply}
    {closing : Option UInt64} (sends : exchange.thread index = .sending mq envelope closing)
    (own : Option Nat) (place : Index) (client : Client)
    (to_own : own = some mq ↔ envelope.sender = client)
    (placed : envelope.sender = client → place = index) :
    (({ exchange with
      replyMq := Function.update exchange.replyMq mq (exchange.replyMq mq ++ [envelope]) }).setThread
        index (afterSend closing)).replies own place client =
      exchange.replies own place client := by
  have silent : (afterSend closing : Thread Client).repliesOf client = [] := by
    cases closing <;> rfl
  by_cases sender : envelope.sender = client
  · obtain rfl := placed sender
    simp only [replies, setThread, to_own.mpr sender, sends, silent, Function.update_self,
      Option.elim_some]
    simp [Thread.repliesOf, sender]
  · have queue : own.elim [] (Function.update exchange.replyMq mq
        (exchange.replyMq mq ++ [envelope])) = own.elim [] exchange.replyMq := by
      cases own with
      | none => rfl
      | some other =>
          have different : other ≠ mq := by
            rintro rfl
            exact sender (to_own.mp rfl)
          simp [different]
    by_cases same : place = index
    · subst same
      simp only [replies, setThread, queue, sends, silent, Function.update_self]
      simp [Thread.repliesOf, sender]
    · simp [replies, setThread, queue, same]

/-- The files of the volumes given out without an error are large. -/
def Ample (exchange : Exchange Index Client) (answers : Client → List OpenReply) : Prop :=
  ∀ client reply volState, reply ∈ answers client → reply.err = 0 →
    exchange.world.volumes reply.volume = some volState →
    exchange.owner reply.volume = some client → exchange.world.Large volState.volumeName

end Exchange

namespace Session

variable {Client : Type} [DecidableEq Client]

def requests (setting : Setting Client) (session : Session Client) (client : Client) :
    List Request :=
  (session.exchange.inFlight (setting.index client) client).map Envelope.body

def replies (setting : Setting Client) (session : Session Client) (client : Client) : List Reply :=
  (session.exchange.replies (session.mq client) (setting.index client) client).map Envelope.body

structure Matching (setting : Setting Client) (session : Session Client) : Prop where
  alive : session.exchange.fault = none
  typed : ∀ client, (session.stage client).Typed
  pending : ∀ client, Pending (session.stage client).waitsFor (session.requests setting client)
    (session.replies setting client)
  named : ∀ client req, .openVolume req ∈ session.requests setting client → req.volumeName ≠ none
  ample : session.exchange.Ample session.answers

variable {setting : Setting Client} {session after : Session Client}

/-- The volumes are among those there were, and no large file has become small. -/
theorem Matching.ample_mono (matching : session.Matching setting) {exchange : Exchange Nat Client}
    (volumes : ∀ volume volState, exchange.world.volumes volume = some volState →
      session.exchange.world.volumes volume = some volState)
    (owner : exchange.owner = session.exchange.owner)
    (large : ∀ name, session.exchange.world.Large name → exchange.world.Large name) :
    exchange.Ample session.answers := by
  intro client reply volState answered success live owned
  rw [owner] at owned
  exact large _ (matching.ample client reply volState answered success (volumes _ _ live) owned)

/-- A step of the server that takes no request of a client and gives it no reply. -/
theorem Matching.silent (matching : session.Matching setting) {exchange : Exchange Nat Client}
    {answers : Client → List OpenReply} {deleted : Client → Nat} (alive : exchange.fault = none)
    (requests : ∀ client, exchange.inFlight (setting.index client) client =
      session.exchange.inFlight (setting.index client) client)
    (replies : ∀ client, exchange.replies (session.mq client) (setting.index client) client =
      session.exchange.replies (session.mq client) (setting.index client) client)
    (ample : exchange.Ample answers) :
    ({ session with exchange, answers, deleted } : Session Client).Matching setting where
  alive := alive
  typed := matching.typed
  pending := by
    intro client
    simp only [Session.requests, Session.replies, requests, replies]
    exact matching.pending client
  named := by
    intro client req member
    simp only [Session.requests, requests] at member
    exact matching.named client req member
  ample := ample

theorem Matching.handled (matching : session.Matching setting) (inv : session.Inv setting)
    {index : Nat} {request : Envelope Client Request} {thread : Thread Client}
    {exchange : Exchange Nat Client} {answers : Client → List OpenReply} {deleted : Client → Nat}
    (hand : session.exchange.thread index = .hand request)
    (threads : exchange.thread = Function.update session.exchange.thread index thread)
    (requestMq : exchange.requestMq = session.exchange.requestMq)
    (replyMq : exchange.replyMq = session.exchange.replyMq)
    (alive : exchange.fault = none) (noRequests : ∀ client, thread.requestsOf client = [])
    (others : ∀ client, request.sender ≠ client → thread.repliesOf client = [])
    (sender : ∀ rest, session.requests setting request.sender = request.body :: rest →
      Pending (session.stage request.sender).waitsFor rest
        (session.replies setting request.sender ++
          (thread.repliesOf request.sender).map Envelope.body))
    (ample : exchange.Ample answers) :
    ({ session with exchange, answers, deleted } : Session Client).Matching setting := by
  have split (client : Client) := inv.inFlight_hand hand threads requestMq noRequests client
  have silent (client : Client) : (session.exchange.thread index).repliesOf client = [] := by
    simp [hand, Thread.repliesOf]
  refine ⟨alive, matching.typed, ?_, ?_, ample⟩
  · intro client
    by_cases own : request.sender = client
    · subst own
      have queue := split request.sender
      rw [if_pos rfl, List.singleton_append] at queue
      have replies : exchange.replies (session.mq request.sender) (setting.index request.sender)
          request.sender = session.exchange.replies (session.mq request.sender)
            (setting.index request.sender) request.sender ++ thread.repliesOf request.sender := by
        have place := inv.inHand hand
        subst place
        simp [Exchange.replies, replyMq, threads, silent]
      have moved := sender _ (by rw [Session.requests, queue, List.map_cons])
      simpa only [Session.requests, Session.replies, replies, List.map_append] using moved
    · have requests := split client
      rw [if_neg own, List.nil_append] at requests
      have replies : exchange.replies (session.mq client) (setting.index client) client =
          session.exchange.replies (session.mq client) (setting.index client) client := by
        have unchanged := Exchange.replies_setThread (session.mq client) (setting.index client)
          client (silent client) (others client own)
        simpa only [Exchange.replies, Exchange.setThread, replyMq, threads] using unchanged
      simp only [Session.requests, Session.replies, ← requests, replies]
      exact matching.pending client
  · intro client req member
    refine matching.named client req ?_
    simp only [Session.requests, split, List.map_append]
    exact List.mem_append_right _ member

theorem Matching.done (matching : session.Matching setting) (inv : session.Inv setting)
    {index : Nat} {kernel : Kernel} {request : Envelope Client Request} {world : World}
    {deleted : Client → Nat} (hand : session.exchange.thread index = .hand request)
    (handling : IOHandler.Handling session.exchange.world kernel request.body (.done world))
    (succeeds : kernel.Succeeds session.exchange.world request.body) :
    let exchange := ({ session.exchange with world }).setThread index .idle
    ({ session with exchange, deleted } : Session Client).Matching setting := by
  intro exchange
  refine matching.handled inv hand rfl rfl rfl matching.alive (fun _ => rfl) (fun _ _ => rfl) ?_ ?_
  · intro rest queue
    have pending := matching.pending request.sender
    rw [queue] at pending
    simpa [Thread.repliesOf] using pending.drop (handling.unanswered succeeds)
  · refine matching.ample_mono ?_ rfl fun name large => handling.large large
    intro volume volState live
    generalize request.body = body at handling
    cases handling with
    | skipped nothing => exact live
    | stored _ grown => exact grown.objects.1 ▸ live
    | @closed req closed found =>
        by_cases same : volume = req.header.volume
        · simp [exchange, Exchange.setThread, World.dropVolume, same] at live
        · simpa [exchange, Exchange.setThread, World.dropVolume, same] using live

theorem Matching.replied (matching : session.Matching setting) (inv : session.Inv setting)
    {index mq : Nat} {kernel : Kernel} {request : Envelope Client Request} {world : World}
    {reply : Reply} {closing : Option UInt64} {deleted : Client → Nat}
    (valid : kernel.Valid session.exchange.world request.body)
    (hand : session.exchange.thread index = .hand request)
    (handling : IOHandler.Handling session.exchange.world kernel request.body
      (.reply world mq reply closing)) :
    let exchange := ({ session.exchange with
      world
      owner := session.exchange.ownerAfter kernel request (.reply world mq reply closing) }).setThread
        index (.sending mq ⟨request.sender, request.call, reply⟩ closing)
    ({ session with
      exchange
      answers := session.answersAfter (.handle index kernel) exchange
      deleted } : Session Client).Matching setting := by
  intro exchange
  have sends : exchange.thread index =
      .sending mq ⟨request.sender, request.call, reply⟩ closing := by
    simp [exchange, Exchange.setThread]
  refine matching.handled inv hand rfl rfl rfl matching.alive (fun _ => rfl) ?_ ?_ ?_
  · intro client other
    simp [Thread.repliesOf, other]
  · intro rest queue
    have pending := matching.pending request.sender
    rw [queue] at pending
    obtain ⟨none, answered⟩ := pending.answer handling.answers
    simpa [none, Thread.repliesOf] using answered
  · obtain ⟨sender, call, body⟩ := request
    cases handling with
    | @replied _ _ volState _ io live grown answers =>
        have notOpen (opened : OpenReply) : reply ≠ .openVolume opened := by
          rintro rfl
          exact Request.AnsweredBy.notOpen io answers
        have owner : session.exchange.ownerAfter kernel ⟨sender, call, body⟩
            (.reply world volState.replyMq reply none) = session.exchange.owner := by
          cases body <;> simp_all [Exchange.ownerAfter, Request.isIo]
        rw [answersAfter_io sends notOpen]
        exact matching.ample_mono (fun volume state live => grown.objects.1 ▸ live) owner
          fun name large => large.grown grown
    | @opened req name replyMqName _ fd _ err named replyNamed attached obtained opens =>
        obtain ⟨_, unused⟩ := valid.newVolume req rfl
        intro client opened volState answered success live owner
        simp only [answersAfter, sends] at answered
        simp only [exchange, Exchange.setThread, Exchange.ownerAfter] at live owner
        rw [opens.volumes] at live
        by_cases newest : opened.volume = kernel.newVolume
        · rw [newest, Function.update_self] at live owner
          obtain rfl : (⟨name, fd, mq⟩ : VolumeState) = volState := by simpa using live
          obtain rfl : sender = client := by simpa using owner
          rw [Function.update_self, List.mem_append, List.mem_singleton] at answered
          rcases answered with old | rfl
          · -- An OPEN is a client's first request.
            obtain ⟨phase, _, place⟩ := inv.standing sender
            obtain ⟨rest, queue⟩ := inv.hand_oldest hand
            obtain ⟨_, _, none, _⟩ := place.popOpen queue
            rw [show session.answers sender = [] from none] at old
            simp at old
          · exact opens.large (Or.inl ⟨success, rfl⟩)
        · rw [Function.update_of_ne newest] at live owner
          refine opens.large (Or.inr ?_)
          refine matching.ample client opened volState ?_ success live owner
          by_cases own : client = sender
          · subst own
            rw [Function.update_self, List.mem_append, List.mem_singleton] at answered
            rcases answered with old | rfl
            · exact old
            · exact (newest rfl).elim
          · rwa [Function.update_of_ne own] at answered

end Session

end Cvbd
