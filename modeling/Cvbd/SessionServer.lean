import Cvbd.SessionInv

/-! Every step of the server keeps the invariant of the accounts. -/

namespace Cvbd

namespace Session

variable {Client : Type} [DecidableEq Client]
variable {setting : Setting Client} {session after : Session Client}

omit [DecidableEq Client] in
theorem Doomed.mono {index : Nat} {volume : UInt64} (doomed : session.Doomed setting index volume)
    (answers : ∀ client reply, reply ∈ session.answers client → reply ∈ after.answers client)
    (held : ∀ client, session.Holds client volume → after.Holds client volume) :
    after.Doomed setting index volume := by
  obtain ⟨client, reply, place, answered, volume_eq, failed, holds⟩ := doomed
  exact ⟨client, reply, place, answers client reply answered, volume_eq, failed, held client holds⟩

theorem Inv.standing_congr (inv : session.Inv setting) (client : Client)
    (stage : after.stage client = session.stage client)
    (shared : after.shared client = session.shared client)
    (requests : after.exchange.inFlight (setting.index client) client =
      session.exchange.inFlight (setting.index client) client)
    (answers : after.answers client = session.answers client)
    (deleted : after.deleted client = session.deleted client)
    (held : ∀ volume, after.Holds client volume ↔ session.Holds client volume) :
    (after.account setting client).Standing := by
  have heldEq : after.Holds client = session.Holds client :=
    funext fun volume => propext (held volume)
  have same : after.account setting client = session.account setting client := by
    simp only [account, stage, shared, requests, answers, deleted, heldEq]
  rw [same]
  exact inv.standing client

theorem serve_move {label : ServerLabel Nat} (served : session.serve label = some after) :
    ∃ exchange, session.exchange.fault = none ∧ session.exchange.ServerMove label exchange ∧
      after = { session with
        exchange
        answers := session.answersAfter label exchange
        deleted := session.deletedAfter label } := by
  obtain ⟨exchange, stepped, rfl⟩ := Option.map_eq_some_iff.mp served
  obtain ⟨running, move⟩ := Exchange.serverStep_move stepped
  exact ⟨exchange, running, move, rfl⟩

theorem Inv.received (inv : session.Inv setting) {index : Nat}
    {request : Envelope Client Request} {rest : List (Envelope Client Request)}
    {exchange : Exchange Nat Client} (idle : session.exchange.thread index = .idle)
    (queue : session.exchange.requestMq index = request :: rest)
    (moved : exchange = ({ session.exchange with
      requestMq := Function.update session.exchange.requestMq index rest }).setThread index
        (.hand request)) :
    ({ session with exchange } : Session Client).Inv setting := by
  subst moved
  refine ⟨inv.sound, inv.descriptors, inv.faults, ?_, ?_, inv.replied, ?_⟩
  · intro place queued member
    refine inv.queued place queued ?_
    by_cases same : place = index
    · subst same
      rw [queue]
      exact List.mem_cons_of_mem _ (by simpa [Exchange.setThread] using member)
    · simpa [Exchange.setThread, same] using member
  · intro place
    by_cases same : place = index
    · subst same
      simp only [Exchange.setThread, Function.update_self]
      exact inv.queued place request (by simp [queue])
    · simp only [Exchange.setThread, Function.update_of_ne same]
      exact (inv.threads place).mono (fun _ _ member => member) fun _ doomed => doomed
  · intro client
    exact inv.standing_congr client rfl rfl (Exchange.inFlight_received idle queue _ _) rfl rfl
      fun volume => Iff.rfl

theorem Inv.setThread (inv : session.Inv setting) {index : Nat} {thread : Thread Client}
    (moved : after.exchange.thread = Function.update session.exchange.thread index thread)
    (ok : after.ThreadOk setting index thread)
    (answers : ∀ client reply, reply ∈ session.answers client → reply ∈ after.answers client)
    (doomed : ∀ place volume, place ≠ index → session.Doomed setting place volume →
      after.Doomed setting place volume) (place : Nat) :
    after.ThreadOk setting place (after.exchange.thread place) := by
  rw [moved]
  by_cases same : place = index
  · subst same
    simpa using ok
  · simp only [Function.update_of_ne same]
    exact (inv.threads place).mono answers fun volume => doomed place volume same

/-- The oldest request of a client, which is in hand, and those behind it. -/
theorem Inv.inFlight_hand (inv : session.Inv setting) {index : Nat}
    {request : Envelope Client Request} {thread : Thread Client} {exchange : Exchange Nat Client}
    (hand : session.exchange.thread index = .hand request)
    (moved : exchange.thread = Function.update session.exchange.thread index thread)
    (requests : exchange.requestMq = session.exchange.requestMq)
    (noRequests : ∀ client, thread.requestsOf client = []) (client : Client) :
    session.exchange.inFlight (setting.index client) client =
      (if request.sender = client then [request] else []) ++
        exchange.inFlight (setting.index client) client := by
  have split := Exchange.inFlight_hand hand noRequests (setting.index client) client
  have same : (session.exchange.setThread index thread).inFlight (setting.index client) client =
      exchange.inFlight (setting.index client) client := by
    simp only [Exchange.inFlight, Exchange.setThread, moved, requests]
  rw [split, same]
  by_cases own : request.sender = client
  · subst own
    simp [inv.inHand hand]
  · simp [own]

theorem Inv.handled (inv : session.Inv setting) {index : Nat} {request : Envelope Client Request}
    {world : World} {thread : Thread Client} {exchange : Exchange Nat Client}
    (hand : session.exchange.thread index = .hand request) (sound : world.Sound)
    (volumes : world.volumes = session.exchange.world.volumes)
    (fds : world.fds = session.exchange.world.fds)
    (noRequests : ∀ client, thread.requestsOf client = [])
    (moved : exchange = ({ session.exchange with world }).setThread index thread)
    (ok : ({ session with exchange } : Session Client).ThreadOk setting index thread)
    (sender : ∀ phase rest, (session.stage request.sender).admits phase = true →
      (session.account setting request.sender).At phase →
      (session.account setting request.sender).requests = request.body :: rest →
      ({ session.account setting request.sender with requests := rest }).Standing) :
    ({ session with exchange } : Session Client).Inv setting := by
  have held (client : Client) (volume : UInt64) :
      ({ session with exchange } : Session Client).Holds client volume ↔
        session.Holds client volume := by
    subst moved
    simp only [Holds, Exchange.setThread, volumes]
  have threads : exchange.thread = Function.update session.exchange.thread index thread := by
    rw [moved]
    rfl
  refine ⟨?_, ?_, ?_, ?_, ?_, ?_, ?_⟩
  · rw [moved]
    exact sound
  · subst moved
    intro running fd name isOpen
    simp only [Exchange.setThread, volumes, fds] at isOpen ⊢
    exact inv.descriptors running fd name isOpen
  · rw [moved]
    exact inv.faults
  · rw [moved]
    exact inv.queued
  · exact inv.setThread threads ok (fun _ _ member => member) fun _ _ _ doomed =>
      doomed.mono (fun _ _ member => member) fun client holds => (held client _).mpr holds
  · rw [moved]
    exact inv.replied
  · intro client
    have split := inv.inFlight_hand hand threads (by rw [moved]; rfl) noRequests client
    by_cases own : request.sender = client
    · subst own
      rw [if_pos rfl] at split
      obtain ⟨phase, admits, place⟩ := inv.standing request.sender
      have queue : (session.account setting request.sender).requests = request.body ::
          (exchange.inFlight (setting.index request.sender) request.sender).map Envelope.body := by
        simp only [account, split, List.singleton_append, List.map_cons]
      have standing := sender phase _ admits place queue
      have heldEq := funext fun volume => propext (held request.sender volume)
      simpa only [account, heldEq] using standing
    · rw [if_neg own, List.nil_append] at split
      exact inv.standing_congr client rfl rfl split.symm rfl rfl (held client)

theorem Inv.aborted (inv : session.Inv setting) {world : World} {fault : Fault}
    (sound : world.Sound) (volumes : world.volumes = session.exchange.world.volumes)
    (alive : fault ≠ .nullVolume ∧ fault ≠ .deadVolume) :
    ({ session with exchange := { session.exchange with world, fault := some fault } } :
      Session Client).Inv setting := by
  have held (client : Client) (volume : UInt64) : ({ session with exchange :=
      { session.exchange with world, fault := some fault } } : Session Client).Holds client volume ↔
        session.Holds client volume := by
    simp only [Holds, volumes]
  refine ⟨sound, by simp, by simpa using alive, inv.queued, ?_, inv.replied, ?_⟩
  · intro place
    exact (inv.threads place).mono (fun _ _ member => member) fun _ doomed =>
      doomed.mono (fun _ _ member => member) fun client holds => (held client _).mpr holds
  · intro client
    exact inv.standing_congr client rfl rfl rfl rfl rfl (held client)

theorem Inv.sent (inv : session.Inv setting) {index mq : Nat} {envelope : Envelope Client Reply}
    {closing : Option UInt64} {exchange : Exchange Nat Client}
    (sends : session.exchange.thread index = .sending mq envelope closing)
    (moved : exchange = ({ session.exchange with
      replyMq := Function.update session.exchange.replyMq mq
        (session.exchange.replyMq mq ++ [envelope]) }).setThread index
          (Exchange.afterSend closing)) :
    ({ session with exchange } : Session Client).Inv setting := by
  have ok := inv.threads index
  rw [sends] at ok
  have silent (client : Client) :
      (Exchange.afterSend closing : Thread Client).requestsOf client = [] := by
    cases closing <;> rfl
  subst moved
  refine ⟨inv.sound, inv.descriptors, inv.faults, inv.queued, ?_, ?_, ?_⟩
  · refine inv.setThread rfl ?_ (fun _ _ member => member) fun _ _ _ doomed => doomed
    cases closing with
    | none => trivial
    | some volume => exact ok.2.2 volume rfl
  · intro other reply answer member body
    by_cases same : other = mq
    · subst same
      simp only [Exchange.setThread, Function.update_self, List.mem_append,
        List.mem_singleton] at member
      rcases member with old | rfl
      · exact inv.replied other reply answer old body
      · exact ok.2.1 answer body
    · simp only [Exchange.setThread, Function.update_of_ne same] at member
      exact inv.replied other reply answer member body
  · intro client
    refine inv.standing_congr client rfl rfl ?_ rfl rfl fun _ => Iff.rfl
    exact Exchange.inFlight_setThread _ client (by simp [sends, Thread.requestsOf]) (silent client)

theorem Inv.dropped (inv : session.Inv setting) {index : Nat} {volume : UInt64}
    {volState : VolumeState} {client : Client} {exchange : Exchange Nat Client}
    (live : session.exchange.world.volumes volume = some volState)
    (owner : session.exchange.owner volume = some client)
    (moved : exchange = ({ session.exchange with
      world := session.exchange.world.dropVolume volume volState }).setThread index .idle)
    (others : ∀ place, place ≠ index → ¬session.Doomed setting place volume)
    (elsewhere : ∀ other, other ≠ client → exchange.inFlight (setting.index other) other =
      session.exchange.inFlight (setting.index other) other)
    (standing : ∀ account : Account, account.stage = session.stage client →
      account.requests = (exchange.inFlight (setting.index client) client).map Envelope.body →
      account.answers = session.answers client →
      account.deleted = session.deleted client + 1 →
      (∀ other, account.held other ↔ session.Holds client other ∧ other ≠ volume) →
      account.Standing) :
    ({ session with
      exchange
      deleted := Function.update session.deleted client (session.deleted client + 1) } :
        Session Client).Inv setting := by
  have world : exchange.world = session.exchange.world.dropVolume volume volState := by
    rw [moved]
    rfl
  have held (other : Client) (held : UInt64) : ({ session with
      exchange
      deleted := Function.update session.deleted client (session.deleted client + 1) } :
        Session Client).Holds other held ↔ session.Holds other held ∧ held ≠ volume := by
    have sameOwner : exchange.owner = session.exchange.owner := by
      rw [moved]
      rfl
    simp only [Holds, world, World.dropVolume, sameOwner]
    by_cases same : held = volume
    · simp [same]
    · simp [same]
  have threads : exchange.thread = Function.update session.exchange.thread index .idle := by
    rw [moved]
    rfl
  refine ⟨?_, ?_, ?_, ?_, ?_, ?_, ?_⟩
  · rw [world]
    exact inv.sound.dropVolume live
  · intro running fd name isOpen
    have wasRunning : session.exchange.fault = none := by
      rw [moved] at running
      exact running
    simp only [world, World.dropVolume] at isOpen ⊢
    by_cases same : fd = volState.fd
    · simp [same] at isOpen
    · rw [Function.update_of_ne same] at isOpen
      obtain ⟨other, otherState, found, fd_eq⟩ := inv.descriptors wasRunning fd name isOpen
      have different : other ≠ volume := by
        rintro rfl
        rw [live] at found
        obtain rfl := Option.some.inj found
        exact same fd_eq.symm
      exact ⟨other, otherState, by simpa [different] using found, fd_eq⟩
  · rw [moved]
    exact inv.faults
  · rw [moved]
    exact inv.queued
  · refine inv.setThread threads trivial (fun _ _ member => member)
      fun place doomedVolume different doomed => ?_
    refine doomed.mono (fun _ _ member => member) fun other holds => (held other _).mpr ⟨holds, ?_⟩
    rintro rfl
    exact others place different doomed
  · rw [moved]
    exact inv.replied
  · intro other
    by_cases own : other = client
    · subst own
      exact standing _ rfl rfl rfl (by simp [account]) (held other)
    · refine inv.standing_congr other rfl rfl (elsewhere other own) rfl (by simp [own]) ?_
      intro heldVolume
      rw [held]
      refine and_iff_left_of_imp fun holds => ?_
      rintro rfl
      exact own (Option.some.inj (holds.2.symm.trans owner))

theorem Inv.opened (inv : session.Inv setting) {index mq call : Nat} {sender : Client}
    {req : OpenRequest} {reply : OpenReply} {world : World} {state : VolumeState}
    {exchange : Exchange Nat Client} (sound : world.Sound)
    (hand : session.exchange.thread index = .hand ⟨sender, call, .openVolume req⟩)
    (fresh : session.exchange.world.volumes reply.volume = none)
    (volumes : world.volumes =
      Function.update session.exchange.world.volumes reply.volume (some state))
    (fds : world.fds =
      Function.update session.exchange.world.fds state.fd (some state.volumeName))
    (moved : exchange = ({ session.exchange with
      world
      owner := Function.update session.exchange.owner reply.volume (some sender) }).setThread
        index (.sending mq ⟨sender, call, .openVolume reply⟩
          (if reply.err = 0 then none else some reply.volume))) :
    ({ session with
      exchange
      answers := Function.update session.answers sender (session.answers sender ++ [reply]) } :
        Session Client).Inv setting := by
  have held (client : Client) (volume : UInt64) : ({ session with
      exchange
      answers := Function.update session.answers sender (session.answers sender ++ [reply]) } :
        Session Client).Holds client volume ↔
      session.Holds client volume ∨ volume = reply.volume ∧ client = sender := by
    subst moved
    simp only [Holds, Exchange.setThread, volumes]
    by_cases same : volume = reply.volume
    · simp [same, fresh, eq_comm]
    · simp [same]
  have grows (client : Client) (answer : OpenReply) (member : answer ∈ session.answers client) :
      answer ∈ Function.update session.answers sender (session.answers sender ++ [reply]) client := by
    by_cases own : client = sender
    · subst own
      simp [member]
    · simpa [own] using member
  have newest : reply ∈
      Function.update session.answers sender (session.answers sender ++ [reply]) sender := by
    simp
  have threads : exchange.thread = Function.update session.exchange.thread index
      (.sending mq ⟨sender, call, .openVolume reply⟩
        (if reply.err = 0 then none else some reply.volume)) := by
    rw [moved]
    rfl
  refine ⟨?_, ?_, ?_, ?_, ?_, ?_, ?_⟩
  · rw [moved]
    exact sound
  · subst moved
    intro running fd name isOpen
    simp only [Exchange.setThread, volumes, fds] at isOpen ⊢
    by_cases same : fd = state.fd
    · exact ⟨reply.volume, state, by simp, same.symm⟩
    · rw [Function.update_of_ne same] at isOpen
      obtain ⟨volume, volState, live, fd_eq⟩ := inv.descriptors running fd name isOpen
      have different : volume ≠ reply.volume := by
        rintro rfl
        simp [fresh] at live
      exact ⟨volume, volState, by simpa [different] using live, fd_eq⟩
  · rw [moved]
    exact inv.faults
  · rw [moved]
    exact inv.queued
  · refine inv.setThread threads ⟨inv.inHand hand, ?_, ?_⟩ grows fun _ _ _ doomed =>
      doomed.mono grows fun client holds => (held client _).mpr (Or.inl holds)
    · rintro _ ⟨⟩
      exact newest
    · intro volume closing
      by_cases success : reply.err = 0
      · simp [success] at closing
      · obtain rfl : reply.volume = volume := by simpa [success] using closing
        exact ⟨sender, reply, (inv.inHand hand).symm, newest, rfl, success,
          (held _ _).mpr (Or.inr ⟨rfl, rfl⟩)⟩
  · rw [moved]
    intro other envelope answer member body
    exact grows _ _ (inv.replied other envelope answer member body)
  · intro client
    have split := inv.inFlight_hand hand threads (by rw [moved]; rfl) (fun _ => rfl) client
    by_cases own : client = sender
    · subst own
      rw [if_pos rfl] at split
      obtain ⟨phase, admits, place⟩ := inv.standing client
      have queue : (session.account setting client).requests = .openVolume req ::
          (exchange.inFlight (setting.index client) client).map Envelope.body := by
        simp only [account, split, List.singleton_append, List.map_cons]
      obtain ⟨rfl, rest, answers, none, deleted⟩ := place.popOpen queue
      refine ⟨.answered reply, Account.admits_answered admits reply, rest, ?_, Or.inl ⟨?_, deleted⟩⟩
      · show Function.update session.answers client (session.answers client ++ [reply]) client = _
        rw [Function.update_self, show session.answers client = [] from answers, List.nil_append]
      · intro volume
        refine (held client volume).trans ⟨?_, fun same => Or.inr ⟨same, rfl⟩⟩
        rintro (holds | ⟨same, _⟩)
        · exact (none volume holds).elim
        · exact same
    · rw [if_neg (Ne.symm own), List.nil_append] at split
      refine inv.standing_congr client rfl rfl split.symm (by simp [own]) rfl fun volume => ?_
      rw [held]
      exact or_iff_left fun both => own both.2

/-! The history of a step, and the steps together. -/

theorem answersAfter_io {index mq : Nat} {kernel : Kernel} {envelope : Envelope Client Reply}
    {closing : Option UInt64} {exchange : Exchange Nat Client}
    (sends : exchange.thread index = .sending mq envelope closing)
    (notOpen : ∀ reply, envelope.body ≠ .openVolume reply) :
    session.answersAfter (.handle index kernel) exchange = session.answers := by
  obtain ⟨sender, call, body⟩ := envelope
  cases body with
  | openVolume reply => exact (notOpen reply rfl).elim
  | read reply => simp [answersAfter, sends]
  | getsize reply => simp [answersAfter, sends]
  | fsync reply => simp [answersAfter, sends]

theorem answersAfter_silent {index : Nat} {kernel : Kernel} {exchange : Exchange Nat Client}
    (silent : ∀ mq envelope closing, exchange.thread index ≠ .sending mq envelope closing) :
    session.answersAfter (.handle index kernel) exchange = session.answers := by
  simp only [answersAfter]
  split
  · rename_i sends
    exact (silent _ _ _ sends).elim
  · rfl

theorem deletedAfter_handle {index : Nat} {kernel : Kernel} {request : Envelope Client Request}
    (hand : session.exchange.thread index = .hand request)
    (notClose : ∀ req, request.body ≠ .close req) :
    session.deletedAfter (.handle index kernel) = session.deleted := by
  have none : session.exchange.deletes (.handle index kernel) = none := by
    simp only [Exchange.deletes]
    split
    · rename_i sender call req closes
      rw [hand] at closes
      obtain rfl := Thread.hand.inj closes
      exact (notClose req rfl).elim
    · rfl
  simp [deletedAfter, deletedFor, none]

theorem Inv.done (inv : session.Inv setting) {index : Nat} {kernel : Kernel}
    {request : Envelope Client Request} {world : World}
    (hand : session.exchange.thread index = .hand request)
    (handling : IOHandler.Handling session.exchange.world kernel request.body (.done world)) :
    let exchange := ({ session.exchange with world }).setThread index .idle
    ({ session with
      exchange
      answers := session.answersAfter (.handle index kernel) exchange
      deleted := session.deletedAfter (.handle index kernel) } : Session Client).Inv setting := by
  intro exchange
  have idle : exchange.thread index = .idle := by simp [exchange, Exchange.setThread]
  rw [answersAfter_silent (by simp [idle])]
  have uses := inv.uses hand
  obtain ⟨sender, call, body⟩ := request
  cases handling with
  | skipped nothing =>
      obtain ⟨phase, admits, place⟩ := inv.standing sender
      have member : body ∈ (session.account setting sender).requests := by
        refine List.mem_map_of_mem (f := Envelope.body) (a := ⟨sender, call, body⟩) ?_
        rw [← inv.inHand hand]
        exact Exchange.mem_inFlight_hand hand
      rcases place.kind member with usesVolume | ⟨req, rfl⟩
      · -- The volume is held, so it is not null.
        obtain ⟨reply, _, _, held, volume⟩ := uses usesVolume
        have notNull := Holds.notNull ((held.1 reply.volume).mpr rfl) inv.sound
        cases body <;> simp_all [IOHandler.Skipped, Request.usesVolume, Request.header]
      · rw [deletedAfter_handle hand (by simp)]
        refine inv.handled hand inv.sound rfl rfl (fun _ => rfl) rfl trivial ?_
        intro phase rest admits place queue
        obtain ⟨rfl, rfl, answers, without⟩ := place.popOpen queue
        exact ⟨.unopened, Account.admits_unopened admits, rfl, answers, without⟩
  | stored live grown =>
      rw [deletedAfter_handle hand (by simp)]
      refine inv.handled hand (grown.sound inv.sound) grown.objects.1 grown.objects.2.1
        (fun _ => rfl) rfl trivial ?_
      intro phase rest admits place queue
      exact ⟨phase, admits, place.popIo queue rfl⟩
  | @closed req volState live =>
      obtain ⟨reply, answers, success, held, volume⟩ := uses rfl
      simp only [Request.header] at volume
      have holds : session.Holds sender req.header.volume := (held.1 _).mpr volume
      have deleted : session.deletedAfter (.handle index kernel) =
          Function.update session.deleted sender (session.deleted sender + 1) := by
        simp [deletedAfter, deletedFor, Exchange.deletes, hand, live, holds.2]
      have threads : exchange.thread = Function.update session.exchange.thread index .idle := rfl
      have split := inv.inFlight_hand hand threads rfl (fun _ => rfl)
      rw [deleted]
      refine inv.dropped live holds.2 rfl ?_ ?_ ?_
      · rintro place _ ⟨client, other, _, answered, _, failed, otherHolds⟩
        obtain rfl := holds.unique otherHolds
        obtain rfl : other = reply := by simpa [answers] using answered
        exact failed success
      · intro other different
        have same := split other
        rw [if_neg (Ne.symm different), List.nil_append] at same
        exact same.symm
      · intro account stage requests sameAnswers deletions heldIff
        obtain ⟨phase, admits, place⟩ := inv.standing sender
        have queue : (session.account setting sender).requests =
            .close req :: account.requests := by
          simp only [Session.account, split, if_pos, List.singleton_append, List.map_cons, requests]
        obtain ⟨other, rfl, rest, single, _, with_, otherVolume⟩ := place.popClose queue
        refine ⟨.closed other, ?_, rest, sameAnswers.trans single, ‹_›, ?_, ?_⟩
        · rw [stage]
          exact Account.admits_closed admits
        · intro other heldOther
          obtain ⟨old, different⟩ := (heldIff _).mp heldOther
          exact different (((with_.1 _).mp old).trans otherVolume.symm)
        · rw [deletions, show session.deleted sender = 0 from with_.2]

theorem Inv.replies (inv : session.Inv setting) {index mq : Nat} {kernel : Kernel}
    {request : Envelope Client Request} {world : World} {reply : Reply} {closing : Option UInt64}
    (valid : kernel.Valid session.exchange.world request.body)
    (hand : session.exchange.thread index = .hand request)
    (handling : IOHandler.Handling session.exchange.world kernel request.body
      (.reply world mq reply closing)) :
    let exchange := ({ session.exchange with
      world
      owner := session.exchange.ownerAfter kernel request (.reply world mq reply closing) }).setThread
        index (.sending mq ⟨request.sender, request.call, reply⟩ closing)
    ({ session with
      exchange
      answers := session.answersAfter (.handle index kernel) exchange
      deleted := session.deletedAfter (.handle index kernel) } : Session Client).Inv setting := by
  intro exchange
  have sends : exchange.thread index =
      .sending mq ⟨request.sender, request.call, reply⟩ closing := by
    simp [exchange, Exchange.setThread]
  obtain ⟨sender, call, body⟩ := request
  cases handling with
  | @replied _ _ volState _ io live grown answers =>
      have notClose (req : HeaderRequest) : body ≠ .close req := by
        rintro rfl
        simp [Request.isIo] at io
      have notOpen (opened : OpenReply) : reply ≠ .openVolume opened := by
        rintro rfl
        exact Request.AnsweredBy.notOpen io answers
      have owner : session.exchange.ownerAfter kernel ⟨sender, call, body⟩
          (.reply world volState.replyMq reply none) = session.exchange.owner := by
        cases body <;> simp_all [Exchange.ownerAfter, Request.isIo]
      rw [answersAfter_io sends notOpen, deletedAfter_handle hand notClose]
      have ok : ({ session with exchange } : Session Client).ThreadOk setting index
          (.sending volState.replyMq ⟨sender, call, reply⟩ none) :=
        ⟨inv.inHand hand, fun opened body => (notOpen opened body).elim, by simp⟩
      have moved : exchange = ({ session.exchange with world }).setThread index
          (.sending volState.replyMq ⟨sender, call, reply⟩ none) := by
        simp only [exchange, owner]
      refine inv.handled hand (grown.sound inv.sound) grown.objects.1 grown.objects.2.1
        (fun _ => rfl) moved ok ?_
      intro phase rest admits place queue
      exact ⟨phase, admits, place.popIo queue io⟩
  | @opened req name replyMqName _ fd _ err named replyNamed attached obtained opens =>
      have fresh := IOHandler.descriptor_fresh valid obtained
      obtain ⟨nonzero, unused⟩ := valid.newVolume req rfl
      have added : (session.exchange.world.addVolume kernel.newVolume ⟨name, fd, mq⟩).Sound :=
        inv.sound.addVolume nonzero fresh
      have answers : session.answersAfter (.handle index kernel) exchange =
          Function.update session.answers sender (session.answers sender ++
            [⟨{ req.header with volume := kernel.newVolume }, kernel.newVolume, err⟩]) := by
        simp only [answersAfter, sends]
      rw [answers, deletedAfter_handle hand (by simp)]
      cases opens with
      | resized success =>
          have isOpen : (session.exchange.world.addVolume kernel.newVolume ⟨name, fd, mq⟩).fds fd =
              some name := by
            simp [World.addVolume, World.openFile]
          obtain ⟨fds, volumes, _, _⟩ := World.updateFile_spec
            (fun file => { file with content := file.content.truncate (2 ^ 34) }) isOpen
          exact inv.opened (added.updateFile fd _) hand unused volumes fds rfl
      | notResized failed => exact inv.opened added hand unused rfl rfl rfl

theorem Inv.aborts (inv : session.Inv setting) {index : Nat} {kernel : Kernel}
    {request : Envelope Client Request} {world : World} {fault : Fault}
    (valid : kernel.Valid session.exchange.world request.body)
    (hand : session.exchange.thread index = .hand request)
    (handling : IOHandler.Handling session.exchange.world kernel request.body (.fault world fault)) :
    ({ session with
      exchange := { session.exchange with world, fault := some fault }
      answers := session.answersAfter (.handle index kernel)
        { session.exchange with world, fault := some fault }
      deleted := session.deletedAfter (.handle index kernel) } : Session Client).Inv setting := by
  rw [answersAfter_silent (by simp [hand])]
  have uses := inv.uses hand
  obtain ⟨sender, call, body⟩ := request
  cases handling with
  | dead usesVolume gone =>
      obtain ⟨reply, _, _, held, volume⟩ := uses usesVolume
      exact (Holds.notDead ((held.1 _).mpr volume) inv.sound gone).elim
  | short live grown short =>
      have notClose (req : HeaderRequest) : body ≠ .close req := by
        rintro rfl
        exact short trivial
      rw [deletedAfter_handle hand notClose]
      exact inv.aborted (grown.sound inv.sound) grown.objects.1 (by simp)
  | denied failed =>
      rw [deletedAfter_handle hand (by simp)]
      exact inv.aborted inv.sound rfl (by simp)
  | unread unread =>
      rw [deletedAfter_handle hand (by simp)]
      exact inv.aborted inv.sound rfl (by simp)
  | @replyUnread req name fd unread obtained =>
      rw [deletedAfter_handle hand (by simp)]
      exact inv.aborted (inv.sound.openFile name (IOHandler.descriptor_fresh valid obtained)) rfl
        (by simp)
  | @unattached req name replyMqName fd replyNamed missing obtained =>
      rw [deletedAfter_handle hand (by simp)]
      exact inv.aborted (inv.sound.openFile name (IOHandler.descriptor_fresh valid obtained)) rfl
        (by simp)

theorem Inv.closes (inv : session.Inv setting) {index : Nat} {volume : UInt64}
    {volState : VolumeState} (closing : session.exchange.thread index = .closing volume)
    (live : session.exchange.world.volumes volume = some volState) :
    let exchange := ({ session.exchange with
      world := session.exchange.world.dropVolume volume volState }).setThread index .idle
    ({ session with
      exchange
      deleted := session.deletedAfter (.close index) } : Session Client).Inv setting := by
  intro exchange
  have doomed := inv.threads index
  rw [closing] at doomed
  obtain ⟨client, reply, place, answered, rfl, failed, holds⟩ := doomed
  have deleted : session.deletedAfter (.close index) =
      Function.update session.deleted client (session.deleted client + 1) := by
    simp [deletedAfter, deletedFor, Exchange.deletes, closing, live, holds.2]
  have silent (other : Client) : exchange.inFlight (setting.index other) other =
      session.exchange.inFlight (setting.index other) other :=
    Exchange.inFlight_setThread _ other (by simp [closing, Thread.requestsOf])
      (rfl : (Thread.idle : Thread Client).requestsOf other = [])
  rw [deleted]
  refine inv.dropped live holds.2 rfl ?_ (fun other _ => silent other) ?_
  · intro other different again
    exact different (again.unique ⟨client, reply, place, answered, rfl, failed, holds⟩)
  · intro account stage requests answers deletions heldIff
    obtain ⟨phase, admits, at_⟩ := inv.standing client
    have isAnswer (other : OpenReply) (single : session.answers client = [other]) :
        reply = other := by
      simpa [single] using answered
    cases phase with
    | unopened => exact (at_.2.2.1 _ holds).elim
    | asked => exact (at_.2.2.1 _ holds).elim
    | inUse other => exact (failed (isAnswer other at_.1 ▸ at_.2.1)).elim
    | closing other => exact (failed (isAnswer other at_.1 ▸ at_.2.1)).elim
    | closed other => exact (at_.2.2.2.1 _ holds).elim
    | answered other =>
        obtain ⟨quiet, single, held⟩ := at_
        obtain rfl := isAnswer other single
        rcases held with ⟨only, none⟩ | ⟨_, without, _⟩
        · refine ⟨.answered reply, by rw [stage]; exact admits, ?_, answers.trans single,
            Or.inr ⟨failed, ?_, ?_⟩⟩
          · rw [requests, silent]
            exact quiet
          · intro volume heldVolume
            obtain ⟨old, different⟩ := (heldIff volume).mp heldVolume
            exact different ((only volume).mp old)
          · rw [deletions, show session.deleted client = 0 from none]
        · exact (without _ holds).elim

theorem Inv.serve (inv : session.Inv setting) {label : ServerLabel Nat}
    (valid : session.exchange.ValidLabel label) (served : session.serve label = some after) :
    after.Inv setting := by
  obtain ⟨exchange, running, move, rfl⟩ := serve_move served
  cases move with
  | received idle queue _ => exact inv.received idle queue rfl
  | stopped idle queue stop => exact (inv.noStop queue stop).elim
  | done hand handling => exact inv.done hand handling
  | replied hand handling => exact inv.replies (valid _ hand) hand handling
  | aborted hand handling => exact inv.aborts (valid _ hand) hand handling
  | sent sends _ => exact inv.sent sends rfl
  | closed closing live => exact inv.closes closing live
  | closedNull closing => exact (inv.closing closing (Or.inl rfl)).elim
  | closedDead closing gone => exact (inv.closing closing (Or.inr gone)).elim

end Session

end Cvbd
