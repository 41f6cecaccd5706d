import Cvbd.RoutingCore

/-! Every step keeps the reply queues apart, and so does every run. -/

namespace Cvbd

open Wire in
/-- The name of the reply queue is read back where it is terminated. -/
theorem SharedMemClient.sendOpen_replyMqName {client : SharedMemClient} {name : FileName}
    (named : client.volumeName = name.bytes) (terminated : client.Terminated) :
    viewReplyMqName client.sendOpen.2.requestMsg = some client.volumeName := by
  have completed := viewReplyMqName_initOpen_iff
    (storeHeader client.requestMsg ⟨false, .reqOpen, client.id + 1, client.volume, 0⟩) name name
  rw [named]
  show viewReplyMqName (initOpen _ client.volumeName client.volumeName) = _
  rw [named]
  refine completed.mpr ⟨[], by simp, by simp, ?_⟩
  have beyond : headerSize ≤ replyMqNameStart + name.bytes.length := by
    have start : headerSize ≤ replyMqNameStart := by decide
    omega
  rw [storeHeader_outside _ _ beyond, ← named]
  exact terminated

namespace Session

variable {Client : Type} [DecidableEq Client]

structure Routes (setting : Setting Client) (session : Session Client) : Prop where
  names : ∀ client, (session.shared client).volumeName = setting.volumeName client
  own : ∀ left right mq, session.mq left = some mq → session.mq right = some mq → left = right
  unmade : ∀ client, session.stage client = .outside ∨ session.stage client = .removed →
    session.mq client = none
  made : ∀ client, session.stage client = .made → ∃ mq, session.mq client = some mq ∧
    session.exchange.world.mqNames (setting.volumeName client) = some mq
  asked : ∀ client envelope req,
    envelope ∈ session.exchange.inFlight (setting.index client) client →
    envelope.body = .openVolume req → req.replyMqName = some (setting.volumeName client) ∧
      ∃ mq, session.mq client = some mq ∧
        session.exchange.world.mqNames (setting.volumeName client) = some mq
  attached : ∀ client volume volState, session.exchange.world.volumes volume = some volState →
    session.exchange.owner volume = some client → session.mq client = some volState.replyMq
  sending : ∀ index mq envelope closing,
    session.exchange.thread index = .sending mq envelope closing →
    session.mq envelope.sender = some mq
  replied : ∀ mq envelope, envelope ∈ session.exchange.replyMq mq →
    session.mq envelope.sender = some mq
  noThrow : session.exchange.fault ≠ some .exception

variable {setting : Setting Client} {session after : Session Client}

/-! Steps of the server. -/

/-- Requests only leave, names stay, and what is sent or attached belongs to the right client. -/
theorem Routes.server (routes : session.Routes setting) {exchange : Exchange Nat Client}
    {answers : Client → List OpenReply} {deleted : Client → Nat}
    (mqNames : exchange.world.mqNames = session.exchange.world.mqNames)
    (requests : ∀ client envelope, envelope ∈ exchange.inFlight (setting.index client) client →
      envelope ∈ session.exchange.inFlight (setting.index client) client)
    (attached : ∀ client volume volState, exchange.world.volumes volume = some volState →
      exchange.owner volume = some client → session.mq client = some volState.replyMq)
    (sending : ∀ index mq envelope closing, exchange.thread index = .sending mq envelope closing →
      session.mq envelope.sender = some mq)
    (replied : ∀ mq envelope, envelope ∈ exchange.replyMq mq →
      session.mq envelope.sender = some mq)
    (noThrow : exchange.fault ≠ some .exception) :
    ({ session with exchange, answers, deleted } : Session Client).Routes setting where
  names := routes.names
  own := routes.own
  unmade := routes.unmade
  made := by
    intro client made
    rw [mqNames]
    exact routes.made client made
  asked := by
    intro client envelope req member body
    rw [mqNames]
    exact routes.asked client envelope req (requests client envelope member) body
  attached := attached
  sending := sending
  replied := replied
  noThrow := noThrow

theorem Routes.setThread (routes : session.Routes setting) {index : Nat} {thread : Thread Client}
    (sending : ∀ mq envelope closing, thread = .sending mq envelope closing →
      session.mq envelope.sender = some mq) (place mq : Nat) (envelope : Envelope Client Reply)
    (closing : Option UInt64)
    (sends : Function.update session.exchange.thread index thread place =
      .sending mq envelope closing) : session.mq envelope.sender = some mq := by
  by_cases same : place = index
  · subst same
    exact sending mq envelope closing (by simpa using sends)
  · exact routes.sending place mq envelope closing (by simpa [same] using sends)

theorem Routes.attached_update (routes : session.Routes setting) {volume : UInt64} (client : Client)
    (other : UInt64) (volState : VolumeState)
    (live : Function.update session.exchange.world.volumes volume none other = some volState)
    (owner : session.exchange.owner other = some client) :
    session.mq client = some volState.replyMq := by
  by_cases same : other = volume
  · simp [same] at live
  · exact routes.attached client other volState (by simpa [same] using live) owner

theorem inFlight_handled {index : Nat} {request : Envelope Client Request} {thread : Thread Client}
    {exchange : Exchange Nat Client} (hand : session.exchange.thread index = .hand request)
    (moved : exchange.thread = Function.update session.exchange.thread index thread)
    (requests : exchange.requestMq = session.exchange.requestMq)
    (silent : ∀ client, thread.requestsOf client = []) (client : Client)
    (envelope : Envelope Client Request)
    (member : envelope ∈ exchange.inFlight (setting.index client) client) :
    envelope ∈ session.exchange.inFlight (setting.index client) client := by
  rw [Exchange.inFlight_hand hand silent]
  refine List.mem_append_right _ ?_
  simpa only [Exchange.inFlight, Exchange.setThread, moved, requests] using member

theorem Routes.done (routes : session.Routes setting) {index : Nat} {kernel : Kernel}
    {request : Envelope Client Request} {world : World}
    {answers : Client → List OpenReply} {deleted : Client → Nat}
    (hand : session.exchange.thread index = .hand request)
    (handling : IOHandler.Handling session.exchange.world kernel request.body (.done world)) :
    let exchange := ({ session.exchange with world }).setThread index .idle
    ({ session with exchange, answers, deleted } : Session Client).Routes setting := by
  intro exchange
  refine routes.server handling.mqNames ?_ ?_ ?_ routes.replied routes.noThrow
  · exact inFlight_handled hand rfl rfl fun _ => rfl
  · intro client volume volState live owner
    generalize request.body = body at handling
    cases handling with
    | skipped nothing => exact routes.attached client volume volState live owner
    | stored _ grown =>
        exact routes.attached client volume volState (grown.objects.1 ▸ live) owner
    | closed _ => exact routes.attached_update client volume volState live owner
  · intro place mq envelope closing sends
    exact routes.setThread (by simp) place mq envelope closing sends

/-- The reply of a handler is sent to the queue of the client that asked. -/
theorem Routes.replies (routes : session.Routes setting) (inv : session.Inv setting)
    {index mq : Nat} {kernel : Kernel} {request : Envelope Client Request} {world : World}
    {reply : Reply} {closing : Option UInt64} {answers : Client → List OpenReply}
    {deleted : Client → Nat} (hand : session.exchange.thread index = .hand request)
    (handling : IOHandler.Handling session.exchange.world kernel request.body
      (.reply world mq reply closing)) :
    let exchange := ({ session.exchange with
      world
      owner := session.exchange.ownerAfter kernel request (.reply world mq reply closing) }).setThread
        index (.sending mq ⟨request.sender, request.call, reply⟩ closing)
    ({ session with exchange, answers, deleted } : Session Client).Routes setting := by
  intro exchange
  have own : session.mq request.sender = some mq ∧
      ∀ client volume volState, world.volumes volume = some volState →
        session.exchange.ownerAfter kernel request (.reply world mq reply closing) volume =
          some client → session.mq client = some volState.replyMq := by
    have uses := inv.uses hand
    have member := Exchange.mem_inFlight_hand hand
    rw [inv.inHand hand] at member
    have asked := routes.asked request.sender request
    obtain ⟨sender, call, body⟩ := request
    cases handling with
    | @replied _ _ volState _ io live grown _ =>
        obtain ⟨_, _, _, held, volume⟩ := uses (Request.usesVolume_of_isIo io)
        have holds := (held.1 _).mpr volume
        refine ⟨routes.attached sender _ volState live holds.2, ?_⟩
        intro client volume other otherLive owner
        have sameOwner : session.exchange.ownerAfter kernel ⟨sender, call, body⟩
            (.reply world volState.replyMq reply none) = session.exchange.owner := by
          cases body <;> simp_all [Exchange.ownerAfter, Request.isIo]
        rw [sameOwner] at owner
        rw [grown.objects.1] at otherLive
        exact routes.attached client volume other otherLive owner
    | @opened req name replyMqName _ fd _ err named replyNamed attached obtained opens =>
        obtain ⟨readBack, ownMq, made, found⟩ := asked req member rfl
        obtain rfl : replyMqName = setting.volumeName sender := by
          rw [replyNamed] at readBack
          exact Option.some.inj readBack
        obtain rfl : mq = ownMq := by
          rw [attached] at found
          exact Option.some.inj found
        refine ⟨made, ?_⟩
        intro client volume volState live owner
        simp only [Exchange.ownerAfter] at owner
        rw [opens.volumes] at live
        by_cases same : volume = kernel.newVolume
        · subst same
          obtain rfl : (⟨name, fd, mq⟩ : VolumeState) = volState := by simpa using live
          obtain rfl : sender = client := by simpa using owner
          exact made
        · rw [Function.update_of_ne same] at live owner
          exact routes.attached client volume volState live owner
  refine routes.server handling.mqNames ?_ own.2 ?_ routes.replied routes.noThrow
  · exact inFlight_handled hand rfl rfl fun _ => rfl
  · refine routes.setThread ?_
    rintro _ _ _ ⟨⟩
    exact own.1

/-- The server does not throw: an OPEN finds its reply queue. -/
theorem Routes.aborts (routes : session.Routes setting) (inv : session.Inv setting)
    {index : Nat} {kernel : Kernel} {request : Envelope Client Request} {world : World}
    {fault : Fault} {answers : Client → List OpenReply} {deleted : Client → Nat}
    (hand : session.exchange.thread index = .hand request)
    (handling : IOHandler.Handling session.exchange.world kernel request.body (.fault world fault)) :
    ({ session with
      exchange := { session.exchange with world, fault := some fault }
      answers
      deleted } : Session Client).Routes setting := by
  have names := handling.mqNames
  have volumes : world.volumes = session.exchange.world.volumes ∧ fault ≠ .exception := by
    have uses := inv.uses hand
    have member := Exchange.mem_inFlight_hand hand
    rw [inv.inHand hand] at member
    have asked := routes.asked request.sender request
    obtain ⟨sender, call, body⟩ := request
    cases handling with
    | dead usesVolume gone =>
        obtain ⟨_, _, _, held, volume⟩ := uses usesVolume
        exact (Holds.notDead ((held.1 _).mpr volume) inv.sound gone).elim
    | short live grown short => exact ⟨grown.objects.1, by simp⟩
    | denied failed => exact ⟨rfl, by simp⟩
    | unread unread => exact ⟨rfl, by simp⟩
    | replyUnread unread obtained => exact ⟨rfl, by simp⟩
    | @unattached req name replyMqName fd replyNamed missing obtained =>
        obtain ⟨readBack, mq, _, found⟩ := asked req member rfl
        obtain rfl : replyMqName = setting.volumeName sender := by
          rw [replyNamed] at readBack
          exact Option.some.inj readBack
        simp [missing] at found
  refine routes.server names (fun _ _ member => member) ?_ routes.sending routes.replied
    (by simpa using volumes.2)
  intro client volume volState live owner
  rw [volumes.1] at live
  exact routes.attached client volume volState live owner

theorem Routes.serve (routes : session.Routes setting) (inv : session.Inv setting)
    {label : ServerLabel Nat} (served : session.serve label = some after) :
    after.Routes setting := by
  obtain ⟨exchange, running, move, rfl⟩ := serve_move served
  cases move with
  | received idle queue _ =>
      refine routes.server rfl ?_ routes.attached (routes.setThread (by simp)) routes.replied
        routes.noThrow
      intro client envelope member
      rw [Exchange.inFlight_received idle queue] at member
      exact member
  | @stopped index request rest header idle queue stop =>
      refine routes.server rfl ?_ routes.attached (routes.setThread (by simp)) routes.replied
        routes.noThrow
      intro client envelope member
      rw [← Exchange.inFlight_received idle queue]
      by_cases same : setting.index client = index
      · simp_all [Exchange.inFlight, Exchange.setThread, Thread.requestsOf]
      · simpa [Exchange.inFlight, Exchange.setThread, same] using member
  | done hand handling => exact routes.done hand handling
  | replied hand handling => exact routes.replies inv hand handling
  | aborted hand handling => exact routes.aborts inv hand handling
  | @sent index mq envelope closing sends room =>
      have ends : ∀ other reply closes,
          (Exchange.afterSend closing : Thread Client) ≠ .sending other reply closes := by
        cases closing <;> simp [Exchange.afterSend]
      refine routes.server rfl ?_ routes.attached ?_ ?_ routes.noThrow
      · intro client request member
        rw [Exchange.inFlight_setThread _ client (by simp [sends, Thread.requestsOf])
          (by cases closing <;> rfl)] at member
        exact member
      · exact routes.setThread fun other reply closes equal => (ends other reply closes equal).elim
      · intro other reply member
        by_cases same : other = mq
        · subst same
          simp only [Exchange.setThread, Function.update_self, List.mem_append,
            List.mem_singleton] at member
          rcases member with old | rfl
          · exact routes.replied other reply old
          · exact routes.sending index other reply closing sends
        · simp only [Exchange.setThread, Function.update_of_ne same] at member
          exact routes.replied other reply member
  | @closed index volume volState closing live =>
      refine routes.server rfl ?_ routes.attached_update (routes.setThread (by simp))
        routes.replied routes.noThrow
      intro client request member
      rw [Exchange.inFlight_setThread _ client (by simp [closing, Thread.requestsOf]) rfl] at member
      exact member
  | @closedNull index closing =>
      refine routes.server rfl ?_ routes.attached (routes.setThread (by simp)) routes.replied
        routes.noThrow
      intro client request member
      rw [Exchange.inFlight_setThread _ client (by simp [closing, Thread.requestsOf]) rfl] at member
      exact member
  | closedDead closing gone =>
      exact routes.server rfl (fun _ _ member => member) routes.attached routes.sending
        routes.replied (by simp)

/-! Steps of a client. -/

variable {client : Client}

/-- A step that leaves the names of the queues alone and posts an OPEN only under the name of the
client's own queue. -/
theorem Routes.move (routes : session.Routes setting)
    (move : session.ClientMove setting client after) (mq : after.mq = session.mq)
    (mqNames : after.exchange.world.mqNames = session.exchange.world.mqNames)
    (name : (after.shared client).volumeName = (session.shared client).volumeName)
    (early : after.stage client = .outside ∨ after.stage client = .removed →
      session.stage client = .outside ∨ session.stage client = .removed)
    (made : after.stage client = .made → session.stage client = .made)
    (asked : ∀ envelope req, envelope ∈ after.exchange.inFlight (setting.index client) client →
      envelope.body = .openVolume req →
      envelope ∈ session.exchange.inFlight (setting.index client) client ∨
        session.stage client = .made ∧ req.replyMqName = some (session.shared client).volumeName) :
    after.Routes setting where
  names := by
    intro other
    by_cases same : other = client
    · subst same
      rw [name]
      exact routes.names other
    · rw [(move.others other same).2.1]
      exact routes.names other
  own := by
    rw [mq]
    exact routes.own
  unmade := by
    intro other
    rw [mq]
    by_cases same : other = client
    · subst same
      exact fun stage => routes.unmade other (early stage)
    · rw [(move.others other same).1]
      exact routes.unmade other
  made := by
    intro other
    rw [mq, mqNames]
    by_cases same : other = client
    · subst same
      exact fun stage => routes.made other (made stage)
    · rw [(move.others other same).1]
      exact routes.made other
  asked := by
    intro other envelope req member body
    rw [mq, mqNames]
    by_cases same : other = client
    · subst same
      rcases asked envelope req member body with old | ⟨stage, replyNamed⟩
      · exact routes.asked other envelope req old body
      · rw [routes.names] at replyNamed
        exact ⟨replyNamed, routes.made other stage⟩
    · rw [(move.others other same).2.2] at member
      exact routes.asked other envelope req member body
  attached := by
    rw [mq, move.volumes, move.owner]
    exact routes.attached
  sending := by
    rw [mq, move.threads]
    exact routes.sending
  replied := by
    intro other envelope member
    rw [mq]
    exact routes.replied other envelope (move.replied other envelope member)
  noThrow := by
    rw [move.fault]
    exact routes.noThrow

theorem Routes.forget (routes : session.Routes setting) {stage : Stage}
    (undisturbed : ∀ other, other ≠ client →
      setting.volumeName other = setting.volumeName client → ¬session.AwaitsAttach setting other)
    (quiet : ∀ envelope ∈ session.exchange.inFlight (setting.index client) client, ∀ req,
      envelope.body ≠ .openVolume req)
    (notMade : stage ≠ .made) (early : stage = .outside ∨ stage = .removed →
      session.mq client = none) :
    ((session.setQueue (session.shared client).volumeName none).setStage client stage).Routes
      setting := by
  -- A name that is still needed is another one.
  have kept (other : Client) (different : other ≠ client)
      (awaits : session.AwaitsAttach setting other) :
      Function.update session.exchange.world.mqNames (session.shared client).volumeName none
        (setting.volumeName other) = session.exchange.world.mqNames (setting.volumeName other) := by
    refine Function.update_of_ne (fun same => ?_) _ _
    rw [routes.names] at same
    exact undisturbed other different same awaits
  refine ⟨routes.names, routes.own, ?_, ?_, ?_, routes.attached, routes.sending, routes.replied,
    routes.noThrow⟩
  · intro other unmade
    by_cases same : other = client
    · subst same
      exact early (by simpa [setStage] using unmade)
    · exact routes.unmade other (by simpa [setStage, setQueue, same] using unmade)
  · intro other made
    by_cases same : other = client
    · subst same
      exact (notMade (by simpa [setStage] using made)).elim
    · have wasMade : session.stage other = .made := by simpa [setStage, setQueue, same] using made
      obtain ⟨mq, own, found⟩ := routes.made other wasMade
      exact ⟨mq, own, (kept other same (Or.inl wasMade)).trans found⟩
  · intro other envelope req member body
    by_cases same : other = client
    · subst same
      exact (quiet envelope member req body).elim
    · obtain ⟨named, mq, own, found⟩ := routes.asked other envelope req member body
      exact ⟨named, mq, own, (kept other same (Or.inr ⟨envelope, member, req, body⟩)).trans found⟩

theorem Inv.noOpen (inv : session.Inv setting)
    (stage : (session.stage client).admits .asked = false) :
    ∀ envelope ∈ session.exchange.inFlight (setting.index client) client, ∀ req,
      envelope.body ≠ .openVolume req := by
  intro envelope member req body
  obtain ⟨phase, admits, place⟩ := inv.standing client
  have inRequests : Request.openVolume req ∈ (session.account setting client).requests := by
    rw [← body]
    exact List.mem_map_of_mem member
  have notIo : ¬(Request.openVolume req).isIo = true := by simp [Request.isIo]
  cases phase with
  | unopened => simp [place.1] at inRequests
  | asked =>
      rw [show (session.account setting client).stage = session.stage client from rfl, stage]
        at admits
      simp at admits
  | answered reply => simp [place.1] at inRequests
  | inUse reply => exact notIo (place.2.2.2.2 _ inRequests).1
  | closing reply =>
      obtain ⟨_, _, _, io, close, queue, _, onVolume⟩ := place
      rw [queue, List.mem_append, List.mem_singleton] at inRequests
      rcases inRequests with old | same
      · exact notIo (onVolume _ old).1
      · simp at same
  | closed reply => simp [place.1] at inRequests

theorem Routes.remove (routes : session.Routes setting) (inv : session.Inv setting)
    (undisturbed : session.Undisturbed setting (.remove client))
    (stepped : session.remove client = some after) : after.Routes setting := by
  obtain ⟨outside, rfl | rfl⟩ := remove_cases stepped
  · exact routes.move (setStage_move setting session client .aborted) rfl rfl rfl
      (by simp [setStage]) (by simp [setStage]) fun _ _ member _ => Or.inl member
  · exact routes.forget undisturbed (inv.noOpen (by rw [outside]; rfl)) (by simp)
      fun _ => routes.unmade client (Or.inl outside)

theorem Routes.destroy (routes : session.Routes setting) (inv : session.Inv setting)
    (undisturbed : session.Undisturbed setting (.destroy client))
    (stepped : session.destroy client = some after) : after.Routes setting := by
  obtain ⟨stage, rfl⟩ := destroy_cases stepped
  have late : (session.stage client).admits .asked = false := by
    rcases stage with made | refused | closed
    · rw [made]
      rfl
    · rw [refused]
      rfl
    · rw [closed]
      rfl
  exact routes.forget undisturbed (inv.noOpen late) (by simp) (by simp)

theorem Routes.makeQueue (routes : session.Routes setting) {mq : Nat}
    (removed : session.stage client = .removed)
    (free : session.exchange.world.mqNames (session.shared client).volumeName = none)
    (fresh : ∀ other, session.mq other ≠ some mq) :
    (session.makeQueue client mq).Routes setting := by
  have none := routes.unmade client (Or.inr removed)
  have others {other : Client} {queue : Nat} (own : session.mq other = some queue) :
      (session.makeQueue client mq).mq other = some queue := by
    have different : other ≠ client := by
      rintro rfl
      simp [none] at own
    simpa [Session.makeQueue, different] using own
  have kept {other : Client} {queue : Nat}
      (found : session.exchange.world.mqNames (setting.volumeName other) = some queue) :
      (session.makeQueue client mq).exchange.world.mqNames (setting.volumeName other) =
        some queue := by
    have different : setting.volumeName other ≠ (session.shared client).volumeName := by
      intro same
      rw [same, free] at found
      simp at found
    simpa [Session.makeQueue, setQueue, World.setQueue, different] using found
  refine ⟨routes.names, ?_, ?_, ?_, ?_, ?_, ?_, ?_, routes.noThrow⟩
  · intro left right queue ownLeft ownRight
    simp only [Session.makeQueue] at ownLeft ownRight
    by_cases first : left = client
    · by_cases second : right = client
      · rw [first, second]
      · subst first
        obtain rfl : mq = queue := by simpa using ownLeft
        exact (fresh right (by simpa [second] using ownRight)).elim
    · by_cases second : right = client
      · subst second
        obtain rfl : mq = queue := by simpa using ownRight
        exact (fresh left (by simpa [first] using ownLeft)).elim
      · exact routes.own left right queue (by simpa [first] using ownLeft)
          (by simpa [second] using ownRight)
  · intro other stage
    by_cases same : other = client
    · subst same
      simp [Session.makeQueue] at stage
    · simpa [Session.makeQueue, same] using
        routes.unmade other (by simpa [Session.makeQueue, same] using stage)
  · intro other stage
    by_cases same : other = client
    · subst same
      refine ⟨mq, by simp [Session.makeQueue], ?_⟩
      simp [Session.makeQueue, setQueue, World.setQueue, routes.names]
    · obtain ⟨queue, own, found⟩ :=
        routes.made other (by simpa [Session.makeQueue, same] using stage)
      exact ⟨queue, others own, kept found⟩
  · intro other envelope req member body
    obtain ⟨named, queue, own, found⟩ := routes.asked other envelope req member body
    exact ⟨named, queue, others own, kept found⟩
  · intro other volume volState live owner
    exact others (routes.attached other volume volState live owner)
  · intro index queue envelope closing sends
    exact others (routes.sending index queue envelope closing sends)
  · intro queue envelope member
    by_cases same : queue = mq
    · subst same
      simp [Session.makeQueue] at member
    · exact others (routes.replied queue envelope
        (by simpa [Session.makeQueue, setQueue, same] using member))

theorem Routes.create (routes : session.Routes setting)
    {queue : Option Nat} (valid : session.Valid (.create client queue))
    (stepped : session.create client queue = some after) : after.Routes setting := by
  obtain ⟨removed, ⟨mq, rfl, free, rfl⟩ | rfl⟩ := create_cases stepped
  · exact routes.makeQueue removed free valid.2
  · exact routes.move (setStage_move setting session client .failed) rfl rfl rfl
      (by simp [setStage]) (by simp [setStage]) fun _ _ member _ => Or.inl member

theorem Routes.post (routes : session.Routes setting) {sent : Request × SharedMemClient}
    {stage : Stage} (name : sent.2.volumeName = (session.shared client).volumeName)
    (late : stage ≠ .outside ∧ stage ≠ .removed ∧ stage ≠ .made)
    (asked : ∀ req, sent.1 = .openVolume req → session.stage client = .made ∧
      req.replyMqName = some (session.shared client).volumeName)
    (posted : session.post setting client sent stage = some after) : after.Routes setting := by
  obtain ⟨move, stageEq, shared, requests⟩ := post_move posted
  obtain ⟨exchange, pushed, rfl⟩ := Option.map_eq_some_iff.mp posted
  obtain ⟨_, rfl⟩ := Exchange.pushRequest_spec pushed
  refine routes.move move rfl rfl (by rw [shared, name]) ?_ ?_ ?_
  · rw [stageEq]
    rintro (outside | removed)
    · exact (late.1 outside).elim
    · exact (late.2.1 removed).elim
  · rw [stageEq]
    exact fun made => (late.2.2 made).elim
  · intro envelope req member body
    rw [requests, List.mem_append, List.mem_singleton] at member
    rcases member with old | rfl
    · exact Or.inl old
    · exact Or.inr (asked req body)

theorem Routes.sendOpen (routes : session.Routes setting)
    (terminates : session.Terminates (.sendOpen client))
    (stepped : session.sendOpen setting client = some after) : after.Routes setting := by
  obtain ⟨made, posted⟩ := sendOpen_cases stepped
  obtain ⟨terminated, name, named⟩ := terminates
  refine routes.post rfl (by simp) ?_ posted
  intro req body
  rw [SharedMemClient.sendOpen_request] at body
  refine ⟨made, ?_⟩
  rw [← Request.openVolume.inj body]
  exact SharedMemClient.sendOpen_replyMqName named terminated

theorem Routes.call (routes : session.Routes setting) {call : Call}
    (stepped : session.call setting client call = some after) : after.Routes setting := by
  obtain ⟨_, _, rfl | ⟨sent, asked, posted⟩⟩ := call_cases stepped
  · exact routes.move (setStage_move setting session client .aborted) rfl rfl rfl
      (by simp [setStage]) (by simp [setStage]) fun _ _ member _ => Or.inl member
  · obtain ⟨io, _, _, name⟩ := Call.send_spec asked
    refine routes.post name ?_ ?_ posted
    · unfold afterCall
      split <;> simp
    · intro req body
      simp [body, Request.isIo] at io

theorem Routes.sendClose (routes : session.Routes setting)
    (stepped : session.sendClose setting client = some after) : after.Routes setting := by
  obtain ⟨_, posted⟩ := sendClose_cases stepped
  refine routes.post rfl (by simp) ?_ posted
  intro req body
  simp [SharedMemClient.sendClose_request] at body

/-- Taking a reply moves a client to no earlier stage. -/
theorem received_stage {kind : ClientKind} {shared : SharedMemClient} {stage : Stage} {reply : Reply}
    {outcome : SharedMemClient × Stage} (took : received kind shared stage reply = some outcome) :
    outcome.1.volumeName = shared.volumeName ∧
      (outcome.2 = stage ∨ outcome.2 ≠ .outside ∧ outcome.2 ≠ .removed ∧ outcome.2 ≠ .made) := by
  rcases received_spec took with ⟨kept, _⟩ | ⟨request, opened, _, _, rfl⟩
  · refine ⟨by rw [kept], ?_⟩
    unfold received at took
    split at took
    · split at took
      · obtain rfl := Option.some.inj took
        right
        dsimp only
        split <;> simp
      · split at took <;> obtain rfl := Option.some.inj took <;> simp
    · obtain rfl := Option.some.inj took
      right
      dsimp only
      split <;> simp
    · exact Or.inl (congrArg Prod.snd (Option.some.inj took)).symm
    · exact Or.inl (congrArg Prod.snd (Option.some.inj took)).symm
    · exact Or.inl (congrArg Prod.snd (Option.some.inj took)).symm
    · exact Or.inl (congrArg Prod.snd (Option.some.inj took)).symm
    · simp at took
  · by_cases success : opened.err = 0 <;> simp [success]

theorem Routes.receive (routes : session.Routes setting)
    (stepped : session.receive setting client = some after) : after.Routes setting := by
  obtain ⟨mq, envelope, rest, outcome, own, queue, took, move, shared, stage, requests⟩ :=
    receive_move stepped
  obtain ⟨name, kept⟩ := received_stage took
  obtain ⟨sameMq, sameWorld, _⟩ := receive_queues own queue stepped
  refine routes.move move sameMq (by rw [sameWorld]) (by rw [shared, name]) ?_ ?_ ?_
  · rw [stage]
    rcases kept with same | ⟨outside, removed, _⟩
    · rw [same]
      exact id
    · exact fun early => (early.elim outside removed).elim
  · rw [stage]
    rcases kept with same | ⟨_, _, made⟩
    · rw [same]
      exact id
    · exact fun equal => (made equal).elim
  · intro envelope req member _
    rw [requests] at member
    exact Or.inl member

/-- What the kernel may answer, where names arrive and stay while they are needed. -/
def Orderly (setting : Setting Client) (session : Session Client) (label : SessionLabel Client) :
    Prop :=
  session.Valid label ∧ session.Terminates label ∧ session.Undisturbed setting label

/-- Every reply in a client's queue is its own. -/
theorem Routes.delivered (routes : session.Routes setting) (label : SessionLabel Client) :
    session.Delivered label := by
  cases label with
  | receive client =>
      intro mq envelope rest reply own queue _
      exact routes.own _ _ mq (routes.replied mq envelope (by simp [queue])) own
  | remove client => trivial
  | create client queue => trivial
  | sendOpen client => trivial
  | call client call => trivial
  | sendClose client => trivial
  | destroy client => trivial
  | server label => trivial

theorem Routes.step (routes : session.Routes setting) (inv : session.Inv setting)
    {label : SessionLabel Client} (orderly : session.Orderly setting label)
    (stepped : session.step setting label = some after) : after.Routes setting := by
  obtain ⟨valid, terminates, undisturbed⟩ := orderly
  cases label with
  | remove client => exact routes.remove inv undisturbed stepped
  | create client queue => exact routes.create valid stepped
  | sendOpen client => exact routes.sendOpen terminates stepped
  | call client call => exact routes.call stepped
  | sendClose client => exact routes.sendClose stepped
  | receive client => exact routes.receive stepped
  | destroy client => exact routes.destroy inv undisturbed stepped
  | server label => exact routes.serve inv stepped

theorem start_routes (setting : Setting Client) (files : Name → Option VolumeFile)
    (mqNames : Name → Option Nat) : (start setting files mqNames).Routes setting where
  names := fun _ => rfl
  own := by simp [start]
  unmade := fun _ _ => rfl
  made := by simp [start]
  asked := by simp [start, Exchange.inFlight, Thread.requestsOf]
  attached := by simp [start, World.started]
  sending := by simp [start]
  replied := by simp [start]
  noThrow := by simp [start]

theorem routes_run {files : Name → Option VolumeFile} {mqNames : Name → Option Nat}
    {trace : List Empty}
    (run : (machine setting).Run (Orderly setting) (start setting files mqNames) trace session) :
    session.Inv setting ∧ session.Routes setting := by
  refine run.invariant (fun _ session => session.Inv setting ∧ session.Routes setting)
    ⟨start_inv setting files mqNames, start_routes setting files mqNames⟩ ?_
  rintro trace session label after events ⟨inv, routes⟩ orderly stepped
  have moved := machine_step stepped
  exact ⟨inv.step ⟨orderly.1, routes.delivered label⟩ moved, routes.step inv orderly moved⟩

theorem Routes.routed (routes : session.Routes setting) (inv : session.Inv setting) :
    session.Routed where
  attach := by
    intro index request req hand body
    have member := Exchange.mem_inFlight_hand hand
    rw [inv.inHand hand] at member
    obtain ⟨named, mq, own, found⟩ := routes.asked _ request req member body
    exact ⟨_, mq, named, found, own⟩
  noThrow := routes.noThrow
  sending := routes.sending
  replied := routes.replied
  own := routes.own

/-- In every orderly run the replies go to the clients that asked. -/
theorem routed_run (setting : Setting Client) {files : Name → Option VolumeFile}
    {mqNames : Name → Option Nat} {trace : List Empty}
    (run : (machine setting).Run (Orderly setting) (start setting files mqNames) trace session) :
    session.Routed :=
  (routes_run run).2.routed (routes_run run).1

end Session

end Cvbd
