import Cvbd.MatchingServer

/-!
Every step keeps requests and replies matched, and so does every run in which
the names of the reply queues arrive.
-/

namespace Cvbd

open Wire in
/-- A string begins at the volume name; it ends with the reply-queue name at the latest. -/
theorem SharedMemClient.sendOpen_volumeName {client : SharedMemClient} {name : FileName}
    (named : client.volumeName = name.bytes) (terminated : client.Terminated) :
    viewVolumeName client.sendOpen.2.requestMsg ≠ none := by
  have arrives := sendOpen_replyMqName named terminated
  rw [viewReplyMqName, CString.read_eq_some_iff] at arrives
  obtain ⟨inside, _, _, zero⟩ := arrives
  have order : volumeNameStart ≤ replyMqNameStart ∧ replyMqNameStart ≤ requestSize := by decide
  have behind : replyMqNameStart + client.volumeName.length =
      volumeNameStart + (replyMqNameStart - volumeNameStart + client.volumeName.length) := by
    omega
  rw [behind] at zero
  have read : (viewVolumeName client.sendOpen.2.requestMsg).isSome = true :=
    CString.read_isSome (by omega) zero
  exact Option.isSome_iff_ne_none.mp read

theorem Call.send_typed {call : Call} {client : SharedMemClient} {sent : Request × SharedMemClient}
    (sync : call.madeBy .sync = true) (posted : call.send client = some sent) :
    (Session.afterCall .sync sent.1).Typed := by
  cases call with
  | getsize =>
      obtain rfl := Option.some.inj posted
      rw [client.sendGetsize_request]
      rfl
  | write message sizeInBytes offset =>
      simp only [Call.send, SharedMemClient.sendWrite] at posted
      split at posted
      · rename_i fits
        obtain ⟨_, request, _⟩ := client.post_writeMessage client.volume 0 offset sizeInBytes message
          fits
        obtain rfl := Option.some.inj posted
        rw [request]
        trivial
      · simp at posted
  | read sizeInBytes offset =>
      simp only [Call.send, SharedMemClient.sendRead] at posted
      split at posted
      · obtain rfl := Option.some.inj posted
        rw [client.post_readMessage client.volume 0 offset sizeInBytes]
        rfl
      · simp at posted
  | writev offset size acb gathered => simp [Call.madeBy] at sync
  | readv offset size acb => simp [Call.madeBy] at sync
  | fsync acb => simp [Call.madeBy] at sync

theorem Session.afterCall_waitsFor (request : Request) :
    (Session.afterCall .sync request).waitsFor =
      if request.answered = true then some request else none := by
  cases answered : request.answered <;> simp [afterCall, answered, Stage.waitsFor]

namespace Session

variable {Client : Type} [DecidableEq Client]
variable {setting : Setting Client} {session after : Session Client}

/-! Steps of the server. -/

/-- A READ inside the length of the volume is inside the file. -/
theorem Matching.inside (matching : session.Matching setting) (inv : session.Inv setting)
    {index : Nat} {request : Envelope Client Request} {req : ReadRequest}
    (hand : session.exchange.thread index = .hand request) (body : request.body = .read req)
    (inRange : session.exchange.world.InRange request.body) :
    ∃ volState, session.exchange.world.volumes req.header.volume = some volState ∧
      Inside (session.exchange.world.content volState.fd) req.offset req.sizeInBytes := by
  obtain ⟨reply, answers, success, held, volume⟩ := inv.uses hand (by rw [body]; rfl)
  obtain ⟨⟨volState, live⟩, owner⟩ := (held.1 reply.volume).mpr rfl
  rw [body] at inRange volume
  obtain ⟨nonneg, within⟩ := inRange
  rw [show req.header.volume = reply.volume from volume] at within ⊢
  refine ⟨volState, live, ?_⟩
  rcases within with short | grown
  · have isOpen := inv.sound.fdOpen _ _ live
    obtain ⟨file, found, large⟩ :=
      matching.ample request.sender reply volState (by simp [answers]) success live owner
    have content : session.exchange.world.content volState.fd = file.content := by
      simp [World.content, World.volumeFile, isOpen, found]
    refine ⟨nonneg, ?_⟩
    rw [content]
    exact Nat.le_trans short large
  · exact grown volState live

theorem Matching.transfers (matching : session.Matching setting) (inv : session.Inv setting)
    {index : Nat} {kernel : Kernel} {request : Envelope Client Request}
    (hand : session.exchange.thread index = .hand request)
    (succeeds : kernel.Succeeds session.exchange.world request.body)
    (inRange : session.exchange.world.InRange request.body) : kernel.Transfers request.body := by
  cases body : request.body with
  | write req =>
      rw [body] at succeeds
      have full : kernel.pwrite = .ok req.sizeInBytes.toNat := succeeds
      simp only [Kernel.Transfers, full, transferResult_ok]
  | read req =>
      obtain ⟨volState, live, inside⟩ := matching.inside inv hand body inRange
      rw [body] at succeeds
      simp only [Kernel.Transfers, succeeds volState live inside, transferResult_ok]
  | stop header => trivial
  | openVolume req => trivial
  | close req => trivial
  | getsize req => trivial
  | fsync req => trivial
  | unknown header => trivial

theorem Matching.noAbort (matching : session.Matching setting) (inv : session.Inv setting)
    (routes : session.Routes setting) {index : Nat} {kernel : Kernel}
    {request : Envelope Client Request} {world : World} {fault : Fault}
    (hand : session.exchange.thread index = .hand request)
    (succeeds : kernel.Succeeds session.exchange.world request.body)
    (inRange : session.exchange.world.InRange request.body) :
    ¬IOHandler.Handling session.exchange.world kernel request.body (.fault world fault) := by
  intro handling
  have uses := inv.uses hand
  have transfers := matching.transfers inv hand succeeds inRange
  have member := Exchange.mem_inFlight_hand hand
  rw [inv.inHand hand] at member
  have asked := routes.asked request.sender request
  have named := matching.named request.sender
  obtain ⟨sender, call, body⟩ := request
  cases handling with
  | dead usesVolume gone =>
      obtain ⟨_, _, _, held, volume⟩ := uses usesVolume
      exact Holds.notDead ((held.1 _).mpr volume) inv.sound gone
  | short live grown short => exact short transfers
  | denied failed => exact succeeds failed
  | @unread req unread => exact named req (List.mem_map_of_mem (f := Envelope.body) member) unread
  | @replyUnread req name fd unread obtained =>
      obtain ⟨readBack, _⟩ := asked req member rfl
      simp [unread] at readBack
  | @unattached req name replyMqName fd replyNamed missing obtained =>
      obtain ⟨readBack, mq, _, found⟩ := asked req member rfl
      obtain rfl : replyMqName = setting.volumeName sender := by
        rw [replyNamed] at readBack
        exact Option.some.inj readBack
      simp [missing] at found

theorem Matching.sent (matching : session.Matching setting) (inv : session.Inv setting)
    (routes : session.Routes setting) {index mq : Nat} {reply : Envelope Client Reply}
    {closing : Option UInt64}
    (sends : session.exchange.thread index = .sending mq reply closing) :
    let exchange := ({ session.exchange with
      replyMq := Function.update session.exchange.replyMq mq
        (session.exchange.replyMq mq ++ [reply]) }).setThread index (Exchange.afterSend closing)
    ({ session with exchange } : Session Client).Matching setting := by
  intro exchange
  have own := routes.sending index mq reply closing sends
  have place : index = setting.index reply.sender := by
    have ok := inv.threads index
    rw [sends] at ok
    exact ok.1
  refine matching.silent matching.alive ?_ ?_ matching.ample
  · intro client
    exact Exchange.inFlight_setThread _ client (by simp [sends, Thread.requestsOf])
      (by cases closing <;> rfl)
  · intro client
    refine Exchange.replies_sent sends _ _ client ⟨?_, ?_⟩ ?_
    · exact fun queue => routes.own _ _ mq own queue
    · rintro rfl
      exact own
    · rintro rfl
      exact place.symm

theorem Matching.closed (matching : session.Matching setting) {index : Nat} {volume : UInt64}
    {volState : VolumeState} {deleted : Client → Nat}
    (closing : session.exchange.thread index = .closing volume) :
    let exchange := ({ session.exchange with
      world := session.exchange.world.dropVolume volume volState }).setThread index .idle
    ({ session with exchange, deleted } : Session Client).Matching setting := by
  intro exchange
  refine matching.silent matching.alive ?_ ?_ ?_
  · intro client
    exact Exchange.inFlight_setThread _ client (by simp [closing, Thread.requestsOf]) rfl
  · intro client
    exact Exchange.replies_setThread _ _ client (by simp [closing, Thread.repliesOf]) rfl
  · refine matching.ample_mono ?_ rfl fun name large => large
    intro other state live
    by_cases same : other = volume
    · simp [exchange, Exchange.setThread, World.dropVolume, same] at live
    · simpa [exchange, Exchange.setThread, World.dropVolume, same] using live

theorem Matching.serve (matching : session.Matching setting) (inv : session.Inv setting)
    (routes : session.Routes setting) {label : ServerLabel Nat}
    (regular : session.Regular (.server label)) (served : session.serve label = some after) :
    after.Matching setting := by
  obtain ⟨exchange, running, move, rfl⟩ := serve_move served
  obtain ⟨valid, smooth⟩ := regular
  cases move with
  | received idle queue _ =>
      refine matching.silent matching.alive (fun client => ?_) (fun client => ?_) matching.ample
      · exact Exchange.inFlight_received idle queue _ client
      · exact Exchange.replies_setThread _ _ client (by simp [idle, Thread.repliesOf]) rfl
  | stopped idle queue stop => exact (inv.noStop queue stop).elim
  | done hand handling =>
      rw [answersAfter_silent (by simp [Exchange.setThread])]
      exact matching.done inv hand handling (smooth _ hand).1
  | replied hand handling => exact matching.replied inv (valid _ hand) hand handling
  | aborted hand handling =>
      obtain ⟨succeeds, inRange⟩ := smooth _ hand
      exact (matching.noAbort inv routes hand succeeds inRange handling).elim
  | sent sends _ => exact matching.sent inv routes sends
  | closed closing live => exact matching.closed closing
  | closedNull closing => exact (inv.closing closing (Or.inl rfl)).elim
  | closedDead closing gone => exact (inv.closing closing (Or.inr gone)).elim

/-! Steps of a client. -/

variable {client : Client}

/-- A step of a client that leaves the replies of the others alone. -/
theorem Matching.move (matching : session.Matching setting)
    (move : session.ClientMove setting client after)
    (queues : ∀ other, other ≠ client → after.replies setting other = session.replies setting other)
    (typed : (after.stage client).Typed)
    (pending : Pending (after.stage client).waitsFor (after.requests setting client)
      (after.replies setting client))
    (named : ∀ req, .openVolume req ∈ after.requests setting client → req.volumeName ≠ none) :
    after.Matching setting where
  alive := by
    rw [move.fault]
    exact matching.alive
  typed := by
    intro other
    by_cases same : other = client
    · rw [same]
      exact typed
    · rw [(move.others other same).1]
      exact matching.typed other
  pending := by
    intro other
    by_cases same : other = client
    · rw [same]
      exact pending
    · obtain ⟨stage, _, requests⟩ := move.others other same
      rw [stage, queues other same, Session.requests, requests]
      exact matching.pending other
  named := by
    intro other req member
    by_cases same : other = client
    · rw [same] at member
      exact named req member
    · rw [Session.requests, (move.others other same).2.2] at member
      exact matching.named other req member
  ample := by
    intro other reply volState answered success live owner
    rw [move.answers] at answered
    rw [move.volumes] at live
    rw [move.owner] at owner
    obtain ⟨file, found, large⟩ := matching.ample other reply volState answered success live owner
    exact ⟨file, by rw [move.files]; exact found, large⟩

theorem Matching.quiet (matching : session.Matching setting)
    (move : session.ClientMove setting client after)
    (requests : after.requests setting client = session.requests setting client)
    (replies : ∀ other, after.replies setting other = session.replies setting other)
    (typed : (after.stage client).Typed) (before : (session.stage client).waitsFor = none)
    (behind : (after.stage client).waitsFor = none) : after.Matching setting := by
  refine matching.move move (fun other _ => replies other) typed ?_ ?_
  · have pending := matching.pending client
    rw [before] at pending
    rw [behind, requests, replies]
    exact pending
  · rw [requests]
    exact matching.named client

theorem Matching.setStage (matching : session.Matching setting) {stage : Stage}
    (typed : stage.Typed) (before : (session.stage client).waitsFor = none)
    (behind : stage.waitsFor = none) : (session.setStage client stage).Matching setting := by
  refine matching.quiet (setStage_move setting session client stage) rfl (fun _ => rfl) ?_ before ?_
  · simpa [Session.setStage] using typed
  · simpa [Session.setStage] using behind

/-- The names of the queues do not matter here. -/
theorem Matching.setQueue (matching : session.Matching setting) (name : Name)
    (queue : Option Nat) : (session.setQueue name queue).Matching setting where
  alive := matching.alive
  typed := matching.typed
  pending := matching.pending
  named := matching.named
  ample := matching.ample

theorem Matching.makeQueue (matching : session.Matching setting) (routes : session.Routes setting)
    {mq : Nat} (removed : session.stage client = .removed)
    (fresh : ∀ other, session.mq other ≠ some mq) :
    (session.makeQueue client mq).Matching setting := by
  have none := routes.unmade client (Or.inr removed)
  refine matching.quiet (makeQueue_move setting session client mq) rfl ?_ ?_ ?_ ?_
  · intro other
    by_cases same : other = client
    · subst same
      simp [Session.replies, Exchange.replies, Session.makeQueue, Session.setQueue, none]
    · simp only [Session.replies, Exchange.replies, Session.makeQueue, Session.setQueue,
        Function.update_of_ne same]
      cases own : session.mq other with
      | none => rfl
      | some queue =>
          have different : queue ≠ mq := by
            rintro rfl
            exact fresh other own
          simp [different]
  · simp [Session.makeQueue, Stage.Typed]
  · rw [removed]
    rfl
  · simp [Session.makeQueue, Stage.waitsFor]

theorem Matching.remove (matching : session.Matching setting)
    (stepped : session.remove client = some after) : after.Matching setting := by
  obtain ⟨outside, cases⟩ := remove_cases stepped
  have waitsForNothing : (session.stage client).waitsFor = none := by
    rw [outside]
    rfl
  rcases cases with rfl | rfl
  · exact matching.setStage trivial waitsForNothing rfl
  · exact (matching.setQueue _ none).setStage trivial waitsForNothing rfl

theorem Matching.create (matching : session.Matching setting) (routes : session.Routes setting)
    {queue : Option Nat} (valid : session.Valid (.create client queue))
    (stepped : session.create client queue = some after) : after.Matching setting := by
  obtain ⟨removed, ⟨mq, rfl, _, rfl⟩ | rfl⟩ := create_cases stepped
  · exact matching.makeQueue routes removed valid.2
  · exact matching.setStage trivial (by rw [removed]; rfl) rfl

theorem Matching.destroy (matching : session.Matching setting)
    (stepped : session.destroy client = some after) : after.Matching setting := by
  obtain ⟨stage, rfl⟩ := destroy_cases stepped
  have waitsForNothing : (session.stage client).waitsFor = none := by
    rcases stage with made | refused | closed
    · rw [made]
      rfl
    · rw [refused]
      rfl
    · rw [closed]
      rfl
  exact (matching.setQueue _ none).setStage trivial waitsForNothing rfl

/-- A posted request, which the client waits on if it is answered. -/
theorem Matching.post (matching : session.Matching setting) {sent : Request × SharedMemClient}
    {stage : Stage} (before : (session.stage client).waitsFor = none) (typed : stage.Typed)
    (awaits : stage.waitsFor = if sent.1.answered = true then some sent.1 else none)
    (named : ∀ req, sent.1 = .openVolume req → req.volumeName ≠ none)
    (posted : session.post setting client sent stage = some after) : after.Matching setting := by
  obtain ⟨move, stageEq, _, inFlight⟩ := post_move posted
  have replies (other : Client) : after.replies setting other = session.replies setting other := by
    obtain ⟨exchange, pushed, rfl⟩ := Option.map_eq_some_iff.mp posted
    obtain ⟨_, rfl⟩ := Exchange.pushRequest_spec pushed
    rfl
  have requests : after.requests setting client = session.requests setting client ++ [sent.1] := by
    simp [Session.requests, inFlight]
  refine matching.move move (fun other _ => replies other) (by rw [stageEq]; exact typed) ?_ ?_
  · have pending := matching.pending client
    rw [before] at pending
    rw [stageEq, awaits, requests, replies]
    by_cases answered : sent.1.answered = true
    · rw [if_pos answered]
      exact pending.ask answered
    · rw [if_neg answered]
      exact pending.post (by simpa using answered)
  · intro req member
    rw [requests, List.mem_append, List.mem_singleton] at member
    rcases member with old | last
    · exact matching.named client req old
    · exact named req last.symm

theorem Matching.sendOpen (matching : session.Matching setting)
    (terminates : session.Terminates (.sendOpen client))
    (stepped : session.sendOpen setting client = some after) : after.Matching setting := by
  obtain ⟨made, posted⟩ := sendOpen_cases stepped
  obtain ⟨terminated, name, named⟩ := terminates
  have request := (session.shared client).sendOpen_request
  refine matching.post (by rw [made]; rfl) ?_ ?_ ?_ posted
  · rw [request]
    rfl
  · rw [request]
    rfl
  · intro req body
    rw [request] at body
    rw [← Request.openVolume.inj body]
    exact SharedMemClient.sendOpen_volumeName named terminated

theorem Matching.call (matching : session.Matching setting) (synchronous : setting.Synchronous)
    {call : Call} (stepped : session.call setting client call = some after) :
    after.Matching setting := by
  obtain ⟨opened, sync, outcome⟩ := call_cases stepped
  rw [synchronous.kind client] at sync outcome
  have waitsForNothing : (session.stage client).waitsFor = none := by
    rw [opened]
    rfl
  rcases outcome with rfl | ⟨sent, asked, posted⟩
  · exact matching.setStage trivial waitsForNothing rfl
  · obtain ⟨io, _⟩ := Call.send_spec asked
    refine matching.post waitsForNothing (Call.send_typed sync asked) (afterCall_waitsFor sent.1) ?_
      posted
    intro req body
    simp [body, Request.isIo] at io

theorem Matching.sendClose (matching : session.Matching setting)
    (stepped : session.sendClose setting client = some after) : after.Matching setting := by
  obtain ⟨opened, posted⟩ := sendClose_cases stepped
  have request := (session.shared client).sendClose_request
  have closed : Stage.closed.Typed := trivial
  refine matching.post (by rw [opened]; rfl) closed ?_ ?_ posted
  · rw [request]
    rfl
  · intro req body
    simp [request] at body

/-- The client takes the answer to the request it waits on, and nothing is left under way. -/
theorem Matching.receive (matching : session.Matching setting) (routes : session.Routes setting)
    (synchronous : setting.Synchronous) (stepped : session.receive setting client = some after) :
    after.Matching setting := by
  obtain ⟨mq, envelope, rest, outcome, own, queue, took, move, _, stage, inFlight⟩ :=
    receive_move stepped
  obtain ⟨sameMq, _, sameReplyMq⟩ := receive_queues own queue stepped
  have replies : session.replies setting client =
      envelope.body :: after.replies setting client := by
    simp [Session.replies, Exchange.replies, sameMq, sameReplyMq, own, queue, move.threads]
  have pending := matching.pending client
  rw [replies] at pending
  obtain ⟨noReplies, noRequests, request, awaited, answers⟩ := pending.take
  rw [synchronous.kind client] at took
  have done : outcome.2 = .opened ∨ outcome.2 = .refused :=
    received_answered (matching.typed client) awaited answers took
  have requests : after.requests setting client = session.requests setting client := by
    rw [Session.requests, inFlight]
    rfl
  refine matching.move move ?_ ?_ ?_ ?_
  · intro other different
    simp only [Session.replies, Exchange.replies, sameMq, sameReplyMq, move.threads]
    cases otherMq : session.mq other with
    | none => rfl
    | some place =>
        have apart : place ≠ mq := by
          rintro rfl
          exact different (routes.own other client place otherMq own)
        simp [apart]
  · rw [stage]
    rcases done with opened | refused
    · rw [opened]
      trivial
    · rw [refused]
      trivial
  · rw [stage, requests, noRequests, noReplies]
    have waitsForNothing : outcome.2.waitsFor = none := by
      rcases done with opened | refused
      · rw [opened]
        rfl
      · rw [refused]
        rfl
    rw [waitsForNothing]
    exact .silent (by simp)
  · rw [requests]
    exact matching.named client

theorem Matching.step (matching : session.Matching setting) (inv : session.Inv setting)
    (routes : session.Routes setting) (synchronous : setting.Synchronous)
    {label : SessionLabel Client} (regular : session.Regular label)
    (terminates : session.Terminates label) (stepped : session.step setting label = some after) :
    after.Matching setting := by
  cases label with
  | remove client => exact matching.remove stepped
  | create client queue => exact matching.create routes regular.1 stepped
  | sendOpen client => exact matching.sendOpen terminates stepped
  | call client call => exact matching.call synchronous stepped
  | sendClose client => exact matching.sendClose stepped
  | receive client => exact matching.receive routes synchronous stepped
  | destroy client => exact matching.destroy stepped
  | server label => exact matching.serve inv routes regular stepped

/-- Where no two clients share a name, none disturbs another. -/
theorem Regular.orderly {label : SessionLabel Client} (regular : session.Regular label)
    (terminates : session.Terminates label) (synchronous : setting.Synchronous) :
    session.Orderly setting label := by
  refine ⟨regular.1, terminates, ?_⟩
  have apart (client other : Client) (different : other ≠ client)
      (same : setting.volumeName other = setting.volumeName client) :
      ¬session.AwaitsAttach setting other :=
    fun _ => different (synchronous.distinct other client same)
  cases label with
  | remove client => exact apart client
  | destroy client => exact apart client
  | create client queue => trivial
  | sendOpen client => trivial
  | call client call => trivial
  | sendClose client => trivial
  | receive client => trivial
  | server label => trivial

theorem start_matching (setting : Setting Client) (files : Name → Option VolumeFile)
    (mqNames : Name → Option Nat) : (start setting files mqNames).Matching setting where
  alive := rfl
  typed := fun _ => trivial
  pending := by
    intro client
    have nothing : (start setting files mqNames).requests setting client = [] ∧
        (start setting files mqNames).replies setting client = [] := by
      simp [Session.requests, Session.replies, Exchange.inFlight, Exchange.replies, start,
        Thread.requestsOf, Thread.repliesOf]
    rw [nothing.1, nothing.2]
    exact .silent (by simp)
  named := by simp [Session.requests, Exchange.inFlight, start, Thread.requestsOf]
  ample := by simp [Exchange.Ample, start]

theorem matching_run (synchronous : setting.Synchronous) {files : Name → Option VolumeFile}
    {mqNames : Name → Option Nat} {trace : List Empty}
    (run : (machine setting).Run (fun session label => session.Regular label ∧
      session.Terminates label) (start setting files mqNames) trace session) :
    session.Inv setting ∧ session.Routes setting ∧ session.Matching setting := by
  refine run.invariant
    (fun _ session => session.Inv setting ∧ session.Routes setting ∧ session.Matching setting)
    ⟨start_inv setting files mqNames, start_routes setting files mqNames,
      start_matching setting files mqNames⟩ ?_
  rintro trace session label after events ⟨inv, routes, matching⟩ ⟨regular, terminates⟩ stepped
  have moved := machine_step stepped
  have orderly := regular.orderly terminates synchronous
  exact ⟨inv.step ⟨regular.1, routes.delivered label⟩ moved, routes.step inv orderly moved,
    matching.step inv routes synchronous regular terminates moved⟩

/-! What the invariant says about the replies. -/

theorem mem_replies_own {mq : Nat} (own : session.mq client = some mq)
    {reply : Envelope Client Reply} (member : reply ∈ session.exchange.replyMq mq) :
    reply.body ∈ session.replies setting client := by
  refine List.mem_map_of_mem (List.mem_append_left _ ?_)
  simpa [own] using member

theorem Routes.underway (routes : session.Routes setting) {request : Request} {reply : Reply}
    (member : reply ∈ session.replies setting client) (answers : request.AnsweredBy reply) :
    session.Underway setting client request := by
  obtain ⟨envelope, found, rfl⟩ := List.mem_map.mp member
  right
  rcases List.mem_append.mp found with queued | ready
  · cases own : session.mq client with
    | none => simp [own] at queued
    | some mq => exact ⟨mq, envelope, rfl, answers, Or.inl (by simpa [own] using queued)⟩
  · cases thread : session.exchange.thread (setting.index client) with
    | sending mq other closing =>
        simp only [thread, Thread.repliesOf] at ready
        split at ready
        · rename_i sender
          obtain rfl := List.mem_singleton.mp ready
          have own := routes.sending _ mq envelope closing thread
          rw [sender] at own
          exact ⟨mq, envelope, own, answers, Or.inr ⟨closing, rfl⟩⟩
        · simp at ready
    | idle => simp [thread, Thread.repliesOf] at ready
    | hand request => simp [thread, Thread.repliesOf] at ready
    | closing volume => simp [thread, Thread.repliesOf] at ready
    | stopped => simp [thread, Thread.repliesOf] at ready

theorem Matching.matched (matching : session.Matching setting) (inv : session.Inv setting)
    (routes : session.Routes setting) : session.Matched setting where
  alive := matching.alive
  asserts := by
    intro client mismatched
    have typed := matching.typed client
    rw [mismatched] at typed
    exact typed
  matching := by
    intro client mq reply own member
    have sender := routes.own _ _ mq (routes.replied mq reply member) own
    obtain ⟨request, awaited, answers⟩ :=
      (matching.pending client).answered (mem_replies_own own member)
    exact ⟨sender, request, awaited, answers.header⟩
  single := by
    intro client mq own
    have few := (matching.pending client).length_replies
    simp only [Session.replies, Exchange.replies, own, Option.elim_some, List.length_map,
      List.length_append] at few
    omega
  unblocked := by
    intro index mq reply closing sends
    have own := routes.sending index mq reply closing sends
    have place : index = setting.index reply.sender := by
      have ok := inv.threads index
      rw [sends] at ok
      exact ok.1
    -- The reply under way is the only one.
    have few := (matching.pending reply.sender).length_replies
    simp only [Session.replies, Exchange.replies, own, ← place, sends, Thread.repliesOf, if_true,
      Option.elim_some, List.length_map, List.length_append, List.length_singleton] at few
    have room : 0 < maxQueueSize := by decide
    omega
  underway := by
    intro client request awaited
    have pending := matching.pending client
    rw [awaited] at pending
    rcases pending.underway with asked | ⟨reply, member, answers⟩
    · obtain ⟨envelope, member, body⟩ := List.mem_map.mp asked
      exact Or.inl ⟨envelope, member, body⟩
    · exact routes.underway member answers

/-- Where the names of the reply queues arrive, every reply is the one its client waits for. -/
theorem matched_run (synchronous : setting.Synchronous) {files : Name → Option VolumeFile}
    {mqNames : Name → Option Nat} {trace : List Empty}
    (run : (machine setting).Run (fun session label => session.Regular label ∧
      session.Terminates label) (start setting files mqNames) trace session) :
    session.Matched setting := by
  obtain ⟨inv, routes, matching⟩ := matching_run synchronous run
  exact matching.matched inv routes

end Session

end Cvbd
