import Cvbd.SessionServer

/-!
Every step of a client keeps the invariant of the accounts as long as it takes
no other client's open reply, and so does every run.
-/

namespace Cvbd

/-- A call posts an I/O request on the volume the client has kept. -/
theorem Call.send_spec {call : Call} {client : SharedMemClient} {sent : Request × SharedMemClient}
    (posted : call.send client = some sent) :
    sent.1.isIo = true ∧ sent.1.header.volume = client.volume ∧ sent.2.volume = client.volume ∧
      sent.2.volumeName = client.volumeName := by
  have written {message : Bytes} {offset : Int64} {size acb : UInt64}
      (fits : size.toNat ≤ maxDataSize) :
      let sent := client.post fun old id =>
        Wire.writeMessage old id client.volume acb offset size message
      sent.1.isIo = true ∧ sent.1.header.volume = client.volume := by
    intro sent
    obtain ⟨_, request, _⟩ := client.post_writeMessage client.volume acb offset size message fits
    rw [request]
    exact ⟨rfl, rfl⟩
  have read {offset : Int64} {size acb : UInt64} :
      let sent := client.post fun old id => Wire.readMessage old id client.volume acb offset size
      sent.1.isIo = true ∧ sent.1.header.volume = client.volume := by
    intro sent
    rw [client.post_readMessage client.volume acb offset size]
    exact ⟨rfl, rfl⟩
  cases call with
  | getsize =>
      obtain rfl := Option.some.inj posted
      rw [client.sendGetsize_request]
      exact ⟨rfl, rfl, rfl, rfl⟩
  | write message sizeInBytes offset =>
      simp only [Call.send, SharedMemClient.sendWrite] at posted
      split at posted
      · rename_i fits
        obtain rfl := Option.some.inj posted
        exact ⟨(written fits).1, (written fits).2, rfl, rfl⟩
      · simp at posted
  | read sizeInBytes offset =>
      simp only [Call.send, SharedMemClient.sendRead] at posted
      split at posted
      · obtain rfl := Option.some.inj posted
        exact ⟨read.1, read.2, rfl, rfl⟩
      · simp at posted
  | writev offset size acb gathered =>
      simp only [Call.send, SharedMemClient.sendWritev] at posted
      split at posted
      · rename_i fits
        obtain rfl := Option.some.inj posted
        exact ⟨(written fits).1, (written fits).2, rfl, rfl⟩
      · simp at posted
  | readv offset size acb =>
      simp only [Call.send, SharedMemClient.sendReadv] at posted
      split at posted
      · obtain rfl := Option.some.inj posted
        exact ⟨read.1, read.2, rfl, rfl⟩
      · simp at posted
  | fsync acb =>
      obtain rfl := Option.some.inj posted
      rw [client.sendFsync_request]
      exact ⟨rfl, rfl, rfl, rfl⟩

namespace Session

variable {Client : Type} [DecidableEq Client]

/-- Each open reply reaches the client that asked for it. -/
def Delivered (session : Session Client) : SessionLabel Client → Prop
  | .receive client => ∀ mq envelope rest reply, session.mq client = some mq →
      session.exchange.replyMq mq = envelope :: rest → envelope.body = .openVolume reply →
      envelope.sender = client
  | _ => True

/-- What a step of one client leaves alone. -/
structure ClientMove (setting : Setting Client) (session : Session Client) (client : Client)
    (after : Session Client) : Prop where
  files : after.exchange.world.files = session.exchange.world.files
  volumes : after.exchange.world.volumes = session.exchange.world.volumes
  fds : after.exchange.world.fds = session.exchange.world.fds
  fault : after.exchange.fault = session.exchange.fault
  threads : after.exchange.thread = session.exchange.thread
  owner : after.exchange.owner = session.exchange.owner
  answers : after.answers = session.answers
  deleted : after.deleted = session.deleted
  queued : ∀ index request, request ∈ after.exchange.requestMq index →
    request ∈ session.exchange.requestMq index ∨
      request.sender = client ∧ index = setting.index client
  replied : ∀ mq envelope, envelope ∈ after.exchange.replyMq mq →
    envelope ∈ session.exchange.replyMq mq
  others : ∀ other, other ≠ client → after.stage other = session.stage other ∧
    after.shared other = session.shared other ∧
    after.exchange.inFlight (setting.index other) other =
      session.exchange.inFlight (setting.index other) other

variable {setting : Setting Client} {session after : Session Client} {client : Client}

theorem ClientMove.holds (move : session.ClientMove setting client after) (other : Client)
    (volume : UInt64) : after.Holds other volume ↔ session.Holds other volume := by
  simp only [Holds, move.volumes, move.owner]

theorem ClientMove.account (move : session.ClientMove setting client after) :
    after.account setting client = { session.account setting client with
      stage := after.stage client
      volume := (after.shared client).volume
      requests := (after.exchange.inFlight (setting.index client) client).map Envelope.body } := by
  have held : after.Holds client = session.Holds client :=
    funext fun volume => propext (move.holds client volume)
  simp only [Session.account, held, move.answers, move.deleted]

theorem ClientMove.inv (move : session.ClientMove setting client after) (inv : session.Inv setting)
    (own : (after.account setting client).Standing) : after.Inv setting where
  sound := by
    refine ⟨?_, ?_, ?_, ?_⟩
    · rw [move.volumes]
      exact inv.sound.null
    · rw [move.volumes, move.fds]
      exact inv.sound.fdOpen
    · rw [move.volumes]
      exact inv.sound.fdDistinct
    · rw [move.fds, move.files]
      exact inv.sound.existsFile
  descriptors := by
    rw [move.fault, move.fds, move.volumes]
    exact inv.descriptors
  faults := by
    rw [move.fault]
    exact inv.faults
  queued := by
    intro index request member
    rcases move.queued index request member with old | ⟨sender, place⟩
    · exact inv.queued index request old
    · rw [sender]
      exact place
  threads := by
    intro index
    rw [move.threads]
    refine (inv.threads index).mono (fun _ _ member => by rwa [move.answers]) fun _ doomed => ?_
    exact doomed.mono (fun _ _ member => by rwa [move.answers])
      fun other holds => (move.holds other _).mpr holds
  replied := by
    intro mq envelope reply member body
    rw [move.answers]
    exact inv.replied mq envelope reply (move.replied mq envelope member) body
  standing := by
    intro other
    by_cases same : other = client
    · subst same
      exact own
    · obtain ⟨stage, shared, requests⟩ := move.others other same
      exact inv.standing_congr other stage shared requests (by rw [move.answers])
        (by rw [move.deleted]) (move.holds other)

/-- A step that posts nothing, keeps the volume and goes to a stage that admits as much. -/
theorem ClientMove.quiet (move : session.ClientMove setting client after)
    (inv : session.Inv setting)
    (volume : (after.shared client).volume = (session.shared client).volume)
    (requests : after.exchange.inFlight (setting.index client) client =
      session.exchange.inFlight (setting.index client) client)
    (admits : ∀ phase, (session.stage client).admits phase = true →
      (after.stage client).admits phase = true) : after.Inv setting := by
  refine move.inv inv ?_
  obtain ⟨phase, admitted, place⟩ := inv.standing client
  refine ⟨phase, admits phase admitted, ?_⟩
  rw [move.account, volume, requests]
  cases phase <;> exact place

/-! The steps of a client. -/

theorem setStage_move (setting : Setting Client) (session : Session Client) (client : Client)
    (stage : Stage) : session.ClientMove setting client (session.setStage client stage) where
  files := rfl
  volumes := rfl
  fds := rfl
  fault := rfl
  threads := rfl
  owner := rfl
  answers := rfl
  deleted := rfl
  queued := fun _ _ member => Or.inl member
  replied := fun _ _ member => member
  others := fun other different => ⟨by simp [setStage, different], rfl, rfl⟩

theorem setQueue_move (setting : Setting Client) (session : Session Client) (client : Client)
    (name : Name) (queue : Option Nat) (stage : Stage) :
    session.ClientMove setting client ((session.setQueue name queue).setStage client stage) where
  files := rfl
  volumes := rfl
  fds := rfl
  fault := rfl
  threads := rfl
  owner := rfl
  answers := rfl
  deleted := rfl
  queued := fun _ _ member => Or.inl member
  replied := fun _ _ member => member
  others := fun other different => ⟨by simp [setStage, setQueue, different], rfl, rfl⟩

theorem makeQueue_move (setting : Setting Client) (session : Session Client) (client : Client)
    (mq : Nat) : session.ClientMove setting client (session.makeQueue client mq) where
  files := rfl
  volumes := rfl
  fds := rfl
  fault := rfl
  threads := rfl
  owner := rfl
  answers := rfl
  deleted := rfl
  queued := fun _ _ member => Or.inl member
  replied := by
    intro other envelope member
    by_cases same : other = mq
    · subst same
      simp [makeQueue] at member
    · simpa [makeQueue, setQueue, same] using member
  others := fun other different => ⟨by simp [makeQueue, different], rfl, rfl⟩

/-! What each step of a client can do, said once. -/

theorem remove_cases (stepped : session.remove client = some after) :
    session.stage client = .outside ∧ (after = session.setStage client .aborted ∨
      after =
        (session.setQueue (session.shared client).volumeName none).setStage client .removed) := by
  unfold Session.remove at stepped
  split at stepped
  · rename_i outside
    refine ⟨outside, ?_⟩
    split at stepped
    · exact Or.inl (Option.some.inj stepped).symm
    · exact Or.inr (Option.some.inj stepped).symm
  · simp at stepped

theorem create_cases {queue : Option Nat} (stepped : session.create client queue = some after) :
    session.stage client = .removed ∧
      ((∃ mq, queue = some mq ∧
          session.exchange.world.mqNames (session.shared client).volumeName = none ∧
          after = session.makeQueue client mq) ∨
        after = session.setStage client .failed) := by
  unfold Session.create at stepped
  split at stepped
  · rename_i removed
    refine ⟨removed, ?_⟩
    split at stepped
    · rename_i mq free
      exact Or.inl ⟨mq, rfl, free, (Option.some.inj stepped).symm⟩
    · exact Or.inr (Option.some.inj stepped).symm
  · simp at stepped

theorem destroy_cases (stepped : session.destroy client = some after) :
    (session.stage client = .made ∨ session.stage client = .refused ∨
        session.stage client = .closed) ∧
      after =
        (session.setQueue (session.shared client).volumeName none).setStage client .destroyed := by
  unfold Session.destroy at stepped
  split at stepped
  · rename_i made
    exact ⟨Or.inl made, (Option.some.inj stepped).symm⟩
  · rename_i refused
    exact ⟨Or.inr (Or.inl refused), (Option.some.inj stepped).symm⟩
  · rename_i closed
    exact ⟨Or.inr (Or.inr closed), (Option.some.inj stepped).symm⟩
  · simp at stepped

theorem sendOpen_cases (stepped : session.sendOpen setting client = some after) :
    session.stage client = .made ∧
      session.post setting client (session.shared client).sendOpen
        (.opening (session.shared client).sendOpen.1) = some after := by
  unfold Session.sendOpen at stepped
  split at stepped
  · rename_i made
    exact ⟨made, stepped⟩
  · simp at stepped

theorem call_cases {call : Call} (stepped : session.call setting client call = some after) :
    session.stage client = .opened ∧ call.madeBy (setting.kind client) = true ∧
      (after = session.setStage client .aborted ∨
        ∃ sent, call.send (session.shared client) = some sent ∧
          session.post setting client sent (afterCall (setting.kind client) sent.1) =
            some after) := by
  unfold Session.call at stepped
  split at stepped
  · rename_i opened made
    refine ⟨opened, made, ?_⟩
    split at stepped
    · exact Or.inl (Option.some.inj stepped).symm
    · rename_i sent posted
      exact Or.inr ⟨sent, posted, stepped⟩
  · simp at stepped

theorem sendClose_cases (stepped : session.sendClose setting client = some after) :
    session.stage client = .opened ∧
      session.post setting client (session.shared client).sendClose .closed = some after := by
  unfold Session.sendClose at stepped
  split at stepped
  · rename_i opened
    exact ⟨opened, stepped⟩
  · simp at stepped

theorem Inv.remove (inv : session.Inv setting) (stepped : session.remove client = some after) :
    after.Inv setting := by
  obtain ⟨outside, rfl | rfl⟩ := remove_cases stepped
  · refine (setStage_move setting session client .aborted).quiet inv rfl rfl fun phase _ => ?_
    simp [setStage, Stage.admits]
  · refine (setQueue_move setting session client _ _ .removed).quiet inv rfl rfl ?_
    intro phase admits
    rw [outside] at admits
    cases phase <;> simp_all [setStage, Stage.admits]

theorem Inv.create (inv : session.Inv setting) {queue : Option Nat}
    (stepped : session.create client queue = some after) : after.Inv setting := by
  obtain ⟨removed, ⟨mq, _, _, rfl⟩ | rfl⟩ := create_cases stepped
  · refine (makeQueue_move setting session client mq).quiet inv rfl rfl ?_
    intro phase admits
    rw [removed] at admits
    cases phase <;> simp_all [makeQueue, Stage.admits]
  · refine (setStage_move setting session client .failed).quiet inv rfl rfl ?_
    intro phase admits
    rw [removed] at admits
    cases phase <;> simp_all [setStage, Stage.admits]

theorem Inv.destroy (inv : session.Inv setting) (stepped : session.destroy client = some after) :
    after.Inv setting := by
  obtain ⟨_, rfl⟩ := destroy_cases stepped
  refine (setQueue_move setting session client _ none .destroyed).quiet inv rfl rfl fun phase _ => ?_
  simp [setStage, Stage.admits]

theorem post_move {sent : Request × SharedMemClient} {stage : Stage}
    (posted : session.post setting client sent stage = some after) :
    session.ClientMove setting client after ∧ after.stage client = stage ∧
      after.shared client = sent.2 ∧
      after.exchange.inFlight (setting.index client) client =
        session.exchange.inFlight (setting.index client) client ++ [⟨client, 0, sent.1⟩] := by
  obtain ⟨exchange, pushed, rfl⟩ := Option.map_eq_some_iff.mp posted
  have requests := Exchange.inFlight_push pushed
  obtain ⟨_, rfl⟩ := Exchange.pushRequest_spec pushed
  refine ⟨⟨rfl, rfl, rfl, rfl, rfl, rfl, rfl, rfl, ?_, fun _ _ member => member, ?_⟩, by simp,
    by simp, by simpa using requests (setting.index client) client⟩
  · intro index request member
    by_cases same : index = setting.index client
    · subst same
      simp only [Function.update_self, List.mem_append, List.mem_singleton] at member
      rcases member with old | rfl
      · exact Or.inl old
      · exact Or.inr ⟨rfl, rfl⟩
    · simp only [Function.update_of_ne same] at member
      exact Or.inl member
  · intro other different
    refine ⟨by simp [different], by simp [different], ?_⟩
    simpa [Ne.symm different] using requests (setting.index other) other

theorem Inv.sendOpen (inv : session.Inv setting)
    (stepped : session.sendOpen setting client = some after) : after.Inv setting := by
  obtain ⟨made, posted⟩ := sendOpen_cases stepped
  obtain ⟨move, stage, shared, requests⟩ := post_move posted
  refine move.inv inv ?_
  obtain ⟨phase, admits, place⟩ := inv.standing client
  rw [show (session.account setting client).stage = .made from made] at admits
  cases phase with
  | unopened =>
      obtain ⟨quiet, answers, without⟩ := place
      refine ⟨.asked, ?_, ?_⟩
      · rw [move.account, stage]
        rfl
      · rw [move.account, requests, List.map_append,
          show (session.exchange.inFlight (setting.index client) client).map Envelope.body = [] from
            quiet]
        exact ⟨⟨_, by simp [SharedMemClient.sendOpen_request]; rfl⟩, answers, without⟩
  | asked => simp [Stage.admits] at admits
  | answered reply => simp [Stage.admits] at admits
  | inUse reply => simp [Stage.admits] at admits
  | closing reply => simp [Stage.admits] at admits
  | closed reply => simp [Stage.admits] at admits

theorem Inv.inUse (inv : session.Inv setting) (opened : session.stage client = .opened) :
    ∃ reply, (session.account setting client).At (.inUse reply) := by
  obtain ⟨phase, admits, place⟩ := inv.standing client
  rw [show (session.account setting client).stage = .opened from opened] at admits
  cases phase with
  | inUse reply => exact ⟨reply, place⟩
  | unopened => simp [Stage.admits] at admits
  | asked => simp [Stage.admits] at admits
  | answered reply => simp [Stage.admits] at admits
  | closing reply => simp [Stage.admits] at admits
  | closed reply => simp [Stage.admits] at admits

theorem Inv.call (inv : session.Inv setting) {call : Call}
    (stepped : session.call setting client call = some after) : after.Inv setting := by
  obtain ⟨opened, _, rfl | ⟨sent, asked, posted⟩⟩ := call_cases stepped
  · refine (setStage_move setting session client .aborted).quiet inv rfl rfl fun phase _ => ?_
    simp [setStage, Stage.admits]
  · obtain ⟨io, onVolume, volume, _⟩ := Call.send_spec asked
    obtain ⟨move, stage, shared, requests⟩ := post_move posted
    obtain ⟨reply, answers, success, kept, held, queue⟩ := inv.inUse opened
    refine move.inv inv ⟨.inUse reply, ?_, ?_⟩
    · rw [move.account, stage]
      unfold afterCall
      split <;> rfl
    · rw [move.account, requests, shared, volume, List.map_append]
      refine ⟨answers, success, kept, held, ?_⟩
      intro request member
      rw [List.mem_append, List.map_singleton, List.mem_singleton] at member
      rcases member with old | rfl
      · exact queue request old
      · exact ⟨io, onVolume.trans kept⟩

theorem Inv.sendClose (inv : session.Inv setting)
    (stepped : session.sendClose setting client = some after) : after.Inv setting := by
  obtain ⟨opened, posted⟩ := sendClose_cases stepped
  obtain ⟨move, stage, shared, requests⟩ := post_move posted
  obtain ⟨reply, answers, success, kept, held, queue⟩ := inv.inUse opened
  refine move.inv inv ⟨.closing reply, ?_, ?_⟩
  · rw [move.account, stage]
    rfl
  · rw [move.account, requests, List.map_append]
    refine ⟨answers, success, held, (session.account setting client).requests,
      ⟨⟨false, .reqClose, (session.shared client).id + 1, (session.shared client).volume, 0⟩⟩,
      ?_, kept, queue⟩
    rw [List.map_singleton, SharedMemClient.sendClose_request]
    rfl

/-- A client takes the reply to its OPEN, or goes on with the volume it had. -/
theorem received_spec {kind : ClientKind} {shared : SharedMemClient} {stage : Stage} {reply : Reply}
    {outcome : SharedMemClient × Stage} (took : received kind shared stage reply = some outcome) :
    (outcome.1 = shared ∧ ∀ phase, stage.admits phase = true → outcome.2.admits phase = true) ∨
      ∃ request opened, stage = .opening request ∧ reply = .openVolume opened ∧
        outcome = (if opened.err = 0 then { shared with volume := opened.volume } else shared,
          if opened.err = 0 then .opened else .refused) := by
  unfold received at took
  split at took
  · split at took
    · rename_i err kept accepted
      right
      cases reply with
      | openVolume opened =>
          by_cases type : opened.header.type = .reqOpen
          · simp only [SharedMemClient.acceptOpen, type, if_true, Option.some.injEq,
              Prod.mk.injEq] at accepted
            obtain ⟨rfl, rfl⟩ := accepted
            exact ⟨_, opened, rfl, rfl, (Option.some.inj took).symm⟩
          · simp [SharedMemClient.acceptOpen, type] at accepted
      | read reply => simp [SharedMemClient.acceptOpen] at accepted
      | getsize reply => simp [SharedMemClient.acceptOpen] at accepted
      | fsync reply => simp [SharedMemClient.acceptOpen] at accepted
    · left
      split at took
      · obtain rfl := Option.some.inj took
        exact ⟨rfl, fun _ admits => admits⟩
      · obtain rfl := Option.some.inj took
        exact ⟨rfl, fun _ admits => admits⟩
      · obtain rfl := Option.some.inj took
        exact ⟨rfl, fun _ _ => rfl⟩
  · rename_i request
    left
    obtain rfl := Option.some.inj took
    refine ⟨rfl, fun phase admits => ?_⟩
    split
    · cases phase <;> simp_all [Stage.admits]
    · rfl
  · obtain rfl := Option.some.inj took
    exact Or.inl ⟨rfl, fun _ admits => admits⟩
  · obtain rfl := Option.some.inj took
    exact Or.inl ⟨rfl, fun _ admits => admits⟩
  · obtain rfl := Option.some.inj took
    exact Or.inl ⟨rfl, fun _ admits => admits⟩
  · obtain rfl := Option.some.inj took
    exact Or.inl ⟨rfl, fun _ admits => admits⟩
  · simp at took

theorem receive_move (stepped : session.receive setting client = some after) :
    ∃ mq envelope rest outcome, session.mq client = some mq ∧
      session.exchange.replyMq mq = envelope :: rest ∧
      received (setting.kind client) (session.shared client) (session.stage client)
        envelope.body = some outcome ∧
      session.ClientMove setting client after ∧ after.shared client = outcome.1 ∧
      after.stage client = outcome.2 ∧
      after.exchange.inFlight (setting.index client) client =
        session.exchange.inFlight (setting.index client) client := by
  unfold Session.receive at stepped
  split at stepped
  · simp at stepped
  · rename_i mq own
    split at stepped
    · simp at stepped
    · rename_i envelope exchange popped
      obtain ⟨outcome, took, rfl⟩ := Option.map_eq_some_iff.mp stepped
      obtain ⟨rest, queue, rfl⟩ := Exchange.popReply_spec popped
      refine ⟨mq, envelope, rest, outcome, own, queue, took, ⟨rfl, rfl, rfl, rfl, rfl, rfl, rfl, rfl,
        fun _ _ member => Or.inl member, ?_, ?_⟩, by simp, by simp, rfl⟩
      · intro other received member
        by_cases same : other = mq
        · subst same
          rw [queue]
          exact List.mem_cons_of_mem _ (by simpa using member)
        · simpa [same] using member
      · intro other different
        exact ⟨by simp [different], by simp [different], rfl⟩

theorem receive_queues {mq : Nat} {envelope : Envelope Client Reply}
    {rest : List (Envelope Client Reply)} (own : session.mq client = some mq)
    (queue : session.exchange.replyMq mq = envelope :: rest)
    (stepped : session.receive setting client = some after) :
    after.mq = session.mq ∧ after.exchange.world = session.exchange.world ∧
      after.exchange.replyMq = Function.update session.exchange.replyMq mq rest := by
  unfold Session.receive at stepped
  simp only [own] at stepped
  split at stepped
  · simp at stepped
  · rename_i popped
    obtain ⟨_, _, rfl⟩ := Option.map_eq_some_iff.mp stepped
    obtain ⟨_, oldest, rfl⟩ := Exchange.popReply_spec popped
    obtain ⟨_, rfl⟩ := List.cons.inj (oldest.symm.trans queue)
    exact ⟨rfl, rfl, rfl⟩

theorem Inv.receive (inv : session.Inv setting) (delivered : session.Delivered (.receive client))
    (stepped : session.receive setting client = some after) : after.Inv setting := by
  obtain ⟨mq, envelope, rest, outcome, own, queue, took, move, shared, stage, requests⟩ :=
    receive_move stepped
  rcases received_spec took with ⟨kept, admits⟩ | ⟨request, reply, opening, body, outcome_eq⟩
  · exact move.quiet inv (by rw [shared, kept]) requests (by rw [stage]; exact admits)
  · have sender : envelope.sender = client := delivered mq envelope rest reply own queue body
    have answered : reply ∈ session.answers client := by
      rw [← sender]
      exact inv.replied mq envelope reply (by simp [queue]) body
    obtain ⟨phase, admits, place⟩ := inv.standing client
    have isAnswer (other : OpenReply) (single : session.answers client = [other]) :
        reply = other := by
      simpa [single] using answered
    rw [show (session.account setting client).stage = .opening request from opening] at admits
    cases phase with
    | unopened => simp [show session.answers client = [] from place.2.1] at answered
    | asked => simp [show session.answers client = [] from place.2.1] at answered
    | inUse other => simp [Stage.admits] at admits
    | closing other => simp [Stage.admits] at admits
    | closed other => simp [Stage.admits] at admits
    | answered other =>
        obtain ⟨quiet, single, held⟩ := place
        obtain rfl := isAnswer other single
        refine move.inv inv ?_
        rw [move.account, shared, stage, requests, outcome_eq]
        by_cases success : reply.err = 0
        · refine ⟨.inUse reply, by simp [success, Stage.admits], single, success, by simp [success],
            ?_, ?_⟩
          · rcases held with kept | ⟨failed, _⟩
            · exact kept
            · exact absurd success failed
          · intro request member
            rw [show (session.exchange.inFlight (setting.index client) client).map Envelope.body = []
              from quiet] at member
            simp at member
        · exact ⟨.answered reply, by simp [success, Stage.admits], quiet, single, held⟩

/-- What the kernel may answer, with each open reply received by its client. -/
def Permitted (session : Session Client) (label : SessionLabel Client) : Prop :=
  session.Valid label ∧ session.Delivered label

theorem Inv.step (inv : session.Inv setting) {label : SessionLabel Client}
    (permitted : session.Permitted label) (stepped : session.step setting label = some after) :
    after.Inv setting := by
  cases label with
  | remove client => exact inv.remove stepped
  | create client queue => exact inv.create stepped
  | sendOpen client => exact inv.sendOpen stepped
  | call client call => exact inv.call stepped
  | sendClose client => exact inv.sendClose stepped
  | receive client => exact inv.receive permitted.2 stepped
  | destroy client => exact inv.destroy stepped
  | server label => exact inv.serve permitted.1 stepped

theorem machine_step {label : SessionLabel Client} {events : List Empty}
    (stepped : (machine setting).step session label = some (after, events)) :
    session.step setting label = some after := by
  obtain ⟨next, moved, pair⟩ := Option.map_eq_some_iff.mp stepped
  obtain ⟨rfl, _⟩ := Prod.mk.inj pair
  exact moved

theorem start_inv (setting : Setting Client) (files : Name → Option VolumeFile)
    (mqNames : Name → Option Nat) : (start setting files mqNames).Inv setting where
  sound := World.started_sound files mqNames
  descriptors := by simp [start, World.started]
  faults := by simp [start]
  queued := by simp [start]
  threads := fun _ => trivial
  replied := by simp [start]
  standing := by
    intro client
    refine ⟨.unopened, rfl, ?_, rfl, ?_, rfl⟩
    · simp [account, start, Exchange.inFlight, Thread.requestsOf]
    · rintro volume ⟨⟨volState, live⟩, _⟩
      simp [start, World.started] at live

theorem inv_run {files : Name → Option VolumeFile} {mqNames : Name → Option Nat}
    {trace : List Empty}
    (run : (machine setting).Run Permitted (start setting files mqNames) trace session) :
    session.Inv setting := by
  refine run.invariant (fun _ session => session.Inv setting) (start_inv setting files mqNames) ?_
  intro trace session label after events inv permitted stepped
  exact inv.step permitted (machine_step stepped)

/-- Every message uses a `VolumeState` that was made for its own client and is still there. -/
structure Safe (session : Session Client) : Prop where
  handled : ∀ index request, session.exchange.thread index = .hand request →
    request.body.usesVolume = true → session.Holds request.sender request.body.header.volume
  closing : ∀ index volume, session.exchange.thread index = .closing volume →
    ∃ client, session.Holds client volume
  once : ∀ client, session.deleted client ≤ (session.answers client).length ∧
    (session.answers client).length ≤ 1
  fdOpen : ∀ volume volState, session.exchange.world.volumes volume = some volState →
    session.exchange.world.fds volState.fd = some volState.volumeName
  fdClosed : session.exchange.fault = none → ∀ fd name,
    session.exchange.world.fds fd = some name →
    ∃ volume volState, session.exchange.world.volumes volume = some volState ∧ volState.fd = fd
  fdDistinct : ∀ volume other volState otherState,
    session.exchange.world.volumes volume = some volState →
    session.exchange.world.volumes other = some otherState → volState.fd = otherState.fd →
    volume = other
  alive : session.exchange.fault ≠ some .nullVolume ∧ session.exchange.fault ≠ some .deadVolume

theorem Inv.once (inv : session.Inv setting) (client : Client) :
    session.deleted client ≤ (session.answers client).length ∧
      (session.answers client).length ≤ 1 := by
  have counts {answers : List OpenReply} {deleted : Nat}
      (answersEq : session.answers client = answers) (deletedEq : session.deleted client = deleted)
      (few : deleted ≤ answers.length ∧ answers.length ≤ 1) :
      session.deleted client ≤ (session.answers client).length ∧
        (session.answers client).length ≤ 1 := by
    rw [answersEq, deletedEq]
    exact few
  obtain ⟨phase, _, place⟩ := inv.standing client
  cases phase with
  | unopened => exact counts place.2.1 place.2.2.2 (by simp)
  | asked => exact counts place.2.1 place.2.2.2 (by simp)
  | answered reply =>
      rcases place.2.2 with kept | ⟨_, without⟩
      · exact counts place.2.1 kept.2 (by simp)
      · exact counts place.2.1 without.2 (by simp)
  | inUse reply => exact counts place.1 place.2.2.2.1.2 (by simp)
  | closing reply => exact counts place.1 place.2.2.1.2 (by simp)
  | closed reply => exact counts place.2.1 place.2.2.2.2 (by simp)

theorem Inv.safe (inv : session.Inv setting) : session.Safe where
  handled := by
    intro index request hand uses
    obtain ⟨reply, _, _, held, volume⟩ := inv.uses hand uses
    exact (held.1 _).mpr volume
  closing := by
    intro index volume closing
    have doomed := inv.threads index
    rw [closing] at doomed
    obtain ⟨client, _, _, _, _, _, holds⟩ := doomed
    exact ⟨client, holds⟩
  once := inv.once
  fdOpen := inv.sound.fdOpen
  fdClosed := inv.descriptors
  fdDistinct := inv.sound.fdDistinct
  alive := inv.faults

end Session

end Cvbd
