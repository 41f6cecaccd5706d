import Cvbd.DiskTotal
import Cvbd.DrainTotal
import Cvbd.MountCore

/-!
Synchronous clients whose names arrive whole get the files of their names, and
once all have opened their volumes each has a disk of its own.
-/

namespace Cvbd

open Wire in
theorem SharedMemClient.sendOpen_wholeName {client : SharedMemClient} {name : FileName}
    (named : client.volumeName = name.bytes) (whole : client.Whole) :
    viewVolumeName client.sendOpen.2.requestMsg = some client.volumeName := by
  have arrives := viewVolumeName_initOpen_iff
    (storeHeader client.requestMsg ⟨false, .reqOpen, client.id + 1, client.volume, 0⟩) name name
  rw [named]
  show viewVolumeName (initOpen _ client.volumeName client.volumeName) = _
  rw [named]
  refine arrives.mpr ?_
  have beyond : headerSize ≤ volumeNameStart + name.bytes.length := by
    have start : headerSize ≤ volumeNameStart := by decide
    omega
  rw [storeHeader_outside _ _ beyond, ← named]
  exact whole

namespace Session

variable {Client : Type} [DecidableEq Client] {setting : Setting Client}
variable {session after : Session Client} {client : Client}

/-! Steps of a client. -/

/-- A client's step makes no volumes, and what it asks for bears its name. -/
theorem Mounts.move (mounts : session.Mounts setting)
    (move : session.ClientMove setting client after)
    (asked : ∀ req, .openVolume req ∈ after.requests setting client →
      req.volumeName = some (setting.volumeName client)) : after.Mounts setting where
  asked := by
    intro other req member
    by_cases same : other = client
    · subst same
      exact asked req member
    · rw [Session.requests, (move.others other same).2.2] at member
      exact mounts.asked other req member
  volumes := by
    intro other volume volState live owner
    rw [move.volumes] at live
    rw [move.owner] at owner
    exact mounts.volumes other volume volState live owner

theorem Mounts.post (mounts : session.Mounts setting) {sent : Request × SharedMemClient}
    {stage : Stage}
    (asked : ∀ req, sent.1 = .openVolume req → req.volumeName = some (setting.volumeName client))
    (posted : session.post setting client sent stage = some after) : after.Mounts setting := by
  obtain ⟨move, _, _, inFlight⟩ := post_move posted
  refine mounts.move move fun req member => ?_
  rw [Session.requests, inFlight, List.map_append, List.mem_append] at member
  rcases member with old | last
  · exact mounts.asked client req old
  · exact asked req (by simpa [eq_comm] using last)

theorem Mounts.sendOpen (mounts : session.Mounts setting) (routes : session.Routes setting)
    (terminates : session.Terminates (.sendOpen client))
    (namesVolume : session.NamesVolume (.sendOpen client))
    (stepped : session.sendOpen setting client = some after) : after.Mounts setting := by
  obtain ⟨_, posted⟩ := sendOpen_cases stepped
  obtain ⟨_, name, named⟩ := terminates
  refine mounts.post ?_ posted
  intro req body
  rw [(session.shared client).sendOpen_request] at body
  rw [← Request.openVolume.inj body, ← routes.names client]
  exact SharedMemClient.sendOpen_wholeName named namesVolume

/-! Steps of the server. -/

/-- Handling a request keeps the volumes, deletes one, or makes one under the name that it asks
for. -/
theorem Mounts.replied (mounts : session.Mounts setting) (inv : session.Inv setting)
    {index mq : Nat} {kernel : Kernel} {request : Envelope Client Request} {world : World}
    {reply : Reply} {closing : Option UInt64}
    (hand : session.exchange.thread index = .hand request)
    (handling : IOHandler.Handling session.exchange.world kernel request.body
      (.reply world mq reply closing)) {volume : UInt64} {volState : VolumeState}
    (live : world.volumes volume = some volState)
    (owner : session.exchange.ownerAfter kernel request (.reply world mq reply closing) volume =
      some client) : volState.volumeName = setting.volumeName client := by
  have member := Exchange.mem_inFlight_hand hand
  rw [inv.inHand hand] at member
  have asked := mounts.asked request.sender
  obtain ⟨sender, call, body⟩ := request
  cases handling with
  | @replied _ _ attached _ io _ grown _ =>
      have sameOwner : session.exchange.ownerAfter kernel ⟨sender, call, body⟩
          (.reply world attached.replyMq reply none) = session.exchange.owner := by
        cases body <;> simp_all [Exchange.ownerAfter, Request.isIo]
      rw [sameOwner] at owner
      rw [grown.objects.1] at live
      exact mounts.volumes client volume volState live owner
  | @opened req name _ _ fd _ err named _ _ _ opens =>
      have readBack := asked req (List.mem_map_of_mem (f := Envelope.body) member)
      obtain rfl : name = setting.volumeName sender := by
        rw [named] at readBack
        exact Option.some.inj readBack
      simp only [Exchange.ownerAfter] at owner
      rw [opens.volumes] at live
      by_cases same : volume = kernel.newVolume
      · subst same
        rw [Function.update_self] at live owner
        obtain rfl := Option.some.inj owner
        obtain rfl := Option.some.inj live
        rfl
      · rw [Function.update_of_ne same] at live owner
        exact mounts.volumes client volume volState live owner

theorem Mounts.serve (mounts : session.Mounts setting) (working : session.Working setting)
    {label : ServerLabel Nat} (regular : session.Regular (.server label))
    (served : session.serve label = some after) : after.Mounts setting := by
  have inv := working.inv
  refine ⟨fun client req member => mounts.asked client req (inv.serve_requests served member), ?_⟩
  obtain ⟨exchange, _, move, rfl⟩ := serve_move served
  intro client volume volState live owner
  cases move with
  | received idle queue notStop => exact mounts.volumes client volume volState live owner
  | stopped idle queue stop => exact (inv.noStop queue stop).elim
  | done hand handling =>
      exact mounts.volumes client volume volState (done_volumes handling live) owner
  | replied hand handling => exact mounts.replied inv hand handling live owner
  | aborted hand handling =>
      obtain ⟨succeeds, inRange⟩ := regular.2 _ hand
      exact (working.matching.noAbort inv working.routes hand succeeds inRange handling).elim
  | sent sends room => exact mounts.volumes client volume volState live owner
  | @closed index deleted _ closing _ =>
      refine mounts.volumes client volume volState ?_ owner
      by_cases same : volume = deleted
      · simp [Exchange.setThread, World.dropVolume, same] at live
      · simpa [Exchange.setThread, World.dropVolume, same] using live
  | closedNull closing => exact (inv.closing closing (Or.inl rfl)).elim
  | closedDead closing gone => exact (inv.closing closing (Or.inr gone)).elim

theorem Mounts.step (mounts : session.Mounts setting) (working : session.Working setting)
    {label : SessionLabel Client} (regular : session.Regular label)
    (terminates : session.Terminates label) (namesVolume : session.NamesVolume label)
    (stepped : session.step setting label = some after) : after.Mounts setting := by
  cases label with
  | remove client =>
      obtain ⟨_, rfl | rfl⟩ := remove_cases stepped
      · exact mounts.move (setStage_move setting session client .aborted) (mounts.asked client)
      · exact mounts.move (setQueue_move setting session client _ _ .removed) (mounts.asked client)
  | create client queue =>
      obtain ⟨_, ⟨mq, _, _, rfl⟩ | rfl⟩ := create_cases stepped
      · exact mounts.move (makeQueue_move setting session client mq) (mounts.asked client)
      · exact mounts.move (setStage_move setting session client .failed) (mounts.asked client)
  | sendOpen client => exact mounts.sendOpen working.routes terminates namesVolume stepped
  | call client call =>
      obtain ⟨_, _, rfl | ⟨sent, asked, posted⟩⟩ := call_cases stepped
      · exact mounts.move (setStage_move setting session client .aborted) (mounts.asked client)
      · obtain ⟨io, _⟩ := Call.send_spec asked
        refine mounts.post (fun req body => ?_) posted
        simp [body, Request.isIo] at io
  | sendClose client =>
      obtain ⟨_, posted⟩ := sendClose_cases stepped
      have request := (session.shared client).sendClose_request
      refine mounts.post (fun req body => ?_) posted
      simp [request] at body
  | receive client =>
      obtain ⟨_, _, _, _, _, _, _, move, _, _, inFlight⟩ := receive_move stepped
      refine mounts.move move fun req member => ?_
      rw [Session.requests, inFlight] at member
      exact mounts.asked client req member
  | destroy client =>
      obtain ⟨_, rfl⟩ := destroy_cases stepped
      exact mounts.move (setQueue_move setting session client _ _ .destroyed) (mounts.asked client)
  | server label => exact mounts.serve working regular stepped

theorem mounts_run (synchronous : setting.Synchronous) {files : Name → Option VolumeFile}
    {mqNames : Name → Option Nat} {trace : List Empty}
    (run : (machine setting).Run (fun session label => session.Regular label ∧
      session.Terminates label ∧ session.NamesVolume label) (start setting files mqNames) trace
      session) :
    session.Working setting ∧ session.Mounts setting := by
  refine run.invariant (fun _ session => session.Working setting ∧ session.Mounts setting) ?_ ?_
  · refine ⟨start_working setting files mqNames, ⟨?_, ?_⟩⟩
    · simp [requests, Exchange.inFlight, start, Thread.requestsOf]
    · simp [start, World.started]
  · rintro trace session label after events ⟨working, mounts⟩ ⟨regular, terminates, namesVolume⟩
      stepped
    have moved := machine_step stepped
    exact ⟨working.step synchronous regular terminates moved,
      mounts.step working regular terminates namesVolume moved⟩

/-! All volumes are open. -/

/-- A client that has opened its volume holds the `VolumeState` that it keeps the address of. -/
theorem Inv.holds_opened (inv : session.Inv setting) (opened : session.stage client = .opened) :
    session.Holds client (session.shared client).volume := by
  obtain ⟨phase, admits, place⟩ := inv.standing client
  have admits : (session.stage client).admits phase = true := admits
  rw [opened] at admits
  cases phase with
  | inUse reply =>
      obtain ⟨_, _, volume, held, _⟩ := place
      have volume : (session.shared client).volume = reply.volume := volume
      exact (held.1 _).mpr volume
  | unopened => simp [Stage.admits] at admits
  | asked => simp [Stage.admits] at admits
  | answered reply => simp [Stage.admits] at admits
  | closing reply => simp [Stage.admits] at admits
  | closed reply => simp [Stage.admits] at admits

/-- The client is connected to the file of its name, and replies come to its own queue. -/
theorem Mounts.open (mounts : session.Mounts setting) (working : session.Working setting)
    (opened : session.stage client = .opened) :
    (session.endpoint setting client).Open session.exchange.world ∧
      session.mq client = some (session.endpoint setting client).mq := by
  have inv := working.inv
  have holds := inv.holds_opened opened
  obtain ⟨⟨volState, live⟩, owner⟩ := holds
  have name := mounts.volumes client _ volState live owner
  have own := working.routes.attached client _ volState live owner
  have fdOpen := inv.sound.fdOpen _ volState live
  obtain ⟨volumeName, fd, replyMq⟩ := volState
  subst name
  have mq_eq : (session.endpoint setting client).mq = replyMq := by simp [endpoint, own]
  have fd_eq : (session.endpoint setting client).fd = fd := by simp [endpoint, live]
  refine ⟨⟨(inv.holds_opened opened).notNull inv.sound, ?_, ?_, inv.sound.existsFile fd _ fdOpen⟩, ?_⟩
  · rw [mq_eq, fd_eq]
    exact live
  · rw [fd_eq]
    exact fdOpen
  · rw [mq_eq]
    exact own

theorem Working.started (working : session.Working setting) (mounts : session.Mounts setting)
    (synchronous : setting.Synchronous) (quiet : session.Quiet setting)
    (opened : ∀ client, session.stage client = .opened) (memory : Client → Bytes) :
    (session.disks memory).Started (session.endpoint setting) := by
  have inv := working.inv
  have mounted (client : Client) := mounts.open working (opened client)
  have unqueued (index : Nat) : session.exchange.requestMq index = [] := by
    refine List.eq_nil_iff_forall_not_mem.mpr fun request member => ?_
    have place := inv.queued index request member
    rw [place, quiet.noRequests] at member
    simp at member
  have matched := working.matching.matched inv working.routes
  have noReplies (client : Client) (mq : Nat) (own : session.mq client = some mq) :
      session.exchange.replyMq mq = [] := by
    refine List.eq_nil_iff_forall_not_mem.mpr fun reply arrived => ?_
    obtain ⟨_, request, waits, _⟩ := matched.matching client mq reply own arrived
    simp [opened client, Stage.waitsFor] at waits
  refine {
    wired := ?_
    running := working.matching.alive
    volume := fun _ => rfl
    outside := fun _ => ⟨0, rfl⟩
    noRequests := fun _ => unqueued _
    idle := quiet.idle
    noReplies := fun client => noReplies client _ (mounted client).2 }
  exact {
    isOpen := fun client => (mounted client).1
    nameInjective := synchronous.distinct
    mqInjective := by
      intro left right same
      have ownRight := (mounted right).2
      rw [← same] at ownRight
      exact working.routes.own left right _ (mounted left).2 ownRight
    queued := by
      intro index request member
      have member : request ∈ session.exchange.requestMq index := member
      simp [unqueued] at member
    inHand := by
      intro index request hand
      have hand : session.exchange.thread index = .hand request := hand
      rw [inv.inHand hand, quiet.idle] at hand
      simp at hand
    sending := by
      intro index mq reply closing sends
      have sends : session.exchange.thread index = .sending mq reply closing := sends
      have ok := inv.threads index
      rw [sends] at ok
      rw [ok.1, quiet.idle] at sends
      simp at sends
    notClosing := by
      intro index volume closing
      have closing : session.exchange.thread index = .closing volume := closing
      have doomed := inv.threads index
      rw [closing] at doomed
      obtain ⟨client, _, place, _⟩ := doomed
      rw [← place, quiet.idle] at closing
      simp at closing
    notStopped := working.serving
    replied := by
      intro mq reply arrived
      have own := working.routes.replied mq reply arrived
      have none := noReplies _ _ own
      have arrived : reply ∈ session.exchange.replyMq mq := arrived
      simp [none] at arrived }

end Session

end Cvbd
