import Cvbd.ReleaseCore
import Cvbd.SessionServer

/-!
Each step keeps the accounts of the clients that leave, and once the server is
quiet nothing of theirs is left.
-/

namespace Cvbd

namespace Session

variable {Client : Type} [DecidableEq Client] {setting : Setting Client}
variable {session after : Session Client}

/-! Steps of a client. -/

/-- A client leaves all volumes, answers and threads as they are, so only its own account counts. -/
theorem Releasing.move (releasing : session.Releasing setting) {client : Client}
    (move : session.ClientMove setting client after)
    (own : (after.stage client).leaves = true → after.Settled setting client) :
    after.Releasing setting where
  owned := by
    rw [move.volumes, move.owner]
    exact releasing.owned
  refused := by
    intro other reply member failed holds
    rw [move.answers] at member
    rw [move.threads]
    exact releasing.refused other reply member failed ((move.holds other _).mp holds)
  settled := by
    intro other leaves
    by_cases same : other = client
    · subst same
      exact own leaves
    · obtain ⟨stage, _, requests⟩ := move.others other same
      rw [stage] at leaves
      have settled := releasing.settled other leaves
      unfold Settled at settled ⊢
      rwa [move.answers, move.deleted, requests]

theorem Settled.same {client : Client} (settled : session.Settled setting client)
    (move : session.ClientMove setting client after)
    (requests : after.exchange.inFlight (setting.index client) client =
      session.exchange.inFlight (setting.index client) client) : after.Settled setting client := by
  unfold Settled at settled ⊢
  rwa [move.answers, move.deleted, requests]

/-- The client has not asked for its volume yet. -/
theorem Inv.unasked (inv : session.Inv setting) {client : Client}
    (made : session.stage client = .made) : session.Settled setting client := by
  obtain ⟨phase, admits, place⟩ := inv.standing client
  rw [show (session.account setting client).stage = .made from made] at admits
  cases phase with
  | unopened =>
      obtain ⟨quiet, answers, _⟩ := place
      have none : session.exchange.inFlight (setting.index client) client = [] :=
        List.map_eq_nil_iff.mp quiet
      exact Or.inl ⟨answers, by simp [none]⟩
  | asked => simp [Stage.admits] at admits
  | answered reply => simp [Stage.admits] at admits
  | inUse reply => simp [Stage.admits] at admits
  | closing reply => simp [Stage.admits] at admits
  | closed reply => simp [Stage.admits] at admits

theorem Releasing.destroy (releasing : session.Releasing setting) (inv : session.Inv setting)
    {client : Client} (stepped : session.destroy client = some after) :
    after.Releasing setting := by
  obtain ⟨stage, rfl⟩ := destroy_cases stepped
  have move := setQueue_move setting session client (session.shared client).volumeName none .destroyed
  refine releasing.move move fun _ => Settled.same ?_ move rfl
  rcases stage with made | refused | closed
  · exact inv.unasked made
  · exact releasing.settled client (by rw [refused]; rfl)
  · exact releasing.settled client (by rw [closed]; rfl)

theorem Releasing.sendClose (releasing : session.Releasing setting) (inv : session.Inv setting)
    {client : Client} (stepped : session.sendClose setting client = some after) :
    after.Releasing setting := by
  obtain ⟨opened, posted⟩ := sendClose_cases stepped
  obtain ⟨move, _, _, requests⟩ := post_move posted
  obtain ⟨reply, answers, _⟩ := inv.inUse opened
  refine releasing.move move fun _ => Or.inr ⟨reply, by rw [move.answers]; exact answers, ?_⟩
  refine Or.inr (Or.inl ⟨⟨client, 0, (session.shared client).sendClose.1⟩, ?_, _,
    SharedMemClient.sendClose_request _⟩)
  rw [requests]
  simp

theorem received_leaves {kind : ClientKind} {shared : SharedMemClient} {stage : Stage} {reply : Reply}
    {outcome : SharedMemClient × Stage} (took : received kind shared stage reply = some outcome)
    (leaves : outcome.2.leaves = true) :
    stage.leaves = true ∨ ∃ request opened, stage = .opening request ∧
      reply = .openVolume opened ∧ opened.err ≠ 0 := by
  unfold received at took
  split at took
  · rename_i request
    split at took
    · rename_i err kept accepted
      right
      cases reply with
      | openVolume opened =>
          by_cases type : opened.header.type = .reqOpen
          · simp only [SharedMemClient.acceptOpen, type, if_true, Option.some.injEq,
              Prod.mk.injEq] at accepted
            obtain ⟨rfl, _⟩ := accepted
            obtain rfl := Option.some.inj took
            refine ⟨request, opened, rfl, rfl, fun success => ?_⟩
            simp [success, Stage.leaves] at leaves
          · simp [SharedMemClient.acceptOpen, type] at accepted
      | read reply => simp [SharedMemClient.acceptOpen] at accepted
      | getsize reply => simp [SharedMemClient.acceptOpen] at accepted
      | fsync reply => simp [SharedMemClient.acceptOpen] at accepted
    · split at took <;> obtain rfl := Option.some.inj took <;> simp [Stage.leaves] at leaves
  · obtain rfl := Option.some.inj took
    dsimp only at leaves
    split at leaves <;> simp [Stage.leaves] at leaves
  · obtain rfl := Option.some.inj took
    exact Or.inl leaves
  · obtain rfl := Option.some.inj took
    exact Or.inl leaves
  · obtain rfl := Option.some.inj took
    exact Or.inl leaves
  · obtain rfl := Option.some.inj took
    exact Or.inl leaves
  · simp at took

theorem Releasing.receive (releasing : session.Releasing setting) (inv : session.Inv setting)
    {client : Client} (delivered : session.Delivered (.receive client))
    (stepped : session.receive setting client = some after) : after.Releasing setting := by
  obtain ⟨mq, envelope, rest, outcome, own, queue, took, move, _, stage, requests⟩ :=
    receive_move stepped
  refine releasing.move move fun leaves => Settled.same ?_ move requests
  rw [stage] at leaves
  rcases received_leaves took leaves with left | ⟨request, reply, _, body, failed⟩
  · exact releasing.settled client left
  · have sender : envelope.sender = client := delivered mq envelope rest reply own queue body
    have answered := inv.replied mq envelope reply (by simp [queue]) body
    rw [sender] at answered
    obtain ⟨only, single⟩ : ∃ only, session.answers client = [only] := by
      have few := (inv.once client).2
      cases answers : session.answers client with
      | nil => simp [answers] at answered
      | cons only others =>
          refine ⟨only, ?_⟩
          rw [answers, List.length_cons] at few
          rw [List.length_eq_zero_iff.mp (by omega : others.length = 0)]
    obtain rfl : reply = only := by simpa [single] using answered
    exact Or.inr ⟨reply, single, Or.inl failed⟩

theorem Releasing.call (releasing : session.Releasing setting) {client : Client} {call : Call}
    (stepped : session.call setting client call = some after) : after.Releasing setting := by
  obtain ⟨_, _, rfl | ⟨sent, _, posted⟩⟩ := call_cases stepped
  · refine releasing.move (setStage_move setting session client .aborted) fun leaves => ?_
    simp [setStage, Stage.leaves] at leaves
  · obtain ⟨move, stage, _⟩ := post_move posted
    refine releasing.move move fun leaves => ?_
    rw [stage] at leaves
    unfold afterCall at leaves
    split at leaves <;> simp [Stage.leaves] at leaves

theorem Releasing.sendOpen (releasing : session.Releasing setting) {client : Client}
    (stepped : session.sendOpen setting client = some after) : after.Releasing setting := by
  obtain ⟨_, posted⟩ := sendOpen_cases stepped
  obtain ⟨move, stage, _⟩ := post_move posted
  refine releasing.move move fun leaves => ?_
  rw [stage] at leaves
  simp [Stage.leaves] at leaves

theorem Releasing.remove (releasing : session.Releasing setting) {client : Client}
    (stepped : session.remove client = some after) : after.Releasing setting := by
  obtain ⟨_, rfl | rfl⟩ := remove_cases stepped
  · refine releasing.move (setStage_move setting session client .aborted) fun leaves => ?_
    simp [setStage, Stage.leaves] at leaves
  · refine releasing.move (setQueue_move setting session client _ _ .removed) fun leaves => ?_
    simp [setStage, Stage.leaves] at leaves

theorem Releasing.create (releasing : session.Releasing setting) {client : Client}
    {queue : Option Nat} (stepped : session.create client queue = some after) :
    after.Releasing setting := by
  obtain ⟨_, ⟨mq, _, _, rfl⟩ | rfl⟩ := create_cases stepped
  · refine releasing.move (makeQueue_move setting session client mq) fun leaves => ?_
    simp [makeQueue, Stage.leaves] at leaves
  · refine releasing.move (setStage_move setting session client .failed) fun leaves => ?_
    simp [setStage, Stage.leaves] at leaves

/-! Steps of the server. -/

theorem le_deletedAfter (session : Session Client) (label : ServerLabel Nat) (client : Client) :
    session.deleted client ≤ session.deletedAfter label client := by
  unfold deletedAfter
  cases session.deletedFor label with
  | none => exact Nat.le_refl _
  | some owner =>
      by_cases same : client = owner
      · subst same
        simp
      · simp [same]

/-- Requests leave, and a CLOSE leaves with a deletion. -/
theorem Settled.serve {client : Client} (settled : session.Settled setting client)
    (answers : after.answers client = session.answers client)
    (deleted : session.deleted client ≤ after.deleted client)
    (fewer : ∀ envelope, envelope ∈ after.exchange.inFlight (setting.index client) client →
      envelope ∈ session.exchange.inFlight (setting.index client) client)
    (closing : ∀ envelope req, envelope ∈ session.exchange.inFlight (setting.index client) client →
      envelope.body = .close req →
      envelope ∈ after.exchange.inFlight (setting.index client) client ∨
        1 ≤ after.deleted client) : after.Settled setting client := by
  rcases settled with ⟨none, unasked⟩ | ⟨reply, single, failed | ⟨envelope, inside, req, body⟩ | once⟩
  · exact Or.inl ⟨answers.trans none, fun envelope member => unasked envelope (fewer envelope member)⟩
  · exact Or.inr ⟨reply, answers.trans single, Or.inl failed⟩
  · refine Or.inr ⟨reply, answers.trans single, Or.inr ?_⟩
    rcases closing envelope req inside body with kept | done
    · exact Or.inl ⟨envelope, kept, req, body⟩
    · exact Or.inr done
  · exact Or.inr ⟨reply, answers.trans single, Or.inr (Or.inr (Nat.le_trans once deleted))⟩

/-- A thread that is not about to delete anything turns to something else. -/
theorem Releasing.refused_free (releasing : session.Releasing setting) {index : Nat}
    {thread : Thread Client} (free : (session.exchange.thread index).doomed = none)
    (threads : after.exchange.thread = Function.update session.exchange.thread index thread)
    {client : Client} {reply : OpenReply} (member : reply ∈ session.answers client)
    (failed : reply.err ≠ 0) (holds : session.Holds client reply.volume) :
    (after.exchange.thread (setting.index client)).doomed = some reply.volume := by
  have doomed := releasing.refused client reply member failed holds
  rw [threads]
  by_cases same : setting.index client = index
  · rw [same, free] at doomed
    simp at doomed
  · simpa [same] using doomed

theorem Releasing.received (releasing : session.Releasing setting) {index : Nat}
    {request : Envelope Client Request} {rest : List (Envelope Client Request)}
    {exchange : Exchange Nat Client} (idle : session.exchange.thread index = .idle)
    (queue : session.exchange.requestMq index = request :: rest)
    (moved : exchange = ({ session.exchange with
      requestMq := Function.update session.exchange.requestMq index rest }).setThread index
        (.hand request)) :
    ({ session with exchange } : Session Client).Releasing setting := by
  subst moved
  refine ⟨releasing.owned, ?_, ?_⟩
  · intro client reply member failed holds
    have free : (session.exchange.thread index).doomed = none := by simp [idle, Thread.doomed]
    exact releasing.refused_free free rfl member failed holds
  · intro client leaves
    have same := Exchange.inFlight_received idle queue (setting.index client) client
    exact (releasing.settled client leaves).serve rfl (Nat.le_refl _)
      (fun envelope member => by rwa [← same]) fun envelope req member _ => Or.inl (by rwa [same])

/-- A handler that ends without a reply leaves or deletes a `VolumeState`, and makes none. -/
theorem done_volumes {world after : World} {kernel : Kernel} {request : Request}
    (handling : IOHandler.Handling world kernel request (.done after)) {volume : UInt64}
    {volState : VolumeState} (live : after.volumes volume = some volState) :
    world.volumes volume = some volState := by
  cases handling with
  | skipped => exact live
  | stored _ grown =>
      rw [grown.objects.1] at live
      exact live
  | @closed req closed _ =>
      by_cases same : volume = req.header.volume
      · simp [World.dropVolume, same] at live
      · simpa [World.dropVolume, same] using live

theorem Inv.deleted_close (inv : session.Inv setting) {index : Nat} {kernel : Kernel}
    {request : Envelope Client Request} {world : World} {req : HeaderRequest}
    (hand : session.exchange.thread index = .hand request) (close : request.body = .close req)
    (handling : IOHandler.Handling session.exchange.world kernel request.body (.done world)) :
    1 ≤ session.deletedAfter (.handle index kernel) request.sender := by
  obtain ⟨reply, _, _, held, volume⟩ := inv.uses hand (by rw [close]; rfl)
  have holds := (held.1 _).mpr volume
  obtain ⟨sender, call, body⟩ := request
  subst close
  cases handling with
  | skipped null => exact (holds.notNull inv.sound null).elim
  | closed live =>
      have owner : session.exchange.owner req.header.volume = some sender := holds.2
      simp [deletedAfter, deletedFor, Exchange.deletes, hand, live, owner]

theorem Releasing.done (releasing : session.Releasing setting) (inv : session.Inv setting)
    {index : Nat} {kernel : Kernel} {request : Envelope Client Request} {world : World}
    (hand : session.exchange.thread index = .hand request)
    (handling : IOHandler.Handling session.exchange.world kernel request.body (.done world)) :
    let exchange := ({ session.exchange with world }).setThread index .idle
    ({ session with
      exchange
      answers := session.answersAfter (.handle index kernel) exchange
      deleted := session.deletedAfter (.handle index kernel) } :
        Session Client).Releasing setting := by
  intro exchange
  have idle : exchange.thread index = .idle := by simp [exchange, Exchange.setThread]
  rw [answersAfter_silent (by simp [idle])]
  have threads : exchange.thread = Function.update session.exchange.thread index .idle := rfl
  refine ⟨?_, ?_, ?_⟩
  · intro volume volState live
    exact releasing.owned volume volState (done_volumes handling live)
  · rintro client reply member failed ⟨⟨volState, live⟩, owner⟩
    exact releasing.refused_free (by simp [hand, Thread.doomed]) threads member failed
      ⟨⟨volState, done_volumes handling live⟩, owner⟩
  · intro client leaves
    have split := inv.inFlight_hand hand threads rfl (fun _ => rfl) client
    refine (releasing.settled client leaves).serve rfl (le_deletedAfter ..) ?_ ?_
    · intro envelope member
      rw [split]
      exact List.mem_append_right _ member
    · intro envelope req member close
      rw [split] at member
      rcases List.mem_append.mp member with own | kept
      · right
        split at own
        · rename_i sender
          obtain rfl := List.mem_singleton.mp own
          rw [← sender]
          exact inv.deleted_close hand close handling
        · simp at own
      · exact Or.inl kept

/-- A reply to an I/O request changes no account but for the request that is gone. -/
theorem Releasing.answeredIo (releasing : session.Releasing setting) (inv : session.Inv setting)
    {index mq : Nat} {kernel : Kernel} {request : Envelope Client Request} {world : World}
    {reply : Reply} {exchange : Exchange Nat Client}
    (hand : session.exchange.thread index = .hand request) (io : request.body.isIo = true)
    (grown : session.exchange.world.Grown world) (answers : request.body.AnsweredBy reply)
    (moved : exchange = ({ session.exchange with
      world
      owner := session.exchange.ownerAfter kernel request (.reply world mq reply none) }).setThread
        index (.sending mq ⟨request.sender, request.call, reply⟩ none)) :
    ({ session with
      exchange
      answers := session.answersAfter (.handle index kernel) exchange
      deleted := session.deletedAfter (.handle index kernel) } :
        Session Client).Releasing setting := by
  have notClose (req : HeaderRequest) : request.body ≠ .close req := by
    intro close
    simp [close, Request.isIo] at io
  have notOpen (opened : OpenReply) : reply ≠ .openVolume opened := by
    rintro rfl
    exact Request.AnsweredBy.notOpen io answers
  have owner : session.exchange.ownerAfter kernel request (.reply world mq reply none) =
      session.exchange.owner := by
    obtain ⟨sender, call, body⟩ := request
    cases body <;> simp_all [Exchange.ownerAfter, Request.isIo]
  rw [owner] at moved
  have threads : exchange.thread = Function.update session.exchange.thread index
      (.sending mq ⟨request.sender, request.call, reply⟩ none) := by
    rw [moved]
    rfl
  have requests : exchange.requestMq = session.exchange.requestMq := by
    rw [moved]
    rfl
  rw [answersAfter_io (by rw [threads, Function.update_self]) notOpen,
    deletedAfter_handle hand notClose]
  subst moved
  refine ⟨?_, ?_, ?_⟩
  · intro volume volState live
    have live : world.volumes volume = some volState := live
    rw [grown.objects.1] at live
    exact releasing.owned volume volState live
  · rintro client opened member failed ⟨⟨volState, live⟩, holds⟩
    have live : world.volumes opened.volume = some volState := live
    rw [grown.objects.1] at live
    exact releasing.refused_free (by simp [hand, Thread.doomed]) rfl member failed
      ⟨⟨volState, live⟩, holds⟩
  · intro client leaves
    have split := inv.inFlight_hand hand threads requests (fun _ => rfl) client
    refine (releasing.settled client leaves).serve rfl (Nat.le_refl _) ?_ ?_
    · intro envelope member
      rw [split]
      exact List.mem_append_right _ member
    · intro envelope req member close
      rw [split] at member
      rcases List.mem_append.mp member with own | kept
      · split at own
        · obtain rfl := List.mem_singleton.mp own
          exact (notClose req close).elim
        · simp at own
      · exact Or.inl kept

theorem Inv.unanswered (inv : session.Inv setting) {index call : Nat} {sender : Client}
    {req : OpenRequest}
    (hand : session.exchange.thread index = .hand ⟨sender, call, .openVolume req⟩) :
    session.answers sender = [] := by
  obtain ⟨phase, _, place⟩ := inv.standing sender
  obtain ⟨rest, queue⟩ := inv.hand_oldest hand
  exact (place.popOpen queue).2.2.1

/-- A client whose OPEN is being handled has not left. -/
theorem Releasing.not_leaving (releasing : session.Releasing setting) (inv : session.Inv setting)
    {index call : Nat} {sender : Client} {req : OpenRequest}
    (hand : session.exchange.thread index = .hand ⟨sender, call, .openVolume req⟩) :
    (session.stage sender).leaves = false := by
  by_contra leaves
  rcases releasing.settled sender (by simpa using leaves) with ⟨_, unasked⟩ | ⟨reply, answered, _⟩
  · have inside := Exchange.mem_inFlight_hand hand
    rw [inv.inHand hand] at inside
    exact unasked _ inside req rfl
  · simp [inv.unanswered hand] at answered

/-- An OPEN that makes a `VolumeState` leaves it to be deleted if it is refused. -/
theorem Releasing.opened (releasing : session.Releasing setting) (inv : session.Inv setting)
    {index mq call : Nat} {sender : Client} {req : OpenRequest} {reply : OpenReply} {world : World}
    {state : VolumeState} {exchange : Exchange Nat Client}
    (hand : session.exchange.thread index = .hand ⟨sender, call, .openVolume req⟩)
    (volumes : world.volumes =
      Function.update session.exchange.world.volumes reply.volume (some state))
    (moved : exchange = ({ session.exchange with
      world
      owner := Function.update session.exchange.owner reply.volume (some sender) }).setThread
        index (.sending mq ⟨sender, call, .openVolume reply⟩
          (if reply.err = 0 then none else some reply.volume))) :
    ({ session with
      exchange
      answers := Function.update session.answers sender (session.answers sender ++ [reply]) } :
        Session Client).Releasing setting := by
  have stays := releasing.not_leaving inv hand
  have unanswered := inv.unanswered hand
  have place : index = setting.index sender := inv.inHand hand
  have threads : exchange.thread = Function.update session.exchange.thread index
      (.sending mq ⟨sender, call, .openVolume reply⟩
        (if reply.err = 0 then none else some reply.volume)) := by
    rw [moved]
    rfl
  have requests : exchange.requestMq = session.exchange.requestMq := by
    rw [moved]
    rfl
  subst moved
  refine ⟨?_, ?_, ?_⟩
  · intro volume volState live
    have live : world.volumes volume = some volState := live
    by_cases new : volume = reply.volume
    · exact ⟨sender, by simp [Exchange.setThread, new]⟩
    · rw [volumes, Function.update_of_ne new] at live
      obtain ⟨client, owner⟩ := releasing.owned volume volState live
      exact ⟨client, by simpa [Exchange.setThread, new] using owner⟩
  · rintro client other member failed ⟨⟨volState, live⟩, holds⟩
    have live : world.volumes other.volume = some volState := live
    have holds : Function.update session.exchange.owner reply.volume (some sender) other.volume =
      some client := holds
    by_cases new : other.volume = reply.volume
    · obtain rfl : sender = client := by simpa [new] using holds
      obtain rfl : other = reply := by simpa [unanswered] using member
      simp [Exchange.setThread, ← place, failed, Thread.doomed]
    · rw [Function.update_of_ne new] at holds
      rw [volumes, Function.update_of_ne new] at live
      have old : other ∈ session.answers client := by
        by_cases own : client = sender
        · subst own
          simp only [Function.update_self, List.mem_append, List.mem_singleton] at member
          rcases member with old | rfl
          · exact old
          · exact (new rfl).elim
        · simpa [own] using member
      exact releasing.refused_free (by simp [hand, Thread.doomed]) rfl old failed
        ⟨⟨volState, live⟩, holds⟩
  · intro client leaves
    have different : client ≠ sender := by
      rintro rfl
      have leaves : (session.stage client).leaves = true := leaves
      simp [stays] at leaves
    have split := inv.inFlight_hand hand threads requests (fun _ => rfl) client
    rw [if_neg (Ne.symm different), List.nil_append] at split
    exact (releasing.settled client leaves).serve (by simp [different]) (Nat.le_refl _)
      (fun envelope member => by rw [split]; exact member)
      fun envelope req member _ => Or.inl (by rw [split] at member; exact member)

theorem Releasing.sent (releasing : session.Releasing setting) {index mq : Nat}
    {envelope : Envelope Client Reply} {closing : Option UInt64} {exchange : Exchange Nat Client}
    (sends : session.exchange.thread index = .sending mq envelope closing)
    (moved : exchange = ({ session.exchange with
      replyMq := Function.update session.exchange.replyMq mq
        (session.exchange.replyMq mq ++ [envelope]) }).setThread index
          (Exchange.afterSend closing)) :
    ({ session with exchange } : Session Client).Releasing setting := by
  subst moved
  refine ⟨releasing.owned, ?_, ?_⟩
  · intro client reply member failed holds
    have doomed := releasing.refused client reply member failed holds
    by_cases same : setting.index client = index
    · rw [same, sends] at doomed
      obtain rfl : closing = some reply.volume := doomed
      simp [Exchange.setThread, same, Exchange.afterSend, Thread.doomed]
    · simpa [Exchange.setThread, same] using doomed
  · intro client leaves
    have before : (session.exchange.thread index).requestsOf client = [] := by
      rw [sends]
      rfl
    have behind : (Exchange.afterSend closing : Thread Client).requestsOf client = [] := by
      cases closing <;> rfl
    have silent := session.exchange.inFlight_setThread (setting.index client) client before behind
    exact (releasing.settled client leaves).serve rfl (Nat.le_refl _)
      (fun envelope member => by rw [← silent]; exact member)
      fun envelope req member _ => Or.inl (by rw [← silent] at member; exact member)

theorem Releasing.closed (releasing : session.Releasing setting) {index : Nat} {volume : UInt64}
    {volState : VolumeState} (closing : session.exchange.thread index = .closing volume) :
    let exchange := ({ session.exchange with
      world := session.exchange.world.dropVolume volume volState }).setThread index .idle
    ({ session with
      exchange
      deleted := session.deletedAfter (.close index) } : Session Client).Releasing setting := by
  intro exchange
  have old {other : UInt64} {state : VolumeState}
      (live : exchange.world.volumes other = some state) :
      other ≠ volume ∧ session.exchange.world.volumes other = some state := by
    by_cases same : other = volume
    · simp [exchange, Exchange.setThread, World.dropVolume, same] at live
    · exact ⟨same, by simpa [exchange, Exchange.setThread, World.dropVolume, same] using live⟩
  refine ⟨?_, ?_, ?_⟩
  · intro other state live
    exact releasing.owned other state (old live).2
  · rintro client reply member failed ⟨⟨state, live⟩, owner⟩
    obtain ⟨different, live⟩ := old live
    have doomed := releasing.refused client reply member failed ⟨⟨state, live⟩, owner⟩
    by_cases same : setting.index client = index
    · rw [same, closing] at doomed
      exact (different (Option.some.inj doomed).symm).elim
    · simpa [exchange, Exchange.setThread, same] using doomed
  · intro client leaves
    have silent : exchange.inFlight (setting.index client) client =
        session.exchange.inFlight (setting.index client) client :=
      Exchange.inFlight_setThread _ client (by simp [closing, Thread.requestsOf])
        (rfl : (Thread.idle : Thread Client).requestsOf client = [])
    exact (releasing.settled client leaves).serve rfl (le_deletedAfter ..)
      (fun envelope member => by rwa [← silent]) fun envelope req member _ => Or.inl (by rwa [silent])

theorem Releasing.serve (releasing : session.Releasing setting) (inv : session.Inv setting)
    {label : ServerLabel Nat} (served : session.serve label = some after)
    (alive : after.exchange.fault = none) : after.Releasing setting := by
  obtain ⟨exchange, running, move, rfl⟩ := serve_move served
  cases move with
  | received idle queue _ => exact releasing.received idle queue rfl
  | stopped idle queue stop => exact (inv.noStop queue stop).elim
  | done hand handling => exact releasing.done inv hand handling
  | aborted hand handling => simp at alive
  | sent sends _ => exact releasing.sent sends rfl
  | closed closing live => exact releasing.closed closing
  | closedNull closing => exact (inv.closing closing (Or.inl rfl)).elim
  | closedDead closing gone => exact (inv.closing closing (Or.inr gone)).elim
  | @replied index kernel request world mq reply closing hand handling =>
      obtain ⟨sender, call, body⟩ := request
      cases handling with
      | replied io live grown answers => exact releasing.answeredIo inv hand io grown answers rfl
      | @opened req name _ _ fd _ err named replyNamed attached obtained opens =>
          let reply : OpenReply := ⟨{ req.header with volume := kernel.newVolume }, kernel.newVolume, err⟩
          have volumes : world.volumes = Function.update session.exchange.world.volumes reply.volume
              (some ⟨name, fd, mq⟩) := opens.volumes
          rw [deletedAfter_handle hand (by simp)]
          have answers (exchange : Exchange Nat Client) (closing : Option UInt64)
              (sends : exchange.thread index = .sending mq ⟨sender, call, .openVolume reply⟩ closing) :
              session.answersAfter (.handle index kernel) exchange =
                Function.update session.answers sender (session.answers sender ++ [reply]) := by
            simp only [answersAfter, sends]
          rw [answers _ _ (by simp [Exchange.setThread, reply]; rfl)]
          exact releasing.opened inv hand volumes rfl

/-! Every step, and every run. -/

theorem Releasing.step (releasing : session.Releasing setting) (inv : session.Inv setting)
    {label : SessionLabel Client} (permitted : session.Permitted label)
    (stepped : session.step setting label = some after) (alive : after.exchange.fault = none) :
    after.Releasing setting := by
  cases label with
  | remove client => exact releasing.remove stepped
  | create client queue => exact releasing.create stepped
  | sendOpen client => exact releasing.sendOpen stepped
  | call client call => exact releasing.call stepped
  | sendClose client => exact releasing.sendClose inv stepped
  | receive client => exact releasing.receive inv permitted.2 stepped
  | destroy client => exact releasing.destroy inv stepped
  | server label => exact releasing.serve inv stepped alive

theorem start_releasing (setting : Setting Client) (files : Name → Option VolumeFile)
    (mqNames : Name → Option Nat) : (start setting files mqNames).Releasing setting where
  owned := by simp [start, World.started]
  refused := by simp [start]
  settled := by simp [start, Stage.leaves]

/-- A server that has ended stays so. -/
theorem fault_before {label : SessionLabel Client}
    (stepped : session.step setting label = some after) (alive : after.exchange.fault = none) :
    session.exchange.fault = none := by
  cases label with
  | remove client =>
      obtain ⟨_, rfl | rfl⟩ := remove_cases stepped <;> exact alive
  | create client queue =>
      obtain ⟨_, ⟨_, _, _, rfl⟩ | rfl⟩ := create_cases stepped <;> exact alive
  | sendOpen client => exact (post_move (sendOpen_cases stepped).2).1.fault ▸ alive
  | call client call =>
      obtain ⟨_, _, rfl | ⟨_, _, posted⟩⟩ := call_cases stepped
      · exact alive
      · exact (post_move posted).1.fault ▸ alive
  | sendClose client => exact (post_move (sendClose_cases stepped).2).1.fault ▸ alive
  | receive client =>
      obtain ⟨_, _, _, _, _, _, _, move, _⟩ := receive_move stepped
      exact move.fault ▸ alive
  | destroy client =>
      obtain ⟨_, rfl⟩ := destroy_cases stepped
      exact alive
  | server label =>
      obtain ⟨_, running, _⟩ := serve_move stepped
      exact running

theorem releasing_run {files : Name → Option VolumeFile} {mqNames : Name → Option Nat}
    {trace : List Empty}
    (run : (machine setting).Run Permitted (start setting files mqNames) trace session)
    (alive : session.exchange.fault = none) : session.Releasing setting := by
  have kept : session.Inv setting ∧
      (session.exchange.fault = none → session.Releasing setting) := by
    refine run.invariant (fun _ session => session.Inv setting ∧
      (session.exchange.fault = none → session.Releasing setting))
      ⟨start_inv setting files mqNames, fun _ => start_releasing setting files mqNames⟩ ?_
    rintro trace session label after events ⟨inv, releasing⟩ permitted stepped
    have step := machine_step stepped
    refine ⟨inv.step permitted step, fun alive => ?_⟩
    exact (releasing (fault_before step alive)).step inv permitted step alive
  exact kept.2 alive

theorem Quiet.noneInFlight (quiet : session.Quiet setting) (client : Client) :
    session.exchange.inFlight (setting.index client) client = [] := by
  simp [Exchange.inFlight, quiet.noRequests, quiet.idle, Thread.requestsOf]

/-- A client that has left does not hold the volume of its answer. -/
theorem Releasing.not_with (releasing : session.Releasing setting) (quiet : session.Quiet setting)
    {client : Client} {reply : OpenReply} (leaves : (session.stage client).leaves = true)
    (answers : session.answers client = [reply]) :
    ¬(session.account setting client).With reply.volume := by
  rintro ⟨held, undeleted⟩
  have holds : session.Holds client reply.volume := (held _).mpr rfl
  have undeleted : session.deleted client = 0 := undeleted
  rcases releasing.settled client leaves with
    ⟨none, _⟩ | ⟨other, single, failed | ⟨envelope, inside, _⟩ | once⟩
  · simp [answers] at none
  · obtain rfl : reply = other := by simpa [answers] using single
    have doomed := releasing.refused client reply (by simp [answers]) failed holds
    simp [quiet.idle, Thread.doomed] at doomed
  · simp [quiet.noneInFlight] at inside
  · omega

/-- A client that keeps nothing holds no `VolumeState`, once its requests are worked off. -/
theorem Releasing.none_held (releasing : session.Releasing setting) (inv : session.Inv setting)
    (quiet : session.Quiet setting) {client : Client} (keeps : (session.stage client).keeps = false)
    (volume : UInt64) : ¬session.Holds client volume := by
  intro holds
  obtain ⟨phase, admits, place⟩ := inv.standing client
  have none : (session.account setting client).requests = [] := by
    simp [account, quiet.noneInFlight]
  have admits : (session.stage client).admits phase = true := admits
  cases phase with
  | unopened => exact place.2.2.1 volume holds
  | asked =>
      obtain ⟨⟨req, asked⟩, _⟩ := place
      simp [none] at asked
  | closing reply =>
      obtain ⟨_, _, _, earlier, req, queue, _⟩ := place
      simp [none] at queue
  | closed reply => exact place.2.2.2.1 volume holds
  | inUse reply =>
      have leaves : (session.stage client).leaves = true := by
        cases stage : session.stage client <;>
          simp_all [Stage.keeps, Stage.admits, Stage.leaves]
      exact releasing.not_with quiet leaves place.1 place.2.2.2.1
  | answered reply =>
      have leaves : (session.stage client).leaves = true := by
        cases stage : session.stage client <;>
          simp_all [Stage.keeps, Stage.admits, Stage.leaves]
      rcases place.2.2 with held | ⟨_, without⟩
      · exact releasing.not_with quiet leaves place.2.1 held
      · exact without.1 volume holds

end Session

end Cvbd
