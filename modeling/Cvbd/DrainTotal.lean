import Cvbd.AsyncProgress
import Cvbd.DrainChecks

/-!
From every state that the synchronous clients can reach, whatever the schedule,
the work that is left comes to its end: all calls are answered and nothing is
open but what the clients have open.
-/

namespace Cvbd

namespace Session

variable {Client : Type} [DecidableEq Client] {setting : Setting Client}
variable {session after : Session Client}

section Measure

variable [Fintype Client]

omit [DecidableEq Client] in
theorem backlog_same (mq : after.mq = session.mq)
    (replies : after.exchange.replyMq = session.exchange.replyMq) :
    ∑ client, after.backlog client = ∑ client, session.backlog client := by
  simp only [backlog, mq, replies]

/-- A reply that is sent waits for its own client. -/
theorem Draining.backlog_sent (draining : session.Draining setting) {index mq : Nat}
    {envelope : Envelope Client Reply} {closing : Option UInt64}
    (sends : session.exchange.thread index = .sending mq envelope closing)
    (mqs : after.mq = session.mq)
    (replies : after.exchange.replyMq = Function.update session.exchange.replyMq mq
      (session.exchange.replyMq mq ++ [envelope])) :
    ∑ client, after.backlog client ≤ ∑ client, session.backlog client + 1 := by
  have own := draining.routes.sending index mq envelope closing sends
  have here : after.backlog envelope.sender + 0 ≤ session.backlog envelope.sender + 1 := by
    simp [backlog, mqs, own, replies]
  have others (other : Client) (different : other ≠ envelope.sender) :
      after.backlog other = session.backlog other := by
    cases otherMq : session.mq other with
    | none => simp [backlog, mqs, otherMq]
    | some place =>
        have apart : place ≠ mq := by
          rintro rfl
          exact different (draining.routes.own other envelope.sender place otherMq own)
        simp [backlog, mqs, otherMq, replies, apart]
  exact sum_add_le _ _ 0 1 here others

omit [Fintype Client] in
theorem receive_requests {client : Client}
    (stepped : session.receive setting client = some after) :
    after.exchange.requestMq = session.exchange.requestMq := by
  unfold Session.receive at stepped
  split at stepped
  · simp at stepped
  · split at stepped
    · simp at stepped
    · rename_i popped
      obtain ⟨_, _, rfl⟩ := Option.map_eq_some_iff.mp stepped
      obtain ⟨_, _, rfl⟩ := Exchange.popReply_spec popped
      rfl

omit [DecidableEq Client] in
/-- A step that sends nothing only has to use up work of its thread. -/
theorem lowers_silent (index : Nat) (member : index ∈ indices setting) (mqs : after.mq = session.mq)
    (replies : after.exchange.replyMq = session.exchange.replyMq)
    (here : after.exchange.work index < session.exchange.work index)
    (queues : ∀ other, other ≠ index →
      after.exchange.requestMq other = session.exchange.requestMq other)
    (threads : ∀ other, other ≠ index →
      after.exchange.thread other = session.exchange.thread other) :
    after.measure setting < session.measure setting := by
  have lower := work_lowers member here queues threads
  have same := backlog_same mqs replies
  unfold measure
  omega

theorem Draining.sent_lowers (draining : session.Draining setting) {index mq : Nat}
    {envelope : Envelope Client Reply} {closing : Option UInt64}
    (sends : session.exchange.thread index = .sending mq envelope closing)
    (mqs : after.mq = session.mq) (queues : after.exchange.requestMq = session.exchange.requestMq)
    (threads : after.exchange.thread =
      Function.update session.exchange.thread index (Exchange.afterSend closing))
    (replies : after.exchange.replyMq = Function.update session.exchange.replyMq mq
      (session.exchange.replyMq mq ++ [envelope])) :
    after.measure setting < session.measure setting := by
  have member : index ∈ indices setting := by
    have ok := draining.inv.threads index
    rw [sends] at ok
    rw [ok.1]
    exact mem_indices _
  have here : after.exchange.work index < session.exchange.work index := by
    cases closing <;>
      simp [Exchange.work, queues, threads, sends, Exchange.afterSend, Thread.work]
  have lower := work_lowers member here (fun other _ => by rw [queues])
    fun other different => by simp [threads, different]
  have longer := draining.backlog_sent sends mqs replies
  unfold measure
  omega

theorem Draining.server_lowers (draining : session.Draining setting) {label : ServerLabel Nat}
    (regular : session.Regular (.server label)) (served : session.serve label = some after) :
    after.measure setting < session.measure setting := by
  have inv := draining.inv
  obtain ⟨exchange, _, move, rfl⟩ := serve_move served
  cases move with
  | @received index request rest idle queue notStop =>
      have place : index = setting.index request.sender := inv.queued index request (by simp [queue])
      refine lowers_silent index ?_ rfl rfl ?_ ?_ ?_
      · rw [place]
        exact mem_indices _
      · simp [Exchange.work, Exchange.setThread, idle, queue, Thread.work]
        omega
      · exact fun other different => by simp [Exchange.setThread, different]
      · exact fun other different => by simp [Exchange.setThread, different]
  | stopped idle queue stop => exact (inv.noStop queue stop).elim
  | @done index kernel request world hand handling =>
      refine lowers_silent index ?_ rfl rfl ?_ (fun _ _ => rfl) ?_
      · rw [inv.inHand hand]
        exact mem_indices _
      · simp [Exchange.work, Exchange.setThread, hand, Thread.work]
      · exact fun other different => by simp [Exchange.setThread, different]
  | @replied index kernel request world mq reply closing hand handling =>
      refine lowers_silent index ?_ rfl rfl ?_ (fun _ _ => rfl) ?_
      · rw [inv.inHand hand]
        exact mem_indices _
      · simp [Exchange.work, Exchange.setThread, hand, Thread.work]
      · exact fun other different => by simp [Exchange.setThread, different]
  | @aborted index kernel request world fault hand handling =>
      obtain ⟨succeeds, inRange⟩ := regular.2 request hand
      exact (draining.matching.noAbort inv draining.routes hand succeeds inRange handling).elim
  | sent sends room => exact draining.sent_lowers sends rfl rfl rfl rfl
  | @closed index volume volState closing live =>
      refine lowers_silent index ?_ rfl rfl ?_ (fun _ _ => rfl) ?_
      · have doomed := inv.threads index
        rw [closing] at doomed
        obtain ⟨client, _, place, _⟩ := doomed
        rw [← place]
        exact mem_indices _
      · simp [Exchange.work, Exchange.setThread, closing, Thread.work]
      · exact fun other different => by simp [Exchange.setThread, different]
  | closedNull closing => exact (inv.closing closing (Or.inl rfl)).elim
  | closedDead closing gone => exact (inv.closing closing (Or.inr gone)).elim

theorem Draining.receive_lowers (draining : session.Draining setting) {client : Client}
    (stepped : session.receive setting client = some after) :
    after.measure setting < session.measure setting := by
  obtain ⟨mq, envelope, rest, outcome, own, queue, _, move, _⟩ := receive_move stepped
  obtain ⟨mqs, _, replies⟩ := receive_queues own queue stepped
  have works : ∑ index ∈ indices setting, after.exchange.work index =
      ∑ index ∈ indices setting, session.exchange.work index := by
    simp only [Exchange.work, move.threads, receive_requests stepped]
  have here : after.backlog client + 1 ≤ session.backlog client + 0 := by
    simp [backlog, mqs, own, replies, queue]
  have others (other : Client) (different : other ≠ client) :
      after.backlog other = session.backlog other := by
    cases otherMq : session.mq other with
    | none => simp [backlog, mqs, otherMq]
    | some place =>
        have apart : place ≠ mq := by
          rintro rfl
          exact different (draining.routes.own other client place otherMq own)
        simp [backlog, mqs, otherMq, replies, apart]
  have fewer := sum_add_le _ _ 1 0 here others
  unfold measure
  omega

end Measure

/-! What is known of the session stays so. -/

/-- The server takes requests away and adds none. -/
theorem Inv.serve_requests (inv : session.Inv setting) {label : ServerLabel Nat}
    (served : session.serve label = some after) {client : Client} {request : Request}
    (listed : request ∈ after.requests setting client) :
    request ∈ session.requests setting client := by
  obtain ⟨exchange, _, move, rfl⟩ := serve_move served
  obtain ⟨envelope, member, rfl⟩ := List.mem_map.mp listed
  change envelope ∈ exchange.inFlight (setting.index client) client at member
  refine List.mem_map_of_mem ?_
  cases move with
  | received idle queue notStop => rwa [Exchange.inFlight_received idle queue] at member
  | stopped idle queue stop => exact (inv.noStop queue stop).elim
  | done hand handling =>
      exact inFlight_handled hand (by rfl) (by rfl) (fun _ => by rfl) client envelope member
  | replied hand handling =>
      exact inFlight_handled hand (by rfl) (by rfl) (fun _ => by rfl) client envelope member
  | aborted hand handling => exact member
  | @sent index mq reply closing sends room =>
      rwa [Exchange.inFlight_setThread _ client (by simp [sends, Thread.requestsOf])
        (by cases closing <;> rfl)] at member
  | closed closing live =>
      rwa [Exchange.inFlight_setThread _ client (by simp [closing, Thread.requestsOf]) rfl] at member
  | closedNull closing => exact (inv.closing closing (Or.inl rfl)).elim
  | closedDead closing gone => exact (inv.closing closing (Or.inr gone)).elim

/-- No thread ends, for clients send no stop message. -/
theorem Inv.serve_serving (inv : session.Inv setting) {label : ServerLabel Nat}
    (serving : ∀ index, session.exchange.thread index ≠ .stopped)
    (served : session.serve label = some after) (index : Nat) :
    after.exchange.thread index ≠ .stopped := by
  obtain ⟨exchange, _, move, rfl⟩ := serve_move served
  have others {place : Nat} {thread : Thread Client} (goes : thread ≠ .stopped) :
      Function.update session.exchange.thread place thread index ≠ .stopped := by
    by_cases same : index = place
    · subst same
      simpa using goes
    · simpa [same] using serving index
  cases move with
  | received idle queue notStop => exact others (by simp)
  | stopped idle queue stop => exact (inv.noStop queue stop).elim
  | done hand handling => exact others (by simp)
  | replied hand handling => exact others (by simp)
  | aborted hand handling => exact serving index
  | @sent _ mq reply closing sends room => exact others (by cases closing <;> simp [Exchange.afterSend])
  | closed closing live => exact others (by simp)
  | closedNull closing => exact (inv.closing closing (Or.inl rfl)).elim
  | closedDead closing gone => exact (inv.closing closing (Or.inr gone)).elim

/-- The steps of the clients leave the threads alone. -/
theorem step_serving (inv : session.Inv setting)
    (serving : ∀ index, session.exchange.thread index ≠ .stopped) {label : SessionLabel Client}
    (stepped : session.step setting label = some after) (index : Nat) :
    after.exchange.thread index ≠ .stopped := by
  cases label with
  | remove client => obtain ⟨_, rfl | rfl⟩ := remove_cases stepped <;> exact serving index
  | create client queue =>
      obtain ⟨_, ⟨_, _, _, rfl⟩ | rfl⟩ := create_cases stepped <;> exact serving index
  | sendOpen client =>
      rw [(post_move (sendOpen_cases stepped).2).1.threads]
      exact serving index
  | call client call =>
      obtain ⟨_, _, rfl | ⟨_, _, posted⟩⟩ := call_cases stepped
      · exact serving index
      · rw [(post_move posted).1.threads]
        exact serving index
  | sendClose client =>
      rw [(post_move (sendClose_cases stepped).2).1.threads]
      exact serving index
  | receive client =>
      obtain ⟨_, _, _, _, _, _, _, move, _⟩ := receive_move stepped
      rw [move.threads]
      exact serving index
  | destroy client =>
      obtain ⟨_, rfl⟩ := destroy_cases stepped
      exact serving index
  | server label => exact inv.serve_serving serving stepped index

theorem Working.step (working : session.Working setting) (synchronous : setting.Synchronous)
    {label : SessionLabel Client} (regular : session.Regular label)
    (terminates : session.Terminates label) (stepped : session.step setting label = some after) :
    after.Working setting := by
  have permitted : session.Permitted label := ⟨regular.1, working.routes.delivered label⟩
  have matching := working.matching.step working.inv working.routes synchronous regular terminates
    stepped
  exact {
    inv := working.inv.step permitted stepped
    routes := working.routes.step working.inv (regular.orderly terminates synchronous) stepped
    matching
    releasing := working.releasing.step working.inv permitted stepped matching.alive
    serving := step_serving working.inv working.serving stepped }

theorem start_working (setting : Setting Client) (files : Name → Option VolumeFile)
    (mqNames : Name → Option Nat) : (start setting files mqNames).Working setting where
  inv := start_inv setting files mqNames
  routes := start_routes setting files mqNames
  matching := start_matching setting files mqNames
  releasing := start_releasing setting files mqNames
  serving := fun _ => by simp [start]

theorem working_run (synchronous : setting.Synchronous) {files : Name → Option VolumeFile}
    {mqNames : Name → Option Nat} {trace : List Empty}
    (run : (machine setting).Run (fun session label => session.Regular label ∧
      session.Terminates label) (start setting files mqNames) trace session) :
    session.Working setting := by
  refine run.invariant (fun _ session => session.Working setting)
    (start_working setting files mqNames) ?_
  rintro trace session label after events working ⟨regular, terminates⟩ stepped
  exact working.step synchronous regular terminates (machine_step stepped)

theorem Draining.step (draining : session.Draining setting) (synchronous : setting.Synchronous)
    {label : SessionLabel Client} (regular : session.Regular label) (drains : Drains label)
    (stepped : session.step setting label = some after) : after.Draining setting := by
  have terminates : session.Terminates label := by
    cases label <;> trivial
  refine { draining.toWorking.step synchronous regular terminates stepped with inVolumes := ?_ }
  intro client request member
  refine draining.inVolumes client request ?_
  cases label with
  | server label => exact draining.inv.serve_requests stepped member
  | receive other =>
      obtain ⟨_, _, _, _, _, _, _, move, _, _, own⟩ := receive_move stepped
      by_cases same : client = other
      · subst same
        rwa [Session.requests, own] at member
      · rwa [Session.requests, (move.others client same).2.2] at member
  | remove client => exact drains.elim
  | create client queue => exact drains.elim
  | sendOpen client => exact drains.elim
  | call client call => exact drains.elim
  | sendClose client => exact drains.elim
  | destroy client => exact drains.elim

/-! Nothing is left in the end. -/

/-- A server that is quiet and clients that wait for nothing are at rest. -/
theorem Draining.atRest (draining : session.Draining setting) (quiet : session.Quiet setting)
    (answered : ∀ client, (session.stage client).waitsFor = none) : session.AtRest setting := by
  have matched := draining.matching.matched draining.inv draining.routes
  have alive := draining.matching.alive
  refine ⟨quiet, alive, answered, ?_, ?_, ?_⟩
  · intro client mq own
    refine List.eq_nil_iff_forall_not_mem.mpr fun reply arrived => ?_
    obtain ⟨_, request, waits, _⟩ := matched.matching client mq reply own arrived
    simp [answered client] at waits
  · intro fd name isOpen
    obtain ⟨volume, volState, live, rfl⟩ := draining.inv.descriptors alive fd name isOpen
    have opened := draining.inv.sound.fdOpen volume volState live
    exact ⟨volume, volState, live, rfl, Option.some.inj (opened.symm.trans isOpen)⟩
  · intro volume volState live
    obtain ⟨client, owner⟩ := draining.releasing.owned volume volState live
    refine ⟨client, owner, ?_⟩
    have holds : session.Holds client volume := ⟨⟨volState, live⟩, owner⟩
    have keeps : (session.stage client).keeps = true := by
      by_contra keeps
      exact draining.releasing.none_held draining.inv quiet (by simpa using keeps) volume holds
    have waitless := answered client
    have agrees := matched.asserts client
    cases stage : session.stage client <;>
      simp_all [Stage.keeps, Stage.waitsFor]

end Session

end Cvbd
