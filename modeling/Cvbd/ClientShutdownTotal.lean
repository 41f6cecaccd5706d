import Cvbd.ClientShutdownChecks

/-! The stop message is queued behind the release of the reply object it is to be received into,
so the reply thread cannot end without a misuse. -/

namespace Cvbd

/-- The destructor has released the reply object. -/
def ClientDestructor.released : ClientDestructor → Bool
  | .removing | .stopping | .destroying | .finished => true
  | .outside | .closing _ | .resettingRequest | .resettingReply => false

namespace ClientShutdown

variable {Index Client : Type} [DecidableEq Index] [DecidableEq Client]
variable {self : Client} {endpoints : Client → Endpoint Index}
variable {state after : ClientShutdown Index Client}

/-- A stop flag is in the queue only behind the release, and in the thread only after a misuse. -/
structure Inv (closer : Client) (endpoints : Client → Endpoint Index)
    (state : ClientShutdown Index Client) : Prop where
  unstopped : Unstopped state.async
  replies : ∀ envelope, envelope ∈ state.async.exchange.replyMq (endpoints closer).mq →
    envelope.body.header.stop = true → state.replyMsg = false
  taken : ∀ call reply, (state.client closer).replyThread = .hand call reply →
    reply.header.stop = true → state.misuse.isSome = true
  ended : (state.client closer).replyThread = .stopped → state.misuse.isSome = true
  released : state.destructor.released = true → state.replyMsg = false
  closing : ∀ request, state.destructor = .closing request → request.header.stop = false

omit [DecidableEq Index] [DecidableEq Client] in
theorem Start.inv (start : state.Start self endpoints) : state.Inv self endpoints where
  unstopped := start.unstopped
  replies := by
    intro envelope member stop
    simp [start.replies envelope member] at stop
  taken := by
    intro call reply hand stop
    simp [start.taken call reply hand] at stop
  ended := fun stopped => (start.running stopped).elim
  released := by simp [start.destructor, ClientDestructor.released]
  closing := by simp [start.destructor]

omit [DecidableEq Index] [DecidableEq Client] in
theorem Inv.frame (inv : state.Inv self endpoints) (unstopped : Unstopped after.async)
    (replies : ∀ envelope, envelope ∈ after.async.exchange.replyMq (endpoints self).mq →
      envelope ∈ state.async.exchange.replyMq (endpoints self).mq ∨
        envelope.body.header.stop = false)
    (thread : (after.client self).replyThread = (state.client self).replyThread)
    (replyMsg : after.replyMsg = state.replyMsg) (misuse : after.misuse = state.misuse)
    (released : after.destructor.released = state.destructor.released)
    (closing : ∀ request, after.destructor = .closing request → request.header.stop = false) :
    after.Inv self endpoints where
  unstopped := unstopped
  replies := by
    intro envelope member stop
    rw [replyMsg]
    rcases replies envelope member with old | plain
    · exact inv.replies envelope old stop
    · simp [plain] at stop
  taken := by
    rw [thread, misuse]
    exact inv.taken
  ended := by
    rw [thread, misuse]
    exact inv.ended
  released := by
    rw [released, replyMsg]
    exact inv.released
  closing := closing

omit [DecidableEq Index] [DecidableEq Client] in
theorem Inv.useQueue (inv : state.Inv self endpoints) : state.useQueue.Inv self endpoints := by
  unfold ClientShutdown.useQueue
  split
  · exact inv
  · exact ⟨inv.unstopped, inv.replies, fun _ _ _ _ => rfl, fun _ => rfl, inv.released, inv.closing⟩

omit [DecidableEq Index] [DecidableEq Client] in
theorem Inv.useReply (inv : state.Inv self endpoints) : state.useReply.Inv self endpoints := by
  unfold ClientShutdown.useReply
  split
  · exact inv
  · exact ⟨inv.unstopped, inv.replies, fun _ _ _ _ => rfl, fun _ => rfl, inv.released, inv.closing⟩

omit [DecidableEq Index] [DecidableEq Client] in
theorem useReply_misuse (gone : state.replyMsg = false) : state.useReply.misuse.isSome = true := by
  simp [ClientShutdown.useReply, gone]

omit [DecidableEq Index] [DecidableEq Client] in
@[simp] theorem useQueue_async : state.useQueue.async = state.async := by
  unfold ClientShutdown.useQueue
  split <;> rfl

omit [DecidableEq Index] [DecidableEq Client] in
@[simp] theorem useReply_async : state.useReply.async = state.async := by
  unfold ClientShutdown.useReply
  split <;> rfl

omit [DecidableEq Index] [DecidableEq Client] in
@[simp] theorem useQueue_replyMsg : state.useQueue.replyMsg = state.replyMsg := by
  unfold ClientShutdown.useQueue
  split <;> rfl

omit [DecidableEq Index] [DecidableEq Client] in
@[simp] theorem useQueue_destructor : state.useQueue.destructor = state.destructor := by
  unfold ClientShutdown.useQueue
  split <;> rfl

theorem selfStep_async {label : ClientLabel}
    (stepped : state.selfStep self endpoints label = some after) :
    ∃ events, state.async.clientStep endpoints self label = some (after.async, events) := by
  unfold selfStep at stepped
  cases moved : state.async.clientStep endpoints self label with
  | none => simp [moved] at stepped
  | some outcome =>
      obtain ⟨async, events⟩ := outcome
      simp only [moved] at stepped
      refine ⟨events, ?_⟩
      split at stepped
      · split at stepped
        · obtain rfl := Option.some.inj stepped
          rfl
        · simp at stepped
      · obtain rfl := Option.some.inj stepped
        rfl
      · split at stepped
        · obtain rfl := Option.some.inj stepped
          rfl
        · simp at stepped
      · split at stepped
        · obtain rfl := Option.some.inj stepped
          rfl
        · obtain rfl := Option.some.inj stepped
          rfl
        · simp at stepped

theorem Inv.receive (inv : state.Inv self endpoints)
    (stepped : state.selfStep self endpoints .receive = some after) :
    after.Inv self endpoints := by
  obtain ⟨events, moved⟩ := selfStep_async stepped
  have unstopped := inv.unstopped.clientStep moved
  have fewer := (clientStep_frame moved).1
  have used := inv.useQueue.useReply
  obtain ⟨oldest, rest, queue, taken⟩ := clientStep_received moved
  simp only [selfStep, moved] at stepped
  split at stepped
  · simp only [Option.some.injEq] at stepped
    refine ⟨unstopped, ?_, ?_, ?_, ?_, ?_⟩
    · intro envelope member stop
      rw [← stepped]
      exact used.replies envelope (by simpa using fewer _ _ member) stop
    · intro call reply hand stop
      -- A stop message is in the queue only when the reply object is gone.
      rw [client, taken] at hand
      obtain ⟨rfl, rfl⟩ := ReplyThread.hand.inj hand
      have gone := inv.replies oldest (by simp [queue]) stop
      rw [← stepped]
      exact useReply_misuse (by simpa using gone)
    · intro stopped
      simp [client, taken] at stopped
    · rw [← stepped]
      exact used.released
    · rw [← stepped]
      exact used.closing
  · simp at stepped

theorem Inv.copy (inv : state.Inv self endpoints)
    (stepped : state.selfStep self endpoints (.inside .copy) = some after) :
    after.Inv self endpoints := by
  obtain ⟨events, moved⟩ := selfStep_async stepped
  have unstopped := inv.unstopped.clientStep moved
  have fewer := (clientStep_frame moved).1
  have used := inv.useReply
  obtain ⟨call, reply, hand, became⟩ := clientStep_copied moved
  obtain ⟨_, ended, taken⟩ := (state.async.clients self).handleCoReply_spec reply
  simp only [selfStep, moved, Option.some.injEq] at stepped
  refine ⟨unstopped, ?_, ?_, ?_, ?_, ?_⟩
  · intro envelope member stop
    rw [← stepped]
    exact used.replies envelope (by simpa using fewer _ _ member) stop
  · intro call other holds stop
    rw [client, became] at holds
    rw [← stepped]
    exact used.taken call other (by simpa [client] using taken _ _ holds) stop
  · intro stopped
    rw [client, became] at stopped
    rw [← stepped]
    rcases ended stopped with stop | before
    · exact used.taken call reply (by simpa [client] using hand) stop
    · exact used.ended (by simpa [client] using before)
  · rw [← stepped]
    exact used.released
  · rw [← stepped]
    exact used.closing

theorem Inv.finish (inv : state.Inv self endpoints)
    (stepped : state.selfStep self endpoints (.inside .finish) = some after) :
    after.Inv self endpoints := by
  obtain ⟨events, moved⟩ := selfStep_async stepped
  have unstopped := inv.unstopped.clientStep moved
  have fewer := (clientStep_frame moved).1
  obtain ⟨acb, ret, finishing, became⟩ := clientStep_finished moved
  have idle : (after.client self).replyThread = .idle ∨
      (after.client self).replyThread = .finishing acb ret := by
    rw [client, became, ← finishing]
    exact (state.async.clients self).finish_spec acb ret
  simp only [selfStep, moved, client, finishing, Option.some.injEq] at stepped
  refine ⟨unstopped, ?_, ?_, ?_, ?_, ?_⟩
  · intro envelope member stop
    rw [← stepped]
    exact inv.replies envelope (fewer _ _ member) stop
  · intro call reply hand
    rcases idle with free | busy
    · simp [free] at hand
    · simp [busy] at hand
  · intro stopped
    rcases idle with free | busy
    · simp [free] at stopped
    · simp [busy] at stopped
  · rw [← stepped]
    exact inv.released
  · rw [← stepped]
    exact inv.closing

theorem Inv.elsewhere (inv : state.Inv self endpoints) {label : ClientLabel}
    (receive : label ≠ .receive) (copy : label ≠ .inside .copy) (finish : label ≠ .inside .finish)
    (stepped : state.selfStep self endpoints label = some after) : after.Inv self endpoints := by
  obtain ⟨events, moved⟩ := selfStep_async stepped
  have unstopped := inv.unstopped.clientStep moved
  have fewer := (clientStep_frame moved).1
  have thread : (after.client self).replyThread = (state.client self).replyThread :=
    clientStep_elsewhere receive copy finish moved
  have rest : after = { state with async := after.async } := by
    simp only [selfStep, moved] at stepped
    split at stepped
    · exact (Option.some.inj stepped).symm
    · exact (Option.some.inj stepped).symm
    · simp at stepped
  refine inv.frame unstopped (fun envelope member => Or.inl (fewer _ _ member)) thread ?_ ?_ ?_ ?_
  · rw [rest]
  · rw [rest]
  · rw [rest]
  · rw [rest]
    exact inv.closing

theorem Inv.selfStep (inv : state.Inv self endpoints) {label : ClientLabel}
    (stepped : state.selfStep self endpoints label = some after) : after.Inv self endpoints := by
  by_cases receive : label = .receive
  · subst receive
    exact inv.receive stepped
  · by_cases copy : label = .inside .copy
    · subst copy
      exact inv.copy stepped
    · by_cases finish : label = .inside .finish
      · subst finish
        exact inv.finish stepped
      · exact inv.elsewhere receive copy finish stepped

theorem Inv.otherStep (inv : state.Inv self endpoints) {label : AsyncLabel Index Client}
    (foreign : ∀ client own, label = .client client own → client ≠ self)
    (stepped : state.otherStep self endpoints label = some after) : after.Inv self endpoints := by
  unfold ClientShutdown.otherStep at stepped
  split at stepped
  · simp at stepped
  rename_i async events moved
  cases label with
  | client client label =>
      simp only [Option.some.injEq] at stepped
      subst stepped
      obtain ⟨fewer, others⟩ := clientStep_frame moved
      refine inv.frame (inv.unstopped.clientStep moved)
        (fun envelope member => Or.inl (fewer _ _ member)) ?_ rfl rfl rfl inv.closing
      rw [ClientShutdown.client, ClientShutdown.client,
        others self (Ne.symm (foreign client label rfl))]
  | server label =>
      simp only [AsyncState.machine] at moved
      split at moved
      · rename_i exchange served
        obtain rfl := (Prod.mk.inj (Option.some.inj moved)).1
        have move := (Exchange.serverStep_move served).2
        have kept : ({ state with async := { state.async with exchange } } :
            ClientShutdown Index Client).Inv self endpoints :=
          inv.frame (inv.unstopped.serve move)
            (fun envelope member => inv.unstopped.replies move member) rfl rfl rfl rfl inv.closing
        simp only at stepped
        split at stepped
        · obtain rfl := Option.some.inj stepped
          exact kept
        · obtain rfl := Option.some.inj stepped
          exact ⟨kept.unstopped, kept.replies, kept.taken, kept.ended, kept.released, kept.closing⟩
      · simp at moved

omit [DecidableEq Index] [DecidableEq Client] in
theorem Inv.enter (inv : state.Inv self endpoints) (stepped : state.enter self = some after) :
    after.Inv self endpoints := by
  unfold ClientShutdown.enter at stepped
  split at stepped
  · obtain rfl := Option.some.inj stepped
    have used := inv.useQueue
    exact ⟨used.unstopped, used.replies, used.taken, used.ended, used.released, used.closing⟩
  · simp at stepped

omit [DecidableEq Index] in
theorem Inv.close (inv : state.Inv self endpoints) (stepped : state.close self = some after) :
    after.Inv self endpoints := by
  unfold ClientShutdown.close at stepped
  split at stepped
  · rename_i outside _
    obtain rfl := Option.some.inj stepped
    refine inv.frame ?_ (fun _ => Or.inl) ?_ rfl rfl ?_ ?_
    · exact inv.unstopped.client fun request posts => Or.inl posts
    · simp [client]
    · simp [outside, ClientDestructor.released]
    · have plain : (state.client self).shared.sendClose.1.header.stop = false := by
        rw [SharedMemClient.sendClose_request]
        rfl
      rintro _ ⟨⟩
      exact plain
  · simp at stepped

omit [DecidableEq Client] in
theorem Inv.sendClose (inv : state.Inv self endpoints)
    (stepped : state.sendClose self endpoints = some after) : after.Inv self endpoints := by
  unfold ClientShutdown.sendClose at stepped
  split at stepped
  · rename_i request closing
    split at stepped
    · simp at stepped
    · rename_i exchange pushed
      obtain rfl := Option.some.inj stepped
      have unstopped := inv.unstopped.push (inv.closing request closing) pushed
      obtain ⟨_, rfl⟩ := Exchange.pushRequest_spec pushed
      refine inv.frame unstopped (fun _ => Or.inl) rfl rfl rfl ?_ (by simp)
      simp [closing, ClientDestructor.released]
  · simp at stepped

omit [DecidableEq Index] [DecidableEq Client] in
/-- The destructor moves on and touches neither the messages nor the reply object. -/
theorem Inv.advance (inv : state.Inv self endpoints) (next : ClientDestructor)
    (released : next.released = state.destructor.released)
    (notClosing : ∀ request, next ≠ .closing request) :
    ({ state with destructor := next } : ClientShutdown Index Client).Inv self endpoints :=
  inv.frame inv.unstopped (fun _ => Or.inl) rfl rfl rfl released
    fun request closing => (notClosing request closing).elim

omit [DecidableEq Index] [DecidableEq Client] in
theorem Inv.closeFails (inv : state.Inv self endpoints) (stepped : state.closeFails = some after) :
    after.Inv self endpoints := by
  unfold ClientShutdown.closeFails at stepped
  split at stepped
  · rename_i closing
    obtain rfl := Option.some.inj stepped
    exact inv.advance _ (by simp [closing, ClientDestructor.released]) (by simp)
  · simp at stepped

omit [DecidableEq Index] [DecidableEq Client] in
theorem Inv.resetRequest (inv : state.Inv self endpoints)
    (stepped : state.resetRequest = some after) : after.Inv self endpoints := by
  unfold ClientShutdown.resetRequest at stepped
  split at stepped
  · rename_i resetting
    obtain rfl := Option.some.inj stepped
    exact inv.advance _ (by simp [resetting, ClientDestructor.released]) (by simp)
  · simp at stepped

omit [DecidableEq Index] [DecidableEq Client] in
/-- From here on a stop message may be queued. -/
theorem Inv.resetReply (inv : state.Inv self endpoints) (stepped : state.resetReply = some after) :
    after.Inv self endpoints := by
  unfold ClientShutdown.resetReply at stepped
  split at stepped
  · obtain rfl := Option.some.inj stepped
    exact ⟨inv.unstopped, fun _ _ _ => rfl, inv.taken, inv.ended, fun _ => rfl, by simp⟩
  · simp at stepped

omit [DecidableEq Index] [DecidableEq Client] in
theorem Inv.remove (inv : state.Inv self endpoints) (stepped : state.remove self = some after) :
    after.Inv self endpoints := by
  unfold ClientShutdown.remove at stepped
  split at stepped
  · rename_i removing
    obtain rfl := Option.some.inj stepped
    refine inv.frame ?_ (fun _ => Or.inl) rfl rfl rfl ?_ (by simp)
    · have kept := inv.unstopped
      exact ⟨kept.posting, kept.queued, kept.hand, kept.sending⟩
    · simp [removing, ClientDestructor.released]
  · simp at stepped

omit [DecidableEq Index] [DecidableEq Client] in
/-- The stop message is queued when the reply object is gone. -/
theorem Inv.stop (inv : state.Inv self endpoints) (stepped : state.stop self endpoints = some after) :
    after.Inv self endpoints := by
  unfold ClientShutdown.stop at stepped
  split at stepped
  · rename_i stopping
    have gone := inv.released (by simp [stopping, ClientDestructor.released])
    simp only at stepped
    split at stepped
    · obtain rfl := Option.some.inj stepped
      have kept := inv.unstopped
      exact ⟨⟨kept.posting, kept.queued, kept.hand, kept.sending⟩, fun _ _ _ => gone, inv.taken,
        inv.ended, fun _ => gone, by simp⟩
    · obtain rfl := Option.some.inj stepped
      exact inv.advance _ (by simp [stopping, ClientDestructor.released]) (by simp)
  · simp at stepped

omit [DecidableEq Index] [DecidableEq Client] in
theorem Inv.destroy (inv : state.Inv self endpoints) (stepped : state.destroy = some after) :
    after.Inv self endpoints := by
  unfold ClientShutdown.destroy at stepped
  split at stepped
  · rename_i destroying
    obtain rfl := Option.some.inj stepped
    refine inv.frame inv.unstopped (fun _ => Or.inl) rfl rfl rfl ?_ (by simp)
    simp [destroying, ClientDestructor.released]
  · simp at stepped

theorem Inv.step (inv : state.Inv self endpoints) {label : ClientShutdownLabel Index Client}
    (stepped : state.step self endpoints label = some after) : after.Inv self endpoints := by
  cases label with
  | async label =>
      cases label with
      | client client label =>
          simp only [ClientShutdown.step] at stepped
          split at stepped
          · exact inv.selfStep stepped
          · rename_i foreign
            refine inv.otherStep ?_ stepped
            rintro _ _ ⟨⟩
            exact foreign
      | server label => exact inv.otherStep (by simp) stepped
  | enter => exact inv.enter (Option.ite_none_left_eq_some.mp stepped).2
  | close => exact inv.close (Option.ite_none_left_eq_some.mp stepped).2
  | sendClose => exact inv.sendClose (Option.ite_none_left_eq_some.mp stepped).2
  | closeFails => exact inv.closeFails (Option.ite_none_left_eq_some.mp stepped).2
  | resetRequest => exact inv.resetRequest (Option.ite_none_left_eq_some.mp stepped).2
  | resetReply => exact inv.resetReply (Option.ite_none_left_eq_some.mp stepped).2
  | remove => exact inv.remove (Option.ite_none_left_eq_some.mp stepped).2
  | stop => exact inv.stop (Option.ite_none_left_eq_some.mp stepped).2
  | destroy => exact inv.destroy (Option.ite_none_left_eq_some.mp stepped).2

theorem Inv.run (inv : state.Inv self endpoints) {trace : List Empty}
    (run : (machine self endpoints).Run Valid state trace after) : after.Inv self endpoints := by
  refine Machine.Run.invariant (fun _ state => state.Inv self endpoints) inv ?_ run
  intro _ state label after _ inv _ stepped
  obtain ⟨next, moved, equal⟩ := Option.map_eq_some_iff.mp stepped
  obtain rfl := congrArg Prod.fst equal
  exact inv.step moved

/-- No completed `cvbd_close` is clean: the reply thread has not ended, and it can end only by
receiving the stop message into the reply object that has been released. -/
theorem Start.notClean {start : ClientShutdown Index Client} (initial : start.Start self endpoints)
    {trace : List Empty} (run : (machine self endpoints).Run Valid start trace state)
    (finished : state.destructor = .finished) : ¬state.Clean self endpoints := by
  intro clean
  obtain ⟨_, later, goesOn, stopped, noMisuse⟩ := clean.exits finished
  have misused := ((initial.inv.run run).run goesOn).ended stopped
  simp [noMisuse] at misused

end ClientShutdown

end Cvbd
