import Cvbd.DrainCore

/-!
The steps of a session that is drained: there is one as long as anything is left
to do, for which the kernel needs a free descriptor and a free address, and each
of them uses up work.
-/

namespace Cvbd

/-- More numbers than clients do not all belong to a client of their own. -/
theorem pigeonhole {Client : Type} [Fintype Client] (belongs : Nat → Client → Prop)
    (each : ∀ number, number ≤ Fintype.card Client → ∃ client, belongs number client)
    (own : ∀ first second client, first ≤ Fintype.card Client → second ≤ Fintype.card Client →
      belongs first client → belongs second client → first = second) : False := by
  have chosen (number : Fin (Fintype.card Client + 1)) :=
    each number (Nat.le_of_lt_succ number.isLt)
  choose client belongs using chosen
  have injective : Function.Injective client := by
    intro first second same
    have second_belongs := belongs second
    rw [← same] at second_belongs
    exact Fin.ext (own first second (client first) (Nat.le_of_lt_succ first.isLt)
      (Nat.le_of_lt_succ second.isLt) (belongs first) second_belongs)
  have few := Fintype.card_le_of_injective client injective
  rw [Fintype.card_fin] at few
  omega

namespace Session

variable {Client : Type} [DecidableEq Client] {setting : Setting Client}
variable {session after : Session Client}

/-! What the kernel can give out. -/

/-- A client holds one `VolumeState` at most. -/
theorem Inv.held_unique (inv : session.Inv setting) {client : Client} {first second : UInt64}
    (holds : session.Holds client first) (again : session.Holds client second) :
    first = second := by
  have one {volume : UInt64} (held : (session.account setting client).With volume) :
      first = second := ((held.1 _).mp holds).trans ((held.1 _).mp again).symm
  obtain ⟨phase, _, place⟩ := inv.standing client
  cases phase with
  | unopened => exact (place.2.2.1 _ holds).elim
  | asked => exact (place.2.2.1 _ holds).elim
  | answered reply =>
      rcases place.2.2 with held | ⟨_, without⟩
      · exact one held
      · exact (without.1 _ holds).elim
  | inUse reply => exact one place.2.2.2.1
  | closing reply => exact one place.2.2.1
  | closed reply => exact (place.2.2.2.1 _ holds).elim

variable [Fintype Client]

theorem Draining.free_volume (draining : session.Draining setting)
    (few : Fintype.card Client + 1 < 2 ^ 64) :
    ∃ volume, volume ≠ 0 ∧ session.exchange.world.volumes volume = none := by
  by_contra full
  push Not at full
  have nonzero (number : Nat) (small : number ≤ Fintype.card Client) :
      (UInt64.ofNat (number + 1)).toNat = number + 1 := by
    rw [UInt64.toNat_ofNat']
    exact Nat.mod_eq_of_lt (by omega)
  refine pigeonhole (fun number client =>
    session.Holds client (UInt64.ofNat (number + 1))) ?_ ?_
  · intro number small
    have live := full (UInt64.ofNat (number + 1)) fun null => by
      have zero := congrArg UInt64.toNat null
      rw [nonzero number small] at zero
      simp at zero
    obtain ⟨volState, live⟩ := Option.ne_none_iff_exists'.mp live
    obtain ⟨client, owner⟩ := draining.releasing.owned _ volState live
    exact ⟨client, ⟨volState, live⟩, owner⟩
  · intro first second client smallFirst smallSecond holds again
    have same := congrArg UInt64.toNat (draining.inv.held_unique holds again)
    rw [nonzero first smallFirst, nonzero second smallSecond] at same
    omega

theorem Draining.free_fd (draining : session.Draining setting) :
    ∃ fd, session.exchange.world.fds fd = none := by
  by_contra full
  push Not at full
  refine pigeonhole (fun fd client => ∃ volume volState,
    session.exchange.world.volumes volume = some volState ∧ volState.fd = fd ∧
      session.exchange.owner volume = some client) ?_ ?_
  · intro fd _
    obtain ⟨name, isOpen⟩ := Option.ne_none_iff_exists'.mp (full fd)
    obtain ⟨volume, volState, live, reaches⟩ :=
      draining.inv.descriptors draining.matching.alive fd name isOpen
    obtain ⟨client, owner⟩ := draining.releasing.owned volume volState live
    exact ⟨client, volume, volState, live, reaches, owner⟩
  · rintro first second client _ _ ⟨volume, volState, live, rfl, owner⟩
      ⟨other, otherState, otherLive, rfl, otherOwner⟩
    obtain rfl := draining.inv.held_unique ⟨⟨volState, live⟩, owner⟩
      ⟨⟨otherState, otherLive⟩, otherOwner⟩
    rw [Option.some.inj (live.symm.trans otherLive)]

omit [Fintype Client] in
/-- A kernel that obliges answers as POSIX allows, and without a failure. -/
theorem Draining.obliging (draining : session.Draining setting) {index fd : Nat} {volume : UInt64}
    {request : Envelope Client Request} (hand : session.exchange.thread index = .hand request)
    (freeFd : session.exchange.world.fds fd = none) (nonzero : volume ≠ 0)
    (free : session.exchange.world.volumes volume = none) :
    session.Regular (.server (.handle index (.obliging fd volume request.body.size))) := by
  have inVolume : request.body.InVolume := by
    have member := Exchange.mem_inFlight_hand hand
    rw [draining.inv.inHand hand] at member
    exact draining.inVolumes request.sender request.body (List.mem_map_of_mem member)
  have inRange : session.exchange.world.InRange request.body := by
    cases body : request.body <;> rw [body] at inVolume <;> first
      | trivial
      | exact ⟨inVolume.1, Or.inl inVolume.2⟩
  have valid : (Kernel.obliging fd volume request.body.size).Valid session.exchange.world
      request.body := by
    refine ⟨?_, ?_, ?_, ?_, ?_⟩
    · intro other answer
      obtain rfl := Except.ok.inj answer
      exact freeFd
    · intro other answer
      obtain rfl := Except.ok.inj answer
      exact freeFd
    · exact fun _ _ => ⟨nonzero, free⟩
    · intro req volState count body live answer
      obtain ⟨found, foundLive, inside⟩ := draining.matching.inside draining.inv hand body inRange
      obtain rfl := Option.some.inj (foundLive.symm.trans live)
      obtain rfl : req.sizeInBytes.toNat = count := by
        simpa [Kernel.obliging, body, Request.size] using answer
      obtain ⟨nonneg, fits⟩ := inside
      exact ⟨nonneg, by simp only [File.available]; omega⟩
    · intro req count body answer
      rw [body] at inVolume
      obtain rfl : req.sizeInBytes.toNat = count := by
        simpa [Kernel.obliging, body, Request.size] using answer
      exact ⟨inVolume, Nat.le_refl _⟩
  have succeeds : (Kernel.obliging fd volume request.body.size).Succeeds session.exchange.world
      request.body := by
    cases request.body with
    | openVolume req => simp [Kernel.Succeeds, Kernel.obliging, IOHandler.descriptor]
    | write req => rfl
    | read req => exact fun _ _ _ => rfl
    | stop header => trivial
    | close req => trivial
    | getsize req => trivial
    | fsync req => trivial
    | unknown header => trivial
  refine ⟨?_, ?_⟩
  · intro other hand'
    obtain rfl := Thread.hand.inj (hand.symm.trans hand')
    exact valid
  · intro other hand'
    obtain rfl := Thread.hand.inj (hand.symm.trans hand')
    exact ⟨succeeds, inRange⟩

/-- A thread with something to do can do it. -/
theorem Draining.server_step (draining : session.Draining setting)
    (few : Fintype.card Client + 1 < 2 ^ 64) (index : Nat)
    (busy : session.exchange.requestMq index ≠ [] ∨ session.exchange.thread index ≠ .idle) :
    ∃ label after, session.Regular (.server label) ∧ session.serve label = some after := by
  have serves {label : ServerLabel Nat} {exchange : Exchange Nat Client}
      (moved : session.exchange.serverStep label = some exchange) :
      ∃ after, session.serve label = some after := ⟨_, Option.map_eq_some_iff.mpr ⟨_, moved, rfl⟩⟩
  have running : ¬session.exchange.fault.isSome := by simp [draining.matching.alive]
  cases thread : session.exchange.thread index with
  | idle =>
      have queued : session.exchange.requestMq index ≠ [] := by simpa [thread] using busy
      obtain ⟨request, rest, queue⟩ := List.exists_cons_of_ne_nil queued
      have stepped : ∃ exchange, session.exchange.serverStep (.receive index) = some exchange := by
        simp only [Exchange.serverStep, if_neg running, Exchange.receiveStep, thread, queue]
        split <;> exact ⟨_, rfl⟩
      obtain ⟨exchange, stepped⟩ := stepped
      obtain ⟨after, served⟩ := serves stepped
      exact ⟨.receive index, after, ⟨trivial, trivial⟩, served⟩
  | hand request =>
      obtain ⟨volume, nonzero, free⟩ := draining.free_volume few
      obtain ⟨fd, freeFd⟩ := draining.free_fd
      have regular := draining.obliging thread freeFd nonzero free
      have stepped : ∃ exchange, session.exchange.serverStep
          (.handle index (.obliging fd volume request.body.size)) = some exchange := by
        simp only [Exchange.serverStep, if_neg running, Exchange.handleStep, thread]
        split <;> exact ⟨_, rfl⟩
      obtain ⟨exchange, stepped⟩ := stepped
      obtain ⟨after, served⟩ := serves stepped
      exact ⟨_, after, regular, served⟩
  | sending mq reply closing =>
      have matched := draining.matching.matched draining.inv draining.routes
      have room := matched.unblocked index mq reply closing thread
      have stepped : ∃ exchange, session.exchange.serverStep (.send index) = some exchange := by
        simp only [Exchange.serverStep, if_neg running, Exchange.sendStep, thread, if_pos room]
        cases closing <;> exact ⟨_, rfl⟩
      obtain ⟨exchange, stepped⟩ := stepped
      obtain ⟨after, served⟩ := serves stepped
      exact ⟨.send index, after, ⟨trivial, trivial⟩, served⟩
  | closing volume =>
      have stepped : ∃ exchange, session.exchange.serverStep (.close index) = some exchange := by
        simp only [Exchange.serverStep, if_neg running, Exchange.closeStep, thread]
        split <;> exact ⟨_, rfl⟩
      obtain ⟨exchange, stepped⟩ := stepped
      obtain ⟨after, served⟩ := serves stepped
      exact ⟨.close index, after, ⟨trivial, trivial⟩, served⟩
  | stopped => exact (draining.serving index thread).elim

omit [Fintype Client] in
/-- A client whose reply has arrived can take it. -/
theorem received_waiting {kind : ClientKind} (client : SharedMemClient) {stage : Stage}
    {request : Request} (reply : Reply) (sync : kind = .sync)
    (waits : stage.waitsFor = some request) :
    ∃ outcome, received kind client stage reply = some outcome := by
  subst sync
  cases stage with
  | opening asked =>
      unfold received
      cases accepted : client.acceptOpen reply with
      | none => cases reply <;> exact ⟨_, rfl⟩
      | some result => exact ⟨_, rfl⟩
  | waiting asked => exact ⟨_, rfl⟩
  | outside => simp [Stage.waitsFor] at waits
  | removed => simp [Stage.waitsFor] at waits
  | made => simp [Stage.waitsFor] at waits
  | refused => simp [Stage.waitsFor] at waits
  | opened => simp [Stage.waitsFor] at waits
  | closed => simp [Stage.waitsFor] at waits
  | destroyed => simp [Stage.waitsFor] at waits
  | failed => simp [Stage.waitsFor] at waits
  | aborted => simp [Stage.waitsFor] at waits
  | mismatched => simp [Stage.waitsFor] at waits

/-- Unless all is worked off and answered, something can be done. -/
theorem Draining.step_left (draining : session.Draining setting) (synchronous : setting.Synchronous)
    (few : Fintype.card Client + 1 < 2 ^ 64)
    (unfinished : ¬(session.Quiet setting ∧ ∀ client, (session.stage client).waitsFor = none)) :
    ∃ label after, session.Regular label ∧ Drains label ∧
      session.step setting label = some after := by
  by_cases busy : ∃ client, session.exchange.requestMq (setting.index client) ≠ [] ∨
      session.exchange.thread (setting.index client) ≠ .idle
  · obtain ⟨client, busy⟩ := busy
    obtain ⟨label, after, regular, served⟩ := draining.server_step few (setting.index client) busy
    exact ⟨.server label, after, regular, trivial, served⟩
  · push Not at busy
    have quiet : session.Quiet setting :=
      ⟨fun client => (busy client).1, fun client => (busy client).2⟩
    obtain ⟨client, waits⟩ : ∃ client, (session.stage client).waitsFor ≠ none := by
      by_contra answered
      push Not at answered
      exact unfinished ⟨quiet, answered⟩
    obtain ⟨request, waits⟩ := Option.ne_none_iff_exists'.mp waits
    have matched := draining.matching.matched draining.inv draining.routes
    rcases matched.underway client request waits with
      ⟨envelope, inside, _⟩ | ⟨mq, reply, own, _, arrived | ⟨closing, sends⟩⟩
    · simp [quiet.noneInFlight] at inside
    · obtain ⟨oldest, rest, queue⟩ := List.exists_cons_of_ne_nil (List.ne_nil_of_mem arrived)
      obtain ⟨outcome, took⟩ := received_waiting (session.shared client) oldest.body
        (synchronous.kind client) waits
      have stepped : ∃ after, session.receive setting client = some after := by
        simp only [Session.receive, own, Exchange.popReply, queue, took, Option.map_some]
        exact ⟨_, rfl⟩
      obtain ⟨after, stepped⟩ := stepped
      exact ⟨.receive client, after, ⟨trivial, trivial⟩, trivial, stepped⟩
    · simp [quiet.idle] at sends

/-! Every step uses up work. -/

omit [DecidableEq Client] in
theorem mem_indices (client : Client) : setting.index client ∈ indices setting :=
  Finset.mem_image_of_mem _ (Finset.mem_univ client)

omit [Fintype Client] [DecidableEq Client] in
/-- One queue and its thread have less to do, and the others as much as before. -/
theorem work_lowers {before exchange : Exchange Nat Client} {index : Nat} {places : Finset Nat}
    (member : index ∈ places) (here : exchange.work index < before.work index)
    (queues : ∀ other, other ≠ index → exchange.requestMq other = before.requestMq other)
    (threads : ∀ other, other ≠ index → exchange.thread other = before.thread other) :
    ∑ place ∈ places, exchange.work place < ∑ place ∈ places, before.work place := by
  refine Finset.sum_lt_sum (fun other _ => ?_) ⟨index, member, here⟩
  by_cases same : other = index
  · subst same
    exact Nat.le_of_lt here
  · simp only [Exchange.work, queues other same, threads other same]
    exact Nat.le_refl _

end Session

end Cvbd
