import Cvbd.SequencerTotal
import Cvbd.TransportChecks

/-!
Messages as bytes behave as messages with fields: every step of the transport is
the same step of the exchange, on what the bytes mean.
-/

namespace Cvbd

namespace Transport

variable {Index Client : Type} [DecidableEq Index]
variable {memory : Index → Bytes} {transport after : Transport Index Client}
variable {exchange : Exchange Index Client}

theorem Related.setThread {index : Index} {thread : TransportThread Client} {other : Thread Client}
    (related : transport.Related memory exchange) (here : thread.Related (memory index) other) :
    (transport.setThread index thread).Related memory (exchange.setThread index other) where
  world := related.world
  fault := related.fault
  requests := related.requests
  threads := related_update related.threads here
  replies := related.replies

omit [DecidableEq Index] in
theorem Related.withWorld (related : transport.Related memory exchange) (world : World)
    (owner : UInt64 → Option Client) :
    Transport.Related memory { transport with world } { exchange with world, owner } :=
  ⟨rfl, related.fault, related.requests, related.threads, related.replies⟩

theorem Related.push {index : Index} {message : Envelope Client Message}
    {request : Envelope Client Request} (related : transport.Related memory exchange)
    (carries : message.Related (Wire.Carries (memory index)) request)
    (stepped : transport.pushRequest index message = some after) :
    ∃ other, exchange.pushRequest index request = some other ∧ after.Related memory other := by
  have here := related.requests index
  unfold pushRequest at stepped
  split at stepped
  · rename_i room
    obtain rfl := Option.some.inj stepped
    refine ⟨_, if_pos (by rwa [← here.length_eq]), ?_⟩
    have longer := List.rel_append here (List.Forall₂.cons carries List.Forall₂.nil)
    exact ⟨related.world, related.fault, related_update related.requests longer, related.threads,
      related.replies⟩
  · simp at stepped

/-- A message that is received carries its request to the thread. -/
theorem Related.receive {index : Index} (related : transport.Related memory exchange)
    (stepped : transport.receiveStep index = some after) :
    ∃ other, exchange.receiveStep index = some other ∧ after.Related memory other := by
  have here := related.requests index
  have thread := related.threads index
  unfold receiveStep at stepped
  simp only at stepped
  split at stepped
  · rename_i message rest idle queue
    rw [queue] at here
    cases requests : exchange.requestMq index with
    | nil =>
        rw [requests] at here
        cases here
    | cons request others =>
        rw [requests] at here
        obtain ⟨carries, rest_related⟩ := List.forall₂_cons.mp here
        have waiting : exchange.thread index = .idle := by
          have stage := thread.stage
          rw [idle] at stage
          generalize exchange.thread index = current at stage
          cases stage
          rfl
        have popped : ({ transport with
            requestMq := Function.update transport.requestMq index rest } :
              Transport Index Client).Related memory
            { exchange with requestMq := Function.update exchange.requestMq index others } :=
          ⟨related.world, related.fault, related_update related.requests rest_related,
            related.threads, related.replies⟩
        have backed := thread.backed.receive carries.body.short
        have reads := carries.body.reads _ thread.backed
        have flag := Wire.viewHeader_stop_iff
          (Wire.receive (transport.thread index).requestMsg message.body)
        rw [reads] at flag
        unfold Exchange.receiveStep
        simp only [waiting, requests]
        split at stepped
        · rename_i stops
          obtain rfl := Option.some.inj stepped
          obtain ⟨header, stop⟩ := flag.mp stops
          simp only [stop]
          exact ⟨_, rfl, popped.setThread ⟨backed, .stopped⟩⟩
        · rename_i continues
          obtain rfl := Option.some.inj stepped
          have notStop : ∀ header, request.body ≠ .stop header :=
            fun header stop => continues (flag.mpr ⟨header, stop⟩)
          have stage := TransportStage.Related.received carries reads notStop
          refine ⟨_, ?_, popped.setThread ⟨backed, stage⟩⟩
          split
          · rename_i header stop
            exact (notStop header stop).elim
          · rfl
  · simp at stepped

/-! The handlers. -/

omit [DecidableEq Index] in
theorem Related.hand {index : Index} {sender : Client} {call : Nat}
    (related : transport.Related memory exchange)
    (hand : (transport.thread index).stage = .hand sender call) :
    exchange.thread index =
        .hand ⟨sender, call, Wire.viewRequest (transport.thread index).requestMsg⟩ ∧
      (Wire.viewRequest (transport.thread index).requestMsg).Proper := by
  have stage := (related.threads index).stage
  rw [hand] at stage
  generalize exchange.thread index = current at stage
  cases stage with
  | hand proper notStop => exact ⟨rfl, proper⟩

theorem Related.handle {index : Index} {kernel : Kernel}
    (related : transport.Related memory exchange)
    (stepped : transport.handleStep index kernel = some after) :
    ∃ other, exchange.handleStep index ((transport.thread index).kernelAt kernel) = some other ∧
      after.Related memory other := by
  have backed := (related.threads index).backed
  unfold handleStep at stepped
  simp only at stepped
  split at stepped
  · rename_i sender call hand
    obtain ⟨thread, proper⟩ := related.hand hand
    unfold Exchange.handleStep
    simp only [thread, related.world]
    cases handled : IOHandler.handle transport.world ((transport.thread index).kernelAt kernel)
        (Wire.viewRequest (transport.thread index).requestMsg) with
    | done world =>
        simp only [handled, Option.some.injEq] at stepped
        subst stepped
        exact ⟨_, rfl, (related.withWorld world _).setThread ⟨backed, .idle⟩⟩
    | reply world mq reply closing =>
        simp only [handled, Option.some.injEq] at stepped
        subst stepped
        have answers := RepliesTo.answeredBy ⟨_, _, _, _, _, handled⟩
        exact ⟨_, rfl, (related.withWorld world _).setThread ⟨backed,
          .sending ⟨rfl, rfl, ⟨_, rfl⟩, proper.answeredBy answers⟩⟩⟩
    | fault world fault =>
        simp only [handled, Option.some.injEq] at stepped
        subst stepped
        exact ⟨_, rfl, rfl, rfl, related.requests, related.threads, related.replies⟩
  · simp at stepped

omit [DecidableEq Index] in
/-- The request in a thread's object is served as the exchange serves it. -/
theorem Related.served {index : Index} {kernel : Kernel}
    (related : transport.Related memory exchange) :
    List.Forall₂ TransportEvent.Means (transport.served (.handle index kernel))
      (exchange.served (.handle index ((transport.thread index).kernelAt kernel))) := by
  unfold Transport.served Exchange.served
  simp only
  split
  · rename_i sender call hand
    obtain ⟨thread, _⟩ := related.hand hand
    simp only [thread, related.world]
    cases IOHandler.handle transport.world ((transport.thread index).kernelAt kernel)
        (Wire.viewRequest (transport.thread index).requestMsg) with
    | done world => exact List.Forall₂.cons .served List.Forall₂.nil
    | reply world mq reply closing => exact List.Forall₂.cons .served List.Forall₂.nil
    | fault world fault => exact List.Forall₂.nil
  · rename_i notHand
    have stage := (related.threads index).stage
    generalize exchange.thread index = current at stage
    generalize (transport.thread index).stage = mine at stage notHand
    cases stage with
    | hand => exact (notHand _ _ rfl).elim
    | idle => exact List.Forall₂.nil
    | sending => exact List.Forall₂.nil
    | closing => exact List.Forall₂.nil
    | stopped => exact List.Forall₂.nil

/-! After the handler. -/

theorem Related.sendReply {index : Index} (related : transport.Related memory exchange)
    (stepped : transport.sendReply index = some after) :
    ∃ other, exchange.sendStep index = some other ∧ after.Related memory other := by
  obtain ⟨backed, stage⟩ := related.threads index
  unfold Transport.sendReply at stepped
  simp only at stepped
  split at stepped
  · rename_i mq message closing sends
    have replies := related.replies mq
    rw [sends] at stage
    generalize current : exchange.thread index = other at stage
    cases stage with
    | @sending _ _ reply _ delivers =>
        have longer := List.rel_append replies (List.Forall₂.cons delivers List.Forall₂.nil)
        have sent : ({ transport with
            replyMq := Function.update transport.replyMq mq (transport.replyMq mq ++ [message]) } :
              Transport Index Client).Related memory
            { exchange with
              replyMq := Function.update exchange.replyMq mq (exchange.replyMq mq ++ [reply]) } :=
          ⟨related.world, related.fault, related.requests, related.threads,
            related_update related.replies longer⟩
        split at stepped
        · rename_i room
          unfold Exchange.sendStep
          simp only [current]
          rw [if_pos (by rwa [← replies.length_eq])]
          cases closing with
          | none =>
              obtain rfl := Option.some.inj stepped
              exact ⟨_, rfl, sent.setThread ⟨backed, .idle⟩⟩
          | some volume =>
              obtain rfl := Option.some.inj stepped
              exact ⟨_, rfl, sent.setThread ⟨backed, .closing⟩⟩
        · simp at stepped
  · simp at stepped

theorem Related.close {index : Index} (related : transport.Related memory exchange)
    (stepped : transport.closeStep index = some after) :
    ∃ other, exchange.closeStep index = some other ∧ after.Related memory other := by
  obtain ⟨backed, stage⟩ := related.threads index
  unfold Transport.closeStep at stepped
  simp only at stepped
  split at stepped
  · rename_i volume closes
    rw [closes] at stage
    generalize current : exchange.thread index = other at stage
    cases stage with
    | closing =>
        unfold Exchange.closeStep
        simp only [current, related.world]
        cases closed : IOHandler.closeVolume transport.world volume with
        | done world =>
            simp only [closed, Option.some.injEq] at stepped
            subst stepped
            exact ⟨_, rfl, (related.withWorld world _).setThread ⟨backed, .idle⟩⟩
        | reply world mq reply closing =>
            simp only [closed, Option.some.injEq] at stepped
            subst stepped
            exact ⟨_, rfl, (related.withWorld world _).setThread ⟨backed, .idle⟩⟩
        | fault world fault =>
            simp only [closed, Option.some.injEq] at stepped
            subst stepped
            exact ⟨_, rfl, rfl, rfl, related.requests, related.threads, related.replies⟩
  · simp at stepped

/-! The clients. -/

section Clients

variable [DecidableEq Client]

theorem Related.send {index : Index} {client : Client} {call : Nat} {args : SendCall}
    (related : transport.Related memory exchange)
    (sendable : args.sent.Sendable (transport.requestMsg client))
    (stepped : transport.sendStep index client call args = some after) :
    ∃ request other, args.sent.ReadBack args.id args.volume args.acb request ∧
      exchange.pushRequest index ⟨client, call, request⟩ = some other ∧
      after.Related memory other := by
  obtain ⟨request, readBack, carries⟩ :=
    sendable.carries (memory index) args.id args.volume args.acb
  have built : ({ transport with
      requestMsg := Function.update transport.requestMsg client
        (args.message (transport.requestMsg client)).bytes } :
          Transport Index Client).Related memory exchange :=
    ⟨related.world, related.fault, related.requests, related.threads, related.replies⟩
  have message : (Envelope.mk client call (args.message (transport.requestMsg client))).Related
      (Wire.Carries (memory index)) ⟨client, call, request⟩ := ⟨rfl, rfl, carries⟩
  obtain ⟨other, pushed, kept⟩ := built.push message stepped
  exact ⟨request, other, readBack, pushed, kept⟩

omit [DecidableEq Index] in
theorem Related.receiveReply {client : Client} {mq : Nat} {seen : Envelope Client Reply}
    (related : transport.Related memory exchange)
    (stepped : transport.receiveReply client mq = some (seen, after)) :
    ∃ reply other, exchange.popReply mq = some (reply, other) ∧ reply.sender = seen.sender ∧
      reply.call = seen.call ∧ reply.body.ReadAs seen.body ∧ after.Related memory other := by
  have here := related.replies mq
  unfold Transport.receiveReply at stepped
  split at stepped
  · simp at stepped
  · rename_i message rest queue
    rw [queue] at here
    cases replies : exchange.replyMq mq with
    | nil =>
        rw [replies] at here
        cases here
    | cons reply others =>
        rw [replies] at here
        obtain ⟨delivers, rest_related⟩ := List.forall₂_cons.mp here
        obtain ⟨rfl, rfl⟩ := Prod.mk.inj (Option.some.inj stepped)
        refine ⟨reply, { exchange with replyMq := Function.update exchange.replyMq mq others }, ?_,
          delivers.sender.symm, delivers.call.symm, delivers.body.readAs _, ?_⟩
        · simp [Exchange.popReply, replies]
        · exact ⟨related.world, related.fault, related.requests, related.threads,
            related_update related.replies rest_related⟩

/-! Every step. -/

omit [DecidableEq Client] in
theorem Related.server {label : ServerLabel Index} (related : transport.Related memory exchange)
    (lawful : transport.Lawful (.server label))
    (stepped : transport.serverStep label = some after) :
    ∃ otherLabel other, exchange.ValidLabel otherLabel ∧
      exchange.serverStep otherLabel = some other ∧ after.Related memory other ∧
      List.Forall₂ TransportEvent.Means (transport.served label) (exchange.served otherLabel) := by
  unfold Transport.serverStep at stepped
  split at stepped
  · simp at stepped
  · rename_i running
    have running' : ¬exchange.fault.isSome := by rwa [related.fault]
    cases label with
    | receive index =>
        obtain ⟨other, moved, kept⟩ := related.receive stepped
        exact ⟨.receive index, other, trivial, by simpa [Exchange.serverStep, running'] using moved,
          kept, List.Forall₂.nil⟩
    | handle index kernel =>
        obtain ⟨other, moved, kept⟩ := related.handle stepped
        refine ⟨.handle index ((transport.thread index).kernelAt kernel), other, ?_,
          by simpa [Exchange.serverStep, running'] using moved, kept, related.served⟩
        intro request hand
        have stage := (related.threads index).stage
        rw [hand] at stage
        generalize (transport.thread index).stage = mine at stage
        cases stage with
        | hand proper notStop =>
            rw [related.world]
            exact ⟨lawful.open1, lawful.open2, lawful.newVolume, lawful.pread, lawful.pwrite⟩
    | send index =>
        obtain ⟨other, moved, kept⟩ := related.sendReply stepped
        exact ⟨.send index, other, trivial, by simpa [Exchange.serverStep, running'] using moved,
          kept, List.Forall₂.nil⟩
    | close index =>
        obtain ⟨other, moved, kept⟩ := related.close stepped
        exact ⟨.close index, other, trivial, by simpa [Exchange.serverStep, running'] using moved,
          kept, List.Forall₂.nil⟩

theorem Related.step {label : TransportLabel Index Client}
    {events : List (TransportEvent Index Client)} (related : transport.Related memory exchange)
    (lawful : transport.Lawful label)
    (stepped : system.step transport label = some (after, events)) :
    ∃ otherLabel other otherEvents, exchange.Lawful otherLabel ∧
      Exchange.system.step exchange otherLabel = some (other, otherEvents) ∧
      after.Related memory other ∧ List.Forall₂ TransportEvent.Means events otherEvents := by
  cases label with
  | send index client call args =>
      obtain ⟨sent, send, equal⟩ := Option.map_eq_some_iff.mp stepped
      obtain ⟨rfl, rfl⟩ := Prod.mk.inj equal
      obtain ⟨request, other, readBack, pushed, kept⟩ := related.send lawful send
      exact ⟨.submit index ⟨client, call, request⟩, other, _, trivial,
        Option.map_eq_some_iff.mpr ⟨other, pushed, rfl⟩, kept,
        List.Forall₂.cons (.sent readBack) List.Forall₂.nil⟩
  | halt index sender call static =>
      obtain ⟨sent, push, equal⟩ := Option.map_eq_some_iff.mp stepped
      obtain ⟨rfl, rfl⟩ := Prod.mk.inj equal
      have carries : (Envelope.mk sender call (Wire.stopMessage static)).Related
          (Wire.Carries (memory index)) ⟨sender, call, .stop Wire.stopHeader⟩ :=
        ⟨rfl, rfl, Wire.stopMessage_carries _ static⟩
      obtain ⟨other, pushed, kept⟩ := related.push carries push
      exact ⟨.submit index ⟨sender, call, .stop Wire.stopHeader⟩, other, _, trivial,
        Option.map_eq_some_iff.mpr ⟨other, pushed, rfl⟩, kept,
        List.Forall₂.cons .halted List.Forall₂.nil⟩
  | receive client mq =>
      obtain ⟨⟨seen, left⟩, received, equal⟩ := Option.map_eq_some_iff.mp stepped
      obtain ⟨rfl, rfl⟩ := Prod.mk.inj equal
      obtain ⟨⟨sender, call, reply⟩, other, popped, rfl, rfl, readAs, kept⟩ :=
        related.receiveReply received
      exact ⟨.take mq, other, _, trivial, Option.map_eq_some_iff.mpr ⟨_, popped, rfl⟩, kept,
        List.Forall₂.cons (.received readAs) List.Forall₂.nil⟩
  | rename name queue =>
      obtain ⟨rfl, rfl⟩ := Prod.mk.inj (Option.some.inj stepped)
      refine ⟨.rename name queue, _, _, trivial, rfl, ?_, List.Forall₂.nil⟩
      exact ⟨by rw [related.world], related.fault, related.requests, related.threads, related.replies⟩
  | server label =>
      obtain ⟨moved, move, equal⟩ := Option.map_eq_some_iff.mp stepped
      obtain ⟨rfl, rfl⟩ := Prod.mk.inj equal
      obtain ⟨otherLabel, other, valid, otherMove, kept, served⟩ := related.server lawful move
      exact ⟨.server otherLabel, other, _, valid, Option.map_eq_some_iff.mpr ⟨other, otherMove, rfl⟩,
        kept, served⟩

variable {initial : Transport Index Client} {trace : List (TransportEvent Index Client)}

theorem Related.run (related : initial.Related memory exchange)
    (run : system.Run Lawful initial trace transport) :
    ∃ messages other, Exchange.system.Run Exchange.Lawful exchange messages other ∧
      transport.Related memory other ∧ List.Forall₂ TransportEvent.Means trace messages :=
  run.related (Related memory) TransportEvent.Means related
    fun _ _ _ _ _ kept lawful stepped => kept.step lawful stepped

end Clients

end Transport

end Cvbd
