import Cvbd.ServiceProgress
import Cvbd.SyncChecks

/-!
Every step of the client thread and of the server keeps the invariant of the
chunk loop and lowers a measure, and until the call is finished some step is
enabled.
-/

namespace Cvbd

/-- The client's private view of the server. -/
def SyncState.service (state : SyncState) (endpoint : Endpoint Unit) : Service Unit :=
  state.exchange.service endpoint ()

/-- The number of bytes a READ or WRITE asks to transfer. -/
def Request.transferSize : Request → Nat
  | .write req => req.sizeInBytes.toNat
  | .read req => req.sizeInBytes.toNat
  | _ => 0

namespace SyncCall

structure Inv (call : SyncCall) (endpoint : Endpoint Unit) (target : File) (initial : Bytes)
    (fileSize : Nat) (state : SyncState) : Prop where
  wired : state.exchange.Wired fun _ => endpoint
  running : state.exchange.fault = none
  volume : state.client.volume = endpoint.volume
  mq : state.mq = endpoint.mq
  size : (state.service endpoint).file.content.size = fileSize
  pending : ∀ request copy reply, state.pc = .sending request copy reply →
    request.header.volume = endpoint.volume ∧ request.isIo = true ∧
      0 < request.transferSize ∧ request.transferSize ≤ maxDataSize
  pc : call.PcInv target initial state.memory (state.service endpoint) fileSize state.pc

variable {call : SyncCall} {endpoint : Endpoint Unit} {target : File} {initial : Bytes}
variable {fileSize : Nat} {state : SyncState}

theorem Inv.iterate {copy : NonAlignedCopy}
    (inv : call.Inv endpoint target initial fileSize state) (looping : state.pc = .looping copy)
    (inside : SectorsInside call.sectorNum call.nbSectors fileSize) :
    call.Inv endpoint target initial fileSize (call.iterate state copy) := by
  have holds := inv.pc
  rw [looping] at holds
  obtain ⟨progress, writes, quiet, memory_eq, effect⟩ := holds
  by_cases more : done copy < call.length
  · obtain ⟨retSz, after, next_eq, next, positive, fits, advanced⟩ := progress.next more
    have position := progress.relativeOff inside more
    have cur := progress.cur
    have bound := next.done_le
    have total : call.offset + call.length ≤ fileSize := inside.total
    have chunk : call.Chunk after (done copy) retSz.toUInt64 := ⟨next, advanced, positive, fits⟩
    have chunkInside : 0 ≤ copy.cur.toInt ∧
        copy.cur.toInt.toNat + retSz.toUInt64.toNat ≤ fileSize := by
      exact ⟨by omega, by omega⟩
    unfold SyncCall.iterate
    rw [if_pos (progress.isValid_iff.mpr more), next_eq]
    simp only [position.2, if_true, position.1]
    by_cases write : call.write = true
    · obtain ⟨received, request_eq, same⟩ := state.client.post_writeMessage state.client.volume 0
        copy.cur retSz.toUInt64 (fun index => state.memory (call.buffer + done copy + index)) fits
      simp only [write, if_true, SharedMemClient.sendWrite, fits]
      have memory_initial : state.memory = initial := by
        simpa [memoryAfter, write] using memory_eq
      refine { inv with volume := inv.volume, pending := ?_, pc := ?_ }
      · rintro request copy' reply ⟨⟩
        rw [request_eq]
        exact ⟨inv.volume, rfl, positive, fits⟩
      · refine ⟨write, ⟨_, _, chunk⟩, writes, ⟨_, request_eq, ?_⟩, quiet, memory_initial, ?_⟩
        · rw [request_eq]
          exact chunkInside
        · show Request.apply ((state.service endpoint).file.content.applyAll
            (state.service endpoint).requests) _ = _
          rw [effect, request_eq, advanced, ← fileAfter_chunk write]
          simp only [Request.apply, cur, Int.toNat_natCast]
          refine File.pwrite_congr _ _ fun index below => ?_
          rw [same index below, memory_initial]
    · have read : call.write = false := by simpa using write
      simp only [read, Bool.false_eq_true, if_false, SharedMemClient.sendRead, fits, if_true]
      have request_eq := state.client.post_readMessage state.client.volume 0 copy.cur
        retSz.toUInt64
      refine { inv with volume := inv.volume, pending := ?_, pc := ?_ }
      · rintro request copy' reply ⟨⟩
        rw [request_eq]
        exact ⟨inv.volume, rfl, positive, fits⟩
      · refine ⟨read, done copy, chunk, writes, ⟨_, _, request_eq, rfl, cur⟩, quiet, rfl,
          memory_eq, ?_⟩
        simpa [fileAfter, read, SyncState.service] using effect
  · have finished : done copy = call.length := by
      have bound := progress.done_le
      omega
    unfold SyncCall.iterate
    rw [if_neg (by rw [progress.isValid_iff]; exact more)]
    refine { inv with pending := by simp, pc := ?_ }
    rw [finished] at memory_eq effect
    exact ⟨rfl, writes, quiet, memory_eq, effect⟩

theorem Inv.push {request : Request} {copy : NonAlignedCopy} {reply : Option (Nat × UInt64)}
    {exchange : Exchange Unit Unit} (inv : call.Inv endpoint target initial fileSize state)
    (sending : state.pc = .sending request copy reply)
    (pushed : state.exchange.pushRequest () ⟨(), 0, request⟩ = some exchange) :
    call.Inv endpoint target initial fileSize { state with
      exchange
      pc := match reply with
        | none => .looping copy
        | some (message, sizeInBytes) => .receiving copy message sizeInBytes } := by
  obtain ⟨volume, io, _⟩ := inv.pending _ _ _ sending
  have holds := inv.pc
  rw [sending] at holds
  have belongs : Belongs (fun _ : Unit => endpoint) () (⟨(), 0, request⟩ : Envelope Unit Request) :=
    ⟨rfl, volume, io⟩
  have view : exchange.service endpoint () = { state.exchange.service endpoint () with
      requests := (state.exchange.service endpoint ()).requests ++ [⟨(), 0, request⟩] } :=
    (Exchange.pushRequest_service (fun _ : Unit => endpoint) ⟨(), 0, request⟩ pushed).1
  obtain ⟨_, exchange_eq⟩ := Exchange.pushRequest_spec pushed
  refine { inv with
    wired := inv.wired.pushRequest belongs pushed
    running := by rw [exchange_eq]; exact inv.running
    size := ?_, pending := ?_, pc := ?_ }
  · show (exchange.service endpoint ()).file.content.size = fileSize
    rw [view]
    exact inv.size
  · cases reply <;> simp
  · simp only [SyncState.service, view]
    cases reply with
    | none =>
        obtain ⟨write, ⟨_, _, chunk⟩, writes, own, quiet, memory_eq, effect⟩ := holds
        refine ⟨chunk.progress, ?_, quiet, ?_, ?_⟩
        · intro queued member
          simp only [List.mem_append, List.mem_singleton] at member
          rcases member with old | rfl
          · exact writes queued old
          · exact own
        · simpa [memoryAfter, write] using memory_eq
        · simpa [File.applyAll_append, SyncState.service] using effect
    | some destination =>
        obtain ⟨read, count, chunk, writes, own, quiet, message_eq, memory_eq, effect⟩ := holds
        obtain ⟨header, position, rfl, _⟩ := id own
        refine ⟨read, count, chunk, message_eq, memory_eq, ?_, Or.inl ⟨_, _, rfl, writes, own, quiet⟩⟩
        simpa [File.applyAll_append, Request.apply, SyncState.service] using effect

theorem Inv.pop {copy : NonAlignedCopy} {message : Nat} {size : UInt64}
    {reply : Envelope Unit Reply} {exchange : Exchange Unit Unit}
    (inv : call.Inv endpoint target initial fileSize state)
    (receiving : state.pc = .receiving copy message size)
    (popped : state.exchange.popReply state.mq = some (reply, exchange)) :
    ∃ data, SharedMemClient.acceptRead size reply.body = some data ∧
      call.Inv endpoint target initial fileSize { state with
        exchange
        memory := Region.copy state.memory message data size.toNat
        pc := .looping copy } := by
  have holds := inv.pc
  rw [receiving] at holds
  rw [inv.mq] at popped
  obtain ⟨read, count, chunk, rfl, memory_eq, effect, inFlight⟩ := holds
  obtain ⟨_, replies, view, _⟩ :=
    Exchange.popReply_service inv.wired () popped
  obtain ⟨_, _, exchange_eq⟩ := Exchange.popReply_spec popped
  change (state.service endpoint).replies = reply :: (exchange.service endpoint ()).replies at replies
  change exchange.service endpoint () = { state.service endpoint with
    replies := (exchange.service endpoint ()).replies } at view
  rcases inFlight with ⟨_, _, _, _, _, quiet⟩ | ⟨none, answer, one, header, data, body, type, same⟩
  · simp [quiet] at replies
  · obtain ⟨rfl, rest⟩ := List.cons.inj (replies.symm.trans one)
    refine ⟨data, by simp [SharedMemClient.acceptRead, body, type], { inv with
      wired := inv.wired.popReply popped
      running := by rw [exchange_eq]; exact inv.running
      size := ?_, pending := by simp, pc := ?_ }⟩
    · show (exchange.service endpoint ()).file.content.size = fileSize
      rw [view]
      exact inv.size
    · simp only [SyncState.service]
      rw [view]
      refine ⟨chunk.progress, by simp [none], rest, ?_, ?_⟩
      · rw [memory_eq, chunk.advanced]
        exact memoryAfter_chunk read target initial data count size.toNat same
      · simpa [fileAfter, read] using effect

theorem Inv.clientStep {after : SyncState}
    (inv : call.Inv endpoint target initial fileSize state)
    (inside : SectorsInside call.sectorNum call.nbSectors fileSize)
    (stepped : call.clientStep state = some after) :
    call.Inv endpoint target initial fileSize after := by
  unfold SyncCall.clientStep at stepped
  split at stepped
  · rename_i copy looping
    exact Option.some.inj stepped ▸ inv.iterate looping inside
  · rename_i request copy reply sending
    split at stepped
    · rename_i exchange pushed
      exact Option.some.inj stepped ▸ inv.push sending pushed
    · rename_i exchange message sizeInBytes pushed
      exact Option.some.inj stepped ▸ inv.push sending pushed
    · simp at stepped
  · rename_i copy message size receiving
    split at stepped
    · rename_i reply exchange popped
      obtain ⟨data, accepted, kept⟩ := inv.pop receiving popped
      rw [accepted] at stepped
      exact Option.some.inj stepped ▸ kept
    · simp at stepped
  · simp at stepped
  · simp at stepped

theorem Inv.serverStep {label : ServerLabel Unit} {exchange : Exchange Unit Unit}
    (inv : call.Inv endpoint target initial fileSize state)
    (fits : call.offset + call.length ≤ target.size)
    (permitted : state.Permitted (.server label))
    (stepped : state.exchange.serverStep label = some exchange) :
    call.Inv endpoint target initial fileSize { state with exchange } := by
  rcases Exchange.serverStep_service inv.wired stepped with ⟨silent, _⟩ | ⟨index, kernel, rfl, handled⟩
  · have view : exchange.service endpoint () = state.service endpoint := silent ()
    refine { inv with
      wired := inv.wired.serverStep stepped, running := ?_, size := ?_, pc := ?_ }
    · have alive := congrArg Service.alive view
      simpa [SyncState.service, Exchange.service, inv.running] using alive
    · simp only [SyncState.service, view]
      exact inv.size
    · simp only [SyncState.service, view]
      exact inv.pc
  · obtain ⟨request, rest, hand, queue, served, _⟩ :=
      Exchange.handleStep_service inv.wired inv.running handled
    have isOpen := inv.wired.isOpen ()
    obtain ⟨file, found⟩ := isOpen.exists_file
    have volume := (inv.wired.inHand _ _ hand).volume
    have content : (state.service endpoint).file.content = state.exchange.world.content endpoint.fd := by
      rw [World.content_eq isOpen.fdOpen found]
      simp [SyncState.service, Exchange.service, found]
    have full : kernel.Full (state.service endpoint).file.content request.body := by
      rw [content]
      exact permitted.2 request _ hand (by rw [volume]; exact isOpen.live)
    have holds := inv.pc
    rw [← inv.size] at holds
    obtain ⟨kept, alive, size⟩ := PcInv.serve holds fits queue full served
    refine { inv with
      wired := inv.wired.serverStep stepped, running := ?_, size := ?_, pc := ?_ }
    · simpa [Exchange.service] using alive
    · exact size.trans inv.size
    · rw [← inv.size]
      exact kept

/-! Termination: each step uses up bytes of the call or moves a message on its way. -/

def threadWeight : Thread Unit → Nat
  | .hand _ => 3
  | .sending .. => 2
  | .idle | .closing _ | .stopped => 0

def weight (exchange : Exchange Unit Unit) (mq : Nat) : Nat :=
  4 * (exchange.requestMq ()).length + threadWeight (exchange.thread ()) +
    (exchange.replyMq mq).length

def pcWeight (call : SyncCall) : SyncPc → Nat
  | .looping copy => 10 * (call.length - done copy) + 1
  | .sending _ copy _ => 10 * (call.length - done copy) + 7
  | .receiving copy _ _ => 10 * (call.length - done copy) + 2
  | .returned _ | .aborted => 0

def measure (call : SyncCall) (state : SyncState) : Nat :=
  call.pcWeight state.pc + weight state.exchange state.mq

theorem Inv.iterate_lowers {copy : NonAlignedCopy}
    (inv : call.Inv endpoint target initial fileSize state) (looping : state.pc = .looping copy)
    (inside : SectorsInside call.sectorNum call.nbSectors fileSize) :
    call.measure (call.iterate state copy) < call.measure state := by
  have holds := inv.pc
  rw [looping] at holds
  obtain ⟨progress, _⟩ := holds
  by_cases more : done copy < call.length
  · obtain ⟨retSz, after, next_eq, next, positive, fits, advanced⟩ := progress.next more
    have bound := next.done_le
    unfold SyncCall.iterate
    rw [if_pos (progress.isValid_iff.mpr more), next_eq]
    simp only [(progress.relativeOff inside more).2, if_true, SharedMemClient.sendWrite,
      SharedMemClient.sendRead, fits]
    split <;> simp only [measure, looping, pcWeight] <;> omega
  · unfold SyncCall.iterate
    rw [if_neg (by rw [progress.isValid_iff]; exact more)]
    simp only [measure, looping, pcWeight]
    omega

theorem weight_push {exchange after : Exchange Unit Unit} {request : Envelope Unit Request}
    (pushed : exchange.pushRequest () request = some after) (mq : Nat) :
    weight after mq = weight exchange mq + 4 := by
  obtain ⟨_, rfl⟩ := Exchange.pushRequest_spec pushed
  simp only [weight, Function.update_self, List.length_append, List.length_singleton]
  omega

theorem weight_pop {exchange after : Exchange Unit Unit} {reply : Envelope Unit Reply} {mq : Nat}
    (popped : exchange.popReply mq = some (reply, after)) :
    weight exchange mq = weight after mq + 1 := by
  obtain ⟨rest, queue, rfl⟩ := Exchange.popReply_spec popped
  simp only [weight, queue, Function.update_self, List.length_cons]
  omega

theorem Inv.clientStep_lowers {after : SyncState}
    (inv : call.Inv endpoint target initial fileSize state)
    (inside : SectorsInside call.sectorNum call.nbSectors fileSize)
    (stepped : call.clientStep state = some after) : call.measure after < call.measure state := by
  unfold SyncCall.clientStep at stepped
  split at stepped
  · rename_i copy looping
    exact Option.some.inj stepped ▸ inv.iterate_lowers looping inside
  · rename_i request copy reply sending
    split at stepped
    · rename_i exchange pushed
      obtain rfl := Option.some.inj stepped
      have heavier := weight_push pushed state.mq
      simp only [measure, sending, pcWeight, heavier]
      omega
    · rename_i exchange message sizeInBytes pushed
      obtain rfl := Option.some.inj stepped
      have heavier := weight_push pushed state.mq
      simp only [measure, sending, pcWeight, heavier]
      omega
    · simp at stepped
  · rename_i copy message size receiving
    split at stepped
    · rename_i reply exchange popped
      obtain ⟨data, accepted, _⟩ := inv.pop receiving popped
      rw [accepted] at stepped
      obtain rfl := Option.some.inj stepped
      have lighter := weight_pop popped
      simp only [measure, receiving, pcWeight, lighter]
      omega
    · simp at stepped
  · simp at stepped
  · simp at stepped

theorem serverStep_lowers {exchange after : Exchange Unit Unit} {label : ServerLabel Unit}
    (wired : exchange.Wired fun _ => endpoint) (running : after.fault = none)
    (stepped : exchange.serverStep label = some after) :
    weight after endpoint.mq < weight exchange endpoint.mq := by
  simp only [Exchange.serverStep, Exchange.serverStep_running stepped, Option.isSome_none,
    Bool.false_eq_true, if_false] at stepped
  cases label with
  | receive index =>
      obtain ⟨request, rest, idle, queue, rfl⟩ := Exchange.receiveStep_spec wired stepped
      simp only [weight, idle, queue, Function.update_self, threadWeight, List.length_cons]
      omega
  | handle index kernel =>
      obtain ⟨request, hand, _, file, _, rfl⟩ := Exchange.handleStep_spec wired stepped
      cases served : file.serve kernel request.body with
      | done file => simp [weight, hand, threadWeight]
      | reply file reply => simp [weight, hand, threadWeight]
      | fault file fault => simp [served] at running
  | send index =>
      obtain ⟨reply, sends, _, rfl⟩ := Exchange.sendStep_spec wired stepped
      simp only [weight, sends, Function.update_self, threadWeight, List.length_append,
        List.length_singleton]
      omega
  | close index => simp [wired.closeStep_none] at stepped

theorem Inv.enabled (inv : call.Inv endpoint target initial fileSize state)
    (unfinished : ¬(state.pc = .returned 0 ∧ (state.service endpoint).requests = [])) :
    ∃ label after events, state.Permitted label ∧
      call.machine.step state label = some (after, events) := by
  have replyRoom : (state.service endpoint).replies.length < maxQueueSize →
      (state.exchange.replyMq endpoint.mq).length < maxQueueSize := by
    simp only [SyncState.service, Exchange.service, List.length_append]
    omega
  have server (busy : (state.service endpoint).requests ≠ [] ∨
      (state.exchange.thread ()).repliesOf () ≠ [])
      (room : (state.exchange.replyMq endpoint.mq).length < maxQueueSize) :
      ∃ label after events, state.Permitted label ∧
        call.machine.step state label = some (after, events) := by
    have idle (none : state.exchange.requestMq () = []) : state.exchange.thread () ≠ .idle := by
      intro idle
      simp [SyncState.service, Exchange.service, none, idle, Thread.requestsOf,
        Thread.repliesOf] at busy
    obtain ⟨label, exchange, valid, full, stepped⟩ :=
      Exchange.server_enabled () inv.wired inv.running (not_or_of_imp idle)
        (fun mq reply closing sends => (inv.wired.sending _ _ _ _ sends).2.1 ▸ room)
    exact ⟨.server label, { state with exchange }, [], ⟨valid, full⟩, by simp [machine, stepped]⟩
  have client {after : SyncState} (stepped : call.clientStep state = some after) :
      ∃ label after events, state.Permitted label ∧
        call.machine.step state label = some (after, events) :=
    ⟨.client, after, [], trivial, by simp [machine, stepped]⟩
  have holds := inv.pc
  cases pc : state.pc with
  | looping copy => exact client (by simp only [SyncCall.clientStep, pc]; rfl)
  | sending request copy reply =>
      by_cases room : (state.exchange.requestMq ()).length < maxQueueSize
      · cases reply <;>
          exact client (by simp only [SyncCall.clientStep, pc, Exchange.pushRequest, room, if_true]; rfl)
      · -- The queue is full, so the server has something to do.
        have busy : (state.service endpoint).requests ≠ [] := by
          intro none
          simp only [SyncState.service, Exchange.service, List.append_eq_nil_iff] at none
          have empty : state.exchange.requestMq () = [] := by simpa using none.2
          simp [empty, maxQueueSize] at room
        rw [pc] at holds
        have quiet : (state.service endpoint).replies = [] := by
          cases reply with
          | none => exact holds.2.2.2.2.1
          | some destination =>
              obtain ⟨_, _, _, _, _, quiet, _⟩ := holds
              exact quiet
        exact server (Or.inl busy) (replyRoom (by simp [quiet, maxQueueSize]))
  | receiving copy message size =>
      rw [pc] at holds
      obtain ⟨_, _, _, _, _, _, inFlight⟩ := holds
      rcases inFlight with ⟨writes, last, requests, _, _, quiet⟩ | ⟨_, reply, replies, _⟩
      · exact server (Or.inl (by simp [requests])) (replyRoom (by simp [quiet, maxQueueSize]))
      · cases queue : state.exchange.replyMq endpoint.mq with
        | nil =>
            refine server (Or.inr ?_) (by simp [queue, maxQueueSize])
            simp only [SyncState.service, Exchange.service, queue, List.nil_append] at replies
            simp [replies]
        | cons first rest =>
            have popped : state.exchange.popReply state.mq = some (first, { state.exchange with
                replyMq := Function.update state.exchange.replyMq state.mq rest }) := by
              simp [Exchange.popReply, inv.mq, queue]
            obtain ⟨data, accepted, _⟩ := inv.pop pc popped
            exact client (by simp only [SyncCall.clientStep, pc, popped, accepted]; rfl)
  | returned ret =>
      rw [pc] at holds
      obtain ⟨rfl, _, quiet, _⟩ := holds
      exact server (Or.inl fun none => unfinished ⟨pc, none⟩)
        (replyRoom (by simp [quiet, maxQueueSize]))
  | aborted =>
      rw [pc] at holds
      exact holds.elim

theorem Inv.step {label : SyncLabel} {after : SyncState} {events : List Empty}
    (inv : call.Inv endpoint target initial fileSize state)
    (inside : SectorsInside call.sectorNum call.nbSectors fileSize)
    (fits : call.offset + call.length ≤ target.size) (permitted : state.Permitted label)
    (stepped : call.machine.step state label = some (after, events)) :
    call.Inv endpoint target initial fileSize after ∧ call.measure after < call.measure state := by
  cases label with
  | client =>
      simp only [machine, Option.map_eq_some_iff, Prod.mk.injEq] at stepped
      obtain ⟨_, stepped, rfl, _⟩ := stepped
      exact ⟨inv.clientStep inside stepped, inv.clientStep_lowers inside stepped⟩
  | server label =>
      simp only [machine, Option.map_eq_some_iff, Prod.mk.injEq] at stepped
      obtain ⟨exchange, stepped, rfl, _⟩ := stepped
      have kept := inv.serverStep fits permitted stepped
      refine ⟨kept, ?_⟩
      have lowers := serverStep_lowers inv.wired kept.running stepped
      rw [← inv.mq] at lowers
      change weight exchange state.mq < weight state.exchange state.mq at lowers
      show call.pcWeight state.pc + weight exchange state.mq <
        call.pcWeight state.pc + weight state.exchange state.mq
      omega

end SyncCall

end Cvbd
