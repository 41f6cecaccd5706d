import Cvbd.AsyncMoves
import Cvbd.Client

/-!
What a step of a client's private system can do, said once: `Inv` holds
throughout, and in a state with `Inv` every step has one of the shapes of
`Effect`, none of which touches a control block that is not live.
-/

namespace Cvbd

variable {Client : Type}

/-- The coroutine's control block is live and filled in for it. -/
def AsyncClient.Live (client : AsyncClient) (call : Nat) (coroutine : Coroutine) : Prop :=
  coroutine.acb ≠ 0 ∧ ∃ acb, client.heap coroutine.acb = some acb ∧ acb.coroutine = call ∧
    acb.qiov = coroutine.call.qiov ∧ acb.size = coroutine.call.size ∧ acb.callback = true

/-- A request in flight belongs to the call it is tagged with; if it will be answered, the call is
outstanding and its control block is the one named. -/
def AsyncClient.Asked (client : AsyncClient) (volume : UInt64)
    (request : Envelope Client Request) : Prop :=
  ∃ coroutine, client.coroutines request.call = some coroutine ∧ coroutine.call.Accepted ∧
    coroutine.call.Asks coroutine.data volume request.body.header.acb request.body ∧
    (request.body.answered = true →
      coroutine.acb = request.body.header.acb ∧ coroutine.pc.isOutstanding = true)

/-- The reply is the one an outstanding call waits for. -/
def AsyncClient.Awaits (client : AsyncClient) (call : Nat) (reply : Reply) : Prop :=
  ∃ coroutine, client.coroutines call = some coroutine ∧ coroutine.acb = reply.header.acb ∧
    coroutine.pc.isOutstanding = true ∧ coroutine.call.Expects reply

namespace PrivateState

structure Inv (volume : UInt64) (state : PrivateState Client) : Prop where
  volume_eq : state.client.shared.volume = volume
  fault : state.client.fault = none ∨ state.client.fault = some .assertion
  known : ∀ call, (state.client.coroutines call).isSome = true ↔ call < state.client.next
  running : ∀ call coroutine, state.client.coroutines call = some coroutine →
    (coroutine.pc.isRunning = true ↔ state.client.current = some call)
  last : ∀ call coroutine request, state.client.coroutines call = some coroutine →
    coroutine.pc = .sending request → call + 1 = state.client.next
  live : ∀ call coroutine, state.client.coroutines call = some coroutine →
    coroutine.pc.isReturned = false → state.client.Live call coroutine
  accepted : ∀ call coroutine, state.client.coroutines call = some coroutine →
    coroutine.pc.isReturned = false → coroutine.call.Accepted
  sends : ∀ call coroutine request, state.client.coroutines call = some coroutine →
    coroutine.pc = .sending request →
    coroutine.call.Asks coroutine.data volume coroutine.acb request
  callbacks : ∀ call coroutine, state.client.coroutines call = some coroutine →
    coroutine.pc = .callback → coroutine.call.isWrite = true
  balanced : Balanced state.places state.client.Owns
  writes : ∀ call coroutine, state.client.coroutines call = some coroutine →
    coroutine.pc.isOutstanding = true → coroutine.call.isWrite = true →
    coroutine.acb ∈ state.client.bhs
  requests : ∀ request ∈ state.service.requests, state.client.Asked volume request
  replies : ∀ reply ∈ state.service.replies, state.client.Awaits reply.call reply.body
  hand : ∀ call reply, state.client.replyThread = .hand call reply →
    state.client.Awaits call reply

/-- The steps that are possible in a state with `Inv`. -/
inductive Effect (self : Client) (volume : UInt64) (state : PrivateState Client) :
    PrivateLabel → PrivateState Client → List CallEvent → Prop
  | abort {what address fresh} (large : maxDataSize < what.size.toNat) :
      Effect self volume state (.client (.inside (.call what address fresh)))
        { state with client := { state.client with fault := some .assertion } } []
  | refuse {what address fresh} (idle : state.client.current = none)
      (free : state.client.heap address = none) (misaligned : what.aligned = false) :
      Effect self volume state (.client (.inside (.call what address fresh)))
        { state with client := state.client.refuse what address fresh }
        [.returned state.client.next einval.negative]
  | enter {what address fresh acb request shared} (idle : state.client.current = none)
      (nonzero : address ≠ 0) (free : state.client.heap address = none)
      (accepted : what.Accepted)
      (volume_eq : shared.volume = volume)
      (asks : what.Asks (what.data state.client.memory state.client.oldData) volume address request)
      (filled : acb.coroutine = state.client.next ∧ acb.qiov = what.qiov ∧ acb.size = what.size ∧
        acb.callback = true) :
      Effect self volume state (.client (.inside (.call what address fresh)))
        { state with client := state.client.enterSend what address acb (some (request, shared)) } []
  | send {call what data acb request} (executing : state.client.current = some call)
      (found : state.client.coroutines call = some ⟨what, data, acb, .sending request⟩)
      (asks : what.Asks data volume acb request) :
      Effect self volume state (.client .send)
        ⟨state.client.setCoroutine call
            ⟨what, data, acb, if what.isWrite = true then .callback else .yielding⟩,
          { state.service with
            requests := state.service.requests ++ [⟨self, call, request⟩] }⟩
        [.submitted call request]
  | callback {call what data address acb} (executing : state.client.current = some call)
      (found : state.client.coroutines call = some ⟨what, data, address, .callback⟩)
      (write : what.isWrite = true) (live : state.client.heap address = some acb) :
      Effect self volume state (.client (.inside .callback))
        { state with client :=
          ((state.client.finishAio address 0 { acb with ret := acb.size.toInt64 }).setCoroutine call
            ⟨what, data, address, .yielding⟩) } []
  | yield {call what data acb} (executing : state.client.current = some call)
      (found : state.client.coroutines call = some ⟨what, data, acb, .yielding⟩) :
      Effect self volume state (.client (.inside .yield))
        { state with client :=
          { state.client.setCoroutine call (⟨what, data, acb, .yielded⟩ : Coroutine) with
            current := none } } [.yielded call]
  | bottomHalf {address what data acb} (idle : state.client.current = none)
      (scheduled : address ∈ state.client.bhs) (live : state.client.heap address = some acb)
      (found : state.client.coroutines acb.coroutine = some ⟨what, data, address, .yielded⟩) :
      Effect self volume state (.client (.inside (.bottomHalf address)))
        { state with client :=
          { (state.client.setAcb address (some { acb with bh := false })).setCoroutine acb.coroutine
              (⟨what, data, address, .entered⟩ : Coroutine) with
            bhs := state.client.bhs.erase address
            current := some acb.coroutine } } [.entered acb.coroutine]
  | resume {call what data address acb} (executing : state.client.current = some call)
      (found : state.client.coroutines call = some ⟨what, data, address, .entered⟩)
      (live : state.client.heap address = some acb) :
      Effect self volume state (.client (.inside .resume))
        { state with client :=
          { (state.client.setAcb address none).setCoroutine call
              (⟨what, data, address, .returned acb.ret.toInt32⟩ : Coroutine) with
            current := none } } [.returned call acb.ret.toInt32]
  | receive {reply rest} (idle : state.client.replyThread = .idle)
      (queue : state.service.replies = reply :: rest) :
      Effect self volume state (.client .receive)
        ⟨{ state.client with replyThread := .hand reply.call reply.body },
          { state.service with replies := rest }⟩ []
  | copyRead {call sectorNum nbSectors qiov data pc acb memory} {reply : ReadReply}
      (held : state.client.replyThread = .hand call (.read reply))
      (found : state.client.coroutines call =
        some ⟨.readv sectorNum nbSectors qiov, data, reply.header.acb, pc⟩)
      (outstanding : pc.isOutstanding = true) (size : reply.sizeInBytes = byteSize nbSectors)
      (live : state.client.heap reply.header.acb = some acb)
      (copied : iovFromBuf qiov 0 reply.data reply.sizeInBytes.toNat state.client.memory =
        some memory) :
      Effect self volume state (.client (.inside .copy))
        { state with client := { state.client.setAcb reply.header.acb
            (some { acb with ret := reply.sizeInBytes.toInt64 }) with
          memory
          replyThread := .finishing reply.header.acb 0 } } []
  | copyFsync {call data pc acb} {reply : FsyncReply}
      (held : state.client.replyThread = .hand call (.fsync reply))
      (found : state.client.coroutines call = some ⟨.flush, data, reply.header.acb, pc⟩)
      (outstanding : pc.isOutstanding = true)
      (live : state.client.heap reply.header.acb = some acb) :
      Effect self volume state (.client (.inside .copy))
        { state with client := { state.client.setAcb reply.header.acb
            (some { acb with ret := reply.err.toInt64 }) with
          replyThread := .finishing reply.header.acb reply.err } } []
  | finish {address ret coroutine acb} (held : state.client.replyThread = .finishing address ret)
      (live : state.client.heap address = some acb)
      (found : state.client.coroutines acb.coroutine = some coroutine)
      (own : coroutine.acb = address) (outstanding : coroutine.pc.isOutstanding = true) :
      Effect self volume state (.client (.inside .finish))
        { state with client :=
          { state.client.finishAio address ret acb with replyThread := .idle } } []
  | guest {memory} : Effect self volume state (.client (.inside (.guest memory)))
      { state with client := { state.client with memory } } []
  | serve {request rest kernel service} (alive : state.service.alive = true)
      (queue : state.service.requests = request :: rest)
      (served : state.service.serve kernel = some service) :
      Effect self volume state (.serve kernel) { state with service }
        [.served request.call request.body kernel service.file]
  | crash : Effect self volume state .crash
      { state with service := { state.service with alive := false } } []

end PrivateState

/-! Field lemmas of the state updates. -/

namespace AsyncClient

variable (client : AsyncClient)

@[simp] theorem setAcb_coroutines (address : UInt64) (acb : Option Acb) :
    (client.setAcb address acb).coroutines = client.coroutines := rfl

@[simp] theorem setAcb_bhs (address : UInt64) (acb : Option Acb) :
    (client.setAcb address acb).bhs = client.bhs := rfl

@[simp] theorem setAcb_replyThread (address : UInt64) (acb : Option Acb) :
    (client.setAcb address acb).replyThread = client.replyThread := rfl

@[simp] theorem setCoroutine_heap (call : Nat) (coroutine : Coroutine) :
    (client.setCoroutine call coroutine).heap = client.heap := rfl

@[simp] theorem setCoroutine_bhs (call : Nat) (coroutine : Coroutine) :
    (client.setCoroutine call coroutine).bhs = client.bhs := rfl

@[simp] theorem setCoroutine_replyThread (call : Nat) (coroutine : Coroutine) :
    (client.setCoroutine call coroutine).replyThread = client.replyThread := rfl

variable {client}

end AsyncClient

/-! Every step has one of these shapes. -/

namespace PrivateState

variable {self : Client} {volume : UInt64} {state after : PrivateState Client}
variable {events : List CallEvent}

theorem Inv.effect_read {address : UInt64} {fresh : Acb} {sectorNum : Int64} {nbSectors : Int32}
    {qiov : Qiov} (inv : state.Inv volume) (idle : state.client.current = none)
    (nonzero : address ≠ 0) (free : state.client.heap address = none) :
    Effect self volume state
      (.client (.inside (.call (.readv sectorNum nbSectors qiov) address fresh)))
      { state with
        client := (state.client.cvbdCoRw address fresh false sectorNum nbSectors qiov).1 }
      (state.client.cvbdCoRw address fresh false sectorNum nbSectors qiov).2 := by
  unfold AsyncClient.cvbdCoRw
  by_cases aligned : isRequestAligned sectorNum nbSectors = true
  · by_cases small : (byteSize nbSectors).toNat ≤ maxDataSize
    · simp only [aligned, if_true, Bool.false_eq_true, if_false, SharedMemClient.sendReadv, small]
      refine Effect.enter idle nonzero free ⟨aligned, small⟩ inv.volume_eq ?_ ⟨rfl, rfl, rfl, rfl⟩
      refine ⟨state.client.shared.id + 1, ?_⟩
      exact (state.client.shared.post_readMessage _ _ _ _).trans (by rw [inv.volume_eq])
    · simp only [aligned, if_true, Bool.false_eq_true, if_false, SharedMemClient.sendReadv, small]
      exact Effect.abort (by simpa [CoCall.size] using small)
  · simp only [aligned, Bool.false_eq_true, if_false]
    exact Effect.refuse idle free (by simpa [CoCall.aligned] using aligned)

theorem Inv.effect_write {address : UInt64} {fresh : Acb} {sectorNum : Int64} {nbSectors : Int32}
    {qiov : Qiov} (inv : state.Inv volume) (idle : state.client.current = none)
    (nonzero : address ≠ 0) (free : state.client.heap address = none) :
    Effect self volume state
      (.client (.inside (.call (.writev sectorNum nbSectors qiov) address fresh)))
      { state with
        client := (state.client.cvbdCoRw address fresh true sectorNum nbSectors qiov).1 }
      (state.client.cvbdCoRw address fresh true sectorNum nbSectors qiov).2 := by
  unfold AsyncClient.cvbdCoRw
  obtain ⟨gathered, gathered_eq, same⟩ :=
    iovToBuf_spec qiov state.client.oldData (byteSize nbSectors).toNat state.client.memory
  by_cases aligned : isRequestAligned sectorNum nbSectors = true
  · by_cases small : (byteSize nbSectors).toNat ≤ maxDataSize
    · simp only [aligned, if_true, gathered_eq, Option.bind_some, SharedMemClient.sendWritev, small]
      refine Effect.enter idle nonzero free ⟨aligned, small⟩ inv.volume_eq ?_ ⟨rfl, rfl, rfl, rfl⟩
      obtain ⟨sent, request_eq, sent_eq⟩ := state.client.shared.post_writeMessage
        state.client.shared.volume address (byteOffset sectorNum) (byteSize nbSectors) gathered small
      refine ⟨_, sent, request_eq.trans (by rw [inv.volume_eq]), ?_⟩
      intro position below
      rw [sent_eq position below, same position below]
      rfl
    · simp only [aligned, if_true, gathered_eq, Option.bind_some, SharedMemClient.sendWritev, small,
        if_false]
      exact Effect.abort (by simpa [CoCall.size] using small)
  · simp only [aligned, Bool.false_eq_true, if_false]
    exact Effect.refuse idle free (by simpa [CoCall.aligned] using aligned)

theorem Inv.effect_flush {address : UInt64} {fresh : Acb} (inv : state.Inv volume)
    (idle : state.client.current = none) (nonzero : address ≠ 0)
    (free : state.client.heap address = none) :
    Effect self volume state (.client (.inside (.call .flush address fresh)))
      { state with client := state.client.cvbdCoFlushToDisk address fresh } [] := by
  unfold AsyncClient.cvbdCoFlushToDisk
  refine Effect.enter idle nonzero free ⟨rfl, by decide⟩ inv.volume_eq ?_ ⟨rfl, rfl, rfl, rfl⟩
  refine ⟨state.client.shared.id + 1, ?_⟩
  exact (state.client.shared.sendFsync_request address).trans (by rw [inv.volume_eq])

theorem Inv.live_running {call : Nat} {coroutine : Coroutine} (inv : state.Inv volume)
    (running : state.client.running = some (call, coroutine)) :
    state.client.current = some call ∧ state.client.coroutines call = some coroutine ∧
      ∃ acb, state.client.heap coroutine.acb = some acb ∧ acb.callback = true := by
  obtain ⟨executing, found⟩ := AsyncClient.running_eq_some running
  have active := (inv.running call coroutine found).mpr executing
  have unfinished : coroutine.pc.isReturned = false := by
    cases pc : coroutine.pc <;> simp_all [CoPc.isRunning, CoPc.isReturned]
  obtain ⟨_, acb, live, _, _, _, callback⟩ := inv.live call coroutine found unfinished
  exact ⟨executing, found, acb, live, callback⟩

/-- A counted control block belongs to an outstanding call. -/
theorem Inv.owner {address : UInt64} (inv : state.Inv volume)
    (present : 0 < state.places address) :
    ∃ acb coroutine, state.client.heap address = some acb ∧ acb.callback = true ∧
      state.client.coroutines acb.coroutine = some coroutine ∧ coroutine.acb = address ∧
      coroutine.pc.isOutstanding = true := by
  obtain ⟨call, coroutine, found, own, outstanding⟩ := inv.balanced.owner present
  have unfinished : coroutine.pc.isReturned = false := by
    cases pc : coroutine.pc <;> simp_all [CoPc.isOutstanding, CoPc.isReturned]
  obtain ⟨_, acb, live, call_eq, _, _, callback⟩ := inv.live call coroutine found unfinished
  rw [own] at live
  exact ⟨acb, coroutine, live, callback, by rw [call_eq]; exact found, own, outstanding⟩

theorem Inv.effect_copy {call : Nat} {reply : Reply} (inv : state.Inv volume)
    (held : state.client.replyThread = .hand call reply) :
    Effect self volume state (.client (.inside .copy))
      { state with client := state.client.handleCoReply reply } [] := by
  obtain ⟨⟨what, data, address, pc⟩, found, own, outstanding, expects⟩ := inv.hand call reply held
  have unfinished : pc.isReturned = false := by
    cases pc <;> simp_all [CoPc.isOutstanding, CoPc.isReturned]
  obtain ⟨nonzero, acb, live, _, qiov_eq, _, _⟩ := inv.live call _ found unfinished
  simp only at own nonzero live qiov_eq
  subst own
  cases what with
  | readv sectorNum nbSectors qiov =>
      cases reply with
      | read reply =>
          obtain ⟨notStop, type, size⟩ := expects
          simp only [Reply.header] at live nonzero
          obtain ⟨memory, copied, _⟩ :=
            iovFromBuf_spec qiov reply.data reply.sizeInBytes.toNat state.client.memory
          obtain ⟨acbSize, acbRet, acbCoroutine, acbQiov, acbCallback, acbBh⟩ := acb
          obtain rfl : acbQiov = some qiov := qiov_eq
          simp only [AsyncClient.handleCoReply, Reply.header, notStop, Bool.false_eq_true, if_false,
            type, nonzero, live, copied]
          exact Effect.copyRead held found outstanding size live copied
      | openVolume reply => exact expects.elim
      | getsize reply => exact expects.elim
      | fsync reply => exact expects.elim
  | writev sectorNum nbSectors qiov => cases reply <;> exact expects.elim
  | flush =>
      cases reply with
      | fsync reply =>
          obtain ⟨notStop, type⟩ := expects
          simp only [Reply.header] at live nonzero
          simp only [AsyncClient.handleCoReply, Reply.header, notStop, Bool.false_eq_true, if_false,
            type, nonzero, live]
          exact Effect.copyFsync held found outstanding live
      | read reply => exact expects.elim
      | openVolume reply => exact expects.elim
      | getsize reply => exact expects.elim

theorem Inv.effect_local {label : LocalLabel} {client : AsyncClient} (inv : state.Inv volume)
    (valid : label.Valid state.client)
    (stepped : state.client.localStep label = some (client, events)) :
    Effect self volume state (.client (.inside label)) { state with client } events := by
  cases AsyncClient.localStep_cases stepped with
  | @call what address fresh idle =>
      obtain ⟨nonzero, free⟩ := valid
      cases what with
      | readv sectorNum nbSectors qiov => exact inv.effect_read idle nonzero free
      | writev sectorNum nbSectors qiov => exact inv.effect_write idle nonzero free
      | flush => exact inv.effect_flush idle nonzero free
  | flushSendFails running => exact valid.elim
  | sendFails notFlush running => exact valid.elim
  | @callback call what data address running =>
      obtain ⟨executing, found, ⟨acbSize, acbRet, acbCoroutine, acbQiov, acbCallback, acbBh⟩,
        live, callback⟩ := inv.live_running running
      obtain rfl : acbCallback = true := callback
      simp only [AsyncClient.writeCallback, live, if_true]
      exact Effect.callback executing found (inv.callbacks call _ found rfl) live
  | @yield call what data address running =>
      obtain ⟨executing, found, _⟩ := inv.live_running running
      exact Effect.yield executing found
  | @bottomHalf address idle scheduled =>
      have present : 0 < state.places address := by
        have counted := List.count_pos_iff.mpr scheduled
        unfold PrivateState.places
        omega
      obtain ⟨acb, coroutine, live, _, found, own, outstanding⟩ := inv.owner present
      -- The event loop is idle, so the owner has already yielded.
      have notRunning := inv.running _ _ found
      obtain ⟨what, data, localAcb, pc⟩ := coroutine
      cases pc with
      | yielded =>
          simp only at own
          subst own
          simp only [AsyncClient.completeAio, live, found]
          exact Effect.bottomHalf idle scheduled live found
      | yielding => simp [idle, CoPc.isRunning] at notRunning
      | sending request => simp [CoPc.isOutstanding] at outstanding
      | callback => simp [CoPc.isOutstanding] at outstanding
      | entered => simp [CoPc.isOutstanding] at outstanding
      | returned ret => simp [CoPc.isOutstanding] at outstanding
  | @resume call what data address running =>
      obtain ⟨executing, found, acb, live, _⟩ := inv.live_running running
      simp only [AsyncClient.resume, live]
      exact Effect.resume executing found live
  | copy held => exact inv.effect_copy held
  | @finish address ret held =>
      have present : 0 < state.places address := by
        simp only [PrivateState.places, held, ReplyThread.holds, if_true]
        omega
      obtain ⟨acb, coroutine, live, callback, found, own, outstanding⟩ := inv.owner present
      simp only [AsyncClient.finish, live, callback, if_true]
      exact Effect.finish held live found own outstanding
  | guest => exact Effect.guest

theorem Inv.effect_send {call : Nat} {request : Request} {client : AsyncClient}
    (inv : state.Inv volume) (taken : state.client.takeSend = some (call, request, client)) :
    Effect self volume state (.client .send)
      ⟨client, { state.service with requests := state.service.requests ++ [⟨self, call, request⟩] }⟩
      [.submitted call request] := by
  obtain ⟨what, data, acb, executing, found, rfl⟩ := AsyncClient.takeSend_spec taken
  exact Effect.send executing found (inv.sends _ _ _ found rfl)

/-- In a state with the invariant, a valid step has one of the shapes of `Effect`. -/
theorem Inv.effect {label : PrivateLabel} (inv : state.Inv volume) (valid : state.Valid label)
    (stepped : (machine self).step state label = some (after, events)) :
    Effect self volume state label after events := by
  cases label with
  | client label =>
      cases label with
      | send =>
          simp only [machine, clientStep] at stepped
          split at stepped
          · rename_i taken
            obtain ⟨rfl, rfl⟩ := Prod.mk.inj (Option.some.inj stepped)
            exact inv.effect_send taken
          · simp at stepped
      | receive =>
          simp only [machine, clientStep] at stepped
          split at stepped
          · rename_i reply rest queue
            split at stepped
            · rename_i client taken
              obtain ⟨rfl, rfl⟩ := Prod.mk.inj (Option.some.inj stepped)
              obtain ⟨idle, rfl⟩ := AsyncClient.takeReply_spec taken
              exact Effect.receive idle queue
            · simp at stepped
          · simp at stepped
      | inside label =>
          simp only [machine, clientStep] at stepped
          split at stepped
          · rename_i taken
            obtain ⟨rfl, rfl⟩ := Prod.mk.inj (Option.some.inj stepped)
            exact inv.effect_local valid taken
          · simp at stepped
  | serve kernel =>
      simp only [machine, serveStep] at stepped
      split at stepped
      · rename_i request rest service queue served
        obtain ⟨rfl, rfl⟩ := Prod.mk.inj (Option.some.inj stepped)
        have alive : state.service.alive = true := by
          unfold Service.serve at served
          split at served
          · assumption
          · simp at served
        exact Effect.serve alive queue served
      · simp at stepped
  | crash =>
      obtain ⟨rfl, rfl⟩ := Prod.mk.inj (Option.some.inj stepped)
      exact Effect.crash

end PrivateState

end Cvbd
