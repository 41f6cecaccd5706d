import Cvbd.AsyncDriver
import Cvbd.AsyncProgress

/-!
Until all calls have returned and all requests have been served, some step of
the clients or the server is enabled; with the measure this makes the end of
every schedule inevitable.
-/

namespace Cvbd

namespace AsyncState

variable {Index Client : Type} [DecidableEq Index] [DecidableEq Client]
variable {endpoints : Client → Endpoint Index} {state after : AsyncState Index Client}
variable {label : AsyncLabel Index Client} {events : List (Event Client)}

/-- Some step of the code can be taken. -/
def CanStep (endpoints : Client → Endpoint Index) (state : AsyncState Index Client) : Prop :=
  ∃ label, (state.Valid label ∧ state.Internal label) ∧
    ((machine endpoints).step state label).isSome = true

theorem canStep_inside (client : Client) (label : LocalLabel) {next : AsyncClient × List CallEvent}
    (internal : label.Internal) (valid : label.Valid (state.clients client))
    (stepped : (state.clients client).localStep label = some next) : state.CanStep endpoints :=
  ⟨.client client (.inside label), ⟨valid, internal⟩, by simp [machine, clientStep, stepped]⟩

theorem canStep_thread {client : Client} (sound : (state.view endpoints client).Sound)
    (busy : (state.clients client).replyThread ≠ .idle) : state.CanStep endpoints := by
  have running : (state.clients client).fault = none := sound.fault
  cases thread : (state.clients client).replyThread with
  | idle => exact (busy thread).elim
  | hand call reply =>
      exact canStep_inside client .copy trivial trivial
        (by simp only [AsyncClient.localStep, running, thread]; rfl)
  | finishing acb ret =>
      exact canStep_inside client .finish trivial trivial
        (by simp only [AsyncClient.localStep, running, thread]; rfl)
  | stopped => exact (sound.thread thread).elim

/-- A reply in its queue is taken, or the reply thread is busy. -/
theorem canStep_reply {client : Client} (sound : (state.view endpoints client).Sound)
    (replies : state.exchange.replyMq (endpoints client).mq ≠ []) : state.CanStep endpoints := by
  by_cases idle : (state.clients client).replyThread = .idle
  · obtain ⟨reply, rest, queue⟩ := List.exists_cons_of_ne_nil replies
    have running : (state.clients client).fault = none := sound.fault
    refine ⟨.client client .receive, ⟨trivial, trivial⟩, ?_⟩
    simp [machine, clientStep, Exchange.popReply, queue, AsyncClient.takeReply, running, idle]
  · exact canStep_thread sound idle

section Enabled

variable (inv : state.Inv endpoints) (running : state.exchange.fault = none)
variable (sound : ∀ client, (state.view endpoints client).Sound)

include inv running sound

/-- A server thread that is not waiting can go on, or the client whose reply queue is full. -/
theorem Inv.canStep_server (index : Index)
    (busy : state.exchange.requestMq index ≠ [] ∨ state.exchange.thread index ≠ .idle) :
    state.CanStep endpoints := by
  by_cases room : ∀ mq reply closing, state.exchange.thread index = .sending mq reply closing →
      (state.exchange.replyMq mq).length < maxQueueSize
  · obtain ⟨label, exchange, valid, full, stepped⟩ :=
      Exchange.server_enabled index inv.wired running busy room
    exact ⟨.server label, ⟨valid, valid, full⟩, by simp [machine, stepped]⟩
  · simp only [not_forall] at room
    obtain ⟨mq, reply, closing, sends, full⟩ := room
    obtain ⟨_, rfl, _⟩ := inv.wired.sending _ _ _ _ sends
    refine canStep_reply (sound reply.sender) ?_
    intro empty
    simp [empty, maxQueueSize] at full

theorem Inv.canStep_requests {client : Client}
    (requests : (state.view endpoints client).service.requests ≠ []) : state.CanStep endpoints := by
  refine inv.canStep_server running sound (endpoints client).index ?_
  by_contra idle
  simp only [not_or, not_not] at idle
  simp [view, Exchange.service, idle.1, idle.2, Thread.requestsOf] at requests

theorem Inv.canStep_replies {client : Client}
    (replies : (state.view endpoints client).service.replies ≠ []) : state.CanStep endpoints := by
  by_cases empty : state.exchange.replyMq (endpoints client).mq = []
  · refine inv.canStep_server running sound (endpoints client).index (Or.inr ?_)
    intro idle
    simp [view, Exchange.service, empty, idle, Thread.repliesOf] at replies
  · exact canStep_reply (sound client) empty

theorem Inv.canStep_running {client : Client} {call : Nat}
    (executing : (state.clients client).current = some call) : state.CanStep endpoints := by
  obtain ⟨⟨what, data, acb, pc⟩, found⟩ :=
    Option.isSome_iff_exists.mp ((sound client).current call executing)
  have healthy : (state.clients client).fault = none := (sound client).fault
  have found : (state.clients client).coroutines call = some ⟨what, data, acb, pc⟩ := found
  have runs := ((inv.clients client).running call _ found).mpr executing
  have lookup : (state.clients client).running = some (call, ⟨what, data, acb, pc⟩) := by
    simp [AsyncClient.running, executing, found]
  cases pc with
  | sending request =>
      by_cases room :
          (state.exchange.requestMq (endpoints client).index).length < maxQueueSize
      · have taken : ∃ next, (state.clients client).takeSend = some (call, request, next) := by
          simp only [AsyncClient.takeSend, healthy, lookup]
          cases what <;> exact ⟨_, rfl⟩
        obtain ⟨next, taken⟩ := taken
        refine ⟨.client client .send, ⟨trivial, trivial⟩, ?_⟩
        simp [machine, clientStep, taken, Exchange.pushRequest, room]
      · -- The queue is full, so its thread has something to do.
        refine inv.canStep_server running sound (endpoints client).index (Or.inl ?_)
        intro empty
        simp [empty, maxQueueSize] at room
  | callback =>
      exact canStep_inside client .callback trivial trivial
        (by simp only [AsyncClient.localStep, healthy, lookup]; rfl)
  | yielding =>
      exact canStep_inside client .yield trivial trivial
        (by simp only [AsyncClient.localStep, healthy, lookup]; rfl)
  | entered =>
      exact canStep_inside client .resume trivial trivial
        (by simp only [AsyncClient.localStep, healthy, lookup]; rfl)
  | yielded => simp [CoPc.isRunning] at runs
  | returned ret => simp [CoPc.isRunning] at runs

/-- A coroutine that waits is waited for somewhere. -/
theorem Inv.canStep_waiting {client : Client} {call : Nat} {coroutine : Coroutine}
    (idle : (state.clients client).current = none)
    (found : (state.clients client).coroutines call = some coroutine)
    (outstanding : coroutine.pc.isOutstanding = true) : state.CanStep endpoints := by
  have once := (inv.clients client).place found outstanding
  have healthy : (state.clients client).fault = none := (sound client).fault
  by_cases requests : (state.view endpoints client).service.requests = []
  · by_cases replies : (state.view endpoints client).service.replies = []
    · by_cases thread : (state.clients client).replyThread = .idle
      · have thread : (state.view endpoints client).client.replyThread = .idle := thread
        simp only [PrivateState.places, requests, replies, thread, Service.asked, Service.answers,
          List.countP_nil, ReplyThread.holds] at once
        have scheduled : coroutine.acb ∈ (state.clients client).bhs :=
          List.count_pos_iff.mp (by simp only [view] at once; omega)
        exact canStep_inside client (.bottomHalf coroutine.acb) trivial trivial
          (by simp only [AsyncClient.localStep, healthy, idle, scheduled, if_true]; rfl)
      · exact canStep_thread (sound client) thread
    · exact inv.canStep_replies running sound replies
  · exact inv.canStep_requests running sound requests

/-- Until everything has returned and been served, some step can be taken. -/
theorem Inv.canStep (unfinished : ¬state.Finished endpoints) : state.CanStep endpoints := by
  by_contra stuck
  refine unfinished ⟨?_, ?_⟩
  · intro client call coroutine found
    by_contra active
    cases current : (state.clients client).current with
    | some executing => exact stuck (inv.canStep_running running sound current)
    | none =>
        have notRunning := (inv.clients client).running call coroutine found
        refine stuck (inv.canStep_waiting running sound current found ?_)
        cases pc : coroutine.pc <;>
          simp_all [CoPc.isRunning, CoPc.isReturned, CoPc.isOutstanding, view]
  · intro client
    by_contra requests
    exact stuck (inv.canStep_requests running sound requests)

end Enabled

omit [DecidableEq Index] [DecidableEq Client] in
theorem Internal.fits (internal : state.Internal label) : Fits label := by
  cases label with
  | client client label =>
      cases label with
      | send => trivial
      | receive => trivial
      | inside label => exact LocalLabel.Internal.fits internal
  | server label => trivial

theorem Inv.sound_step (inv : state.Inv endpoints)
    (sound : ∀ client, (state.view endpoints client).Sound) (valid : state.Valid label)
    (fits : Fits label) (stepped : (machine endpoints).step state label = some (after, events))
    (client : Client) : (after.view endpoints client).Sound := by
  rcases inv.project valid stepped client with ⟨same, _⟩ | ⟨label', projects, valid', next⟩
  · rw [same]
    exact sound client
  · refine ((inv.clients client).effect valid' next).sound ?_ (sound client)
    rintro label'' rfl
    cases projects with
    | own => exact fits

/-- From every state with the invariant, all calls return and all requests are served, unless the
server aborts. -/
theorem Inv.settles [Fintype Index] [Fintype Client] (inv : state.Inv endpoints)
    (sound : ∀ client, (state.view endpoints client).Sound) :
    (machine endpoints).Settles (fun state label => state.Valid label ∧ state.Internal label)
      (fun state => state.exchange.fault ≠ none ∨ state.Finished endpoints) state := by
  refine Machine.Settles.of_measure (fun state => state.Inv endpoints ∧
    ∀ client, (state.view endpoints client).Sound) (measure endpoints) ?_ ?_ ⟨inv, sound⟩
  · rintro state ⟨inv, sound⟩ unfinished
    simp only [not_or, not_not] at unfinished
    obtain ⟨label, permitted, enabled⟩ := inv.canStep unfinished.1 sound unfinished.2
    obtain ⟨⟨after, events⟩, stepped⟩ := Option.isSome_iff_exists.mp enabled
    exact ⟨label, after, events, permitted, stepped⟩
  · rintro state label after events ⟨inv, sound⟩ _ ⟨valid, internal⟩ stepped
    exact ⟨⟨inv.step valid stepped, inv.sound_step sound valid internal.fits stepped⟩,
      inv.lowers valid internal stepped⟩

/-! Where the control block at an address is. -/

def queuedFor (endpoints : Client → Endpoint Index) (state : AsyncState Index Client)
    (client : Client) (acb : UInt64) : Nat :=
  Service.asked ((state.exchange.requestMq (endpoints client).index).filter fun request =>
    request.sender = client) acb

def serverHolds (endpoints : Client → Endpoint Index) (state : AsyncState Index Client)
    (client : Client) (acb : UInt64) : Nat :=
  let thread := state.exchange.thread (endpoints client).index
  Service.asked (thread.requestsOf client) acb + Service.answers (thread.repliesOf client) acb

def answeredFor (endpoints : Client → Endpoint Index) (state : AsyncState Index Client)
    (client : Client) (acb : UInt64) : Nat :=
  Service.answers (state.exchange.replyMq (endpoints client).mq) acb

omit [DecidableEq Index] in
theorem view_places (client : Client) (acb : UInt64) :
    (state.view endpoints client).places acb =
      state.queuedFor endpoints client acb + state.serverHolds endpoints client acb +
        state.answeredFor endpoints client acb + (state.clients client).replyThread.holds acb +
        (state.clients client).bhs.count acb := by
  simp only [PrivateState.places, view, Exchange.service, queuedFor, serverHolds, answeredFor,
    Service.asked, Service.answers, List.countP_append]
  omega

/-- The number of places in which the control block at `acb` is. -/
def placesOf (endpoints : Client → Endpoint Index) (state : AsyncState Index Client)
    (client : Client) (acb : UInt64) : Nat :=
  state.queuedFor endpoints client acb + state.serverHolds endpoints client acb +
    state.answeredFor endpoints client acb + (state.clients client).replyThread.holds acb +
    (state.clients client).bhs.count acb

/-- What becomes of the calls of one client and of their control blocks. -/
structure CompletesOnce (endpoints : Client → Endpoint Index) (state : AsyncState Index Client)
    (client : Client) (events : List CallEvent) : Prop where
  /-- No assert has fired, no freed block been accessed, no coroutine entered before it yielded. -/
  fault : (state.clients client).fault = none
  outstanding : ∀ call coroutine, (state.clients client).coroutines call = some coroutine →
    coroutine.pc.isOutstanding = true → state.placesOf endpoints client coroutine.acb = 1
  write : ∀ call coroutine, (state.clients client).coroutines call = some coroutine →
    coroutine.pc.isOutstanding = true → coroutine.call.isWrite = true →
    (state.clients client).bhs.count coroutine.acb = 1
  /-- The message of a write carries an address but is never answered. -/
  silent : ∀ request ∈ (state.view endpoints client).service.requests, ∀ coroutine,
    (state.clients client).coroutines request.call = some coroutine →
    coroutine.call.isWrite = true →
    ∀ file kernel after reply, VolumeFile.serve file kernel request.body ≠ .reply after reply
  /-- An address no outstanding call uses is nowhere, whatever it was used for before. -/
  unowned : ∀ acb, (∀ call, ¬(state.clients client).Owns acb call) →
    state.placesOf endpoints client acb = 0
  replies : ∀ reply ∈ (state.view endpoints client).service.replies,
    (state.clients client).Awaits reply.call reply.body
  hand : ∀ call reply, (state.clients client).replyThread = .hand call reply →
    (state.clients client).Awaits call reply
  marks : ∀ call coroutine, (state.clients client).coroutines call = some coroutine →
    coroutine.call.aligned = true → ∃ ret,
      CallEvent.marks call events <+: [.submitted, .yielded, .entered, .returned ret]
  entered : ∀ call coroutine, (state.clients client).coroutines call = some coroutine →
    coroutine.pc = .entered → ∃ acb, (state.clients client).heap coroutine.acb = some acb ∧
      acb.coroutine = call ∧ coroutine.call.Result events call acb.ret
  returned : ∀ call coroutine ret, (state.clients client).coroutines call = some coroutine →
    coroutine.call.aligned = true → coroutine.pc = .returned ret →
    CallEvent.marks call events = [.submitted, .yielded, .entered, .returned ret] ∧
      (coroutine.call ≠ .flush → ret = 0) ∧ (coroutine.call = .flush → Synced events call ret)

omit [DecidableEq Index] in
theorem CompletesOnce.of_tied {client : Client} {initial : File} {trace : List CallEvent}
    (sound : (state.view endpoints client).Sound)
    (tied : (state.view endpoints client).Tied client (endpoints client).volume initial trace) :
    state.CompletesOnce endpoints client trace where
  fault := sound.fault
  outstanding := by
    intro call coroutine found outstanding
    have once := tied.inv.place found outstanding
    rwa [view_places] at once
  write := by
    intro call coroutine found outstanding write
    have once := tied.inv.place found outstanding
    have scheduled := List.count_pos_iff.mpr (tied.inv.writes call coroutine found outstanding write)
    simp only [PrivateState.places, view] at once scheduled
    omega
  silent := by
    intro request member coroutine found write file kernel after reply
    obtain ⟨coroutine', lookup, _, asks, _⟩ := tied.inv.requests request member
    obtain rfl := Option.some.inj (found.symm.trans lookup)
    cases what : coroutine.call with
    | writev sectorNum nbSectors qiov =>
        rw [what] at asks
        obtain ⟨id, sent, body, _⟩ := asks
        rw [body]
        simp only [VolumeFile.serve]
        split <;> simp
    | readv sectorNum nbSectors qiov => simp [what, CoCall.isWrite] at write
    | flush => simp [what, CoCall.isWrite] at write
  unowned := by
    intro acb none
    have nowhere := tied.inv.balanced.free acb none
    rwa [view_places] at nowhere
  replies := tied.inv.replies
  hand := tied.inv.hand
  marks := by
    intro call coroutine found aligned
    have marks := tied.history.marks call
    simp only [AsyncClient.passed, view, found] at marks
    rw [marks]
    cases pc : coroutine.pc <;> simp [Coroutine.passed, pc, aligned]
  entered := by
    intro call coroutine found entered
    obtain ⟨_, acb, lookup, owner, _⟩ := tied.inv.live call coroutine found
      (by simp [entered, CoPc.isReturned])
    exact ⟨acb, lookup, owner, tied.outcomes.final call coroutine acb found (Or.inr entered) lookup⟩
  returned := by
    intro call coroutine ret found aligned returned
    have marks := tied.history.marks call
    simp only [AsyncClient.passed, view, found] at marks
    refine ⟨by simp [marks, Coroutine.passed, returned, aligned], ?_⟩
    obtain ⟨stored, result, rfl⟩ : ∃ stored, coroutine.call.Result trace call stored ∧
        ret = stored.toInt32 := by
      rcases tied.outcomes.returned call coroutine ret found returned with
        ⟨misaligned, _⟩ | ⟨_, result⟩
      · simp [aligned] at misaligned
      · exact result
    cases what : coroutine.call with
    | readv sectorNum nbSectors qiov =>
        rw [what] at result
        obtain rfl : stored = 0 := result
        exact ⟨fun _ => rfl, by simp⟩
    | writev sectorNum nbSectors qiov =>
        rw [what] at result
        obtain rfl : stored = 0 := result
        exact ⟨fun _ => rfl, by simp⟩
    | flush =>
        rw [what] at result
        obtain ⟨err, synced, rfl⟩ := result
        rw [Int32.toInt32_toInt64]
        exact ⟨by simp, fun _ => synced⟩

theorem Started.sound {initial : AsyncState Index Client} (started : initial.Started endpoints)
    {trace : List (Event Client)}
    (run : (machine endpoints).Run (fun state label => state.Valid label ∧ Fits label) initial trace
      state) :
    state.Inv endpoints ∧ ∀ client, (state.view endpoints client).Sound := by
  refine run.invariant (fun _ current => current.Inv endpoints ∧
    ∀ client, (current.view endpoints client).Sound) ⟨started.inv, fun client => ?_⟩ ?_
  · have fresh := started.clients client
    exact ⟨fresh.fault, by simp [view, fresh.replyThread], by simp [view, fresh.current]⟩
  · rintro _ current label after events ⟨inv, sound⟩ ⟨valid, fits⟩ stepped
    exact ⟨inv.step valid stepped, inv.sound_step sound valid fits stepped⟩

/-- In every run each call is entered exactly once, after it has yielded and with its own result:
its control block is in exactly one place until then, and every schedule gets there unless the
server aborts. -/
theorem Started.completesOnce [Fintype Index] [Fintype Client]
    {initial : AsyncState Index Client} (started : initial.Started endpoints)
    {trace : List (Event Client)}
    (run : (machine endpoints).Run (fun state label => state.Valid label ∧ Fits label) initial trace
      state) :
    (∀ client, state.CompletesOnce endpoints client (trace.flatMap (Event.visible client))) ∧
      (machine endpoints).Settles (fun state label => state.Valid label ∧ state.Internal label)
        (fun state => state.exchange.fault ≠ none ∨ state.Finished endpoints) state := by
  obtain ⟨inv, sound⟩ := started.sound run
  refine ⟨fun client => ?_, inv.settles sound⟩
  exact CompletesOnce.of_tied (sound client)
    (started.tied (run.mono _ fun _ _ permitted => permitted.1) client)

/-- A read reuses the address of a write's block while both messages are still queued: the block is
in one place, the write has been entered once, and the read will be. -/
def sampleWaiting (state : AsyncState Unit Unit) : Bool :=
  match (state.clients ()).coroutines 0, (state.clients ()).coroutines 1 with
  | some ⟨.writev 8 8 _, _, _, .returned 0⟩, some ⟨_, _, 64, .yielded⟩ =>
      decide (((state.exchange.requestMq ()).map fun request => request.body.header.acb) = [64, 64])
  | _, _ => false

theorem sample_completesOnce :
    ∃ trace state, (machine fun _ => .sample).Run
        (fun state label => state.Valid label ∧ Fits label) sample trace state ∧
      ((state.exchange.requestMq ()).map fun request => request.body.header.acb) = [64, 64] ∧
      state.placesOf (fun _ => .sample) () 64 = 1 ∧
      CallEvent.marks 0 (trace.flatMap (Event.visible ())) =
        [.submitted, .yielded, .entered, .returned 0] ∧
      (machine fun _ => .sample).Settles (fun state label => state.Valid label ∧ state.Internal label)
        (fun state => state.exchange.fault ≠ none ∨ state.Finished fun _ => .sample) state := by
  obtain ⟨trace, state, run, passes⟩ := sample_run
    (sampleWrite ++ (sampleAfter (.readv 8 8 [⟨5000, 4096⟩])).take 3) sampleWaiting
    (by decide +kernel)
  simp only [sampleWaiting] at passes
  split at passes
  · rename_i first second
    have valid := run.mono (fun state label => state.Valid label ∧ Fits label)
      fun _ _ permitted => ⟨permitted.1, permitted.2.2⟩
    obtain ⟨once, settles⟩ := sample_started.completesOnce valid
    have place := (once ()).outstanding 1 _ second rfl
    have aligned : isRequestAligned 8 8 = true := by decide
    have marks := ((once ()).returned 0 _ 0 first aligned rfl).1
    exact ⟨trace, state, valid, by simpa using passes, place, marks, settles⟩
  · simp at passes

end AsyncState

end Cvbd
