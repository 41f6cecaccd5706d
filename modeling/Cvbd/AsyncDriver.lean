import Cvbd.AsyncOutcome
import Cvbd.AsyncReads
import Cvbd.AsyncSubmitted

/-!
The asynchronous driver against the server, for any number of clients and every
interleaving: reads see exactly the writes submitted before them, and a flush
that succeeds has made the writes before it durable.
-/

namespace Cvbd

/-- A client that has completed its open and made no call yet. -/
structure AsyncClient.Fresh (client : AsyncClient) (volume : UInt64) : Prop where
  volume_eq : client.shared.volume = volume
  fault : client.fault = none
  coroutines : ∀ call, client.coroutines call = none
  next : client.next = 0
  current : client.current = none
  bhs : client.bhs = []
  replyThread : client.replyThread = .idle

namespace PrivateState

variable {Client : Type} {self : Client} {volume : UInt64} {state after : PrivateState Client}
variable {initial : File} {trace : List CallEvent} {label : PrivateLabel} {events : List CallEvent}

/-- All that holds of a client, its service and the trace of both. -/
structure Tied (sender : Client) (volume : UInt64) (initial : File) (trace : List CallEvent)
    (state : PrivateState Client) : Prop where
  inv : state.Inv volume
  stored : state.Stored initial
  history : state.History trace
  outcomes : state.Outcomes initial trace
  submissions : state.Submissions sender volume initial trace

theorem Tied.start (self : Client) (fresh : state.client.Fresh volume) (requests : state.service.requests = [])
    (replies : state.service.replies = []) :
    state.Tied self volume state.service.file.content [] := by
  have none := fresh.coroutines
  have idle := fresh.replyThread
  have tracks : state.client.Tracks state.service.file.content state.service.file.content :=
    ⟨by simp [none], fun _ => by rw [fresh.next]; rfl⟩
  have places (acb : UInt64) : state.places acb = 0 := by
    simp [PrivateState.places, requests, replies, idle, fresh.bhs, Service.asked, Service.answers,
      ReplyThread.holds]
  have unowned (acb : UInt64) (call : Nat) : ¬state.client.Owns acb call := by
    rintro ⟨coroutine, found, _⟩
    simp [none] at found
  refine ⟨?_, ?_, ?_, ?_, ?_⟩
  · refine ⟨fresh.volume_eq, Or.inl fresh.fault, ?_, ?_, ?_, ?_, ?_, ?_, ?_, ?_, ?_, ?_, ?_, ?_⟩
    · simp [none, fresh.next]
    · simp [none]
    · simp [none]
    · simp [none]
    · simp [none]
    · simp [none]
    · simp [none]
    · exact ⟨fun acb call own => (unowned acb call own).elim, fun acb _ => places acb⟩
    · simp [none]
    · simp [requests]
    · simp [replies]
    · simp [idle]
  · exact ⟨by simp [requests], fun _ => by rw [requests]; exact tracks⟩
  · refine ⟨by simp, List.Pairwise.nil, ?_, by simp [requests], by simp [requests],
      List.Pairwise.nil, by simp⟩
    simp [CallEvent.marks, AsyncClient.passed, none]
  · exact ⟨by simp, by simp [replies], by simp [idle], by simp [idle], by simp [none],
      by simp [none]⟩
  · exact ⟨by simp, tracks, by simp⟩

theorem Tied.step (tied : state.Tied self volume initial trace) (valid : state.Valid label)
    (stepped : (machine self).step state label = some (after, events)) :
    after.Tied self volume initial (trace ++ events) := by
  have effect := tied.inv.effect valid stepped
  exact ⟨tied.inv.step effect, tied.stored.step tied.inv valid effect,
    tied.history.step tied.inv effect,
    tied.outcomes.step tied.inv tied.stored tied.history effect,
    tied.submissions.step tied.inv effect⟩

theorem Tied.delivers (tied : state.Tied self volume initial [])
    (fresh : state.client.Fresh volume) (quiet : state.service.replies = [])
    (run : (machine self).Run (fun state label => state.Valid label ∧ state.Respects label) state
      trace after) : after.Tied self volume initial trace ∧ after.Delivers initial := by
  refine run.invariant (fun trace current =>
    current.Tied self volume initial trace ∧ current.Delivers initial) ⟨tied, ?_⟩ ?_
  · refine ⟨by simp [quiet], by simp [fresh.replyThread], ?_, ?_⟩
    · simp [fresh.coroutines]
    · simp [fresh.coroutines]
  · rintro trace current label next events ⟨kept, delivers⟩ ⟨valid, respects⟩ stepped
    exact ⟨kept.step valid stepped, delivers.step kept.inv kept.stored valid respects
      (kept.inv.effect valid stepped)⟩

end PrivateState

namespace AsyncState

variable {Index Client : Type} [DecidableEq Index] [DecidableEq Client]

/-- Every client has completed its open and made no call yet. -/
structure Started (endpoints : Client → Endpoint Index) (state : AsyncState Index Client) :
    Prop where
  wired : state.exchange.Wired endpoints
  running : state.exchange.fault = none
  clients : ∀ client, (state.clients client).Fresh (endpoints client).volume
  requests : ∀ client, (state.view endpoints client).service.requests = []
  replies : ∀ client, (state.view endpoints client).service.replies = []

/-- The content of the client's volume file. -/
def content (endpoints : Client → Endpoint Index) (state : AsyncState Index Client)
    (client : Client) : File :=
  (state.view endpoints client).service.file.content

/-- What the callers promise about their vectors. -/
def Respects (state : AsyncState Index Client) : AsyncLabel Index Client → Prop
  | .client client (.inside label) => label.Respects (state.clients client)
  | _ => True

/-- Every call fits into one message. -/
def Fits : AsyncLabel Index Client → Prop
  | .client _ label => label.Fits
  | .server _ => True

variable {endpoints : Client → Endpoint Index} {initial state : AsyncState Index Client}
variable {trace : List (Event Client)}

omit [DecidableEq Index] in
theorem Started.inv (started : initial.Started endpoints) : initial.Inv endpoints :=
  ⟨started.wired, fun client => (PrivateState.Tied.start client
    (started.clients client) (started.requests client) (started.replies client)).inv⟩

theorem Started.tied (started : initial.Started endpoints)
    (run : (machine endpoints).Run Valid initial trace state) (client : Client) :
    (state.view endpoints client).Tied client (endpoints client).volume
      (initial.content endpoints client) (trace.flatMap (Event.visible client)) := by
  obtain ⟨_, privateRun⟩ := started.inv.run (fun _ _ permitted => permitted) run client
    PrivateState.Valid fun _ _ _ _ _ _ valid => valid
  exact privateRun.invariant (fun trace current =>
      current.Tied client (endpoints client).volume (initial.content endpoints client) trace)
    (PrivateState.Tied.start client (started.clients client) (started.requests client)
      (started.replies client))
    fun _ _ _ _ _ tied valid stepped => tied.step valid stepped

omit [DecidableEq Index] in
theorem Projects.respects {client : Client} {label : AsyncLabel Index Client}
    {label' : PrivateLabel} (projects : Projects client state label label')
    (respects : state.Respects label) : (state.view endpoints client).Respects label' := by
  cases projects with
  | @own label =>
      cases label with
      | inside label => exact respects
      | send => trivial
      | receive => trivial
  | served hand sender => trivial
  | crash => trivial

/-- The message of a call of the driver, with what the call's vector held when it was made. -/
def Carried (endpoints : Client → Endpoint Index) (state : AsyncState Index Client)
    (client : Client) (call : Nat) (request : Request) : Prop :=
  ∃ coroutine acb, (state.clients client).coroutines call = some coroutine ∧
    coroutine.call.Asks coroutine.data (endpoints client).volume acb request

end AsyncState

/-! A client of a volume of two blocks, and schedules that can be executed. -/

namespace AsyncState

def sample : AsyncState Unit Unit where
  exchange := .sample 8192 []
  clients := fun _ => {
    shared := ⟨[118], 4096, 1, fun _ => 0⟩
    memory := fun _ => 3
    heap := fun _ => none
    coroutines := fun _ => none
    next := 0
    current := none
    bhs := []
    replyThread := .idle
    fault := none }

theorem sample_started : sample.Started fun _ => .sample where
  wired := Exchange.sample_wired 8192 [] (by simp)
  running := rfl
  clients := fun _ => ⟨rfl, rfl, fun _ => rfl, rfl, rfl, rfl, rfl⟩
  requests := fun _ => by rw [view, sample, Exchange.sample_service]
  replies := fun _ => by rw [view, sample, Exchange.sample_service]

/-- A label that is allowed whatever the vectors are: no read is started beside another, and only
the client's own code touches the memory. -/
def permits (state : AsyncState Unit Unit) : AsyncLabel Unit Unit → Bool
  | .client client (.inside (.call what address _)) =>
      decide (address ≠ 0) && ((state.clients client).heap address).isNone &&
        decide (what.size.toNat ≤ maxDataSize) &&
        (List.range (state.clients client).next).all fun call =>
          match (state.clients client).coroutines call with
          | some ⟨.readv .., _, _, pc⟩ => pc.isReturned
          | _ => true
  | .client _ (.inside .sendFails) | .client _ (.inside (.guest _)) => false
  | .client .. => true
  | .server (.handle index kernel) =>
      match state.exchange.thread index with
      | .hand request => kernel.permits state.exchange.world request.body
      | _ => true
  | .server _ => true

theorem permits_sound {state : AsyncState Unit Unit} {label : AsyncLabel Unit Unit}
    (inv : state.Inv fun _ => .sample) (permits : state.permits label = true) :
    state.Valid label ∧ state.Respects label ∧ Fits label := by
  cases label with
  | client client label =>
      cases label with
      | send => exact ⟨trivial, trivial, trivial⟩
      | receive => exact ⟨trivial, trivial, trivial⟩
      | inside label =>
          cases label with
          | call what address fresh =>
              simp only [AsyncState.permits, Bool.and_eq_true, decide_eq_true_eq,
                Option.isNone_iff_eq_none, List.all_eq_true, List.mem_range] at permits
              obtain ⟨⟨⟨nonzero, free⟩, small⟩, noReads⟩ := permits
              refine ⟨⟨nonzero, free⟩, ?_, small⟩
              cases what with
              | readv sectorNum nbSectors qiov =>
                  intro call coroutine sectorNum' nbSectors' other found unfinished read
                  have known := ((inv.clients client).known call).mp (by simp [view, found])
                  have finished := noReads call known
                  obtain ⟨what, data, acb, pc⟩ := coroutine
                  simp only at read unfinished
                  simp [found, read, unfinished] at finished
              | writev sectorNum nbSectors qiov => trivial
              | flush => trivial
          | sendFails => simp [AsyncState.permits] at permits
          | guest memory => simp [AsyncState.permits] at permits
          | callback => exact ⟨trivial, trivial, trivial⟩
          | yield => exact ⟨trivial, trivial, trivial⟩
          | bottomHalf acb => exact ⟨trivial, trivial, trivial⟩
          | resume => exact ⟨trivial, trivial, trivial⟩
          | copy => exact ⟨trivial, trivial, trivial⟩
          | finish => exact ⟨trivial, trivial, trivial⟩
  | server label =>
      refine ⟨?_, trivial, trivial⟩
      cases label with
      | handle index kernel =>
          intro request hand
          simp only [AsyncState.permits, hand] at permits
          exact Kernel.permits_valid permits
      | receive index => trivial
      | send index => trivial
      | close index => trivial

theorem sample_run (labels : List (AsyncLabel Unit Unit)) (test : AsyncState Unit Unit → Bool)
    (executed : ((machine fun _ => .sample).exec permits sample labels).any
      (fun outcome => test outcome.1) = true) :
    ∃ trace state, (machine fun _ => .sample).Run
      (fun state label => state.Valid label ∧ state.Respects label ∧ Fits label) sample trace
        state ∧ test state = true :=
  Machine.Run.of_exec_invariant (machine fun _ => .sample) sample
    (fun state => state.Inv fun _ => .sample) sample_started.inv permits
    (fun _ _ inv => permits_sound inv)
    (fun _ _ _ _ inv permitted stepped => inv.step permitted.1 stepped) labels
    (fun _ state => test state) executed

def sampleWrite : List (AsyncLabel Unit Unit) := [
  .client () (.inside (.call (.writev 8 8 [⟨100, 4096⟩]) 64 ⟨0, 0, 0, none, false, false⟩)),
  .client () .send, .client () (.inside .callback), .client () (.inside .yield),
  .client () (.inside (.bottomHalf 64)), .client () (.inside .resume)]

/-- Another call reuses the address; the server still has to handle the write. -/
def sampleAfter (what : CoCall) : List (AsyncLabel Unit Unit) :=
  let kernel := Kernel.transfer (File.filled 8192 1) 4096 4096
  [.client () (.inside (.call what 64 ⟨0, 0, 0, none, false, false⟩)),
    .client () .send, .client () (.inside .yield),
    .server (.receive ()), .server (.handle () kernel),
    .server (.receive ()), .server (.handle () kernel), .server (.send ()),
    .client () .receive, .client () (.inside .copy), .client () (.inside .finish),
    .client () (.inside (.bottomHalf 64))]

end AsyncState

namespace AsyncState

variable {Index Client : Type} [DecidableEq Index] [DecidableEq Client]
variable {endpoints : Client → Endpoint Index} {initial state : AsyncState Index Client}
variable {trace : List (Event Client)}

/-- When the coroutine of a read has been entered, its vector holds the bytes of the initial file
with exactly the writes applied that the client had submitted before the read, in that order. -/
theorem Started.readSees (started : initial.Started endpoints)
    (run : (machine endpoints).Run (fun state label => state.Valid label ∧ state.Respects label)
      initial trace state)
    (client : Client) {call : Nat} {coroutine : Coroutine} {sectorNum : Int64} {nbSectors : Int32}
    {qiov : Qiov} (found : (state.clients client).coroutines call = some coroutine)
    (read : coroutine.call = .readv sectorNum nbSectors qiov) (entered : coroutine.pc = .entered) :
    ∃ before request rest,
      trace.flatMap (Event.visible client) = before ++ .submitted call request :: rest ∧
      (∀ other sent, .submitted other sent ∈ before →
        state.Carried endpoints client other sent) ∧
      qiov.Holds (state.clients client).memory
        (fun index => ((initial.content endpoints client).applyAll (submitted client before)).byte
          ((byteOffset sectorNum).toInt.toNat + index)) (byteSize nbSectors).toNat := by
  obtain ⟨_, privateRun⟩ := started.inv.run (fun _ _ permitted => permitted.1) run client
    (fun state label => state.Valid label ∧ state.Respects label)
    fun _ _ _ _ permitted projects valid => ⟨valid, projects.respects permitted.2⟩
  obtain ⟨tied, delivers⟩ := (PrivateState.Tied.start client
    (started.clients client) (started.requests client) (started.replies client)).delivers
    (started.clients client) (started.replies client) privateRun
  obtain ⟨request, member⟩ := tied.history.submitted found (by simp [Coroutine.passed, entered])
  obtain ⟨before, rest, split⟩ := List.append_of_mem member
  refine ⟨before, request, rest, split, ?_, ?_⟩
  · intro other sent earlier
    obtain ⟨caller, acb, lookup, asks⟩ := tied.submissions.carried other sent
      (by rw [split]; exact List.mem_append_left _ earlier)
    exact ⟨caller, acb, lookup, asks⟩
  · have content := tied.submissions.before before call request rest split
    have holds := delivers.copied call coroutine sectorNum nbSectors qiov found read
      (Or.inr entered)
    refine holds.mono fun position _ => ?_
    simp only [AsyncClient.expected]
    rw [← content]
    rfl

/-- A read right behind a write of the same block sees it. -/
def sampleRead (state : AsyncState Unit Unit) : Bool :=
  match (state.clients ()).coroutines 1 with
  | some ⟨.readv 8 8 [⟨5000, 4096⟩], _, _, .entered⟩ => decide ((state.clients ()).memory 5000 = 3)
  | _ => false

theorem sample_readSees :
    ∃ trace state before request rest,
      (machine fun _ => .sample).Run (fun state label => state.Valid label ∧ state.Respects label)
        sample trace state ∧
      trace.flatMap (Event.visible ()) = before ++ .submitted 1 request :: rest ∧
      Qiov.Holds [⟨5000, 4096⟩] (state.clients ()).memory
        (fun index => ((sample.content (fun _ => .sample) ()).applyAll (submitted () before)).byte
          (4096 + index)) 4096 ∧ (state.clients ()).memory 5000 = 3 := by
  obtain ⟨trace, state, run, passes⟩ := sample_run
    (sampleWrite ++ sampleAfter (.readv 8 8 [⟨5000, 4096⟩])) sampleRead (by decide +kernel)
  simp only [sampleRead] at passes
  split at passes
  · rename_i found
    have valid := run.mono (fun state label => state.Valid label ∧ state.Respects label)
      fun _ _ permitted => ⟨permitted.1, permitted.2.1⟩
    obtain ⟨before, request, rest, split, _, holds⟩ :=
      sample_started.readSees valid () found rfl rfl
    exact ⟨trace, state, before, request, rest, valid, split, holds, by simpa using passes⟩
  · simp at passes

/-- A flush returns the error of the `fsync` made for it, and if it returns 0 the file has been made
durable with exactly the writes submitted before the flush, among them every write that had
returned 0 by then. -/
theorem Started.flushDurable (started : initial.Started endpoints)
    (run : (machine endpoints).Run Valid initial trace state) (client : Client) {call : Nat}
    {coroutine : Coroutine} {ret : Int32}
    (found : (state.clients client).coroutines call = some coroutine)
    (flush : coroutine.call = .flush) (returned : coroutine.pc = .returned ret) :
    let events := trace.flatMap (Event.visible client)
    ∃ before request rest body kernel file,
      events = before ++ .submitted call request :: rest ∧
      (∀ other sent, .submitted other sent ∈ before →
        state.Carried endpoints client other sent) ∧
      (∀ other sectorNum nbSectors qiov caller, .returned other 0 ∈ before →
        (state.clients client).coroutines other = some caller →
        caller.call = .writev sectorNum nbSectors qiov →
        ∃ sent, .submitted other sent ∈ before) ∧
      .served call body kernel file ∈ events ∧
      (∀ again kernel' file', .served call again kernel' file' ∈ events →
        kernel' = kernel ∧ file' = file) ∧
      (∀ errno, kernel.fsync = .error errno → ret = errno.negative ∧ ret ≠ 0) ∧
      (ret = 0 → kernel.fsync = .ok () ∧
        file.durable = (initial.content endpoints client).applyAll (submitted client before)) := by
  intro events
  have tied := started.tied run client
  have passed : .submitted ∈ coroutine.passed := by
    simp [Coroutine.passed, returned, flush, CoCall.aligned]
  obtain ⟨request, member⟩ := tied.history.submitted found passed
  obtain ⟨before, rest, split⟩ := List.append_of_mem member
  have ordered := tied.history.ordered
  rw [split] at ordered
  obtain ⟨_, behind, apart⟩ := List.pairwise_append.mp ordered
  obtain ⟨stored, ⟨err, synced, widened⟩, ret_eq⟩ :
      ∃ stored, (∃ err, Synced events call err ∧ stored = err.toInt64) ∧
        ret = stored.toInt32 := by
    rcases tied.outcomes.returned call coroutine ret found returned with
      ⟨misaligned, _⟩ | ⟨_, result⟩
    · simp [flush, CoCall.aligned] at misaligned
    · simpa only [flush, CoCall.Result] using result
  obtain ⟨body, kernel, file, served, err_eq⟩ := synced
  have result : ret = kernel.fsyncErr := by
    rw [ret_eq, widened, err_eq, Int32.toInt32_toInt64]
  refine ⟨before, request, rest, body, kernel, file, split, ?_, ?_, served, ?_, ?_, ?_⟩
  · intro other sent earlier
    obtain ⟨caller, acb, lookup, asks⟩ := tied.submissions.carried other sent
      (by rw [split]; exact List.mem_append_left _ earlier)
    exact ⟨caller, acb, lookup, asks⟩
  · intro other sectorNum nbSectors qiov caller finished lookup write
    have below : other < call := apart _ finished (.submitted call request) (by simp) rfl
    obtain ⟨found', lookup', is⟩ := tied.history.returned
      (by rw [split]; exact List.mem_append_left _ finished)
    obtain rfl := Option.some.inj (lookup.symm.trans lookup')
    have aligned : caller.call.aligned = true := by
      rcases tied.outcomes.returned other caller 0 lookup is with ⟨_, refused⟩ | ⟨aligned, _⟩
      · exact absurd refused (by decide)
      · exact aligned
    obtain ⟨sent, sentMember⟩ := tied.history.submitted lookup
      (by simp [Coroutine.passed, is, aligned])
    rw [split] at sentMember
    refine ⟨sent, ?_⟩
    rcases List.mem_append.mp sentMember with earlier | later
    · exact earlier
    · -- A message behind that of the flush belongs to a later call.
      rcases List.mem_cons.mp later with same | later
      · obtain ⟨rfl, _⟩ := CallEvent.submitted.inj same
        omega
      · have above : call < other := (List.pairwise_cons.mp behind).1 _ later rfl
        omega
  · intro again kernel' file' member'
    have same := tied.history.served_unique member' served rfl rfl rfl
    obtain ⟨_, _, rfl, rfl⟩ := CallEvent.served.inj same
    exact ⟨rfl, rfl⟩
  · intro errno failed
    have equal : ret = errno.negative := by rw [result, Kernel.fsyncErr, failed]
    exact ⟨equal, equal ▸ errno.negative_ne_zero⟩
  · intro success
    cases made : kernel.fsync with
    | error errno =>
        rw [result, Kernel.fsyncErr, made] at success
        exact (errno.negative_ne_zero success).elim
    | ok =>
        refine ⟨rfl, ?_⟩
        have durable := tied.outcomes.durable call body kernel file coroutine served found flush made
        rw [durable]
        exact (tied.submissions.before before call request rest split).symm

/-- A flush right behind a write makes it durable. -/
def sampleFlush (state : AsyncState Unit Unit) : Bool :=
  match (state.clients ()).coroutines 1 with
  | some ⟨.flush, _, _, .returned 0⟩ => true
  | _ => false

theorem sample_flushDurable :
    ∃ trace state before request rest body kernel file,
      (machine fun _ => .sample).Run Valid sample trace state ∧
      trace.flatMap (Event.visible ()) = before ++ .submitted 1 request :: rest ∧
      .served 1 body kernel file ∈ trace.flatMap (Event.visible ()) ∧
      kernel.fsync = .ok () ∧
      file.durable = (sample.content (fun _ => .sample) ()).applyAll (submitted () before) := by
  obtain ⟨trace, state, run, passes⟩ := sample_run
    (sampleWrite ++ sampleAfter .flush ++ [.client () (.inside .resume)]) sampleFlush
    (by decide +kernel)
  simp only [sampleFlush] at passes
  split at passes
  · rename_i found
    have valid := run.mono Valid fun _ _ permitted => permitted.1
    obtain ⟨before, request, rest, body, kernel, file, split, _, _, served, _, _, success⟩ :=
      sample_started.flushDurable valid () found rfl rfl
    exact ⟨trace, state, before, request, rest, body, kernel, file, valid, split, served,
      success rfl⟩
  · simp at passes

end AsyncState

end Cvbd
