import Cvbd.AsyncDeadlock

/-!
Sends that throw. The C boundary turns the exception into `false`: a read or
write then stops at its assert, while a flush, which asks for `rc < 0`, yields
and waits for a reply that nobody will send.
-/

namespace Cvbd

def CoCall.isFlush : CoCall → Bool
  | .flush => true
  | .readv .. | .writev .. => false

namespace PrivateState

variable {Client : Type} {self : Client} {volume : UInt64} {initial : File}
variable {trace : List CallEvent} {state : PrivateState Client}

theorem Tied.abort (tied : state.Tied self volume initial trace) :
    ({ state with client := { state.client with fault := some .assertion } } :
      PrivateState Client).Tied self volume initial trace := by
  have content (bound : Nat) :
      ({ state.client with fault := some .assertion } : AsyncClient).contentBefore initial bound =
        state.client.contentBefore initial bound :=
    AsyncClient.contentBefore_congr fun _ _ => rfl
  refine ⟨tied.inv.abort, ⟨?_, ?_⟩, ?_, ⟨?_, ?_, ?_, ?_, ?_, ?_⟩, ⟨?_, ?_, ?_⟩⟩
  · intro before request rest alive queue
    rw [content]
    exact tied.stored.pending before request rest alive queue
  · intro alive
    exact (tied.stored.tracks alive).keep rfl rfl
  · exact tied.history.keep rfl ⟨rfl, id⟩
  · intro call request kernel file coroutine served found flush success
    rw [content]
    exact tied.outcomes.durable call request kernel file coroutine served found flush success
  · exact tied.outcomes.replies
  · exact tied.outcomes.hand
  · exact tied.outcomes.finishing
  · exact tied.outcomes.final
  · exact tied.outcomes.returned
  · intro first call request rest split
    rw [content]
    exact tied.submissions.before first call request rest split
  · exact tied.submissions.tracks.keep rfl rfl
  · exact tied.submissions.carried

/-- A call whose message is not in the queue has not got past its send. -/
theorem Tied.unsubmitted (tied : state.Tied self volume initial trace) {call : Nat}
    {coroutine : Coroutine} (found : state.client.coroutines call = some coroutine)
    (unsent : ∀ request, .submitted call request ∉ trace) :
    coroutine.pc.isSending = true ∨ ∃ ret, coroutine.pc = .returned ret ∧ ret < 0 := by
  have absent : .submitted ∉ coroutine.passed := by
    intro passed
    obtain ⟨request, member⟩ := tied.history.submitted found passed
    exact unsent request member
  cases pc : coroutine.pc with
  | sending request => exact Or.inl rfl
  | callback => simp [Coroutine.passed, pc] at absent
  | yielding => simp [Coroutine.passed, pc] at absent
  | yielded => simp [Coroutine.passed, pc] at absent
  | entered => simp [Coroutine.passed, pc] at absent
  | returned ret =>
      refine Or.inr ⟨ret, rfl, ?_⟩
      rcases tied.outcomes.returned call coroutine ret found pc with
        ⟨_, refused⟩ | ⟨aligned, _⟩
      · rw [refused]
        decide
      · simp [Coroutine.passed, pc, aligned] at absent

end PrivateState

namespace AsyncState

variable {Index Client : Type} [DecidableEq Index] [DecidableEq Client]
variable {endpoints : Client → Endpoint Index} {initial state after : AsyncState Index Client}
variable {label : AsyncLabel Index Client} {trace events : List (Event Client)}

/-- The client is about to send the message of a read or write. -/
def SendsData (state : AsyncState Index Client) (client : Client) : Prop :=
  ∀ call coroutine, (state.clients client).running = some (call, coroutine) →
    coroutine.call ≠ .flush

/-- Any send may throw, except that of a flush. -/
def FlushSends (state : AsyncState Index Client) (label : AsyncLabel Index Client) : Prop :=
  state.Valid label ∨
    ∃ client, label = .client client (.inside .sendFails) ∧ state.SendsData client

/-- A read or write whose send throws stops its process. -/
theorem sendFails_step {client : Client} (data : state.SendsData client)
    (stepped : (machine endpoints).step state (.client client (.inside .sendFails)) =
      some (after, events)) :
    events = [] ∧ after = { state with
      clients := Function.update state.clients client
        { state.clients client with fault := some .assertion } } := by
  have moved : state.clientStep endpoints client (.inside .sendFails) = some (after, events) :=
    stepped
  cases clientStep_cases moved with
  | inside taken =>
      cases AsyncClient.localStep_cases taken with
      | @flushSendFails call bytes acb request running => exact absurd rfl (data call _ running)
      | sendFails notFlush running => exact ⟨rfl, rfl⟩

/-- The whole system and every client of it are tied together. -/
def Tied (endpoints : Client → Endpoint Index) (initial : AsyncState Index Client)
    (trace : List (Event Client)) (state : AsyncState Index Client) : Prop :=
  state.exchange.Wired endpoints ∧ ∀ client,
    (state.view endpoints client).Tied client (endpoints client).volume
      (initial.content endpoints client) (trace.flatMap (Event.visible client))

theorem Tied.step (tied : Tied endpoints initial trace state) (flushSends : state.FlushSends label)
    (stepped : (machine endpoints).step state label = some (after, events)) :
    Tied endpoints initial (trace ++ events) after := by
  rcases flushSends with valid | ⟨client, rfl, data⟩
  · have inv : state.Inv endpoints := ⟨tied.1, fun client => (tied.2 client).inv⟩
    refine ⟨inv.wired_step stepped, fun client => ?_⟩
    rw [List.flatMap_append]
    rcases inv.project valid stepped client with ⟨same, silent⟩ | ⟨label', _, valid', next⟩
    · rw [same, silent, List.append_nil]
      exact tied.2 client
    · exact (tied.2 client).step valid' next
  · obtain ⟨rfl, rfl⟩ := sendFails_step data stepped
    refine ⟨tied.1, fun other => ?_⟩
    rw [List.append_nil]
    by_cases same : other = client
    · subst same
      have aborted := (tied.2 other).abort
      simpa [view] using aborted
    · simpa [view, same] using tied.2 other

theorem Started.tied_flushSends (started : initial.Started endpoints)
    (run : (machine endpoints).Run FlushSends initial trace state) :
    Tied endpoints initial trace state := by
  refine run.invariant (Tied endpoints initial) ⟨started.wired, fun client => ?_⟩ ?_
  · exact PrivateState.Tied.start client (started.clients client) (started.requests client)
      (started.replies client)
  · intro trace state label after events tied flushSends stepped
    exact tied.step flushSends stepped

/-- What a failed send may do to the calls of a client. -/
structure Unharmed (endpoints : Client → Endpoint Index) (state : AsyncState Index Client)
    (client : Client) (events : List CallEvent) : Prop where
  /-- A call whose message was not queued is still at its send, or has returned an error. -/
  unsubmitted : ∀ call coroutine, (state.clients client).coroutines call = some coroutine →
    (∀ request, .submitted call request ∉ events) →
    coroutine.pc.isSending = true ∨ ∃ ret, coroutine.pc = .returned ret ∧ ret < 0
  /-- A send that throws leads nowhere but into an assert. -/
  throws : ∀ after events, state.SendsData client →
    (machine endpoints).step state (.client client (.inside .sendFails)) = some (after, events) →
    (after.clients client).fault = some .assertion
  /-- A call that has yielded has exactly one completion pending. -/
  yielded : ∀ call coroutine, (state.clients client).coroutines call = some coroutine →
    coroutine.pc.isOutstanding = true → state.placesOf endpoints client coroutine.acb = 1

/-- When the sends of flushes do not throw, no failed send leaves a coroutine asleep. -/
theorem Started.failedSends (started : initial.Started endpoints)
    (run : (machine endpoints).Run FlushSends initial trace state) (client : Client) :
    state.Unharmed endpoints client (trace.flatMap (Event.visible client)) where
  unsubmitted := by
    intro call coroutine found unsent
    exact ((started.tied_flushSends run).2 client).unsubmitted found unsent
  throws := by
    intro after events data stepped
    obtain ⟨_, rfl⟩ := sendFails_step data stepped
    simp
  yielded := by
    intro call coroutine found outstanding
    have once := ((started.tied_flushSends run).2 client).inv.place found outstanding
    rwa [view_places] at once

/-- A flush whose send throws goes on to its yield, and nothing will ever wake it. -/
theorem Tied.flush_lost {client : Client} {call : Nat} {data : Bytes} {acb : UInt64}
    {request : Request} (tied : Tied endpoints initial trace state)
    (running : (state.clients client).running = some (call, ⟨.flush, data, acb, .sending request⟩))
    (stepped : (machine endpoints).step state (.client client (.inside .sendFails)) =
      some (after, events)) :
    (after.clients client).coroutines call = some ⟨.flush, data, acb, .yielding⟩ ∧
      after.placesOf endpoints client acb = 0 := by
  have moved : state.clientStep endpoints client (.inside .sendFails) = some (after, events) :=
    stepped
  cases clientStep_cases moved with
  | inside taken =>
      cases AsyncClient.localStep_cases taken with
      | @flushSendFails executing bytes address sent other =>
          obtain ⟨rfl, same⟩ := Prod.mk.inj (Option.some.inj (running.symm.trans other))
          obtain ⟨_, rfl, rfl, _⟩ := Coroutine.mk.inj same
          obtain ⟨_, found⟩ := AsyncClient.running_eq_some running
          have free := (tied.2 client).inv.place_none found rfl rfl
          rw [view_places] at free
          refine ⟨by simp [AsyncClient.setCoroutine], ?_⟩
          simpa [placesOf, queuedFor, serverHolds, answeredFor] using free
      | sendFails notFlush other =>
          obtain ⟨_, same⟩ := Prod.mk.inj (Option.some.inj (running.symm.trans other))
          exact (notFlush (Coroutine.mk.inj same).1.symm).elim

/-! A flush waits while the send of a read throws; and a flush whose own send throws. -/

/-- Every send may throw. -/
def AnySends (state : AsyncState Index Client) (label : AsyncLabel Index Client) : Prop :=
  state.Valid label ∨ ∃ client, label = .client client (.inside .sendFails)

/-- A label that makes, sends, loses or suspends calls; `lost` says which sends may throw. -/
def sendsOrThrows (lost : CoCall → Bool) (state : AsyncState Unit Unit) :
    AsyncLabel Unit Unit → Bool
  | .client client (.inside (.call _ address _)) =>
      decide (address ≠ 0) && ((state.clients client).heap address).isNone
  | .client _ .send | .client _ (.inside .yield) => true
  | .client client (.inside .sendFails) =>
      (state.clients client).running.all fun running => lost running.2.call
  | _ => false

theorem sendsOrThrows_flushSends {state : AsyncState Unit Unit} {label : AsyncLabel Unit Unit}
    (passes : sendsOrThrows (fun call => !call.isFlush) state label = true) :
    state.FlushSends label := by
  unfold sendsOrThrows at passes
  split at passes
  · simp only [Bool.and_eq_true, decide_eq_true_eq, Option.isNone_iff_eq_none] at passes
    exact Or.inl passes
  · exact Or.inl trivial
  · exact Or.inl trivial
  · rename_i client
    refine Or.inr ⟨client, rfl, ?_⟩
    intro call coroutine running flush
    simp [running, flush, CoCall.isFlush] at passes
  · simp at passes

theorem sendsOrThrows_anySends {lost : CoCall → Bool} {state : AsyncState Unit Unit}
    {label : AsyncLabel Unit Unit} (passes : sendsOrThrows lost state label = true) :
    state.AnySends label := by
  unfold sendsOrThrows at passes
  split at passes
  · simp only [Bool.and_eq_true, decide_eq_true_eq, Option.isNone_iff_eq_none] at passes
    exact Or.inl passes
  · exact Or.inl trivial
  · exact Or.inl trivial
  · exact Or.inr ⟨_, rfl⟩
  · simp at passes

def sampleReadThrows : List (AsyncLabel Unit Unit) := sampleFlushing ++
  [.client () (.inside (.call (.readv 0 8 [⟨0, 4096⟩]) 128 ⟨0, 0, 0, none, false, false⟩)),
    .client () (.inside .sendFails)]

/-- The flush has yielded, and the read has stopped at its assert. -/
def sampleAborted (state : AsyncState Unit Unit) : Bool :=
  match (state.clients ()).coroutines 0, (state.clients ()).fault with
  | some ⟨.flush, _, 64, .yielded⟩, some .assertion => true
  | _, _ => false

theorem sample_failedSends : ∃ trace state,
    (machine fun _ => .sample).Run FlushSends sample trace state ∧
      state.sampleAborted = true ∧ state.placesOf (fun _ => .sample) () 64 = 1 := by
  obtain ⟨trace, state, run, passes⟩ := Machine.Run.of_exec (machine fun _ => .sample) sample
    (sendsOrThrows fun call => !call.isFlush) (fun _ _ passes => sendsOrThrows_flushSends passes)
    sampleReadThrows (fun _ state => state.sampleAborted) (by decide +kernel)
  have aborted := passes
  simp only [sampleAborted] at passes
  split at passes
  · rename_i found _
    have once := (sample_started.failedSends run ()).yielded 0 _ found rfl
    exact ⟨trace, state, run, aborted, once⟩
  · simp at passes

def sampleFlushThrows : List (AsyncLabel Unit Unit) :=
  [.client () (.inside (.call .flush 64 ⟨0, 0, 0, none, false, false⟩)),
    .client () (.inside .sendFails), .client () (.inside .yield)]

/-- The flush has yielded, and its block is nowhere. -/
def sampleLost (state : AsyncState Unit Unit) : Bool :=
  match (state.clients ()).coroutines 0 with
  | some ⟨.flush, _, 64, .yielded⟩ => state.placesOf (fun _ => .sample) () 64 == 0
  | _ => false

theorem flushThrows_asleep : ¬∀ trace state,
    (machine fun _ => .sample).Run AnySends sample trace state →
    ∀ call coroutine, (state.clients ()).coroutines call = some coroutine →
    coroutine.pc.isOutstanding = true → state.placesOf (fun _ => .sample) () coroutine.acb = 1 := by
  intro claim
  obtain ⟨trace, state, run, passes⟩ := Machine.Run.of_exec (machine fun _ => .sample) sample
    (sendsOrThrows fun _ => true) (fun _ _ passes => sendsOrThrows_anySends passes)
    sampleFlushThrows (fun _ state => state.sampleLost) (by decide +kernel)
  simp only [sampleLost] at passes
  split at passes
  · rename_i found
    have once := claim trace state run 0 _ found rfl
    rw [beq_iff_eq, once] at passes
    exact absurd passes (by decide)
  · simp at passes

end AsyncState

end Cvbd
