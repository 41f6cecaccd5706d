import Mathlib.Data.List.Pairwise
import Cvbd.AsyncInv

/-!
The trace of a client's private system. What the trace tells about a call is
determined by where its coroutine stands, calls are submitted in the order they
were made, and they are served in that order.
-/

namespace Cvbd

variable {Client : Type}

/-- The milestones of one call. -/
inductive Mark
  | submitted
  | yielded
  | entered
  | returned (ret : Int32)
  deriving DecidableEq

namespace CallEvent

def call : CallEvent → Nat
  | .submitted call _ | .served call _ _ _ | .yielded call | .entered call | .returned call _ => call

def isSubmitted : CallEvent → Bool
  | .submitted .. => true
  | .served .. | .yielded _ | .entered _ | .returned .. => false

def isServed : CallEvent → Bool
  | .served .. => true
  | .submitted .. | .yielded _ | .entered _ | .returned .. => false

def mark (call : Nat) : CallEvent → Option Mark
  | .submitted other _ => if other = call then some .submitted else none
  | .yielded other => if other = call then some .yielded else none
  | .entered other => if other = call then some .entered else none
  | .returned other ret => if other = call then some (.returned ret) else none
  | .served .. => none

/-- The milestones of a call in the order of the trace. -/
def marks (call : Nat) (trace : List CallEvent) : List Mark := trace.filterMap (mark call)

theorem marks_append (call : Nat) (first second : List CallEvent) :
    marks call (first ++ second) = marks call first ++ marks call second := by
  simp [marks]

theorem mark_other {event : CallEvent} {call : Nat} (different : event.call ≠ call) :
    event.mark call = none := by
  cases event <;> simp_all [mark, CallEvent.call]

theorem marks_other {events : List CallEvent} {call other : Nat}
    (own : ∀ event ∈ events, event.call = call) (different : other ≠ call) :
    marks other events = [] := by
  refine List.filterMap_eq_nil_iff.mpr fun event member => mark_other ?_
  rw [own event member]
  exact Ne.symm different

end CallEvent

/-- The milestones a call has passed at a position. -/
def Coroutine.passed (coroutine : Coroutine) : List Mark :=
  match coroutine.pc with
  | .sending _ => []
  | .callback | .yielding => [.submitted]
  | .yielded => [.submitted, .yielded]
  | .entered => [.submitted, .yielded, .entered]
  | .returned ret =>
      if coroutine.call.aligned then [.submitted, .yielded, .entered, .returned ret]
      else [.returned ret]

def CoPc.isSending : CoPc → Bool
  | .sending _ => true
  | .callback | .yielding | .yielded | .entered | .returned _ => false

def AsyncClient.passed (client : AsyncClient) (call : Nat) : List Mark :=
  match client.coroutines call with
  | none => []
  | some coroutine => coroutine.passed

/-- The call has put its message into the queue, or been refused. -/
def AsyncClient.Started (client : AsyncClient) (call : Nat) : Prop :=
  ∃ coroutine, client.coroutines call = some coroutine ∧ coroutine.pc.isSending = false

namespace PrivateState

structure History (trace : List CallEvent) (state : PrivateState Client) : Prop where
  started : ∀ event ∈ trace, state.client.Started event.call
  ordered : trace.Pairwise fun earlier later =>
    later.isSubmitted = true → earlier.call < later.call
  marks : ∀ call, CallEvent.marks call trace = state.client.passed call
  queued : ∀ request ∈ state.service.requests, state.client.Started request.call
  fifo : (state.service.requests.map fun request => request.call).Pairwise (· < ·)
  served : trace.Pairwise fun earlier later =>
    earlier.isServed = true → later.isServed = true → earlier.call < later.call
  unserved : state.service.alive = true → ∀ event ∈ trace, event.isServed = true →
    ∀ request ∈ state.service.requests, event.call < request.call

variable {self : Client} {volume : UInt64} {state after : PrivateState Client}
variable {trace : List CallEvent} {label : PrivateLabel} {events : List CallEvent}

theorem History.keep (history : state.History trace)
    (coroutines : after.client.coroutines = state.client.coroutines)
    (service : after.service.requests = state.service.requests ∧
      (after.service.alive = true → state.service.alive = true)) : after.History trace := by
  refine ⟨?_, history.ordered, ?_, ?_, by rw [service.1]; exact history.fifo, history.served, ?_⟩
  · intro event member
    obtain ⟨coroutine, found, rest⟩ := history.started event member
    exact ⟨coroutine, by rw [coroutines]; exact found, rest⟩
  · intro call
    rw [history.marks call]
    unfold AsyncClient.passed
    rw [coroutines]
  · intro request member
    rw [service.1] at member
    obtain ⟨coroutine, found, rest⟩ := history.queued request member
    exact ⟨coroutine, by rw [coroutines]; exact found, rest⟩
  · intro alive
    rw [service.1]
    exact history.unserved (service.2 alive)

theorem started_update {client after : AsyncClient} {call other : Nat} (old : Coroutine) {pc : CoPc}
    (table : after.coroutines = Function.update client.coroutines call (some { old with pc }))
    (started : client.Started other) (notSending : pc.isSending = false) : after.Started other := by
  by_cases same : other = call
  · subst same
    exact ⟨_, by rw [table, Function.update_self], notSending⟩
  · obtain ⟨coroutine, found, rest⟩ := started
    exact ⟨coroutine, by rw [table, Function.update_of_ne same]; exact found, rest⟩

/-- A step that reports milestones of one call, submits nothing and serves nothing. -/
theorem History.report {call : Nat} {new : Coroutine} (history : state.History trace)
    (events : List CallEvent)
    (table : after.client.coroutines =
      Function.update state.client.coroutines call (some new))
    (service : after.service = state.service)
    (started : ∀ other, state.client.Started other → after.client.Started other)
    (here : events ≠ [] → after.client.Started call)
    (own : ∀ event ∈ events, event.call = call ∧ event.isSubmitted = false ∧
      event.isServed = false)
    (passed : state.client.passed call ++ CallEvent.marks call events = new.passed) :
    after.History (trace ++ events) := by
  refine ⟨?_, ?_, ?_, ?_, by rw [service]; exact history.fifo, ?_, ?_⟩
  · intro event member
    rcases List.mem_append.mp member with before | isNew
    · exact started _ (history.started event before)
    · rw [(own event isNew).1]
      exact here (List.ne_nil_of_mem isNew)
  · refine List.pairwise_append.mpr ⟨history.ordered, ?_, ?_⟩
    · refine List.pairwise_of_forall_mem_list ?_
      intro earlier _ later member submitted
      simp [(own later member).2.1] at submitted
    · intro earlier _ later member submitted
      simp [(own later member).2.1] at submitted
  · intro other
    rw [CallEvent.marks_append, history.marks other]
    by_cases same : other = call
    · subst same
      rw [passed]
      simp [AsyncClient.passed, table]
    · have silent : CallEvent.marks other events = [] :=
        CallEvent.marks_other (fun event member => (own event member).1) same
      simp [AsyncClient.passed, table, same, silent]
  · intro request member
    rw [service] at member
    exact started _ (history.queued request member)
  · refine List.pairwise_append.mpr ⟨history.served, ?_, ?_⟩
    · refine List.pairwise_of_forall_mem_list ?_
      intro earlier _ later member _ served
      simp [(own later member).2.2] at served
    · intro earlier _ later member _ served
      simp [(own later member).2.2] at served
  · intro alive event member served
    rw [service] at alive ⊢
    rcases List.mem_append.mp member with before | isNew
    · exact history.unserved alive event before served
    · simp [(own event isNew).2.2] at served

theorem History.advance {call : Nat} {pc : CoPc} (history : state.History trace)
    (old : Coroutine) (events : List CallEvent) (found : state.client.coroutines call = some old)
    (table : after.client.coroutines =
      Function.update state.client.coroutines call (some { old with pc }))
    (notSending : old.pc.isSending = false) (stillNot : pc.isSending = false)
    (service : after.service = state.service)
    (own : ∀ event ∈ events, event.call = call ∧ event.isSubmitted = false ∧
      event.isServed = false)
    (passed : old.passed ++ CallEvent.marks call events = ({ old with pc } : Coroutine).passed) :
    after.History (trace ++ events) := by
  have started (other : Nat) (before : state.client.Started other) : after.client.Started other :=
    started_update old table before stillNot
  refine history.report events table service started ?_ own ?_
  · exact fun _ => started call ⟨old, found, notSending⟩
  · simp only [AsyncClient.passed, found]
    exact passed

/-- A new coroutine reports nothing but its refusal. -/
theorem History.newCall {new : Coroutine} (history : state.History trace) (inv : state.Inv volume)
    (events : List CallEvent)
    (service : after.service = state.service)
    (table : after.client.coroutines =
      Function.update state.client.coroutines state.client.next (some new))
    (own : ∀ event ∈ events, event.call = state.client.next ∧ event.isSubmitted = false ∧
      event.isServed = false)
    (reported : events ≠ [] → new.pc.isSending = false)
    (passed : CallEvent.marks state.client.next events = new.passed) :
    after.History (trace ++ events) := by
  have unknown := inv.unknown
  refine history.report events table service ?_ ?_ own ?_
  · rintro other ⟨coroutine, found, rest⟩
    have different : other ≠ state.client.next := by
      rintro rfl
      simp [unknown] at found
    exact ⟨coroutine, by rw [table, Function.update_of_ne different]; exact found, rest⟩
  · exact fun some => ⟨new, by rw [table, Function.update_self], reported some⟩
  · simp only [AsyncClient.passed, unknown, List.nil_append]
    exact passed

/-- The latest call puts its message into the queue, behind those of all earlier calls. -/
theorem History.send {call : Nat} {what : CoCall} {data : Bytes} {acb : UInt64} {request : Request}
    {pc : CoPc} (history : state.History trace) (inv : state.Inv volume)
    (found : state.client.coroutines call = some ⟨what, data, acb, .sending request⟩)
    (becomes : pc = .callback ∨ pc = .yielding) :
    (⟨state.client.setCoroutine call ⟨what, data, acb, pc⟩,
      { state.service with requests := state.service.requests ++ [⟨self, call, request⟩] }⟩ :
      PrivateState Client).History (trace ++ [.submitted call request]) := by
  have last := inv.last call _ request found rfl
  have notSending : pc.isSending = false := by rcases becomes with rfl | rfl <;> rfl
  have earlier {other : Nat} (before : state.client.Started other) : other < call := by
    obtain ⟨coroutine, lookup, started⟩ := before
    have known := (inv.known other).mp (by simp [lookup])
    have different : other ≠ call := by
      rintro rfl
      rw [found] at lookup
      obtain rfl := Option.some.inj lookup
      simp [CoPc.isSending] at started
    omega
  have started {other : Nat} (before : state.client.Started other) :
      (state.client.setCoroutine call ⟨what, data, acb, pc⟩).Started other :=
    started_update ⟨what, data, acb, .sending request⟩ rfl before notSending
  have here : (state.client.setCoroutine call ⟨what, data, acb, pc⟩).Started call :=
    ⟨_, Function.update_self .., notSending⟩
  refine ⟨?_, ?_, ?_, ?_, ?_, ?_, ?_⟩
  · intro event member
    rcases List.mem_append.mp member with before | isNew
    · exact started (history.started event before)
    · obtain rfl := List.mem_singleton.mp isNew
      exact here
  · refine List.pairwise_append.mpr ⟨history.ordered, List.pairwise_singleton _ _, ?_⟩
    intro event member later isNew _
    obtain rfl := List.mem_singleton.mp isNew
    exact earlier (history.started event member)
  · intro other
    rw [CallEvent.marks_append, history.marks other]
    by_cases same : other = call
    · subst same
      have now : ({ call := what, data, acb, pc } : Coroutine).passed = [.submitted] := by
        rcases becomes with rfl | rfl <;> rfl
      have before : ({ call := what, data, acb, pc := .sending request } : Coroutine).passed = [] :=
        rfl
      simp [AsyncClient.passed, found, AsyncClient.setCoroutine, now, before, CallEvent.marks,
        CallEvent.mark]
    · have silent : CallEvent.marks other [.submitted call request] = [] := by
        simp [CallEvent.marks, CallEvent.mark, Ne.symm same]
      simp [AsyncClient.passed, AsyncClient.setCoroutine, same, silent]
  · intro queued member
    simp only [List.mem_append, List.mem_singleton] at member
    rcases member with before | rfl
    · exact started (history.queued queued before)
    · exact here
  · simp only [List.map_append, List.map_cons, List.map_nil]
    refine List.pairwise_append.mpr ⟨history.fifo, List.pairwise_singleton _ _, ?_⟩
    intro other member later isNew
    obtain ⟨queued, before, rfl⟩ := List.mem_map.mp member
    obtain rfl := List.mem_singleton.mp isNew
    exact earlier (history.queued queued before)
  · refine List.pairwise_append.mpr ⟨history.served, List.pairwise_singleton _ _, ?_⟩
    intro event member later isNew _ served
    obtain rfl := List.mem_singleton.mp isNew
    simp [CallEvent.isServed] at served
  · intro alive event member served queued queuedMember
    simp only [List.mem_append, List.mem_singleton] at member queuedMember
    rcases member with before | rfl
    · rcases queuedMember with old | rfl
      · exact history.unserved alive event before served queued old
      · exact earlier (history.started event before)
    · simp [CallEvent.isServed] at served

/-- The oldest request is served: everything served earlier is older, everything queued younger. -/
theorem History.serve {request : Envelope Client Request} {rest : List (Envelope Client Request)}
    {kernel : Kernel} {service : Service Client} (history : state.History trace)
    (inv : state.Inv volume) (running : state.service.alive = true)
    (queue : state.service.requests = request :: rest)
    (served : state.service.serve kernel = some service) :
    ({ state with service } : PrivateState Client).History
      (trace ++ [.served request.call request.body kernel service.file]) := by
  obtain ⟨coroutine, _, _, asks, _⟩ := inv.requests request (by simp [queue])
  have outcome := (asks.serves queue served).requests
  have fifo := history.fifo
  rw [queue, List.map_cons, List.pairwise_cons] at fifo
  refine ⟨?_, ?_, ?_, ?_, ?_, ?_, ?_⟩
  · intro event member
    rcases List.mem_append.mp member with before | isNew
    · exact history.started event before
    · obtain rfl := List.mem_singleton.mp isNew
      exact history.queued request (by simp [queue])
  · refine List.pairwise_append.mpr ⟨history.ordered, List.pairwise_singleton _ _, ?_⟩
    intro event member later isNew submitted
    obtain rfl := List.mem_singleton.mp isNew
    simp [CallEvent.isSubmitted] at submitted
  · intro call
    rw [CallEvent.marks_append, history.marks call]
    simp [CallEvent.marks, CallEvent.mark]
  · intro queued member
    refine history.queued queued ?_
    rcases outcome with shorter | ⟨same, _⟩
    · rw [queue]
      exact List.mem_cons_of_mem _ (shorter ▸ member)
    · exact same ▸ member
  · rcases outcome with shorter | ⟨same, _⟩
    · simp only [shorter]
      exact fifo.2
    · simp only [same]
      exact history.fifo
  · refine List.pairwise_append.mpr ⟨history.served, List.pairwise_singleton _ _, ?_⟩
    intro event member later isNew eventServed _
    obtain rfl := List.mem_singleton.mp isNew
    exact history.unserved running event member eventServed request (by simp [queue])
  · intro alive event member eventServed queued queuedMember
    have shorter : service.requests = rest := by
      rcases outcome with shorter | ⟨_, dead⟩
      · exact shorter
      · simp [dead] at alive
    simp only [shorter] at queuedMember
    rcases List.mem_append.mp member with before | isNew
    · exact history.unserved running event before eventServed queued
        (by rw [queue]; exact List.mem_cons_of_mem _ queuedMember)
    · obtain rfl := List.mem_singleton.mp isNew
      exact fifo.1 queued.call (List.mem_map.mpr ⟨queued, queuedMember, rfl⟩)

theorem History.step (history : state.History trace) (inv : state.Inv volume)
    (effect : Effect self volume state label after events) : after.History (trace ++ events) := by
  cases effect with
  | abort large =>
      rw [List.append_nil]
      exact history.keep rfl ⟨rfl, id⟩
  | refuse idle free misaligned =>
      refine history.newCall inv _ rfl rfl ?_ (fun _ => rfl) ?_
      · rintro event member
        obtain rfl := List.mem_singleton.mp member
        exact ⟨rfl, rfl, rfl⟩
      · simp [CallEvent.marks, CallEvent.mark, Coroutine.passed, AsyncClient.newCoroutine,
          misaligned]
  | enter idle nonzero free accepted volume_eq asks filled =>
      exact history.newCall inv [] rfl rfl (by simp) (by simp) rfl
  | send executing found asks =>
      refine history.send inv found ?_
      split
      · exact Or.inl rfl
      · exact Or.inr rfl
  | callback executing found write live =>
      exact history.advance ⟨_, _, _, .callback⟩ [] found rfl rfl rfl rfl
        (by simp) rfl
  | yield executing found =>
      refine history.advance ⟨_, _, _, .yielding⟩ _ found rfl rfl rfl rfl ?_ ?_
      · rintro event member
        obtain rfl := List.mem_singleton.mp member
        exact ⟨rfl, rfl, rfl⟩
      · simp [CallEvent.marks, CallEvent.mark, Coroutine.passed]
  | bottomHalf idle scheduled live found =>
      refine history.advance ⟨_, _, _, .yielded⟩ _ found rfl rfl rfl rfl ?_ ?_
      · rintro event member
        obtain rfl := List.mem_singleton.mp member
        exact ⟨rfl, rfl, rfl⟩
      · simp [CallEvent.marks, CallEvent.mark, Coroutine.passed]
  | resume executing found live =>
      have aligned := (inv.accepted _ _ found rfl).1
      refine history.advance ⟨_, _, _, .entered⟩ _ found rfl rfl rfl rfl ?_ ?_
      · rintro event member
        obtain rfl := List.mem_singleton.mp member
        exact ⟨rfl, rfl, rfl⟩
      · simp only at aligned
        simp [CallEvent.marks, CallEvent.mark, Coroutine.passed, aligned]
  | receive idle queue =>
      rw [List.append_nil]
      exact history.keep rfl ⟨rfl, id⟩
  | copyRead held found outstanding size live copied =>
      rw [List.append_nil]
      exact history.keep rfl ⟨rfl, id⟩
  | copyFsync held found outstanding live =>
      rw [List.append_nil]
      exact history.keep rfl ⟨rfl, id⟩
  | finish held live found own outstanding =>
      rw [List.append_nil]
      exact history.keep rfl ⟨rfl, id⟩
  | guest =>
      rw [List.append_nil]
      exact history.keep rfl ⟨rfl, id⟩
  | serve alive queue served => exact history.serve inv alive queue served
  | crash =>
      rw [List.append_nil]
      exact history.keep rfl ⟨rfl, by simp⟩

theorem History.served_unique (history : state.History trace) {event other : CallEvent}
    (member : event ∈ trace) (memberOther : other ∈ trace) (served : event.isServed = true)
    (servedOther : other.isServed = true) (same : event.call = other.call) : event = other := by
  let unique (left right : CallEvent) : Prop :=
    left.isServed = true → right.isServed = true → left.call = right.call → left = right
  have symmetric : Std.Symm unique :=
    ⟨fun _ _ once left right equal => (once right left equal.symm).symm⟩
  have pairwise : trace.Pairwise unique := by
    refine history.served.imp fun below left right equal => ?_
    have less := below left right
    omega
  exact List.Pairwise.forall_of_forall (fun _ _ _ _ _ => rfl) pairwise member memberOther served
    servedOther same

theorem History.mem_passed (history : state.History trace) (call : Nat) {event : CallEvent}
    (mark : Mark) (member : event ∈ trace) (marked : event.mark call = some mark) :
    mark ∈ state.client.passed call := by
  rw [← history.marks call]
  exact List.mem_filterMap.mpr ⟨event, member, marked⟩

theorem History.returned (history : state.History trace) {call : Nat} {ret : Int32}
    (member : .returned call ret ∈ trace) :
    ∃ coroutine, state.client.coroutines call = some coroutine ∧
      coroutine.pc = .returned ret := by
  have passed := history.mem_passed call (.returned ret) member
    (by simp [CallEvent.mark])
  unfold AsyncClient.passed at passed
  cases found : state.client.coroutines call with
  | none => simp [found] at passed
  | some coroutine =>
      refine ⟨coroutine, rfl, ?_⟩
      simp only [found, Coroutine.passed] at passed
      cases pc : coroutine.pc with
      | returned other =>
          simp only [pc] at passed
          split at passed <;> simp_all
      | sending request => simp [pc] at passed
      | callback => simp [pc] at passed
      | yielding => simp [pc] at passed
      | yielded => simp [pc] at passed
      | entered => simp [pc] at passed

theorem History.submitted (history : state.History trace) {call : Nat} {coroutine : Coroutine}
    (found : state.client.coroutines call = some coroutine)
    (passed : .submitted ∈ coroutine.passed) : ∃ request, .submitted call request ∈ trace := by
  have marked : .submitted ∈ CallEvent.marks call trace := by
    rw [history.marks call, AsyncClient.passed, found]
    exact passed
  obtain ⟨event, member, mark⟩ := List.mem_filterMap.mp marked
  cases event with
  | submitted other request =>
      simp only [CallEvent.mark, Option.ite_none_right_eq_some] at mark
      exact ⟨request, mark.1 ▸ member⟩
  | served other request kernel file => simp [CallEvent.mark] at mark
  | yielded other => simp [CallEvent.mark] at mark
  | entered other => simp [CallEvent.mark] at mark
  | returned other ret => simp [CallEvent.mark] at mark

end PrivateState

end Cvbd
