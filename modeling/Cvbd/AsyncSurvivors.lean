import Cvbd.AsyncTotal
import Cvbd.DiskDriver

/-!
Clients that die. A virtual machine may be killed at any moment and take no
further step, while its messages stay where they are. The others finish as long
as the replies to a dead client fit into its reply queue, since a thread of the
server that sends to a full queue waits for ever.
-/

namespace Cvbd

/-- The replies a client has not taken and those still to come. -/
def Service.awaited {Client : Type} (service : Service Client) : Nat :=
  (service.requests.countP fun request => request.body.answered) + service.replies.length

/-- Serving a request turns it into a reply, or into none. -/
theorem PrivateState.Effect.awaited_serve {Client : Type} {self : Client} {volume : UInt64}
    {state after : PrivateState Client} {kernel : Kernel} {events : List CallEvent}
    (inv : state.Inv volume) (effect : Effect self volume state (.serve kernel) after events) :
    after.service.awaited ≤ state.service.awaited := by
  cases effect with
  | @serve request rest _ service alive queue served =>
      obtain ⟨coroutine, _, _, asks, _⟩ := inv.requests request (by simp [queue])
      have answered := asks.answered
      have serves := asks.serves queue served
      generalize coroutine.call = what at answered serves
      cases serves with
      | read body type passed =>
          have answered : request.body.answered = true := answered
          simp only [Service.awaited, Service.answered, queue, List.countP_cons, answered, if_true,
            List.length_append, List.length_singleton]
          omega
      | flush body type made =>
          have answered : request.body.answered = true := answered
          simp only [Service.awaited, Service.answered, queue, List.countP_cons, answered, if_true,
            List.length_append, List.length_singleton]
          omega
      | write body passed =>
          simp only [Service.awaited, Service.stored, queue, List.countP_cons]
          omega
      | abort transfers => exact Nat.le_refl _

theorem PrivateState.Effect.awaited_crash {Client : Type} {self : Client} {volume : UInt64}
    {state after : PrivateState Client} {events : List CallEvent}
    (effect : Effect self volume state .crash after events) :
    after.service.awaited = state.service.awaited := by
  cases effect with
  | crash => rfl

namespace AsyncState

variable {Index Client : Type} [DecidableEq Index] [DecidableEq Client]
variable {endpoints : Client → Endpoint Index} {state after : AsyncState Index Client}
variable {label : AsyncLabel Index Client} {events : List (Event Client)} {live : Client → Prop}

/-- Steps of the server, and of the clients that are still there. -/
def Survives (live : Client → Prop) (state : AsyncState Index Client)
    (label : AsyncLabel Index Client) : Prop :=
  state.Valid label ∧ state.Internal label ∧ ∀ client own, label = .client client own → live client

/-- What is sent to dead clients fits into their reply queues. -/
def Room (endpoints : Client → Endpoint Index) (live : Client → Prop)
    (state : AsyncState Index Client) : Prop :=
  ∀ client, ¬live client → (state.view endpoints client).service.awaited ≤ maxQueueSize

/-- All calls of the clients that live have returned, and the server has nothing left to do. -/
structure Settled (endpoints : Client → Endpoint Index) (live : Client → Prop)
    (state : AsyncState Index Client) : Prop where
  returned : ∀ client, live client → ∀ call coroutine,
    (state.clients client).coroutines call = some coroutine → coroutine.pc.isReturned = true
  served : ∀ client, (state.view endpoints client).service.requests = []
  idle : ∀ index, state.exchange.requestMq index = [] ∧ state.exchange.thread index = .idle

def CanSurvive (endpoints : Client → Endpoint Index) (live : Client → Prop)
    (state : AsyncState Index Client) : Prop :=
  ∃ label, state.Survives live label ∧ ((machine endpoints).step state label).isSome = true

theorem canSurvive_inside {client : Client} (alive : live client) (label : LocalLabel)
    {next : AsyncClient × List CallEvent} (internal : label.Internal)
    (valid : label.Valid (state.clients client))
    (stepped : (state.clients client).localStep label = some next) :
    state.CanSurvive endpoints live := by
  refine ⟨.client client (.inside label), ⟨valid, internal, ?_⟩, by simp [machine, clientStep, stepped]⟩
  rintro _ _ ⟨⟩
  exact alive

theorem canSurvive_thread {client : Client} (alive : live client)
    (sound : (state.view endpoints client).Sound)
    (busy : (state.clients client).replyThread ≠ .idle) : state.CanSurvive endpoints live := by
  have running : (state.clients client).fault = none := sound.fault
  cases thread : (state.clients client).replyThread with
  | idle => exact (busy thread).elim
  | hand call reply =>
      exact canSurvive_inside alive .copy trivial trivial
        (by simp only [AsyncClient.localStep, running, thread]; rfl)
  | finishing acb ret =>
      exact canSurvive_inside alive .finish trivial trivial
        (by simp only [AsyncClient.localStep, running, thread]; rfl)
  | stopped => exact (sound.thread thread).elim

theorem canSurvive_reply {client : Client} (alive : live client)
    (sound : (state.view endpoints client).Sound)
    (replies : state.exchange.replyMq (endpoints client).mq ≠ []) :
    state.CanSurvive endpoints live := by
  by_cases idle : (state.clients client).replyThread = .idle
  · obtain ⟨reply, rest, queue⟩ := List.exists_cons_of_ne_nil replies
    have running : (state.clients client).fault = none := sound.fault
    refine ⟨.client client .receive, ⟨trivial, trivial, ?_⟩, ?_⟩
    · rintro _ _ ⟨⟩
      exact alive
    · simp [machine, clientStep, Exchange.popReply, queue, AsyncClient.takeReply, running, idle]
  · exact canSurvive_thread alive sound idle

section Enabled

variable (inv : state.Inv endpoints) (running : state.exchange.fault = none)
variable (sound : ∀ client, (state.view endpoints client).Sound)
variable (room : state.Room endpoints live)

include inv running sound room

/-- A thread of the server that waits for room waits for a client that lives. -/
theorem Inv.canSurvive_server (index : Index)
    (busy : state.exchange.requestMq index ≠ [] ∨ state.exchange.thread index ≠ .idle) :
    state.CanSurvive endpoints live := by
  by_cases free : ∀ mq reply closing, state.exchange.thread index = .sending mq reply closing →
      (state.exchange.replyMq mq).length < maxQueueSize
  · obtain ⟨label, exchange, valid, full, stepped⟩ :=
      Exchange.server_enabled index inv.wired running busy free
    exact ⟨.server label, ⟨valid, ⟨valid, full⟩, by simp⟩, by simp [machine, stepped]⟩
  · simp only [not_forall] at free
    obtain ⟨mq, reply, closing, sends, full⟩ := free
    obtain ⟨rfl, rfl, _⟩ := inv.wired.sending _ _ _ _ sends
    by_cases alive : live reply.sender
    · refine canSurvive_reply alive (sound reply.sender) ?_
      intro empty
      simp [empty, maxQueueSize] at full
    · have few := room reply.sender alive
      simp only [Service.awaited, view, Exchange.service, sends, Thread.repliesOf, if_true,
        List.length_append, List.length_singleton] at few
      omega

theorem Inv.canSurvive_requests {client : Client}
    (requests : (state.view endpoints client).service.requests ≠ []) :
    state.CanSurvive endpoints live := by
  refine inv.canSurvive_server running sound room (endpoints client).index ?_
  by_contra idle
  simp only [not_or, not_not] at idle
  simp [view, Exchange.service, idle.1, idle.2, Thread.requestsOf] at requests

theorem Inv.canSurvive_running {client : Client} (alive : live client) {call : Nat}
    (executing : (state.clients client).current = some call) : state.CanSurvive endpoints live := by
  obtain ⟨⟨what, data, acb, pc⟩, found⟩ :=
    Option.isSome_iff_exists.mp ((sound client).current call executing)
  have healthy : (state.clients client).fault = none := (sound client).fault
  have found : (state.clients client).coroutines call = some ⟨what, data, acb, pc⟩ := found
  have runs := ((inv.clients client).running call _ found).mpr executing
  have lookup : (state.clients client).running = some (call, ⟨what, data, acb, pc⟩) := by
    simp [AsyncClient.running, executing, found]
  cases pc with
  | sending request =>
      by_cases free :
          (state.exchange.requestMq (endpoints client).index).length < maxQueueSize
      · have taken : ∃ next, (state.clients client).takeSend = some (call, request, next) := by
          simp only [AsyncClient.takeSend, healthy, lookup]
          cases what <;> exact ⟨_, rfl⟩
        obtain ⟨next, taken⟩ := taken
        refine ⟨.client client .send, ⟨trivial, trivial, ?_⟩, ?_⟩
        · rintro _ _ ⟨⟩
          exact alive
        · simp [machine, clientStep, taken, Exchange.pushRequest, free]
      · refine inv.canSurvive_server running sound room (endpoints client).index (Or.inl ?_)
        intro empty
        simp [empty, maxQueueSize] at free
  | callback =>
      exact canSurvive_inside alive .callback trivial trivial
        (by simp only [AsyncClient.localStep, healthy, lookup]; rfl)
  | yielding =>
      exact canSurvive_inside alive .yield trivial trivial
        (by simp only [AsyncClient.localStep, healthy, lookup]; rfl)
  | entered =>
      exact canSurvive_inside alive .resume trivial trivial
        (by simp only [AsyncClient.localStep, healthy, lookup]; rfl)
  | yielded => simp [CoPc.isRunning] at runs
  | returned ret => simp [CoPc.isRunning] at runs

/-- The call's control block is with the server, in the reply queue or in the client. -/
theorem Inv.canSurvive_waiting {client : Client} (alive : live client) {call : Nat}
    {coroutine : Coroutine} (idle : (state.clients client).current = none)
    (found : (state.clients client).coroutines call = some coroutine)
    (outstanding : coroutine.pc.isOutstanding = true) : state.CanSurvive endpoints live := by
  have once := (inv.clients client).place found outstanding
  have healthy : (state.clients client).fault = none := (sound client).fault
  by_cases thread : (state.clients client).replyThread = .idle
  · by_cases requests : (state.view endpoints client).service.requests = []
    · by_cases queue : state.exchange.replyMq (endpoints client).mq = []
      · by_cases serving : state.exchange.thread (endpoints client).index = .idle
        · have nothing : (state.view endpoints client).service.replies = [] := by
            simp [view, Exchange.service, queue, serving, Thread.repliesOf]
          have thread : (state.view endpoints client).client.replyThread = .idle := thread
          simp only [PrivateState.places, requests, nothing, thread, Service.asked,
            Service.answers, List.countP_nil, ReplyThread.holds] at once
          have scheduled : coroutine.acb ∈ (state.clients client).bhs :=
            List.count_pos_iff.mp (by simp only [view] at once; omega)
          exact canSurvive_inside alive (.bottomHalf coroutine.acb) trivial trivial
            (by simp only [AsyncClient.localStep, healthy, idle, scheduled, if_true]; rfl)
        · exact inv.canSurvive_server running sound room (endpoints client).index (Or.inr serving)
      · exact canSurvive_reply alive (sound client) queue
    · exact inv.canSurvive_requests running sound room requests
  · exact canSurvive_thread alive (sound client) thread

theorem Inv.canSurvive (unfinished : ¬state.Settled endpoints live) :
    state.CanSurvive endpoints live := by
  by_contra stuck
  refine unfinished ⟨?_, ?_, ?_⟩
  · intro client alive call coroutine found
    by_contra active
    cases current : (state.clients client).current with
    | some executing => exact stuck (inv.canSurvive_running running sound room alive current)
    | none =>
        have notRunning := (inv.clients client).running call coroutine found
        refine stuck (inv.canSurvive_waiting running sound room alive current found ?_)
        cases pc : coroutine.pc <;>
          simp_all [CoPc.isRunning, CoPc.isReturned, CoPc.isOutstanding, view]
  · intro client
    by_contra requests
    exact stuck (inv.canSurvive_requests running sound room requests)
  · intro index
    by_contra busy
    refine stuck (inv.canSurvive_server running sound room index ?_)
    by_contra idle
    simp only [not_or, not_not] at idle
    exact busy idle

end Enabled

theorem Inv.room_step (inv : state.Inv endpoints) (room : state.Room endpoints live)
    (survives : state.Survives live label)
    (stepped : (machine endpoints).step state label = some (after, events)) :
    after.Room endpoints live := by
  intro client dead
  rcases inv.project survives.1 stepped client with ⟨same, _⟩ | ⟨label', projects, valid, next⟩
  · rw [same]
    exact room client dead
  · have effect := (inv.clients client).effect valid next
    cases projects with
    | own => exact (dead (survives.2.2 _ _ rfl)).elim
    | served hand sender =>
        exact (effect.awaited_serve (inv.clients client)).trans (room client dead)
    | crash => exact effect.awaited_crash ▸ room client dead

def twoMachines : AsyncState Unit Bool where
  exchange := DisksState.twoDisks.exchange
  clients := fun client => {
    shared := ⟨(DisksState.twoEndpoints client).name, (DisksState.twoEndpoints client).volume, 1,
      fun _ => 0⟩
    memory := fun _ => 0
    heap := fun _ => none
    coroutines := fun _ => none
    next := 0
    current := none
    bhs := []
    replyThread := .idle
    fault := none }

theorem twoMachines_started : twoMachines.Started DisksState.twoEndpoints where
  wired := DisksState.twoDisks_started.wired
  running := rfl
  clients := fun _ => ⟨rfl, rfl, fun _ => rfl, rfl, rfl, rfl, rfl⟩
  requests := fun _ => rfl
  replies := fun _ => rfl

/-- Calls in order, and no step of the server. -/
def submits (state : AsyncState Unit Bool) : AsyncLabel Unit Bool → Bool
  | .client client (.inside (.call what address _)) =>
      decide (address ≠ 0) && ((state.clients client).heap address).isNone &&
        decide (what.size.toNat ≤ maxDataSize)
  | .client _ .send | .client _ (.inside .yield) => true
  | _ => false

theorem submits_sound {state : AsyncState Unit Bool} {label : AsyncLabel Unit Bool}
    (submits : state.submits label = true) : state.Valid label ∧ Fits label := by
  unfold AsyncState.submits at submits
  split at submits
  · simp only [Bool.and_eq_true, decide_eq_true_eq, Option.isNone_iff_eq_none] at submits
    exact submits
  · exact ⟨trivial, trivial⟩
  · exact ⟨trivial, trivial⟩
  · simp at submits

def sampleDying : List (AsyncLabel Unit Bool) :=
  let call (client : Bool) (what : CoCall) : List (AsyncLabel Unit Bool) :=
    [.client client (.inside (.call what 64 ⟨0, 0, 0, none, false, false⟩)), .client client .send,
      .client client (.inside .yield)]
  call false (.readv 0 8 [⟨5000, 4096⟩]) ++ call true .flush

/-- Both requests are queued, the read of the first machine ahead. -/
def bothWait (state : AsyncState Unit Bool) : Bool :=
  ((state.exchange.requestMq ()).map fun request => request.sender) == [false, true] &&
    decide ((state.view DisksState.twoEndpoints false).service.awaited ≤ maxQueueSize)

end AsyncState

end Cvbd
