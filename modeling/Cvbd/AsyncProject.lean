import Cvbd.AsyncInv
import Cvbd.Service

/-!
Each client's part of a run of the whole system is a run of its private system,
whatever the other clients and the server threads do in between.
-/

namespace Cvbd

variable {Index Client : Type} [DecidableEq Index] [DecidableEq Client]

/-- What one client sees of the whole state. -/
def AsyncState.view (endpoints : Client → Endpoint Index) (state : AsyncState Index Client)
    (client : Client) : PrivateState Client :=
  ⟨state.clients client, state.exchange.service (endpoints client) client⟩

/-- What one client sees of an event. -/
def Event.visible (client : Client) (event : Event Client) : List CallEvent :=
  if event.client = client then [event.what] else []

theorem Event.visible_map_self (client : Client) (events : List CallEvent) :
    (events.map (⟨client, ·⟩ : CallEvent → Event Client)).flatMap (Event.visible client) =
      events := by
  induction events with
  | nil => rfl
  | cons event rest ih =>
      simp only [List.map_cons, List.flatMap_cons, ih]
      simp [Event.visible]

theorem Event.visible_map_other {client other : Client} (different : other ≠ client)
    (events : List CallEvent) :
    (events.map (⟨other, ·⟩ : CallEvent → Event Client)).flatMap (Event.visible client) = [] := by
  induction events with
  | nil => rfl
  | cons event rest ih =>
      simp only [List.map_cons, List.flatMap_cons, ih]
      simp [Event.visible, different]

theorem Event.mem_visible {client : Client} {trace : List (Event Client)} {event : CallEvent} :
    event ∈ trace.flatMap (Event.visible client) ↔ ⟨client, event⟩ ∈ trace := by
  rw [List.mem_flatMap]
  constructor
  · rintro ⟨⟨own, what⟩, member, visible⟩
    by_cases same : own = client
    · subst same
      obtain rfl : event = what := by simpa [Event.visible] using visible
      exact member
    · simp [Event.visible, same] at visible
  · intro member
    exact ⟨_, member, by simp [Event.visible]⟩

namespace AsyncState

/-- A step of the whole system, as a client sees it. -/
inductive Projects (client : Client) (state : AsyncState Index Client) :
    AsyncLabel Index Client → PrivateLabel → Prop
  | own {label} : Projects client state (.client client label) (.client label)
  | served {index kernel request} (hand : state.exchange.thread index = .hand request)
      (sender : request.sender = client) :
      Projects client state (.server (.handle index kernel)) (.serve kernel)
  | crash {label} : Projects client state (.server label) .crash

variable {endpoints : Client → Endpoint Index} {state after : AsyncState Index Client}
variable {label : AsyncLabel Index Client} {events : List (Event Client)}

omit [DecidableEq Index] in
/-- What POSIX promises of the world it promises of the client's own file. -/
theorem honest {index : Index} {kernel : Kernel} {request : Envelope Client Request}
    (wired : state.exchange.Wired endpoints) (hand : state.exchange.thread index = .hand request)
    (valid : kernel.Valid state.exchange.world request.body) :
    kernel.Honest (state.view endpoints request.sender).service.file.content request.body := by
  have isOpen := wired.isOpen request.sender
  obtain ⟨file, found⟩ := isOpen.exists_file
  have volume := (wired.inHand _ _ hand).volume
  have content : (state.view endpoints request.sender).service.file.content =
      state.exchange.world.content (endpoints request.sender).fd := by
    rw [World.content_eq isOpen.fdOpen found]
    simp [view, Exchange.service, found]
  refine ⟨?_, valid.pwrite⟩
  intro req count body answer
  rw [content]
  rw [body] at volume
  have live : state.exchange.world.volumes req.header.volume =
      some ⟨(endpoints request.sender).name, (endpoints request.sender).fd,
        (endpoints request.sender).mq⟩ :=
    (congrArg state.exchange.world.volumes volume).trans isOpen.live
  exact valid.pread req _ count body live answer

/-- The client's own step is a step of its private system, and no other client sees it. -/
theorem clientStep_project {client : Client} {label : ClientLabel}
    (wired : state.exchange.Wired endpoints)
    (stepped : state.clientStep endpoints client label = some (after, events)) :
    (PrivateState.machine client).step (state.view endpoints client) (.client label) =
        some (after.view endpoints client, events.flatMap (Event.visible client)) ∧
      ∀ other, other ≠ client → after.view endpoints other = state.view endpoints other ∧
        events.flatMap (Event.visible other) = [] := by
  cases clientStep_cases stepped with
  | @sent call request next exchange taken pushed =>
      obtain ⟨own, others⟩ := Exchange.pushRequest_service endpoints ⟨client, call, request⟩ pushed
      simp only at own others
      constructor
      · simp [PrivateState.machine, PrivateState.clientStep, view, taken, own, Event.visible]
      · intro other different
        simp [view, different, others other different, Event.visible, Ne.symm different]
  | @received reply exchange next popped taken =>
      obtain ⟨_, queue, own, others⟩ := Exchange.popReply_service wired client popped
      constructor
      · simp only [PrivateState.machine, PrivateState.clientStep, view, queue, taken,
          Function.update_self, List.flatMap_nil]
        rw [← own]
      · intro other different
        simp [view, different, others other different]
  | inside taken =>
      constructor
      · simp [PrivateState.machine, PrivateState.clientStep, view, taken, Event.visible_map_self]
      · intro other different
        simp [view, different, Event.visible_map_other (Ne.symm different)]

/-- A step of the server serves the client's oldest request, ends the server, or is not seen. -/
theorem serverStep_project {label : ServerLabel Index} {exchange : Exchange Index Client}
    (wired : state.exchange.Wired endpoints) (valid : state.exchange.ValidLabel label)
    (stepped : state.exchange.serverStep label = some exchange) (client : Client) :
    let after : AsyncState Index Client := { state with exchange }
    let events := servedEvents endpoints state.exchange exchange label
    (after.view endpoints client = state.view endpoints client ∧
        events.flatMap (Event.visible client) = []) ∨
      ∃ label', Projects client state (.server label) label' ∧
        (state.view endpoints client).Valid label' ∧
        (PrivateState.machine client).step (state.view endpoints client) label' =
          some (after.view endpoints client, events.flatMap (Event.visible client)) := by
  intro after events
  have running := Exchange.serverStep_running stepped
  have alive : (state.view endpoints client).service.alive = true := by
    simp [view, Exchange.service, running]
  rcases Exchange.serverStep_service wired stepped with
    ⟨silent, notHandle⟩ | ⟨index, kernel, rfl, handled⟩
  · refine Or.inl ⟨by simp only [view, after, silent client], ?_⟩
    cases label with
    | handle index kernel => exact (notHandle index kernel rfl).elim
    | receive index => rfl
    | send index => rfl
    | close index => rfl
  · obtain ⟨request, rest, hand, queue, served, others⟩ :=
      Exchange.handleStep_service wired running handled
    have events_eq : events = [⟨request.sender, .served request.call request.body kernel
        (exchange.service (endpoints request.sender) request.sender).file⟩] := by
      simp [events, servedEvents, hand]
    by_cases own : request.sender = client
    · subst own
      refine Or.inr ⟨_, Projects.served hand rfl, ?_, ?_⟩
      · intro first others equal
        obtain ⟨rfl, _⟩ := List.cons.inj (queue.symm.trans equal)
        exact honest wired hand (valid request hand)
      · simp [PrivateState.machine, PrivateState.serveStep, view, queue, served, events_eq,
          Event.visible, after]
    · have view_eq := others client (Ne.symm own)
      have quiet : events.flatMap (Event.visible client) = [] := by
        simp [events_eq, Event.visible, own]
      cases ended : exchange.fault with
      | none =>
          refine Or.inl ⟨?_, quiet⟩
          simp only [view, after, view_eq, ended, Option.isNone_none]
          rw [← alive]
          rfl
      | some fault =>
          refine Or.inr ⟨_, Projects.crash, trivial, ?_⟩
          simp [PrivateState.machine, view, after, view_eq, ended, quiet]

structure Inv (endpoints : Client → Endpoint Index) (state : AsyncState Index Client) : Prop where
  wired : state.exchange.Wired endpoints
  clients : ∀ client, (state.view endpoints client).Inv (endpoints client).volume

/-- Every step of the system is, for each client, a valid step of its private system or none. -/
theorem Inv.project (inv : state.Inv endpoints) (valid : state.Valid label)
    (stepped : (machine endpoints).step state label = some (after, events)) (client : Client) :
    (after.view endpoints client = state.view endpoints client ∧
        events.flatMap (Event.visible client) = []) ∨
      ∃ label', Projects client state label label' ∧
        (state.view endpoints client).Valid label' ∧
        (PrivateState.machine client).step (state.view endpoints client) label' =
          some (after.view endpoints client, events.flatMap (Event.visible client)) := by
  rcases machine_cases stepped with
    ⟨sender, label, rfl, moved⟩ | ⟨own, exchange, rfl, served, rfl, rfl⟩
  · obtain ⟨own, others⟩ := clientStep_project inv.wired moved
    by_cases same : client = sender
    · subst same
      refine Or.inr ⟨_, Projects.own, ?_, own⟩
      cases label with
      | send => trivial
      | receive => trivial
      | inside label => exact valid
    · exact Or.inl (others client same)
  · exact serverStep_project inv.wired valid served client

theorem Inv.wired_step (inv : state.Inv endpoints)
    (stepped : (machine endpoints).step state label = some (after, events)) :
    after.exchange.Wired endpoints := by
  rcases machine_cases stepped with ⟨client, own, rfl, moved⟩ | ⟨own, exchange, rfl, served, rfl, _⟩
  · cases clientStep_cases moved with
    | @sent call request next exchange taken pushed =>
        obtain ⟨what, data, acb, _, found, _⟩ := AsyncClient.takeSend_spec taken
        have asks := (inv.clients client).sends _ _ _ found rfl
        have belongs : Belongs endpoints (endpoints client).index
            (⟨client, call, request⟩ : Envelope Client Request) :=
          ⟨rfl, asks.header.1, asks.isIo⟩
        exact inv.wired.pushRequest belongs pushed
    | received popped taken => exact inv.wired.popReply popped
    | inside taken => exact inv.wired
  · exact inv.wired.serverStep served

theorem Inv.step (inv : state.Inv endpoints) (valid : state.Valid label)
    (stepped : (machine endpoints).step state label = some (after, events)) :
    after.Inv endpoints where
  wired := inv.wired_step stepped
  clients := by
    intro client
    rcases inv.project valid stepped client with ⟨same, _⟩ | ⟨label', _, validPrivate, next⟩
    · rw [same]
      exact inv.clients client
    · exact (inv.clients client).step ((inv.clients client).effect validPrivate next)

theorem Inv.run {allowed : AsyncState Index Client → AsyncLabel Index Client → Prop}
    {initial : AsyncState Index Client} (inv : initial.Inv endpoints)
    (valid : ∀ state label, allowed state label → state.Valid label)
    {trace : List (Event Client)} (run : (machine endpoints).Run allowed initial trace state)
    (client : Client) (allowedPrivate : PrivateState Client → PrivateLabel → Prop)
    (projects : ∀ state label label', state.Inv endpoints → allowed state label →
      Projects client state label label' → (state.view endpoints client).Valid label' →
      allowedPrivate (state.view endpoints client) label') :
    state.Inv endpoints ∧
      (PrivateState.machine client).Run allowedPrivate (initial.view endpoints client)
        (trace.flatMap (Event.visible client)) (state.view endpoints client) := by
  obtain ⟨strong, holds⟩ := run.strengthen (Inv endpoints) inv
    fun state label after events kept permitted stepped =>
      kept.step (valid state label permitted) stepped
  refine ⟨holds, strong.simulate (fun state => state.view endpoints client)
    (Event.visible client) ?_⟩
  rintro state label after events ⟨permitted, kept⟩ stepped
  rcases kept.project (valid state label permitted) stepped client with
    silent | ⟨label', projected, validPrivate, next⟩
  · exact Or.inl silent
  · exact Or.inr ⟨label', projects state label label' kept permitted projected validPrivate, next⟩

end AsyncState

end Cvbd
