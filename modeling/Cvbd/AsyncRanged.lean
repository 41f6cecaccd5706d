import Cvbd.AsyncContent
import Cvbd.AsyncProgress
import Cvbd.Driver

/-!
Calls inside the volume. As long as every call stays inside its client's file
and the kernel transfers in full what lies inside, no assert of the server fires.
-/

namespace Cvbd

/-- The transfer of a call lies inside a volume of `size` bytes. -/
def CoCall.Ranged (size : Nat) : CoCall → Prop
  | .readv sectorNum nbSectors _ | .writev sectorNum nbSectors _ =>
      SectorsInside sectorNum nbSectors size
  | .flush => True

theorem CoCall.Ranged.inside {size : Nat} {what : CoCall} {data : Bytes} {volume acb : UInt64}
    {request : Request} (ranged : what.Ranged size) (asks : what.Asks data volume acb request) :
    request.InsideSize size := by
  cases what with
  | readv sectorNum nbSectors qiov =>
      obtain ⟨id, rfl⟩ := asks
      have inside : SectorsInside sectorNum nbSectors size := ranged
      have offset := inside.byteOffset
      have length := inside.byteSize
      have total := inside.total
      simp only [Request.InsideSize]
      omega
  | writev sectorNum nbSectors qiov =>
      obtain ⟨id, sent, rfl, _⟩ := asks
      have inside : SectorsInside sectorNum nbSectors size := ranged
      have offset := inside.byteOffset
      have length := inside.byteSize
      have total := inside.total
      simp only [Request.InsideSize]
      omega
  | flush =>
      obtain ⟨id, rfl⟩ := asks
      trivial

/-- A new call lies inside the volume. -/
def LocalLabel.Ranged (size : Nat) : LocalLabel → Prop
  | .call what _ _ => what.Ranged size
  | _ => True

namespace PrivateState

variable {Client : Type} {self : Client} {volume : UInt64} {state after : PrivateState Client}
variable {label : PrivateLabel} {events : List CallEvent} {size : Nat}

/-- The volume keeps its size, and all calls so far lie inside it. -/
structure Ranged (size : Nat) (state : PrivateState Client) : Prop where
  size_eq : state.service.file.content.size = size
  calls : ∀ call coroutine, state.client.coroutines call = some coroutine →
    coroutine.call.Ranged size

def RangedLabel (size : Nat) : PrivateLabel → Prop
  | .client (.inside label) => label.Ranged size
  | _ => True

/-- A coroutine has kept its call, or the step has made it. -/
theorem Effect.call_origin (effect : Effect self volume state label after events) {call : Nat}
    {coroutine : Coroutine} (found : after.client.coroutines call = some coroutine) :
    (∃ old, state.client.coroutines call = some old ∧ old.call = coroutine.call) ∨
      ∃ address fresh, label = .client (.inside (.call coroutine.call address fresh)) := by
  have moved {other : Nat} {old : Coroutine} (pc : CoPc)
      (lookup : state.client.coroutines other = some old)
      (updated : Function.update state.client.coroutines other (some { old with pc }) call =
        some coroutine) :
      ∃ old, state.client.coroutines call = some old ∧ old.call = coroutine.call := by
    by_cases equal : call = other
    · subst equal
      rw [Function.update_self] at updated
      obtain rfl := Option.some.inj updated
      exact ⟨old, lookup, rfl⟩
    · rw [Function.update_of_ne equal] at updated
      exact ⟨coroutine, updated, rfl⟩
  have added {new : Coroutine}
      (updated : Function.update state.client.coroutines state.client.next (some new) call =
        some coroutine) :
      (∃ old, state.client.coroutines call = some old ∧ old.call = coroutine.call) ∨
        new = coroutine := by
    by_cases equal : call = state.client.next
    · subst equal
      rw [Function.update_self] at updated
      exact Or.inr (Option.some.inj updated)
    · rw [Function.update_of_ne equal] at updated
      exact Or.inl ⟨coroutine, updated, rfl⟩
  cases effect with
  | @refuse what address fresh _ _ _ =>
      rcases added found with old | rfl
      · exact Or.inl old
      · exact Or.inr ⟨address, fresh, rfl⟩
  | @enter what address fresh _ _ _ _ _ _ _ _ _ _ =>
      rcases added found with old | rfl
      · exact Or.inl old
      · exact Or.inr ⟨address, fresh, rfl⟩
  | send executing lookup asks => exact Or.inl (moved _ lookup found)
  | callback executing lookup write live => exact Or.inl (moved _ lookup found)
  | yield executing lookup => exact Or.inl (moved _ lookup found)
  | bottomHalf idle scheduled live lookup => exact Or.inl (moved _ lookup found)
  | resume executing lookup live => exact Or.inl (moved _ lookup found)
  | abort large => exact Or.inl ⟨coroutine, found, rfl⟩
  | receive idle queue => exact Or.inl ⟨coroutine, found, rfl⟩
  | copyRead held lookup outstanding size live copied => exact Or.inl ⟨coroutine, found, rfl⟩
  | copyFsync held lookup outstanding live => exact Or.inl ⟨coroutine, found, rfl⟩
  | finish held live lookup own outstanding => exact Or.inl ⟨coroutine, found, rfl⟩
  | guest => exact Or.inl ⟨coroutine, found, rfl⟩
  | serve alive queue served => exact Or.inl ⟨coroutine, found, rfl⟩
  | crash => exact Or.inl ⟨coroutine, found, rfl⟩

/-- What lies inside the volume is served without an assert, and keeps the volume's size. -/
theorem Ranged.serve {request : Envelope Client Request} {rest : List (Envelope Client Request)}
    {kernel : Kernel} {service : Service Client} (ranged : state.Ranged size)
    (inv : state.Inv volume) (alive : state.service.alive = true)
    (queue : state.service.requests = request :: rest)
    (full : kernel.Full state.service.file.content request.body)
    (served : state.service.serve kernel = some service) :
    service.alive = true ∧ service.file.content.size = size := by
  obtain ⟨coroutine, found, _, asks, _⟩ := inv.requests request (by simp [queue])
  have inside := (ranged.calls _ _ found).inside asks
  rw [← ranged.size_eq] at inside
  have io := asks.isIo
  unfold Service.serve at served
  simp only [alive, queue] at served
  cases body : request.body with
  | write req =>
      rw [body] at inside full
      simp only [body, serve_write_full inside full, Option.some.injEq] at served
      subst served
      exact ⟨rfl, (Request.apply_size inside).trans ranged.size_eq⟩
  | read req =>
      rw [body] at inside full
      obtain ⟨data, answer, _⟩ := serve_read_full inside full
      simp only [body, answer, Option.some.injEq] at served
      subst served
      exact ⟨rfl, ranged.size_eq⟩
  | getsize req =>
      simp only [body, VolumeFile.serve, Option.some.injEq] at served
      subst served
      exact ⟨rfl, ranged.size_eq⟩
  | fsync req =>
      simp only [body, VolumeFile.serve] at served
      cases synced : kernel.fsync with
      | ok _ =>
          simp only [synced, Option.some.injEq] at served
          subst served
          exact ⟨rfl, ranged.size_eq⟩
      | error errno =>
          simp only [synced, Option.some.injEq] at served
          subst served
          exact ⟨rfl, ranged.size_eq⟩
  | stop header => simp [body, Request.isIo] at io
  | openVolume req => simp [body, Request.isIo] at io
  | close req => simp [body, Request.isIo] at io
  | unknown header => simp [body, Request.isIo] at io

theorem Ranged.step (ranged : state.Ranged size) (inv : state.Inv volume)
    (alive : state.service.alive = true) (within : RangedLabel size label)
    (full : ∀ kernel request rest, label = .serve kernel → state.service.requests = request :: rest →
      kernel.Full state.service.file.content request.body)
    (notCrash : label ≠ .crash) (effect : Effect self volume state label after events) :
    after.Ranged size ∧ after.service.alive = true := by
  have calls (call : Nat) (coroutine : Coroutine)
      (found : after.client.coroutines call = some coroutine) : coroutine.call.Ranged size := by
    rcases effect.call_origin found with ⟨old, lookup, same⟩ | ⟨address, fresh, rfl⟩
    · rw [← same]
      exact ranged.calls _ _ lookup
    · exact within
  cases effect with
  | @serve request rest kernel service _ queue served =>
      obtain ⟨still, size_eq⟩ :=
        ranged.serve inv alive queue (full kernel request rest rfl queue) served
      exact ⟨⟨size_eq, calls⟩, still⟩
  | crash => exact (notCrash rfl).elim
  | refuse idle free misaligned => exact ⟨⟨ranged.size_eq, calls⟩, alive⟩
  | enter idle nonzero free accepted volume_eq asks filled =>
      exact ⟨⟨ranged.size_eq, calls⟩, alive⟩
  | send executing lookup asks => exact ⟨⟨ranged.size_eq, calls⟩, alive⟩
  | callback executing lookup write live => exact ⟨⟨ranged.size_eq, calls⟩, alive⟩
  | yield executing lookup => exact ⟨⟨ranged.size_eq, calls⟩, alive⟩
  | bottomHalf idle scheduled live lookup => exact ⟨⟨ranged.size_eq, calls⟩, alive⟩
  | resume executing lookup live => exact ⟨⟨ranged.size_eq, calls⟩, alive⟩
  | abort large => exact ⟨⟨ranged.size_eq, calls⟩, alive⟩
  | receive idle queue => exact ⟨⟨ranged.size_eq, calls⟩, alive⟩
  | copyRead held lookup outstanding size live copied => exact ⟨⟨ranged.size_eq, calls⟩, alive⟩
  | copyFsync held lookup outstanding live => exact ⟨⟨ranged.size_eq, calls⟩, alive⟩
  | finish held live lookup own outstanding => exact ⟨⟨ranged.size_eq, calls⟩, alive⟩
  | guest => exact ⟨⟨ranged.size_eq, calls⟩, alive⟩

end PrivateState

namespace AsyncState

variable {Index Client : Type} [DecidableEq Index] [DecidableEq Client]
variable {endpoints : Client → Endpoint Index} {state after : AsyncState Index Client}
variable {label : AsyncLabel Index Client} {events : List (Event Client)} {sizes : Client → Nat}

/-- The server runs, and every client's calls lie inside its volume. -/
structure Ranged (endpoints : Client → Endpoint Index) (sizes : Client → Nat)
    (state : AsyncState Index Client) : Prop where
  running : state.exchange.fault = none
  clients : ∀ client, (state.view endpoints client).Ranged (sizes client)

/-- Calls lie inside the caller's volume, and the kernel transfers in full what does. -/
def InRange (sizes : Client → Nat) (state : AsyncState Index Client) :
    AsyncLabel Index Client → Prop
  | .client client (.inside label) => label.Ranged (sizes client)
  | .client _ _ => True
  | .server label => state.exchange.FullTransfers label

omit [DecidableEq Index] [DecidableEq Client] in
theorem Internal.inRange {label : AsyncLabel Index Client} (internal : state.Internal label) :
    state.InRange sizes label := by
  cases label with
  | client client label =>
      cases label with
      | send => trivial
      | receive => trivial
      | inside label =>
          cases label with
          | call what address fresh => exact internal.elim
          | sendFails => trivial
          | callback => trivial
          | yield => trivial
          | bottomHalf acb => trivial
          | resume => trivial
          | copy => trivial
          | finish => trivial
          | guest memory => trivial
  | server label => exact internal.2

omit [DecidableEq Index] in
theorem full_view {index : Index} {kernel : Kernel} {request : Envelope Client Request}
    (wired : state.exchange.Wired endpoints) (hand : state.exchange.thread index = .hand request)
    (full : state.exchange.FullTransfers (.handle index kernel)) :
    kernel.Full (state.view endpoints request.sender).service.file.content request.body := by
  have isOpen := wired.isOpen request.sender
  obtain ⟨file, found⟩ := isOpen.exists_file
  have live := (congrArg state.exchange.world.volumes (wired.inHand _ _ hand).volume).trans isOpen.live
  have transfers := full request _ hand live
  rw [World.content_eq isOpen.fdOpen found] at transfers
  simpa [view, Exchange.service, found] using transfers

omit [DecidableEq Index] in
theorem hand_view {index : Index} {request : Envelope Client Request}
    (wired : state.exchange.Wired endpoints) (hand : state.exchange.thread index = .hand request) :
    ∃ rest, (state.view endpoints request.sender).service.requests = request :: rest := by
  have same := (wired.inHand _ _ hand).index
  simp [view, Exchange.service, ← same, hand, Thread.requestsOf]

theorem Ranged.running_step (ranged : state.Ranged endpoints sizes) (inv : state.Inv endpoints)
    (valid : state.Valid label) (inRange : state.InRange sizes label)
    (stepped : (machine endpoints).step state label = some (after, events)) :
    after.exchange.fault = none := by
  have alive (client : Client) : (state.view endpoints client).service.alive = true := by
    simp [view, Exchange.service, ranged.running]
  cases label with
  | client client label =>
      obtain ⟨own, _⟩ := clientStep_project inv.wired stepped
      have validPrivate : (state.view endpoints client).Valid (.client label) := by
        cases label with
        | inside label => exact valid
        | send => trivial
        | receive => trivial
      have within : PrivateState.RangedLabel (sizes client) (.client label) := by
        cases label with
        | inside label => exact inRange
        | send => trivial
        | receive => trivial
      have effect := (inv.clients client).effect validPrivate own
      obtain ⟨_, still⟩ := (ranged.clients client).step (inv.clients client) (alive client) within
        (by simp) (by simp) effect
      simpa [view, Exchange.service] using still
  | server label =>
      simp only [machine] at stepped
      split at stepped
      · rename_i exchange next
        obtain ⟨rfl, rfl⟩ := Prod.mk.inj (Option.some.inj stepped)
        rcases Exchange.serverStep_service inv.wired next with
          ⟨_, notHandle⟩ | ⟨index, kernel, rfl, handled⟩
        · exact (Exchange.serverStep_load inv.wired notHandle next).1.trans ranged.running
        · obtain ⟨request, rest, hand, queue, served, _⟩ :=
            Exchange.handleStep_service inv.wired ranged.running handled
          have full := full_view inv.wired hand inRange
          obtain ⟨still, _⟩ := (ranged.clients request.sender).serve (inv.clients request.sender)
            (alive request.sender) queue full served
          simpa [Exchange.service] using still
      · simp at stepped

/-- No step aborts the server or takes a call out of its volume. -/
theorem Ranged.step (ranged : state.Ranged endpoints sizes) (inv : state.Inv endpoints)
    (valid : state.Valid label) (inRange : state.InRange sizes label)
    (stepped : (machine endpoints).step state label = some (after, events)) :
    after.Ranged endpoints sizes := by
  have running := ranged.running_step inv valid inRange stepped
  refine ⟨running, ?_⟩
  intro client
  have alive : (state.view endpoints client).service.alive = true := by
    simp [view, Exchange.service, ranged.running]
  rcases inv.project valid stepped client with ⟨same, _⟩ | ⟨label', projects, validPrivate, next⟩
  · rw [same]
    exact ranged.clients client
  · have effect := (inv.clients client).effect validPrivate next
    cases projects with
    | @own label =>
        have within : PrivateState.RangedLabel (sizes client) (.client label) := by
          cases label with
          | inside label => exact inRange
          | send => trivial
          | receive => trivial
        exact ((ranged.clients client).step (inv.clients client) alive within (by simp) (by simp)
          effect).1
    | @served index kernel request hand sender =>
        subst sender
        have within : PrivateState.RangedLabel (sizes request.sender) (.serve kernel) := trivial
        refine ((ranged.clients request.sender).step (inv.clients request.sender) alive within ?_
          (by simp) effect).1
        rintro _ first rest ⟨⟩ queue
        obtain ⟨others, equal⟩ := hand_view inv.wired hand
        obtain ⟨rfl, _⟩ := List.cons.inj (queue.symm.trans equal)
        exact full_view inv.wired hand inRange
    | crash =>
        have ended : (after.view endpoints client).service.alive = false := by
          simp only [PrivateState.machine, Option.some.injEq, Prod.mk.injEq] at next
          rw [← next.1]
        simp [view, Exchange.service, running] at ended

end AsyncState

end Cvbd
