import Cvbd.AgreementChecks
import Cvbd.AsyncTotal

/-!
One call of the asynchronous driver, followed from its entry to its return: the
invariant of its run and the outcome of every schedule.
-/

namespace Cvbd

namespace PrivateState

variable {Client : Type} {self : Client} {volume : UInt64} {state after : PrivateState Client}
variable {label : PrivateLabel} {events : List CallEvent}
variable {what : CoCall} {data memory : Bytes} {content : File}

/-- The client has made one call only. A write leaves the memory alone, and a read that has
returned has filled its vector. -/
structure Single (what : CoCall) (data memory : Bytes) (content : File)
    (state : PrivateState Client) : Prop where
  next : state.client.next = 1
  call : ∃ coroutine, state.client.coroutines 0 = some coroutine ∧ coroutine.call = what ∧
    coroutine.data = data
  untouched : what.isWrite = true → state.client.memory = memory
  filled : ∀ coroutine sectorNum nbSectors qiov ret, state.client.coroutines 0 = some coroutine →
    what = .readv sectorNum nbSectors qiov → coroutine.pc = .returned ret →
    qiov.Holds state.client.memory
      (fun index => content.byte ((byteOffset sectorNum).toInt.toNat + index))
      (byteSize nbSectors).toNat

def Internal : PrivateLabel → Prop
  | .client label => label.Internal
  | .serve _ | .crash => True

theorem Single.advance {call : Nat} {old : Coroutine} {pc : CoPc}
    (single : state.Single what data memory content) (inv : state.Inv volume)
    (found : state.client.coroutines call = some old)
    (table : after.client.coroutines =
      Function.update state.client.coroutines call (some { old with pc }))
    (next : after.client.next = state.client.next)
    (same : after.client.memory = state.client.memory)
    (filled : ∀ ret sectorNum nbSectors qiov, pc = .returned ret →
      old.call = .readv sectorNum nbSectors qiov → qiov.Holds state.client.memory
        (fun index => content.byte ((byteOffset sectorNum).toInt.toNat + index))
        (byteSize nbSectors).toNat) : after.Single what data memory content := by
  have below := (inv.known call).mp (by simp [found])
  have zero : call = 0 := by
    have next := single.next
    omega
  subst zero
  obtain ⟨coroutine, lookup, call_eq, data_eq⟩ := single.call
  obtain rfl := Option.some.inj (found.symm.trans lookup)
  refine ⟨next.trans single.next, ?_, ?_, ?_⟩
  · exact ⟨{ old with pc }, by rw [table, Function.update_self], call_eq, data_eq⟩
  · intro write
    rw [same]
    exact single.untouched write
  · intro coroutine sectorNum nbSectors qiov ret lookup reads returned
    rw [table, Function.update_self] at lookup
    obtain rfl := Option.some.inj lookup
    rw [same]
    exact filled ret sectorNum nbSectors qiov returned (call_eq.trans reads)

theorem Single.keep (single : state.Single what data memory content)
    (table : after.client.coroutines = state.client.coroutines)
    (next : after.client.next = state.client.next)
    (same : after.client.memory = state.client.memory ∨
      what.isWrite = false ∧ ∀ coroutine ret, state.client.coroutines 0 = some coroutine →
        coroutine.pc ≠ .returned ret) : after.Single what data memory content := by
  refine ⟨next.trans single.next, by rw [table]; exact single.call, ?_, ?_⟩
  · intro write
    rcases same with same | ⟨notWrite, _⟩
    · rw [same]
      exact single.untouched write
    · simp [write] at notWrite
  · intro coroutine sectorNum nbSectors qiov ret found reads returned
    rw [table] at found
    rcases same with same | ⟨_, active⟩
    · rw [same]
      exact single.filled coroutine sectorNum nbSectors qiov ret found reads returned
    · exact (active coroutine ret found returned).elim

theorem Single.step (single : state.Single what data memory content) (inv : state.Inv volume)
    (delivers : state.Delivers content) (internal : Internal label)
    (effect : Effect self volume state label after events) :
    after.Single what data memory content := by
  cases effect with
  | abort large => exact internal.elim
  | refuse idle free misaligned => exact internal.elim
  | enter idle nonzero free accepted volume_eq asks filled => exact internal.elim
  | guest => exact internal.elim
  | @send call what' data' acb request executing found asks =>
      refine single.advance inv found rfl rfl rfl ?_
      intro ret _ _ _ returned
      split at returned <;> simp at returned
  | callback executing found write live =>
      exact single.advance inv found rfl rfl rfl (by simp)
  | yield executing found => exact single.advance inv found rfl rfl rfl (by simp)
  | bottomHalf idle scheduled live found =>
      exact single.advance inv found rfl rfl rfl (by simp)
  | @resume call what' data' address acb executing found live =>
      refine single.advance inv found rfl rfl rfl ?_
      intro ret sectorNum nbSectors qiov _ reads
      have zero : call = 0 := by
        have below := (inv.known call).mp (by simp [found])
        have next := single.next
        omega
      subst zero
      exact delivers.copied 0 _ sectorNum nbSectors qiov found reads (Or.inr rfl)
  | receive idle queue => exact single.keep rfl rfl (Or.inl rfl)
  | @copyRead call sectorNum nbSectors qiov data' pc acb memory' reply held found outstanding size
      live copied =>
      have zero : call = 0 := by
        have below := (inv.known call).mp (by simp [found])
        have next := single.next
        omega
      subst zero
      obtain ⟨coroutine, lookup, call_eq, _⟩ := single.call
      obtain rfl := Option.some.inj (found.symm.trans lookup)
      refine single.keep rfl rfl (Or.inr ⟨by rw [← call_eq]; rfl, ?_⟩)
      intro coroutine ret again returned
      obtain rfl := Option.some.inj (found.symm.trans again)
      simp only at returned
      simp [returned, CoPc.isOutstanding] at outstanding
  | copyFsync held found outstanding live => exact single.keep rfl rfl (Or.inl rfl)
  | finish held live found own outstanding => exact single.keep rfl rfl (Or.inl rfl)
  | serve alive queue served => exact single.keep rfl rfl (Or.inl rfl)
  | crash => exact single.keep rfl rfl (Or.inl rfl)

/-- Everything followed along the run of one call. -/
structure Followed (sender : Client) (volume : UInt64) (what : CoCall) (data memory : Bytes)
    (content : File) (trace : List CallEvent) (state : PrivateState Client) : Prop where
  tied : state.Tied sender volume content trace
  delivers : state.Delivers content
  single : state.Single what data memory content

theorem Internal.respects (internal : Internal label) : state.Respects label := by
  cases label with
  | client label =>
      cases label with
      | send => trivial
      | receive => trivial
      | inside label =>
          cases label with
          | call what address fresh => exact internal.elim
          | sendFails => exact internal.elim
          | guest memory => exact internal.elim
          | callback => trivial
          | yield => trivial
          | bottomHalf acb => trivial
          | resume => trivial
          | copy => trivial
          | finish => trivial
  | serve kernel => trivial
  | crash => trivial

theorem Followed.step {trace : List CallEvent}
    (followed : state.Followed self volume what data memory content trace)
    (valid : state.Valid label) (internal : Internal label)
    (stepped : (machine self).step state label = some (after, events)) :
    after.Followed self volume what data memory content (trace ++ events) := by
  have inv := followed.tied.inv
  have effect := inv.effect valid stepped
  exact ⟨followed.tied.step valid stepped,
    followed.delivers.step inv followed.tied.stored valid internal.respects effect,
    followed.single.step inv followed.delivers internal effect⟩

theorem Single.start {address : UInt64} {fresh : Acb} (content : File)
    (start : state.client.Fresh volume) (accepted : what.Accepted)
    (effect : Effect self volume state (.client (.inside (.call what address fresh))) after events) :
    after.Single what (what.data state.client.memory state.client.oldData) state.client.memory
      content := by
  have next := start.next
  cases effect with
  | abort large =>
      have small := accepted.2
      omega
  | refuse idle free misaligned => simp [accepted.1] at misaligned
  | @enter _ _ _ acb request shared idle nonzero free _ volume_eq asks filled =>
      have found : (state.client.enterSend what address acb (some (request, shared))).coroutines 0 =
          some (state.client.newCoroutine what address (.sending request)) := by
        simp [AsyncClient.enterSend, next]
      refine ⟨by simp [AsyncClient.enterSend, next], ⟨_, found, rfl, rfl⟩, fun _ => rfl, ?_⟩
      intro coroutine sectorNum nbSectors qiov ret lookup _ returned
      obtain rfl := Option.some.inj (found.symm.trans lookup)
      simp [AsyncClient.newCoroutine] at returned

theorem Followed.finished {trace : List CallEvent} {coroutine : Coroutine} {ret : Int32}
    (followed : state.Followed self volume what data memory content trace)
    (alive : state.service.alive = true) (served : state.service.requests = [])
    (aligned : what.aligned = true) (transfer : what ≠ .flush)
    (found : state.client.coroutines 0 = some coroutine) (returned : coroutine.pc = .returned ret) :
    ret = 0 ∧ state.service.file.content = (⟨what, data, 0, .yielded⟩ : Coroutine).apply content := by
  obtain ⟨_, lookup, call_eq, data_eq⟩ := followed.single.call
  obtain rfl := Option.some.inj (found.symm.trans lookup)
  constructor
  · rcases followed.tied.outcomes.returned 0 coroutine ret found returned with
      ⟨misaligned, _⟩ | ⟨_, stored, result, ret_eq⟩
    · simp [call_eq, aligned] at misaligned
    · rw [call_eq] at result
      cases what with
      | readv sectorNum nbSectors qiov =>
          rw [ret_eq, show stored = 0 from result]
          rfl
      | writev sectorNum nbSectors qiov =>
          rw [ret_eq, show stored = 0 from result]
          rfl
      | flush => exact (transfer rfl).elim
  · have tracks := followed.tied.stored.tracks alive
    rw [served, File.applyAll_nil] at tracks
    have settled := tracks.settled ?_
    · rw [followed.single.next, AsyncClient.contentBefore_succ found] at settled
      simpa [Coroutine.apply, call_eq, data_eq, AsyncClient.contentBefore] using settled
    · intro call other request lookup sending
      have below := (followed.tied.inv.known call).mp (by simp [lookup])
      rw [followed.single.next, Nat.lt_one_iff] at below
      subst below
      obtain rfl := Option.some.inj (found.symm.trans lookup)
      simp [returned] at sending

end PrivateState

theorem AsyncClient.Fresh.respects {client : AsyncClient} {volume : UInt64}
    (start : client.Fresh volume) (what : CoCall) (address : UInt64) (fresh : Acb) :
    (LocalLabel.call what address fresh).Respects client := by
  cases what with
  | readv sectorNum nbSectors qiov =>
      intro call coroutine _ _ _ found
      simp [start.coroutines] at found
  | writev sectorNum nbSectors qiov => trivial
  | flush => trivial

namespace AsyncState

variable {initial state after : AsyncState Unit Unit} {endpoint : Endpoint Unit}
variable {what : CoCall} {data memory : Bytes} {content : File}
variable {trace events : List (Event Unit)} {label : AsyncLabel Unit Unit}

/-- Everything followed along the run of one call against the server. -/
structure Following (endpoint : Endpoint Unit) (what : CoCall) (data memory : Bytes) (content : File)
    (trace : List (Event Unit)) (state : AsyncState Unit Unit) : Prop where
  inv : state.Inv fun _ => endpoint
  sound : ∀ client, (state.view (fun _ => endpoint) client).Sound
  ranged : state.Ranged (fun _ => endpoint) fun _ => content.size
  followed : (state.view (fun _ => endpoint) ()).Followed () endpoint.volume what data memory content
    (trace.flatMap (Event.visible ()))

theorem Following.step (following : state.Following endpoint what data memory content trace)
    (valid : state.Valid label) (internal : state.Internal label)
    (stepped : (machine fun _ => endpoint).step state label = some (after, events)) :
    after.Following endpoint what data memory content (trace ++ events) := by
  refine ⟨following.inv.step valid stepped,
    following.inv.sound_step following.sound valid internal.fits stepped,
    following.ranged.step following.inv valid internal.inRange stepped, ?_⟩
  rw [List.flatMap_append]
  rcases following.inv.project valid stepped () with
    ⟨same, silent⟩ | ⟨label', projects, validPrivate, next⟩
  · rw [same, silent, List.append_nil]
    exact following.followed
  · refine following.followed.step validPrivate ?_ next
    cases projects with
    | own => exact internal
    | served hand sender => trivial
    | crash => trivial

/-- On the way of the call `what` that was the client's first in the state `initial`. -/
def OnTheWay (endpoint : Endpoint Unit) (initial : AsyncState Unit Unit) (what : CoCall)
    (state : AsyncState Unit Unit) : Prop :=
  ∃ trace, state.Following endpoint what
    (what.data (initial.clients ()).memory (initial.clients ()).oldData)
    (initial.clients ()).memory (initial.content (fun _ => endpoint) ()) trace

theorem OnTheWay.step (onTheWay : OnTheWay endpoint initial what state)
    (permitted : state.Valid label ∧ state.Internal label)
    (stepped : (machine fun _ => endpoint).step state label = some (after, events)) :
    OnTheWay endpoint initial what after := by
  obtain ⟨trace, following⟩ := onTheWay
  exact ⟨trace ++ events, following.step permitted.1 permitted.2 stepped⟩

theorem Started.enter_step (started : initial.Started fun _ => endpoint) (what : CoCall)
    (address : UInt64) (fresh : Acb) :
    (machine fun _ => endpoint).step initial (.client () (.inside (.call what address fresh))) =
      some (initial.enter what address fresh,
        ((initial.clients ()).enter address fresh what).2.map (⟨(), ·⟩)) := by
  obtain ⟨_, fault, _, _, current, _⟩ := started.clients ()
  simp [machine, clientStep, AsyncClient.localStep, fault, current, AsyncState.enter]

theorem Started.onTheWay {address : UInt64} {fresh : Acb}
    (started : initial.Started fun _ => endpoint) (nonzero : address ≠ 0)
    (free : (initial.clients ()).heap address = none) (accepted : what.Accepted)
    (ranged : what.Ranged (initial.content (fun _ => endpoint) ()).size) :
    OnTheWay endpoint initial what (initial.enter what address fresh) := by
  have stepped := started.enter_step what address fresh
  have inv := started.inv
  have sound := (started.sound Machine.Run.start).2
  have valid : initial.Valid (.client () (.inside (.call what address fresh))) := ⟨nonzero, free⟩
  have atStart : initial.Ranged (fun _ => endpoint)
      fun _ => (initial.content (fun _ => endpoint) ()).size := by
    refine ⟨started.running, fun client => ⟨rfl, ?_⟩⟩
    intro call coroutine found
    have none := (started.clients client).coroutines call
    have found : (initial.clients client).coroutines call = some coroutine := found
    simp [none] at found
  refine ⟨((initial.clients ()).enter address fresh what).2.map (⟨(), ·⟩), inv.step valid stepped,
    inv.sound_step sound valid accepted.2 stepped, atStart.step inv valid ranged stepped, ?_⟩
  have start := started.clients ()
  have tied := PrivateState.Tied.start () start (started.requests ()) (started.replies ())
  have none : ∀ call, (initial.view (fun _ => endpoint) ()).client.coroutines call = none :=
    start.coroutines
  have delivers : (initial.view (fun _ => endpoint) ()).Delivers
      (initial.content (fun _ => endpoint) ()) :=
    ⟨by simp [started.replies], by simp [view, start.replyThread], by simp [none], by simp [none]⟩
  have entered : initial.clientStep (fun _ => endpoint) () (.inside (.call what address fresh)) =
      some (_, _) := stepped
  obtain ⟨own, _⟩ := clientStep_project inv.wired entered
  have validPrivate : (initial.view (fun _ => endpoint) ()).Valid
      (.client (.inside (.call what address fresh))) := ⟨nonzero, free⟩
  have effect := (inv.clients ()).effect validPrivate own
  have respects : (initial.view (fun _ => endpoint) ()).Respects
      (.client (.inside (.call what address fresh))) := start.respects what address fresh
  exact ⟨tied.step validPrivate own,
    delivers.step (inv.clients ()) tied.stored validPrivate respects effect,
    PrivateState.Single.start _ start accepted effect⟩

end AsyncState

end Cvbd
