import Cvbd.AsyncContent
import Cvbd.AsyncTrace
import Cvbd.Posix

/-!
Each call returns the result of its own request: a read or write returns 0, a
flush the error of the `fsync` the server made for it, which on success has made
everything before the flush durable.
-/

namespace Cvbd

variable {Client : Type}

/-- The server has made the `fsync` for the call, with this error. -/
def Synced (trace : List CallEvent) (call : Nat) (err : Int32) : Prop :=
  ∃ request kernel file, CallEvent.served call request kernel file ∈ trace ∧ err = kernel.fsyncErr

theorem Synced.mono {trace : List CallEvent} {call : Nat} {err : Int32}
    (synced : Synced trace call err) (events : List CallEvent) : Synced (trace ++ events) call err := by
  obtain ⟨request, kernel, file, member, equal⟩ := synced
  exact ⟨request, kernel, file, List.mem_append_left _ member, equal⟩

/-- The reply carries the result of the request it answers. -/
def Answers (trace : List CallEvent) (call : Nat) : Reply → Prop
  | .fsync reply => Synced trace call reply.err
  | .read _ | .openVolume _ | .getsize _ => True

theorem Answers.mono {trace : List CallEvent} {call : Nat} {reply : Reply}
    (answers : Answers trace call reply) (events : List CallEvent) :
    Answers (trace ++ events) call reply := by
  cases reply with
  | fsync reply => exact Synced.mono answers events
  | read reply => trivial
  | openVolume reply => trivial
  | getsize reply => trivial

namespace CoCall

/-- The result a call is to return. -/
def Result (trace : List CallEvent) (call : Nat) (ret : Int64) : CoCall → Prop
  | .readv .. | .writev .. => ret = 0
  | .flush => ∃ err, Synced trace call err ∧ ret = err.toInt64

/-- What the reply thread hands to the callback. -/
def Finishing (trace : List CallEvent) (call : Nat) (ret : Int32) (stored : Int64) : CoCall → Prop
  | .readv .. | .writev .. => ret = 0
  | .flush => Synced trace call ret ∧ stored = ret.toInt64

variable {trace : List CallEvent} {call : Nat} {what : CoCall}

theorem Result.mono {ret : Int64} (result : what.Result trace call ret)
    (events : List CallEvent) : what.Result (trace ++ events) call ret := by
  cases what with
  | readv sectorNum nbSectors qiov => exact result
  | writev sectorNum nbSectors qiov => exact result
  | flush =>
      obtain ⟨err, synced, equal⟩ := result
      exact ⟨err, synced.mono events, equal⟩

theorem Finishing.mono {ret : Int32} {stored : Int64}
    (finishing : what.Finishing trace call ret stored) (events : List CallEvent) :
    what.Finishing (trace ++ events) call ret stored := by
  cases what with
  | readv sectorNum nbSectors qiov => exact finishing
  | writev sectorNum nbSectors qiov => exact finishing
  | flush => exact ⟨finishing.1.mono events, finishing.2⟩

end CoCall

theorem Kernel.fsyncErr_nonpos (kernel : Kernel) : kernel.fsyncErr.toInt ≤ 0 := by
  unfold Kernel.fsyncErr
  split
  · decide
  · rename_i errno _
    have positive := errno.positive
    rw [errno.negative_toInt]
    omega

theorem cvbdFinishAio_result {trace : List CallEvent} {call : Nat} {what : CoCall} {ret : Int32}
    {acb : Acb} (finishing : what.Finishing trace call ret acb.ret) (size : acb.size = what.size) :
    what.Result trace call (cvbdFinishAio ret acb).ret := by
  cases what with
  | readv sectorNum nbSectors qiov =>
      obtain rfl : ret = 0 := finishing
      rfl
  | writev sectorNum nbSectors qiov =>
      obtain rfl : ret = 0 := finishing
      rfl
  | flush =>
      obtain ⟨synced, stored⟩ := finishing
      refine ⟨ret, synced, ?_⟩
      obtain ⟨_, kernel, _, _, err⟩ := synced
      have nonpos := kernel.fsyncErr_nonpos
      rw [← err] at nonpos
      unfold cvbdFinishAio
      split
      · rename_i success
        have zero : ret = 0 := by
          rcases success with zero | same
          · exact zero
          · rw [stored, size] at same
            have widened : ret.toInt64 = 0 := by
              have back := congrArg UInt64.toInt64 same
              simpa [CoCall.size] using back
            have value := congrArg Int64.toInt widened
            rw [Int32.toInt_toInt64] at value
            exact Int32.toInt_inj.mp value
        rw [zero]
        rfl
      · rename_i failed
        split
        · rfl
        · rename_i notNegative
          exfalso
          refine failed (Or.inl (Int32.toInt_inj.mp ?_))
          rw [Int32.lt_iff_toInt_lt] at notNegative
          have zero : (0 : Int32).toInt = 0 := rfl
          omega

namespace PrivateState

/-- Positions of a coroutine in which its control block holds the final result. -/
def Final (client : AsyncClient) (coroutine : Coroutine) : Prop :=
  coroutine.pc.isOutstanding = true ∧ coroutine.acb ∈ client.bhs ∨ coroutine.pc = .entered

theorem Final.unfinished {client : AsyncClient} {coroutine : Coroutine}
    (final : Final client coroutine) : coroutine.pc.isReturned = false := by
  rcases final with ⟨outstanding, _⟩ | entered
  · cases pc : coroutine.pc <;> simp_all [CoPc.isOutstanding, CoPc.isReturned]
  · simp [entered, CoPc.isReturned]

structure Outcomes (initial : File) (trace : List CallEvent) (state : PrivateState Client) :
    Prop where
  durable : ∀ call request kernel file coroutine,
    CallEvent.served call request kernel file ∈ trace →
    state.client.coroutines call = some coroutine → coroutine.call = .flush →
    kernel.fsync = .ok () → file.durable = state.client.contentBefore initial call
  replies : ∀ reply ∈ state.service.replies, Answers trace reply.call reply.body
  hand : ∀ call reply, state.client.replyThread = .hand call reply → Answers trace call reply
  finishing : ∀ address ret call coroutine acb,
    state.client.replyThread = .finishing address ret →
    state.client.coroutines call = some coroutine → coroutine.acb = address →
    coroutine.pc.isOutstanding = true → state.client.heap address = some acb →
    coroutine.call.Finishing trace call ret acb.ret
  final : ∀ call coroutine acb, state.client.coroutines call = some coroutine →
    Final state.client coroutine → state.client.heap coroutine.acb = some acb →
    coroutine.call.Result trace call acb.ret
  returned : ∀ call coroutine ret, state.client.coroutines call = some coroutine →
    coroutine.pc = .returned ret → coroutine.call.aligned = false ∧ ret = einval.negative ∨
      coroutine.call.aligned = true ∧
        ∃ stored, coroutine.call.Result trace call stored ∧ ret = stored.toInt32

variable {self : Client} {volume : UInt64} {state after : PrivateState Client} {initial : File}
variable {trace : List CallEvent} {label : PrivateLabel} {events : List CallEvent}

theorem Outcomes.keep (outcomes : state.Outcomes initial trace)
    (coroutines : after.client.coroutines = state.client.coroutines)
    (durable : ∀ call request kernel file coroutine,
      CallEvent.served call request kernel file ∈ events →
      state.client.coroutines call = some coroutine → coroutine.call = .flush →
      kernel.fsync = .ok () → file.durable = state.client.contentBefore initial call)
    (replies : ∀ reply ∈ after.service.replies, Answers (trace ++ events) reply.call reply.body)
    (hand : ∀ call reply, after.client.replyThread = .hand call reply →
      Answers (trace ++ events) call reply)
    (finishing : ∀ address ret call coroutine acb,
      after.client.replyThread = .finishing address ret →
      state.client.coroutines call = some coroutine → coroutine.acb = address →
      coroutine.pc.isOutstanding = true → after.client.heap address = some acb →
      coroutine.call.Finishing trace call ret acb.ret)
    (final : ∀ call coroutine acb, state.client.coroutines call = some coroutine →
      Final after.client coroutine → after.client.heap coroutine.acb = some acb →
      coroutine.call.Result trace call acb.ret) : after.Outcomes initial (trace ++ events) := by
  have content (bound : Nat) : after.client.contentBefore initial bound =
      state.client.contentBefore initial bound :=
    AsyncClient.contentBefore_congr fun other _ => by rw [coroutines]
  refine ⟨?_, replies, hand, ?_, ?_, ?_⟩
  · rw [coroutines]
    intro call request kernel file coroutine member found flush succeeded
    rw [content]
    rcases List.mem_append.mp member with before | isNew
    · exact outcomes.durable call request kernel file coroutine before found flush succeeded
    · exact durable call request kernel file coroutine isNew found flush succeeded
  · rw [coroutines]
    intro address ret call coroutine acb held found own outstanding heap
    exact (finishing address ret call coroutine acb held found own outstanding heap).mono events
  · rw [coroutines]
    intro call coroutine acb found done heap
    exact (final call coroutine acb found done heap).mono events
  · rw [coroutines]
    intro call coroutine ret found is
    rcases outcomes.returned call coroutine ret found is with
      refused | ⟨aligned, stored, result, equal⟩
    · exact Or.inl refused
    · exact Or.inr ⟨aligned, stored, result.mono events, equal⟩

theorem Outcomes.advance {call : Nat} {pc : CoPc} (outcomes : state.Outcomes initial trace)
    (inv : state.Inv volume) (old : Coroutine)
    (found : state.client.coroutines call = some old) (unfinished : old.pc.isReturned = false)
    (table : after.client.coroutines =
      Function.update state.client.coroutines call (some { old with pc }))
    (service : after.service.replies = state.service.replies)
    (thread : after.client.replyThread = state.client.replyThread)
    (noServed : ∀ event ∈ events, event.isServed = false)
    (heap : ∀ address, address ≠ old.acb →
      after.client.heap address = state.client.heap address)
    (bhs : ∀ address, address ≠ old.acb → address ∈ after.client.bhs →
      address ∈ state.client.bhs)
    (ownFinishing : ∀ ret, state.client.replyThread = .finishing old.acb ret →
      pc.isOutstanding = true → old.pc.isOutstanding = true ∧
        after.client.heap old.acb = state.client.heap old.acb)
    (ownFinal : ∀ acb, Final after.client { old with pc } →
      after.client.heap old.acb = some acb → old.call.Result trace call acb.ret)
    (ownReturned : ∀ ret, pc = .returned ret →
      ∃ stored, old.call.Result trace call stored ∧ ret = stored.toInt32) :
    after.Outcomes initial (trace ++ events) := by
  have live := inv.live call old found unfinished
  have content (bound : Nat) : after.client.contentBefore initial bound =
      state.client.contentBefore initial bound :=
    AsyncClient.contentBefore_update old table found bound
  refine ⟨?_, ?_, ?_, ?_, ?_, ?_⟩
  · intro other request kernel file coroutine member lookup flush succeeded
    rw [content]
    have before : CallEvent.served other request kernel file ∈ trace := by
      rcases List.mem_append.mp member with before | isNew
      · exact before
      · have served := noServed _ isNew
        simp [CallEvent.isServed] at served
    rw [table] at lookup
    by_cases same : other = call
    · subst same
      simp only [Function.update_self, Option.some.injEq] at lookup
      subst lookup
      exact outcomes.durable other request kernel file old before found flush succeeded
    · rw [Function.update_of_ne same] at lookup
      exact outcomes.durable other request kernel file coroutine before lookup flush succeeded
  · intro reply member
    rw [service] at member
    exact (outcomes.replies reply member).mono events
  · intro other reply held
    rw [thread] at held
    exact (outcomes.hand other reply held).mono events
  · rw [table, thread]
    intro address ret other coroutine acb held lookup own outstanding stored
    by_cases same : other = call
    · subst same
      simp only [Function.update_self, Option.some.injEq] at lookup
      subst lookup
      simp only at own
      subst own
      obtain ⟨was, sameHeap⟩ := ownFinishing ret held outstanding
      rw [sameHeap] at stored
      exact (outcomes.finishing _ ret other old acb held found rfl was stored).mono events
    · rw [Function.update_of_ne same] at lookup
      have apart := live.acb_ne (inv.live_outstanding lookup outstanding) same
      rw [own] at apart
      rw [heap address apart] at stored
      exact (outcomes.finishing address ret other coroutine acb held lookup own outstanding
        stored).mono events
  · rw [table]
    intro other coroutine acb lookup done stored
    by_cases same : other = call
    · subst same
      simp only [Function.update_self, Option.some.injEq] at lookup
      subst lookup
      exact (ownFinal acb done stored).mono events
    · rw [Function.update_of_ne same] at lookup
      have apart := live.acb_ne (inv.live other coroutine lookup done.unfinished) same
      rw [heap _ apart] at stored
      refine (outcomes.final other coroutine acb lookup ?_ stored).mono events
      rcases done with ⟨outstanding, scheduled⟩ | entered
      · exact Or.inl ⟨outstanding, bhs _ apart scheduled⟩
      · exact Or.inr entered
  · rw [table]
    intro other coroutine ret lookup is
    by_cases same : other = call
    · subst same
      simp only [Function.update_self, Option.some.injEq] at lookup
      subst lookup
      obtain ⟨stored, result, equal⟩ := ownReturned ret is
      exact Or.inr ⟨(inv.accepted other old found unfinished).1, stored, result.mono events, equal⟩
    · rw [Function.update_of_ne same] at lookup
      rcases outcomes.returned other coroutine ret lookup is with
        refused | ⟨aligned, stored, result, equal⟩
      · exact Or.inl refused
      · exact Or.inr ⟨aligned, stored, result.mono events, equal⟩

/-- A new coroutine has no result, unless it has been refused. -/
theorem Outcomes.newCall {new : Coroutine} {acb : Acb} (outcomes : state.Outcomes initial trace)
    (inv : state.Inv volume) (history : state.History trace)
    (free : state.client.heap new.acb = none) (service : after.service = state.service)
    (table : after.client.coroutines =
      Function.update state.client.coroutines state.client.next (some new))
    (heap : after.client.heap = Function.update state.client.heap new.acb (some acb))
    (same : after.client.replyThread = state.client.replyThread ∧
      after.client.bhs = state.client.bhs)
    (noServed : ∀ event ∈ events, event.isServed = false)
    (notFinal : new.pc.isOutstanding = false ∧ new.pc ≠ .entered)
    (refused : ∀ ret, new.pc = .returned ret →
      new.call.aligned = false ∧ ret = einval.negative) :
    after.Outcomes initial (trace ++ events) := by
  have oldHeap {coroutine : Coroutine} {call : Nat} (live : state.client.Live call coroutine) :
      after.client.heap coroutine.acb = state.client.heap coroutine.acb := by
    obtain ⟨_, block, stored, _⟩ := live
    rw [heap, Function.update_of_ne]
    intro equal
    rw [equal, free] at stored
    simp at stored
  refine ⟨?_, ?_, ?_, ?_, ?_, ?_⟩
  · intro call request kernel file coroutine member found flush succeeded
    have before : CallEvent.served call request kernel file ∈ trace := by
      rcases List.mem_append.mp member with before | isNew
      · exact before
      · have served := noServed _ isNew
        simp [CallEvent.isServed] at served
    obtain ⟨old, lookup, _⟩ := history.started _ before
    simp only [CallEvent.call] at lookup
    have below : call < state.client.next := (inv.known call).mp (by simp [lookup])
    rw [table, Function.update_of_ne (by omega)] at found
    rw [AsyncClient.contentBefore_new table (by omega)]
    exact outcomes.durable call request kernel file coroutine before found flush succeeded
  · intro reply member
    rw [service] at member
    exact (outcomes.replies reply member).mono events
  · intro call reply held
    rw [same.1] at held
    exact (outcomes.hand call reply held).mono events
  · rw [table, same.1]
    intro address ret call coroutine block held found own outstanding stored
    by_cases isNew : call = state.client.next
    · subst isNew
      simp only [Function.update_self, Option.some.injEq] at found
      subst found
      simp [notFinal.1] at outstanding
    · rw [Function.update_of_ne isNew] at found
      have live := inv.live_outstanding found outstanding
      rw [← own, oldHeap live, own] at stored
      exact (outcomes.finishing address ret call coroutine block held found own outstanding
        stored).mono events
  · rw [table]
    intro call coroutine block found done stored
    by_cases isNew : call = state.client.next
    · subst isNew
      simp only [Function.update_self, Option.some.injEq] at found
      subst found
      rcases done with ⟨outstanding, _⟩ | entered
      · simp [notFinal.1] at outstanding
      · exact (notFinal.2 entered).elim
    · rw [Function.update_of_ne isNew] at found
      rw [oldHeap (inv.live call coroutine found done.unfinished)] at stored
      refine (outcomes.final call coroutine block found ?_ stored).mono events
      simpa only [Final, same.2] using done
  · rw [table]
    intro call coroutine ret found is
    by_cases isNew : call = state.client.next
    · subst isNew
      simp only [Function.update_self, Option.some.injEq] at found
      subst found
      exact Or.inl (refused ret is)
    · rw [Function.update_of_ne isNew] at found
      rcases outcomes.returned call coroutine ret found is with
        refused | ⟨aligned, stored, result, equal⟩
      · exact Or.inl refused
      · exact Or.inr ⟨aligned, stored, result.mono events, equal⟩

theorem Outcomes.serve {request : Envelope Client Request} {rest : List (Envelope Client Request)}
    {kernel : Kernel} {service : Service Client} (outcomes : state.Outcomes initial trace)
    (inv : state.Inv volume) (stored : state.Stored initial) (running : state.service.alive = true)
    (queue : state.service.requests = request :: rest)
    (served : state.service.serve kernel = some service) :
    ({ state with service } : PrivateState Client).Outcomes initial
      (trace ++ [.served request.call request.body kernel service.file]) := by
  obtain ⟨⟨what, data, address, pc⟩, found, _, asks, _⟩ := inv.requests request (by simp [queue])
  have serves := asks.serves queue served
  simp only at serves
  refine outcomes.keep rfl ?_ ?_ (fun call reply held => (outcomes.hand call reply held).mono _)
    outcomes.finishing outcomes.final
  · intro call body made file coroutine member lookup flush succeeded
    simp only [List.mem_singleton, CallEvent.served.injEq] at member
    obtain ⟨rfl, rfl, rfl, rfl⟩ := member
    rw [found] at lookup
    obtain rfl := Option.some.inj lookup
    simp only at flush
    subst flush
    cases serves with
    | flush body type made => exact (made succeeded).trans (stored.pending [] request rest running queue)
    | abort transfers => exact (transfers rfl).elim
  · intro reply member
    cases serves with
    | read body type passed =>
        simp only [Service.answered, List.mem_append, List.mem_singleton] at member
        rcases member with old | rfl
        · exact (outcomes.replies reply old).mono _
        · trivial
    | flush body type made =>
        simp only [Service.answered, List.mem_append, List.mem_singleton] at member
        rcases member with old | rfl
        · exact (outcomes.replies reply old).mono _
        · exact ⟨_, _, _, List.mem_append_right _ (List.mem_singleton.mpr rfl), rfl⟩
    | write body passed => exact (outcomes.replies reply member).mono _
    | abort transfers => exact (outcomes.replies reply member).mono _

/-- The reply thread handles the block of an outstanding call, and no other. -/
theorem Outcomes.thread {call : Nat} {coroutine : Coroutine} {after : AsyncClient}
    (outcomes : state.Outcomes initial trace) (inv : state.Inv volume)
    (found : state.client.coroutines call = some coroutine)
    (outstanding : coroutine.pc.isOutstanding = true)
    (coroutines : after.coroutines = state.client.coroutines)
    (notHand : ∀ call reply, after.replyThread ≠ .hand call reply)
    (heap : ∀ address, address ≠ coroutine.acb →
      after.heap address = state.client.heap address)
    (bhs : ∀ address, address ≠ coroutine.acb → address ∈ after.bhs → address ∈ state.client.bhs)
    (finishing : ∀ address ret acb, after.replyThread = .finishing address ret →
      after.heap address = some acb →
      address = coroutine.acb ∧ coroutine.call.Finishing trace call ret acb.ret)
    (final : ∀ acb, coroutine.acb ∈ after.bhs → after.heap coroutine.acb = some acb →
      coroutine.call.Result trace call acb.ret) :
    ({ state with client := after } : PrivateState Client).Outcomes initial trace := by
  have live := inv.live_outstanding found outstanding
  rw [← List.append_nil trace]
  refine outcomes.keep coroutines (by simp) (by simpa using outcomes.replies)
    (fun call reply held => (notHand call reply held).elim) ?_ ?_
  · intro address ret other coroutine' acb held lookup own active stored
    obtain ⟨equal, result⟩ := finishing address ret acb held stored
    by_cases same : other = call
    · subst same
      rw [found] at lookup
      obtain rfl := Option.some.inj lookup
      exact result
    · exact (live.acb_ne (inv.live_outstanding lookup active) same (own.trans equal)).elim
  · intro other coroutine' acb lookup done stored
    by_cases same : other = call
    · subst same
      rw [found] at lookup
      obtain rfl := Option.some.inj lookup
      rcases done with ⟨_, scheduled⟩ | entered
      · exact final acb scheduled stored
      · simp [entered, CoPc.isOutstanding] at outstanding
    · have apart := live.acb_ne (inv.live other coroutine' lookup done.unfinished) same
      simp only at stored
      rw [heap _ apart] at stored
      refine outcomes.final other coroutine' acb lookup ?_ stored
      rcases done with ⟨active, scheduled⟩ | entered
      · exact Or.inl ⟨active, bhs _ apart scheduled⟩
      · exact Or.inr entered

theorem Outcomes.step (outcomes : state.Outcomes initial trace) (inv : state.Inv volume)
    (stored : state.Stored initial) (history : state.History trace)
    (effect : Effect self volume state label after events) :
    after.Outcomes initial (trace ++ events) := by
  cases effect with
  | abort large =>
      exact outcomes.keep rfl (by simp) (by simpa using outcomes.replies)
        (by simpa using outcomes.hand) outcomes.finishing outcomes.final
  | refuse idle free misaligned =>
      refine outcomes.newCall inv history free rfl rfl rfl ⟨rfl, rfl⟩ (by simp [CallEvent.isServed])
        ⟨rfl, by simp [AsyncClient.newCoroutine]⟩ ?_
      rintro ret ⟨⟩
      exact ⟨misaligned, rfl⟩
  | enter idle nonzero free accepted volume_eq asks filled =>
      exact outcomes.newCall inv history free rfl rfl rfl ⟨rfl, rfl⟩ (by simp)
        ⟨rfl, by simp [AsyncClient.newCoroutine]⟩ (by simp [AsyncClient.newCoroutine])
  | send executing found asks =>
      obtain ⟨notScheduled, notFinishing⟩ := inv.not_copied found rfl rfl
      refine outcomes.advance inv _ found rfl rfl rfl rfl (by simp [CallEvent.isServed])
        (fun _ _ => rfl) (fun _ _ member => member)
        (fun ret held => (notFinishing ret held).elim) ?_ (fun ret is => ?_)
      · rintro acb (⟨_, scheduled⟩ | entered)
        · exact (notScheduled scheduled).elim
        · simp only at entered
          split at entered <;> simp at entered
      · split at is <;> simp at is
  | @callback call what data address acb executing found write live =>
      obtain ⟨_, notFinishing⟩ := inv.not_copied found rfl rfl
      refine outcomes.advance inv ⟨_, _, _, .callback⟩ found rfl rfl rfl rfl (by simp)
        (fun other different => Function.update_of_ne different ..) ?_
        (fun ret held => (notFinishing ret held).elim) ?_ (by simp)
      · intro other different member
        simpa [AsyncClient.finishAio, different] using member
      · intro block _ filled
        simp only [AsyncClient.setCoroutine_heap, AsyncClient.finishAio, AsyncClient.setAcb,
          Function.update_self, Option.some.injEq] at filled
        subst filled
        cases what with
        | writev sectorNum nbSectors qiov => rfl
        | readv sectorNum nbSectors qiov => simp [CoCall.isWrite] at write
        | flush => simp [CoCall.isWrite] at write
  | yield executing found =>
      refine outcomes.advance inv ⟨_, _, _, .yielding⟩ found rfl rfl rfl rfl
        (by simp [CallEvent.isServed]) (fun _ _ => rfl) (fun _ _ member => member)
        (fun _ _ _ => ⟨rfl, rfl⟩) ?_ (by simp)
      rintro acb (⟨_, scheduled⟩ | entered) filled
      · exact outcomes.final _ _ acb found (Or.inl ⟨rfl, scheduled⟩) filled
      · simp at entered
  | @bottomHalf address what data acb idle scheduled live found =>
      refine outcomes.advance inv ⟨_, _, _, .yielded⟩ found rfl rfl rfl rfl
        (by simp [CallEvent.isServed]) (fun other different => Function.update_of_ne different ..)
        (fun _ _ member => List.mem_of_mem_erase member)
        (fun _ _ outstanding => by simp [CoPc.isOutstanding] at outstanding) ?_ (by simp)
      intro block _ filled
      simp only [AsyncClient.setCoroutine_heap, AsyncClient.setAcb, Function.update_self,
        Option.some.injEq] at filled
      subst filled
      exact outcomes.final _ _ acb found (Or.inl ⟨rfl, scheduled⟩) live
  | resume executing found live =>
      refine outcomes.advance inv ⟨_, _, _, .entered⟩ found rfl rfl rfl rfl
        (by simp [CallEvent.isServed]) (fun other different => Function.update_of_ne different ..)
        (fun _ _ member => member)
        (fun _ _ outstanding => by simp [CoPc.isOutstanding] at outstanding) ?_ ?_
      · rintro block (⟨outstanding, _⟩ | entered)
        · simp [CoPc.isOutstanding] at outstanding
        · simp at entered
      · rintro ret ⟨⟩
        exact ⟨_, outcomes.final _ _ _ found (Or.inr rfl) live, rfl⟩
  | receive idle queue =>
      refine outcomes.keep rfl (by simp) ?_ ?_ (by simp) outcomes.final
      · intro other member
        rw [List.append_nil]
        exact outcomes.replies other (by rw [queue]; exact List.mem_cons_of_mem _ member)
      · rintro call reply ⟨⟩
        rw [List.append_nil]
        exact outcomes.replies _ (by simp [queue])
  | copyRead held found outstanding size live copied =>
      have notScheduled := inv.not_scheduled found outstanding
        (by simp [held, ReplyThread.holds, Reply.header])
      rw [List.append_nil]
      refine outcomes.thread inv found outstanding rfl (by simp)
        (fun other different => Function.update_of_ne different ..) (fun _ _ member => member) ?_
        (fun _ scheduled _ => (notScheduled scheduled).elim)
      rintro address ret block ⟨⟩ _
      exact ⟨rfl, rfl⟩
  | @copyFsync call data pc acb reply held found outstanding live =>
      have notScheduled := inv.not_scheduled found outstanding
        (by simp [held, ReplyThread.holds, Reply.header])
      have answers := outcomes.hand _ _ held
      rw [List.append_nil]
      refine outcomes.thread inv found outstanding rfl (by simp)
        (fun other different => Function.update_of_ne different ..) (fun _ _ member => member) ?_
        (fun _ scheduled _ => (notScheduled scheduled).elim)
      rintro address ret block ⟨⟩ filled
      simp only [AsyncClient.setAcb, Function.update_self, Option.some.injEq] at filled
      subst filled
      exact ⟨rfl, answers, rfl⟩
  | @finish address ret coroutine acb held live found own outstanding =>
      subst own
      have result := outcomes.finishing _ _ _ _ _ held found rfl outstanding live
      obtain ⟨_, block, stored', _, _, size, _⟩ := inv.live_outstanding found outstanding
      rw [live] at stored'
      obtain rfl := Option.some.inj stored'
      rw [List.append_nil]
      refine outcomes.thread inv found outstanding rfl (by simp)
        (fun other different => Function.update_of_ne different ..) ?_ (by simp) ?_
      · intro other different member
        simpa [AsyncClient.finishAio, different] using member
      · intro block _ filled
        simp only [AsyncClient.finishAio, AsyncClient.setAcb, Function.update_self,
          Option.some.injEq] at filled
        subst filled
        exact cvbdFinishAio_result result size
  | guest =>
      exact outcomes.keep rfl (by simp) (by simpa using outcomes.replies)
        (by simpa using outcomes.hand) outcomes.finishing outcomes.final
  | serve alive queue served => exact outcomes.serve inv stored alive queue served
  | crash =>
      exact outcomes.keep rfl (by simp) (by simpa using outcomes.replies)
        (by simpa using outcomes.hand) outcomes.finishing outcomes.final

end PrivateState

end Cvbd
