import Cvbd.AsyncDriver
import Cvbd.AsyncOutcome

/-!
The order in which asynchronous calls are completed. Reads and flushes wait for
their replies in one line, from the request queue over the reply queue to the
reply thread, and leave it in the order of their submission. Writes are
completed at once and are not in line.
-/

namespace Cvbd

variable {Client : Type}

/-- The call whose reply is in the reply thread. -/
def AsyncClient.inThread (client : AsyncClient) : List Nat :=
  match client.replyThread with
  | .hand call _ => [call]
  | .finishing address _ => ((client.heap address).map fun acb => acb.coroutine).toList
  | .idle | .stopped => []

/-- The bottom half of the call has been scheduled, or has run. -/
def AsyncClient.Completed (client : AsyncClient) (coroutine : Coroutine) : Prop :=
  PrivateState.Final client coroutine ∨ coroutine.pc.isReturned = true

def Service.replyCalls (service : Service Client) : List Nat :=
  service.replies.map fun reply => reply.call

def Service.answeredCalls (service : Service Client) : List Nat :=
  (service.requests.filter fun request => request.body.answered).map fun request => request.call

namespace PrivateState

/-- The calls that wait for a reply, the next one to be completed ahead. -/
def line (state : PrivateState Client) : List Nat :=
  state.client.inThread ++ (state.service.replyCalls ++ state.service.answeredCalls)

structure InOrder (state : PrivateState Client) : Prop where
  sorted : state.line.Pairwise (· < ·)
  behind : ∀ call coroutine, state.client.coroutines call = some coroutine →
    coroutine.call.isWrite = false → coroutine.call.aligned = true →
    state.client.Completed coroutine → ∀ other ∈ state.line, call < other

variable {self : Client} {volume : UInt64} {state after : PrivateState Client}

/-- Every outstanding call that is not completed is in line. -/
theorem Inv.in_line (inv : state.Inv volume) {call : Nat} {coroutine : Coroutine}
    (found : state.client.coroutines call = some coroutine)
    (outstanding : coroutine.pc.isOutstanding = true)
    (waits : coroutine.acb ∉ state.client.bhs) : call ∈ state.line := by
  have live := inv.live_outstanding found outstanding
  -- A message with the call's control block is a message of the call.
  have own {other : Nat} {holder : Coroutine} (lookup : state.client.coroutines other = some holder)
      (active : holder.pc.isOutstanding = true) (same : holder.acb = coroutine.acb) :
      other = call := by
    by_contra different
    exact live.acb_ne (inv.live_outstanding lookup active) different same
  have once := inv.place found outstanding
  have unscheduled : state.client.bhs.count coroutine.acb = 0 := List.count_eq_zero.mpr waits
  unfold places at once
  rcases Nat.eq_zero_or_pos (Service.asked state.service.requests coroutine.acb) with none | asked
  · rcases Nat.eq_zero_or_pos (Service.answers state.service.replies coroutine.acb) with
      none' | answered
    · have held : state.client.replyThread.holds coroutine.acb = 1 := by omega
      refine List.mem_append_left _ ?_
      unfold AsyncClient.inThread
      cases thread : state.client.replyThread with
      | hand other reply =>
          obtain ⟨holder, lookup, acb, active, _⟩ := inv.hand other reply thread
          have same : reply.header.acb = coroutine.acb := by
            by_contra different
            simp [thread, ReplyThread.holds, different] at held
          simp [own lookup active (acb.trans same)]
      | finishing address ret =>
          have same : address = coroutine.acb := by
            by_contra different
            simp [thread, ReplyThread.holds, different] at held
          obtain ⟨_, acb, heap, isCall, _⟩ := live
          simp [same, heap, isCall]
      | idle => simp [thread, ReplyThread.holds] at held
      | stopped => simp [thread, ReplyThread.holds] at held
    · obtain ⟨reply, member, same⟩ := List.countP_pos_iff.mp answered
      obtain ⟨holder, lookup, acb, active, _⟩ := inv.replies reply member
      obtain rfl := own lookup active (acb.trans (by simpa using same))
      exact List.mem_append_right _ (List.mem_append_left _
        (List.mem_map_of_mem (f := fun reply => reply.call) member))
  · obtain ⟨request, member, same⟩ := List.countP_pos_iff.mp asked
    obtain ⟨answered, same⟩ := Bool.and_eq_true_iff.mp same
    obtain ⟨holder, lookup, _, _, names⟩ := inv.requests request member
    obtain ⟨acb, active⟩ := names answered
    obtain rfl := own lookup active (acb.trans (by simpa using same))
    exact List.mem_append_right _ (List.mem_append_right _ (List.mem_map.mpr
      ⟨request, List.mem_filter.mpr ⟨member, answered⟩, rfl⟩))

/-- What is in line is outstanding. -/
theorem Inv.line_outstanding (inv : state.Inv volume) {call : Nat} (member : call ∈ state.line) :
    ∃ coroutine, state.client.coroutines call = some coroutine ∧
      coroutine.pc.isOutstanding = true := by
  simp only [line, List.mem_append] at member
  rcases member with inThread | replied | asked
  · unfold AsyncClient.inThread at inThread
    cases thread : state.client.replyThread with
    | hand other reply =>
        obtain ⟨coroutine, found, _, outstanding, _⟩ := inv.hand other reply thread
        obtain rfl : call = other := by simpa [thread] using inThread
        exact ⟨coroutine, found, outstanding⟩
    | finishing address ret =>
        have present : 0 < state.places address := by
          simp only [places, thread, ReplyThread.holds, if_true]
          omega
        obtain ⟨acb, coroutine, heap, _, found, _, outstanding⟩ := inv.owner present
        obtain rfl : call = acb.coroutine := by simpa [thread, heap] using inThread
        exact ⟨coroutine, found, outstanding⟩
    | idle => simp [thread] at inThread
    | stopped => simp [thread] at inThread
  · obtain ⟨reply, member, rfl⟩ := List.mem_map.mp replied
    obtain ⟨coroutine, found, _, outstanding, _⟩ := inv.replies reply member
    exact ⟨coroutine, found, outstanding⟩
  · obtain ⟨request, member, rfl⟩ := List.mem_map.mp asked
    obtain ⟨member, answered⟩ := List.mem_filter.mp member
    obtain ⟨coroutine, found, _, _, names⟩ := inv.requests request member
    exact ⟨coroutine, found, (names answered).2⟩

/-- The line gets no new calls, and no read or flush is completed. -/
theorem InOrder.keep (inOrder : state.InOrder) (line : after.line = state.line)
    (completed : ∀ call coroutine, after.client.coroutines call = some coroutine →
      coroutine.call.isWrite = false → coroutine.call.aligned = true →
      after.client.Completed coroutine →
      ∃ old, state.client.coroutines call = some old ∧ old.call = coroutine.call ∧
        state.client.Completed old) : after.InOrder where
  sorted := by
    rw [line]
    exact inOrder.sorted
  behind := by
    intro call coroutine found reads aligned done
    obtain ⟨old, before, same, done⟩ := completed call coroutine found reads aligned done
    rw [line]
    exact inOrder.behind call old before (by rw [same, reads]) (by rw [same, aligned]) done

/-- Only one coroutine moves, and it is not completed by it. -/
theorem InOrder.advance (inOrder : state.InOrder) {call : Nat} {old new : Coroutine}
    (found : state.client.coroutines call = some old)
    (table : after.client.coroutines = Function.update state.client.coroutines call (some new))
    (bhs : ∀ acb ∈ after.client.bhs, acb ∈ state.client.bhs) (line : after.line = state.line)
    (same : old.call = new.call)
    (completed : new.call.isWrite = false → after.client.Completed new →
      state.client.Completed old) : after.InOrder := by
  refine inOrder.keep line ?_
  intro other coroutine lookup reads aligned done
  rw [table] at lookup
  by_cases own : other = call
  · subst own
    obtain rfl : new = coroutine := by simpa using lookup
    exact ⟨old, found, same, completed reads done⟩
  · rw [Function.update_of_ne own] at lookup
    refine ⟨coroutine, lookup, rfl, ?_⟩
    rcases done with (⟨outstanding, scheduled⟩ | entered) | returned
    · exact Or.inl (Or.inl ⟨outstanding, bhs _ scheduled⟩)
    · exact Or.inl (Or.inr entered)
    · exact Or.inr returned

/-- A new coroutine has not been completed, or is one that the alignment check has refused. -/
theorem InOrder.newCall (inOrder : state.InOrder) {new : Coroutine}
    (table : after.client.coroutines =
      Function.update state.client.coroutines state.client.next (some new))
    (bhs : after.client.bhs = state.client.bhs) (line : after.line = state.line)
    (open' : new.call.aligned = true → ¬after.client.Completed new) : after.InOrder := by
  refine inOrder.keep line ?_
  intro other coroutine lookup reads aligned done
  rw [table] at lookup
  by_cases own : other = state.client.next
  · subst own
    obtain rfl : new = coroutine := by simpa using lookup
    exact (open' aligned done).elim
  · rw [Function.update_of_ne own] at lookup
    refine ⟨coroutine, lookup, rfl, ?_⟩
    unfold AsyncClient.Completed Final at done ⊢
    rwa [bhs] at done

/-- A heap update leaves the reply thread with the call that it had. -/
theorem inThread_update {client after : AsyncClient} {address : UInt64} {acb : Option Acb}
    (heap : after.heap = Function.update client.heap address acb)
    (thread : after.replyThread = client.replyThread)
    (kept : ∀ ret, client.replyThread = .finishing address ret →
      acb.map (fun acb => acb.coroutine) = (client.heap address).map fun acb => acb.coroutine) :
    after.inThread = client.inThread := by
  unfold AsyncClient.inThread
  rw [thread, heap]
  cases held : client.replyThread with
  | hand call reply => rfl
  | finishing other ret =>
      by_cases same : other = address
      · subst same
        simp [kept ret held]
      · simp [same]
  | idle => rfl
  | stopped => rfl

theorem Inv.not_finishing (inv : state.Inv volume) {address : UInt64}
    (free : state.client.heap address = none) (ret : Int32) :
    state.client.replyThread ≠ .finishing address ret := by
  intro held
  have present : 0 < state.places address := by
    simp only [places, held, ReplyThread.holds, if_true]
    omega
  obtain ⟨acb, _, heap, _⟩ := inv.owner present
  simp [free] at heap

theorem InOrder.refuse {what : CoCall} {address : UInt64} {fresh : Acb} (inOrder : state.InOrder)
    (inv : state.Inv volume) (free : state.client.heap address = none)
    (misaligned : what.aligned = false) :
    ({ state with client := state.client.refuse what address fresh } : PrivateState Client).InOrder := by
  refine inOrder.newCall rfl rfl ?_ ?_
  · have thread : (state.client.refuse what address fresh).inThread = state.client.inThread :=
      inThread_update rfl rfl fun ret held => (inv.not_finishing free ret held).elim
    rw [line, thread, line]
  · intro aligned
    exact absurd aligned (by simpa [AsyncClient.newCoroutine] using misaligned)

theorem InOrder.enter {what : CoCall} {address : UInt64} {acb : Acb} {request : Request}
    {shared : SharedMemClient} (inOrder : state.InOrder) (inv : state.Inv volume)
    (free : state.client.heap address = none) :
    ({ state with client := state.client.enterSend what address acb (some (request, shared)) } :
      PrivateState Client).InOrder := by
  refine inOrder.newCall rfl rfl ?_ ?_
  · have thread : (state.client.enterSend what address acb (some (request, shared))).inThread =
        state.client.inThread :=
      inThread_update rfl rfl fun ret held => (inv.not_finishing free ret held).elim
    rw [line, thread, line]
  · intro _ done
    simp [AsyncClient.Completed, Final, AsyncClient.newCoroutine, CoPc.isOutstanding,
      CoPc.isReturned] at done

/-- The latest call joins the line at its end, unless it is a write. -/
theorem InOrder.send {call : Nat} {what : CoCall} {data : Bytes} {acb : UInt64} {request : Request}
    (inOrder : state.InOrder) (inv : state.Inv volume)
    (found : state.client.coroutines call = some ⟨what, data, acb, .sending request⟩)
    (asks : what.Asks data volume acb request) :
    (⟨state.client.setCoroutine call
        ⟨what, data, acb, if what.isWrite = true then .callback else .yielding⟩,
      { state.service with requests := state.service.requests ++ [⟨self, call, request⟩] }⟩ :
        PrivateState Client).InOrder := by
  cases write : what.isWrite with
  | true =>
      refine inOrder.advance found rfl (fun _ member => member) ?_ rfl fun reads => ?_
      · have silent : request.answered = false := by rw [asks.answered, write]; rfl
        simp [line, AsyncClient.inThread, AsyncClient.setCoroutine, Service.replyCalls,
          Service.answeredCalls, silent]
      · exact absurd write (by simpa using reads)
  | false =>
      have waits : request.answered = true := by rw [asks.answered, write]; rfl
      have latest := inv.last call _ request found rfl
      have before {other : Nat} {coroutine : Coroutine}
          (lookup : state.client.coroutines other = some coroutine) (different : other ≠ call) :
          other < call := by
        have known := (inv.known other).mp (by simp [lookup])
        omega
      have ahead {other : Nat} (member : other ∈ state.line) : other < call := by
        obtain ⟨coroutine, lookup, outstanding⟩ := inv.line_outstanding member
        refine before lookup ?_
        rintro rfl
        obtain rfl := Option.some.inj (found.symm.trans lookup)
        simp [CoPc.isOutstanding] at outstanding
      have grown : (⟨state.client.setCoroutine call ⟨what, data, acb, .yielding⟩,
          { state.service with requests := state.service.requests ++ [⟨self, call, request⟩] }⟩ :
            PrivateState Client).line = state.line ++ [call] := by
        simp [line, AsyncClient.inThread, AsyncClient.setCoroutine, Service.replyCalls,
          Service.answeredCalls, waits]
      refine ⟨?_, ?_⟩
      · rw [if_neg (by simp), grown]
        refine List.pairwise_append.mpr ⟨inOrder.sorted, List.pairwise_singleton _ _, ?_⟩
        intro other member last own
        obtain rfl := List.mem_singleton.mp own
        exact ahead member
      · rw [if_neg (by simp), grown]
        intro other coroutine lookup reads aligned done last member
        have table : Function.update state.client.coroutines call
          (some ⟨what, data, acb, .yielding⟩) other = some coroutine := lookup
        have notCall : other ≠ call := by
          rintro rfl
          obtain rfl : (⟨what, data, acb, .yielding⟩ : Coroutine) = coroutine := by
            simpa using table
          have unscheduled := (inv.not_copied found rfl rfl).1
          have scheduled : acb ∈ state.client.bhs := by
            simpa [AsyncClient.Completed, Final, CoPc.isOutstanding, CoPc.isReturned] using done
          exact unscheduled scheduled
        rw [Function.update_of_ne notCall] at table
        rcases List.mem_append.mp member with old | own
        · exact inOrder.behind other coroutine table reads aligned done last old
        · obtain rfl := List.mem_singleton.mp own
          exact before table notCall

theorem InOrder.callback {call : Nat} {what : CoCall} {data : Bytes} {address : UInt64} {acb : Acb}
    (inOrder : state.InOrder) (inv : state.Inv volume)
    (found : state.client.coroutines call = some ⟨what, data, address, .callback⟩)
    (write : what.isWrite = true) (live : state.client.heap address = some acb) :
    ({ state with client :=
      ((state.client.finishAio address 0 { acb with ret := acb.size.toInt64 }).setCoroutine call
        ⟨what, data, address, .yielding⟩) } : PrivateState Client).InOrder := by
  refine inOrder.keep ?_ ?_
  · have thread : ((state.client.finishAio address 0
        { acb with ret := acb.size.toInt64 }).setCoroutine call
          ⟨what, data, address, .yielding⟩).inThread = state.client.inThread := by
      refine inThread_update rfl rfl fun ret _ => ?_
      simp only [live, Option.map_some, (cvbdFinishAio_fields 0 _).1]
    rw [line, thread, line]
  · intro other coroutine lookup reads aligned done
    have table : Function.update state.client.coroutines call
      (some ⟨what, data, address, .yielding⟩) other = some coroutine := lookup
    by_cases own : other = call
    · subst own
      obtain rfl : (⟨what, data, address, .yielding⟩ : Coroutine) = coroutine := by
        simpa using table
      exact absurd write (by simpa using reads)
    · rw [Function.update_of_ne own] at table
      refine ⟨coroutine, table, rfl, ?_⟩
      rcases done with (⟨outstanding, scheduled⟩ | entered) | returned
      · -- The write's control block is not that of an outstanding call.
        have different : coroutine.acb ≠ address := fun same =>
          inv.unowned found rfl rfl other ⟨coroutine, table, same, outstanding⟩
        have scheduled : coroutine.acb ∈ state.client.bhs ++ [address] := scheduled
        exact Or.inl (Or.inl ⟨outstanding, by simpa [different] using scheduled⟩)
      · exact Or.inl (Or.inr entered)
      · exact Or.inr returned

theorem InOrder.yield {call : Nat} {what : CoCall} {data : Bytes} {acb : UInt64}
    (inOrder : state.InOrder)
    (found : state.client.coroutines call = some ⟨what, data, acb, .yielding⟩) :
    ({ state with client :=
      { state.client.setCoroutine call (⟨what, data, acb, .yielded⟩ : Coroutine) with
        current := none } } : PrivateState Client).InOrder := by
  refine inOrder.advance found rfl (fun _ member => member) rfl rfl fun _ done => ?_
  have scheduled : acb ∈ state.client.bhs := by
    simpa [AsyncClient.Completed, Final, CoPc.isOutstanding, CoPc.isReturned] using done
  exact Or.inl (Or.inl ⟨rfl, scheduled⟩)

theorem InOrder.bottomHalf {address : UInt64} {what : CoCall} {data : Bytes} {acb : Acb}
    (inOrder : state.InOrder) (scheduled : address ∈ state.client.bhs)
    (live : state.client.heap address = some acb)
    (found : state.client.coroutines acb.coroutine = some ⟨what, data, address, .yielded⟩) :
    ({ state with client :=
      { (state.client.setAcb address (some { acb with bh := false })).setCoroutine acb.coroutine
          (⟨what, data, address, .entered⟩ : Coroutine) with
        bhs := state.client.bhs.erase address
        current := some acb.coroutine } } : PrivateState Client).InOrder := by
  refine inOrder.advance found rfl (fun _ member => List.mem_of_mem_erase member) ?_ rfl
    fun _ _ => Or.inl (Or.inl ⟨rfl, scheduled⟩)
  have thread : ({ (state.client.setAcb address (some { acb with bh := false })).setCoroutine
      acb.coroutine (⟨what, data, address, .entered⟩ : Coroutine) with
        bhs := state.client.bhs.erase address
        current := some acb.coroutine } : AsyncClient).inThread = state.client.inThread :=
    inThread_update rfl rfl fun _ _ => by simp [live]
  rw [line, thread, line]

theorem InOrder.resume {call : Nat} {what : CoCall} {data : Bytes} {address : UInt64} {ret : Int32}
    (inOrder : state.InOrder) (inv : state.Inv volume)
    (found : state.client.coroutines call = some ⟨what, data, address, .entered⟩) :
    ({ state with client :=
      { (state.client.setAcb address none).setCoroutine call
          (⟨what, data, address, .returned ret⟩ : Coroutine) with
        current := none } } : PrivateState Client).InOrder := by
  refine inOrder.advance found rfl (fun _ member => member) ?_ rfl fun _ _ => Or.inl (Or.inr rfl)
  have thread : ({ (state.client.setAcb address none).setCoroutine call
      (⟨what, data, address, .returned ret⟩ : Coroutine) with
        current := none } : AsyncClient).inThread = state.client.inThread :=
    inThread_update rfl rfl fun ret held => ((inv.not_copied found rfl rfl).2 ret held).elim
  rw [line, thread, line]

theorem InOrder.receive {reply : Envelope Client Reply} {rest : List (Envelope Client Reply)}
    (inOrder : state.InOrder) (idle : state.client.replyThread = .idle)
    (queue : state.service.replies = reply :: rest) :
    (⟨{ state.client with replyThread := .hand reply.call reply.body },
      { state.service with replies := rest }⟩ : PrivateState Client).InOrder := by
  refine inOrder.keep ?_ fun call coroutine found _ _ done => ⟨coroutine, found, rfl, done⟩
  simp [line, AsyncClient.inThread, Service.replyCalls, Service.answeredCalls, idle, queue]

/-- A reply is copied for the call that its control block is filled in for. -/
theorem InOrder.copy {call : Nat} {reply : Reply} {memory : Bytes} {old new : Acb} {ret : Int32}
    (inOrder : state.InOrder) (inv : state.Inv volume)
    (held : state.client.replyThread = .hand call reply)
    (live : state.client.heap reply.header.acb = some old) (same : new.coroutine = old.coroutine) :
    ({ state with client := { state.client.setAcb reply.header.acb (some new) with
        memory
        replyThread := .finishing reply.header.acb ret } } : PrivateState Client).InOrder := by
  refine inOrder.keep ?_ fun other coroutine found _ _ done => ⟨coroutine, found, rfl, done⟩
  obtain ⟨coroutine, found, own, outstanding, _⟩ := inv.hand call reply held
  obtain ⟨_, acb, heap, isCall, _⟩ := inv.live_outstanding found outstanding
  rw [own, live] at heap
  obtain rfl := Option.some.inj heap
  simp [line, AsyncClient.inThread, held, AsyncClient.setAcb, same, isCall]

/-- The first call in line is completed. -/
theorem InOrder.finish {address : UInt64} {ret : Int32} {acb : Acb} {coroutine : Coroutine}
    (inOrder : state.InOrder) (inv : state.Inv volume)
    (held : state.client.replyThread = .finishing address ret)
    (live : state.client.heap address = some acb)
    (found : state.client.coroutines acb.coroutine = some coroutine)
    (own : coroutine.acb = address) (outstanding : coroutine.pc.isOutstanding = true) :
    ({ state with client :=
      { state.client.finishAio address ret acb with replyThread := .idle } } :
        PrivateState Client).InOrder := by
  have first : state.line = acb.coroutine ::
      (state.service.replyCalls ++ state.service.answeredCalls) := by
    simp [line, AsyncClient.inThread, held, live]
  have sorted := inOrder.sorted
  rw [first, List.pairwise_cons] at sorted
  refine ⟨sorted.2, ?_⟩
  intro call other lookup reads aligned done last member
  have member : last ∈ state.service.replyCalls ++ state.service.answeredCalls := member
  have before (was : state.client.Completed other) : call < last :=
    inOrder.behind call other lookup reads aligned was last
      (by rw [first]; exact List.mem_cons_of_mem _ member)
  rcases done with (⟨active, scheduled⟩ | entered) | returned
  · have scheduled : other.acb ∈ state.client.bhs ++ [address] := scheduled
    by_cases isFirst : other.acb = address
    · have same : call = acb.coroutine := by
        by_contra different
        exact (inv.live_outstanding found outstanding).acb_ne (inv.live_outstanding lookup active)
          different (isFirst.trans own.symm)
      rw [same]
      exact sorted.1 last member
    · exact before (Or.inl (Or.inl ⟨active, by simpa [isFirst] using scheduled⟩))
  · exact before (Or.inl (Or.inr entered))
  · exact before (Or.inr returned)

/-- The reply to the oldest request takes its place in the line. -/
theorem InOrder.serve {request : Envelope Client Request} {rest : List (Envelope Client Request)}
    {kernel : Kernel} {service : Service Client} (inOrder : state.InOrder) (inv : state.Inv volume)
    (queue : state.service.requests = request :: rest)
    (served : state.service.serve kernel = some service) :
    ({ state with service } : PrivateState Client).InOrder := by
  refine inOrder.keep ?_ fun call coroutine found _ _ done => ⟨coroutine, found, rfl, done⟩
  obtain ⟨coroutine, _, _, asks, _⟩ := inv.requests request (by simp [queue])
  have answered := asks.answered
  have serves := asks.serves queue served
  show state.client.inThread ++ _ = state.client.inThread ++ _
  congr 1
  generalize coroutine.call = what at answered serves
  cases serves with
  | read body type passed =>
      have answered : request.body.answered = true := answered
      simp [Service.replyCalls, Service.answeredCalls, Service.answered, queue, answered]
  | flush body type made =>
      have answered : request.body.answered = true := answered
      simp [Service.replyCalls, Service.answeredCalls, Service.answered, queue, answered]
  | write body passed =>
      have answered : request.body.answered = false := answered
      simp [Service.replyCalls, Service.answeredCalls, Service.stored, queue, answered]
  | abort transfers => rfl

theorem InOrder.step {label : PrivateLabel} {events : List CallEvent} (inOrder : state.InOrder)
    (inv : state.Inv volume) (effect : Effect self volume state label after events) :
    after.InOrder := by
  cases effect with
  | abort large => exact { inOrder with }
  | refuse idle free misaligned => exact inOrder.refuse inv free misaligned
  | enter idle nonzero free accepted volume_eq asks filled => exact inOrder.enter inv free
  | send executing found asks => exact inOrder.send inv found asks
  | callback executing found write live => exact inOrder.callback inv found write live
  | yield executing found => exact inOrder.yield found
  | bottomHalf idle scheduled live found => exact inOrder.bottomHalf scheduled live found
  | resume executing found live => exact inOrder.resume inv found
  | receive idle queue => exact inOrder.receive idle queue
  | copyRead held found outstanding size live copied => exact inOrder.copy inv held live rfl
  | @copyFsync call data pc acb reply held found outstanding live =>
      exact inOrder.copy inv held live rfl
  | finish held live found own outstanding => exact inOrder.finish inv held live found own outstanding
  | guest => exact { inOrder with }
  | serve alive queue served => exact inOrder.serve inv queue served
  | crash => exact { inOrder with }

theorem InOrder.start (fresh : state.client.Fresh volume) (requests : state.service.requests = [])
    (replies : state.service.replies = []) : state.InOrder := by
  have empty : state.line = [] := by
    simp [line, AsyncClient.inThread, fresh.replyThread, Service.replyCalls, Service.answeredCalls,
      requests, replies]
  refine ⟨by simp [empty], ?_⟩
  intro call coroutine found
  simp [fresh.coroutines] at found

end PrivateState

namespace AsyncState

variable {Index Client : Type} [DecidableEq Index] [DecidableEq Client]
variable {endpoints : Client → Endpoint Index} {initial state : AsyncState Index Client}
variable {trace : List (Event Client)}

/-- Reads and flushes of a client are completed in the order in which they were called: when one of
them has been, so have all before it. -/
theorem Started.completesInOrder (started : initial.Started endpoints)
    (run : (machine endpoints).Run Valid initial trace state) (client : Client)
    {earlier later : Nat} {first last : Coroutine}
    (foundFirst : (state.clients client).coroutines earlier = some first)
    (foundLast : (state.clients client).coroutines later = some last) (older : earlier < later)
    (firstReads : first.call.isWrite = false) (lastReads : last.call.isWrite = false)
    (aligned : last.call.aligned = true) (done : (state.clients client).Completed last) :
    (state.clients client).Completed first := by
  obtain ⟨_, privateRun⟩ := started.inv.run (fun _ _ permitted => permitted) run client
    PrivateState.Valid fun _ _ _ _ _ _ valid => valid
  have start := PrivateState.Tied.start client (started.clients client) (started.requests client)
    (started.replies client)
  obtain ⟨inv, inOrder⟩ := privateRun.invariant
    (fun _ current => current.Inv (endpoints client).volume ∧ current.InOrder)
    ⟨start.inv, .start (started.clients client) (started.requests client) (started.replies client)⟩
    fun _ _ _ _ _ held valid stepped =>
      have effect := held.1.effect valid stepped
      ⟨held.1.step effect, held.2.step held.1 effect⟩
  by_contra waits
  have outstanding : first.pc.isOutstanding = true := by
    cases pc : first.pc with
    | sending request =>
        have latest := inv.last earlier first request foundFirst pc
        have known := (inv.known later).mp (by simp [AsyncState.view, foundLast])
        omega
    | callback =>
        have write := inv.callbacks earlier first foundFirst pc
        simp [firstReads] at write
    | yielding => rfl
    | yielded => rfl
    | entered => exact (waits (Or.inl (Or.inr pc))).elim
    | returned ret => exact (waits (Or.inr (by simp [pc, CoPc.isReturned]))).elim
  have unscheduled : first.acb ∉ (state.clients client).bhs := fun scheduled =>
    waits (Or.inl (Or.inl ⟨outstanding, scheduled⟩))
  have member := inv.in_line foundFirst outstanding unscheduled
  have overtaken := inOrder.behind later last foundLast lastReads aligned done earlier member
  omega

/-- A read behind a flush is entered first; the flush's bottom half is scheduled by then. -/
def sampleOvertaking : List (AsyncLabel Unit Unit) :=
  let kernel := Kernel.transfer (File.filled 8192 1) 4096 4096
  let call (what : CoCall) (address : UInt64) : List (AsyncLabel Unit Unit) :=
    [.client () (.inside (.call what address ⟨0, 0, 0, none, false, false⟩)), .client () .send,
      .client () (.inside .yield)]
  let serve : List (AsyncLabel Unit Unit) :=
    [.server (.receive ()), .server (.handle () kernel), .server (.send ()), .client () .receive,
      .client () (.inside .copy), .client () (.inside .finish)]
  call .flush 64 ++ call (.readv 8 8 [⟨5000, 4096⟩]) 72 ++ serve ++ serve ++
    [.client () (.inside (.bottomHalf 72))]

def sampleOvertaken (state : AsyncState Unit Unit) : Bool :=
  match (state.clients ()).coroutines 0, (state.clients ()).coroutines 1 with
  | some ⟨.flush, _, 64, .yielded⟩, some ⟨.readv 8 8 _, _, _, .entered⟩ => true
  | _, _ => false

theorem sample_completesInOrder :
    ∃ trace state, (machine fun _ => .sample).Run Valid sample trace state ∧
      state.sampleOvertaken = true ∧ 64 ∈ (state.clients ()).bhs := by
  obtain ⟨trace, state, run, passes⟩ := sample_run sampleOvertaking sampleOvertaken
    (by decide +kernel)
  have valid := run.mono Valid fun _ _ permitted => permitted.1
  have overtaken := passes
  simp only [sampleOvertaken] at passes
  split at passes
  · rename_i flush read
    refine ⟨trace, state, valid, overtaken, ?_⟩
    have completed := sample_started.completesInOrder valid () flush read (by decide) rfl rfl rfl
      (Or.inl (Or.inr rfl))
    simpa [AsyncClient.Completed, PrivateState.Final, CoPc.isOutstanding, CoPc.isReturned]
      using completed
  · simp at passes

end AsyncState

end Cvbd
