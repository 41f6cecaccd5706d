import Cvbd.AsyncServe
import Cvbd.AsyncSteps

/-!
Every step of a client's private system keeps `PrivateState.Inv`: control blocks
of unfinished calls stay live and in exactly one place, and each message in
flight belongs to the call whose address it carries.
-/

namespace Cvbd

variable {Client : Type}

/-! Lookups in an updated coroutine table. -/

theorem forall_update (property : Nat → Coroutine → Prop) {table : Nat → Option Coroutine}
    {call : Nat} {coroutine : Coroutine}
    (others : ∀ other found, other ≠ call → table other = some found → property other found)
    (here : property call coroutine) :
    ∀ other found, Function.update table call (some coroutine) other = some found →
      property other found := by
  intro other found lookup
  by_cases same : other = call
  · subst same
    obtain rfl : coroutine = found := by simpa using lookup
    exact here
  · exact others other found same (by simpa [same] using lookup)

theorem isSome_update {table : Nat → Option Coroutine} {call : Nat} {coroutine old : Coroutine}
    (found : table call = some old) (other : Nat) :
    (Function.update table call (some coroutine) other).isSome = (table other).isSome := by
  by_cases same : other = call
  · subst same
    simp [found]
  · simp [same]

namespace AsyncClient

variable {client after : AsyncClient}

theorem Live.acb_ne {call other : Nat} {coroutine found : Coroutine}
    (live : client.Live call coroutine) (liveOther : client.Live other found)
    (different : other ≠ call) : found.acb ≠ coroutine.acb := by
  obtain ⟨_, acb, lookup, owner, _⟩ := live
  obtain ⟨_, acbOther, lookupOther, ownerOther, _⟩ := liveOther
  intro same
  rw [same, lookup] at lookupOther
  obtain rfl := Option.some.inj lookupOther
  exact different (ownerOther.symm.trans owner)

/-- An access that leaves the identifying fields of a block alone keeps every block live. -/
theorem Live.of_heap {k : Nat} {coroutine : Coroutine}
    (live : client.Live k coroutine) {target : UInt64} {old new : Acb}
    (lookup : client.heap target = some old)
    (heap : after.heap = Function.update client.heap target (some new))
    (same : new.coroutine = old.coroutine ∧ new.qiov = old.qiov ∧ new.size = old.size ∧
      new.callback = old.callback) : after.Live k coroutine := by
  obtain ⟨nonzero, acb, found, owner, qiov, size, callback⟩ := live
  refine ⟨nonzero, ?_⟩
  by_cases here : coroutine.acb = target
  · rw [here, lookup] at found
    obtain rfl := Option.some.inj found
    refine ⟨new, by rw [heap, here, Function.update_self], ?_⟩
    rw [same.1, same.2.1, same.2.2.1, same.2.2.2]
    exact ⟨owner, qiov, size, callback⟩
  · exact ⟨acb, by rw [heap, Function.update_of_ne here]; exact found, owner, qiov, size, callback⟩

theorem Live.of_other {k : Nat} {coroutine : Coroutine} (live : client.Live k coroutine)
    {target : UInt64} {new : Option Acb}
    (heap : after.heap = Function.update client.heap target new)
    (other : coroutine.acb ≠ target) : after.Live k coroutine := by
  obtain ⟨nonzero, acb, found, rest⟩ := live
  exact ⟨nonzero, acb, by rw [heap, Function.update_of_ne other]; exact found, rest⟩

theorem owns_update (client : AsyncClient) {call : Nat} (old : Coroutine) {pc : CoPc}
    (table : after.coroutines = Function.update client.coroutines call (some { old with pc }))
    (address : UInt64) (other : Nat) :
    after.Owns address other ↔
      if other = call then old.acb = address ∧ pc.isOutstanding = true
      else client.Owns address other := by
  unfold AsyncClient.Owns
  rw [table]
  by_cases same : other = call
  · subst same
    simp
  · simp [same]

theorem Awaits.of_update {call : Nat} {old new : Coroutine} {k : Nat} {reply : Reply}
    (awaits : client.Awaits k reply)
    (table : after.coroutines = Function.update client.coroutines call (some new))
    (found : client.coroutines call = some old)
    (kept : k = call → old.acb = reply.header.acb → old.pc.isOutstanding = true →
      new.call = old.call ∧ new.acb = old.acb ∧ new.pc.isOutstanding = true) :
    after.Awaits k reply := by
  obtain ⟨coroutine, lookup, own, outstanding, expects⟩ := awaits
  by_cases same : k = call
  · subst same
    rw [found] at lookup
    obtain rfl := Option.some.inj lookup
    obtain ⟨call_eq, acb_eq, still⟩ := kept rfl own outstanding
    exact ⟨new, by rw [table, Function.update_self], by rw [acb_eq, own], still,
      by rw [call_eq]; exact expects⟩
  · exact ⟨coroutine, by rw [table, Function.update_of_ne same]; exact lookup, own, outstanding,
      expects⟩

theorem Asked.of_update {volume : UInt64} {call : Nat} {old new : Coroutine}
    {request : Envelope Client Request} (asked : client.Asked volume request)
    (table : after.coroutines = Function.update client.coroutines call (some new))
    (found : client.coroutines call = some old)
    (same_call : new.call = old.call) (same_data : new.data = old.data)
    (kept : request.call = call → request.body.answered = true →
      old.acb = request.body.header.acb → old.pc.isOutstanding = true →
      new.acb = old.acb ∧ new.pc.isOutstanding = true) :
    after.Asked volume request := by
  obtain ⟨coroutine, lookup, accepted, asks, answered⟩ := asked
  by_cases same : request.call = call
  · rw [same, found] at lookup
    obtain rfl := Option.some.inj lookup
    refine ⟨new, by rw [table, same, Function.update_self], by rw [same_call]; exact accepted,
      by rw [same_call, same_data]; exact asks, ?_⟩
    intro answers
    obtain ⟨own, outstanding⟩ := answered answers
    obtain ⟨acb_eq, still⟩ := kept same answers own outstanding
    exact ⟨by rw [acb_eq, own], still⟩
  · exact ⟨coroutine, by rw [table, Function.update_of_ne same]; exact lookup, accepted, asks, answered⟩

/-! A call that is not outstanding is awaited by nobody. -/

theorem Awaits.of_passive {call : Nat} {old new : Coroutine} {k : Nat} {reply : Reply}
    (awaits : client.Awaits k reply)
    (table : after.coroutines = Function.update client.coroutines call (some new))
    (found : client.coroutines call = some old) (passive : old.pc.isOutstanding = false) :
    after.Awaits k reply := by
  refine awaits.of_update table found fun _ _ active => ?_
  simp [passive] at active

theorem Asked.of_passive {volume : UInt64} {call : Nat} {old new : Coroutine}
    {request : Envelope Client Request} (asked : client.Asked volume request)
    (table : after.coroutines = Function.update client.coroutines call (some new))
    (found : client.coroutines call = some old) (same_call : new.call = old.call)
    (same_data : new.data = old.data) (passive : old.pc.isOutstanding = false) :
    after.Asked volume request := by
  refine asked.of_update table found same_call same_data fun _ _ _ active => ?_
  simp [passive] at active

end AsyncClient

namespace PrivateState

variable {self : Client} {volume : UInt64} {state after : PrivateState Client}

theorem Inv.live_outstanding {call : Nat} {coroutine : Coroutine} (inv : state.Inv volume)
    (found : state.client.coroutines call = some coroutine)
    (outstanding : coroutine.pc.isOutstanding = true) : state.client.Live call coroutine := by
  refine inv.live call coroutine found ?_
  cases pc : coroutine.pc <;> simp_all [CoPc.isOutstanding, CoPc.isReturned]

theorem Inv.place {call : Nat} {coroutine : Coroutine} (inv : state.Inv volume)
    (found : state.client.coroutines call = some coroutine)
    (outstanding : coroutine.pc.isOutstanding = true) : state.places coroutine.acb = 1 :=
  inv.balanced.owned _ call ⟨coroutine, found, rfl, outstanding⟩

/-- The control block of a coroutine that is not yet outstanding is nobody else's. -/
theorem Inv.unowned {call : Nat} {coroutine : Coroutine} (inv : state.Inv volume)
    (found : state.client.coroutines call = some coroutine)
    (unfinished : coroutine.pc.isReturned = false)
    (notYet : coroutine.pc.isOutstanding = false) (other : Nat) :
    ¬state.client.Owns coroutine.acb other := by
  rintro ⟨active, lookup, own, outstanding⟩
  have live := inv.live call _ found unfinished
  have different : other ≠ call := by
    rintro rfl
    rw [found] at lookup
    obtain rfl := Option.some.inj lookup
    simp [notYet] at outstanding
  exact live.acb_ne (inv.live_outstanding lookup outstanding) different own

theorem Inv.place_none {call : Nat} {coroutine : Coroutine} (inv : state.Inv volume)
    (found : state.client.coroutines call = some coroutine)
    (unfinished : coroutine.pc.isReturned = false)
    (notYet : coroutine.pc.isOutstanding = false) : state.places coroutine.acb = 0 :=
  inv.balanced.free _ (inv.unowned found unfinished notYet)

theorem Inv.not_copied {call : Nat} {coroutine : Coroutine} (inv : state.Inv volume)
    (found : state.client.coroutines call = some coroutine)
    (unfinished : coroutine.pc.isReturned = false)
    (notYet : coroutine.pc.isOutstanding = false) :
    coroutine.acb ∉ state.client.bhs ∧
      ∀ ret, state.client.replyThread ≠ .finishing coroutine.acb ret := by
  have free := inv.place_none found unfinished notYet
  unfold places at free
  constructor
  · intro member
    have counted := List.count_pos_iff.mpr member
    omega
  · intro ret held
    simp only [held, ReplyThread.holds, if_true] at free
    omega

theorem Inv.not_scheduled {call : Nat} {coroutine : Coroutine} (inv : state.Inv volume)
    (found : state.client.coroutines call = some coroutine)
    (outstanding : coroutine.pc.isOutstanding = true)
    (held : state.client.replyThread.holds coroutine.acb = 1) :
    coroutine.acb ∉ state.client.bhs := by
  intro member
  have once := inv.place found outstanding
  have counted := List.count_pos_iff.mpr member
  unfold places at once
  omega

theorem Inv.keep (inv : state.Inv volume)
    (coroutines : after.client.coroutines = state.client.coroutines)
    (control : after.client.shared = state.client.shared ∧ after.client.next = state.client.next ∧
      after.client.current = state.client.current)
    (fault : after.client.fault = none ∨ after.client.fault = some .assertion)
    (live : ∀ call coroutine, state.client.Live call coroutine → after.client.Live call coroutine)
    (places : ∀ acb, after.places acb = state.places acb)
    (bhs : ∀ acb, acb ∈ state.client.bhs → acb ∈ after.client.bhs)
    (requests : ∀ request ∈ after.service.requests, request ∈ state.service.requests)
    (replies : ∀ reply ∈ after.service.replies, state.client.Awaits reply.call reply.body)
    (hand : ∀ call reply, after.client.replyThread = .hand call reply →
      state.client.Awaits call reply) : after.Inv volume where
  volume_eq := by rw [control.1, inv.volume_eq]
  fault := fault
  known := by rw [coroutines, control.2.1]; exact inv.known
  running := by rw [coroutines, control.2.2]; exact inv.running
  last := by rw [coroutines, control.2.1]; exact inv.last
  live := by
    rw [coroutines]
    exact fun call coroutine found unfinished => live _ _ (inv.live call coroutine found unfinished)
  accepted := by rw [coroutines]; exact inv.accepted
  sends := by rw [coroutines]; exact inv.sends
  callbacks := by rw [coroutines]; exact inv.callbacks
  balanced := inv.balanced.move places fun acb call => by
    unfold AsyncClient.Owns
    rw [coroutines]
  writes := by
    rw [coroutines]
    exact fun call coroutine found outstanding write =>
      bhs _ (inv.writes call coroutine found outstanding write)
  requests := by
    intro request member
    unfold AsyncClient.Asked
    rw [coroutines]
    exact inv.requests request (requests request member)
  replies := by
    intro reply member
    unfold AsyncClient.Awaits
    rw [coroutines]
    exact replies reply member
  hand := by
    intro call reply held
    unfold AsyncClient.Awaits
    rw [coroutines]
    exact hand call reply held

theorem Inv.advance {call : Nat} {old : Coroutine} {pc : CoPc} (inv : state.Inv volume)
    (found : state.client.coroutines call = some old)
    (table : after.client.coroutines =
      Function.update state.client.coroutines call (some { old with pc }))
    (control : after.client.shared = state.client.shared ∧ after.client.next = state.client.next ∧
      after.client.fault = state.client.fault)
    (notSending : ∀ request, pc ≠ .sending request)
    (callback : pc = .callback → old.call.isWrite = true)
    (running : pc.isRunning = true ↔ after.client.current = some call)
    (alone : ∀ other, other ≠ call →
      (after.client.current = some other ↔ state.client.current = some other))
    (others : ∀ other coroutine, other ≠ call →
      state.client.coroutines other = some coroutine → coroutine.pc.isReturned = false →
      after.client.Live other coroutine)
    (own : pc.isReturned = false → after.client.Live call { old with pc })
    (balanced : Balanced after.places after.client.Owns)
    (bhs : ∀ acb, acb ≠ old.acb → acb ∈ state.client.bhs → acb ∈ after.client.bhs)
    (scheduled : pc.isOutstanding = true → old.call.isWrite = true → old.acb ∈ after.client.bhs)
    (requests : ∀ request ∈ after.service.requests, after.client.Asked volume request)
    (replies : ∀ reply ∈ after.service.replies, after.client.Awaits reply.call reply.body)
    (hand : ∀ other reply, after.client.replyThread = .hand other reply →
      after.client.Awaits other reply)
    (unfinished : old.pc.isReturned = false) : after.Inv volume where
  volume_eq := by rw [control.1, inv.volume_eq]
  fault := by rw [control.2.2]; exact inv.fault
  known := by
    intro other
    rw [table, isSome_update found, control.2.1]
    exact inv.known other
  running := by
    rw [table]
    refine forall_update _ ?_ running
    intro other coroutine different lookup
    rw [alone other different]
    exact inv.running other coroutine lookup
  last := by
    rw [table, control.2.1]
    intro other coroutine request
    refine forall_update (fun other coroutine =>
      coroutine.pc = .sending request → other + 1 = state.client.next) ?_ ?_ other coroutine
    · intro other coroutine _ lookup
      exact inv.last other coroutine request lookup
    · intro sending
      exact (notSending request sending).elim
  live := by
    rw [table]
    exact forall_update _ others own
  accepted := by
    rw [table]
    refine forall_update _ ?_ fun _ => inv.accepted call old found unfinished
    exact fun other coroutine _ lookup => inv.accepted other coroutine lookup
  sends := by
    rw [table]
    intro other coroutine request
    refine forall_update (fun _ coroutine => coroutine.pc = .sending request →
      coroutine.call.Asks coroutine.data volume coroutine.acb request) ?_ ?_ other coroutine
    · intro other coroutine _ lookup
      exact inv.sends other coroutine request lookup
    · intro sending
      exact (notSending request sending).elim
  callbacks := by
    rw [table]
    refine forall_update _ ?_ callback
    exact fun other coroutine _ lookup => inv.callbacks other coroutine lookup
  balanced := balanced
  writes := by
    rw [table]
    refine forall_update _ ?_ scheduled
    intro other coroutine different lookup outstanding write
    have live := inv.live_outstanding lookup outstanding
    have apart := AsyncClient.Live.acb_ne (inv.live call old found unfinished) live different
    exact bhs _ apart (inv.writes other coroutine lookup outstanding write)
  requests := requests
  replies := replies
  hand := hand

theorem Inv.unknown (inv : state.Inv volume) : state.client.coroutines state.client.next = none := by
  have unknown := inv.known state.client.next
  simpa using unknown

theorem Inv.newCall {acb : Acb} (inv : state.Inv volume) (new : Coroutine)
    (idle : state.client.current = none) (free : state.client.heap new.acb = none)
    (service : after.service = state.service)
    (table : after.client.coroutines =
      Function.update state.client.coroutines state.client.next (some new))
    (heap : after.client.heap = Function.update state.client.heap new.acb (some acb))
    (next : after.client.next = state.client.next + 1)
    (volume_eq : after.client.shared.volume = volume)
    (fault : after.client.fault = state.client.fault)
    (sameThreads : after.client.replyThread = state.client.replyThread ∧
      after.client.bhs = state.client.bhs)
    (notOutstanding : new.pc.isOutstanding = false) (notCallback : new.pc ≠ .callback)
    (running : new.pc.isRunning = true ↔ after.client.current = some state.client.next)
    (alone : ∀ other, other ≠ state.client.next → after.client.current ≠ some other)
    (live : new.pc.isReturned = false → after.client.Live state.client.next new)
    (accepted : new.pc.isReturned = false → new.call.Accepted)
    (sends : ∀ request, new.pc = .sending request →
      new.call.Asks new.data volume new.acb request) : after.Inv volume := by
  have unknown := inv.unknown
  have places (acb : UInt64) : after.places acb = state.places acb := by
    unfold places
    rw [service, sameThreads.1, sameThreads.2]
  have notNext {other : Nat} {coroutine : Coroutine}
      (lookup : state.client.coroutines other = some coroutine) : other ≠ state.client.next := by
    rintro rfl
    simp [unknown] at lookup
  have keptLookup {other : Nat} {coroutine : Coroutine}
      (lookup : state.client.coroutines other = some coroutine) :
      after.client.coroutines other = some coroutine := by
    rw [table, Function.update_of_ne (notNext lookup)]
    exact lookup
  have awaits {call : Nat} {reply : Reply} (old : state.client.Awaits call reply) :
      after.client.Awaits call reply := by
    obtain ⟨coroutine, lookup, rest⟩ := old
    exact ⟨coroutine, keptLookup lookup, rest⟩
  refine {
    volume_eq, fault := by rw [fault]; exact inv.fault, known := ?_, running := ?_, last := ?_
    live := ?_, accepted := ?_, sends := ?_, callbacks := ?_, balanced := ?_, writes := ?_
    requests := ?_, replies := ?_, hand := ?_ }
  · intro other
    rw [table, next]
    by_cases same : other = state.client.next
    · subst same
      simp
    · rw [Function.update_of_ne same, inv.known other]
      omega
  · rw [table]
    refine forall_update _ ?_ running
    intro other coroutine different lookup
    have old := inv.running other coroutine lookup
    simp only [idle, reduceCtorEq, iff_false] at old
    simp [old, alone other different]
  · rw [table, next]
    intro other coroutine request
    refine forall_update (fun other coroutine =>
      coroutine.pc = .sending request → other + 1 = state.client.next + 1) ?_ (fun _ => rfl)
      other coroutine
    intro other coroutine _ lookup sending
    -- No coroutine was sending while the event loop was idle.
    have old := inv.running other coroutine lookup
    simp [sending, CoPc.isRunning, idle] at old
  · rw [table]
    refine forall_update _ ?_ live
    intro other coroutine _ lookup unfinished
    have old := inv.live other coroutine lookup unfinished
    refine old.of_other heap ?_
    obtain ⟨_, block, found, _⟩ := old
    intro same
    rw [same, free] at found
    simp at found
  · rw [table]
    refine forall_update _ ?_ accepted
    exact fun other coroutine _ lookup => inv.accepted other coroutine lookup
  · rw [table]
    intro other coroutine request
    refine forall_update (fun _ coroutine => coroutine.pc = .sending request →
      coroutine.call.Asks coroutine.data volume coroutine.acb request) ?_ (sends request)
      other coroutine
    exact fun other coroutine _ lookup => inv.sends other coroutine request lookup
  · rw [table]
    refine forall_update _ ?_ fun callback => (notCallback callback).elim
    exact fun other coroutine _ lookup => inv.callbacks other coroutine lookup
  · refine inv.balanced.move places fun acb call => ?_
    unfold AsyncClient.Owns
    rw [table]
    by_cases same : call = state.client.next
    · subst same
      simp [unknown, notOutstanding]
    · simp [same]
  · rw [table, sameThreads.2]
    refine forall_update _ ?_ (by simp [notOutstanding])
    exact fun other coroutine _ lookup => inv.writes other coroutine lookup
  · intro request member
    rw [service] at member
    obtain ⟨coroutine, lookup, rest⟩ := inv.requests request member
    exact ⟨coroutine, keptLookup lookup, rest⟩
  · intro reply member
    rw [service] at member
    exact awaits (inv.replies reply member)
  · intro call reply held
    rw [sameThreads.1] at held
    exact awaits (inv.hand call reply held)

/-! Each shape of step keeps the invariant. -/

theorem Inv.abort (inv : state.Inv volume) :
    ({ state with client := { state.client with fault := some .assertion } } :
      PrivateState Client).Inv volume :=
  { inv with fault := Or.inr rfl }

theorem Inv.refuse {what : CoCall} {address : UInt64} {fresh : Acb} (inv : state.Inv volume)
    (idle : state.client.current = none) (free : state.client.heap address = none) :
    ({ state with client := state.client.refuse what address fresh } :
      PrivateState Client).Inv volume := by
  refine inv.newCall (state.client.newCoroutine what address (.returned einval.negative))
    idle free rfl rfl rfl rfl inv.volume_eq rfl ⟨rfl, rfl⟩ rfl (by simp [AsyncClient.newCoroutine])
    ?_ ?_ ?_ ?_ ?_
  · simp [AsyncClient.newCoroutine, CoPc.isRunning, AsyncClient.refuse, idle]
  · simp [AsyncClient.refuse, idle]
  · simp [AsyncClient.newCoroutine, CoPc.isReturned]
  · simp [AsyncClient.newCoroutine, CoPc.isReturned]
  · simp [AsyncClient.newCoroutine]

theorem Inv.enter {what : CoCall} {address : UInt64} {acb : Acb} {request : Request}
    {shared : SharedMemClient} (inv : state.Inv volume) (idle : state.client.current = none)
    (nonzero : address ≠ 0) (free : state.client.heap address = none) (accepted : what.Accepted)
    (volume_eq : shared.volume = volume)
    (asks : what.Asks (what.data state.client.memory state.client.oldData) volume address request)
    (filled : acb.coroutine = state.client.next ∧ acb.qiov = what.qiov ∧ acb.size = what.size ∧
      acb.callback = true) :
    ({ state with client := state.client.enterSend what address acb (some (request, shared)) } :
      PrivateState Client).Inv volume := by
  refine inv.newCall (state.client.newCoroutine what address (.sending request))
    idle free rfl rfl rfl rfl volume_eq rfl ⟨rfl, rfl⟩ rfl (by simp [AsyncClient.newCoroutine])
    ?_ ?_ ?_ (fun _ => accepted) ?_
  · simp [AsyncClient.newCoroutine, CoPc.isRunning, AsyncClient.enterSend]
  · intro other different
    simp [AsyncClient.enterSend, Ne.symm different]
  · intro _
    exact ⟨nonzero, acb, by simp [AsyncClient.enterSend, AsyncClient.newCoroutine], filled⟩
  · rintro sent ⟨⟩
    exact asks

/-- The request joins the queue; a read or flush is outstanding from then on. -/
theorem Inv.send {call : Nat} {what : CoCall} {data : Bytes} {acb : UInt64} {request : Request}
    (inv : state.Inv volume) (executing : state.client.current = some call)
    (found : state.client.coroutines call = some ⟨what, data, acb, .sending request⟩)
    (asks : what.Asks data volume acb request) :
    (⟨state.client.setCoroutine call
        ⟨what, data, acb, if what.isWrite = true then .callback else .yielding⟩,
      { state.service with requests := state.service.requests ++ [⟨self, call, request⟩] }⟩ :
      PrivateState Client).Inv volume := by
  have running : (if what.isWrite = true then CoPc.callback else CoPc.yielding).isRunning = true := by
    split <;> rfl
  have outstanding : (if what.isWrite = true then CoPc.callback else CoPc.yielding).isOutstanding =
      !what.isWrite := by
    cases what.isWrite <;> rfl
  have live := inv.live call _ found rfl
  refine inv.advance found rfl ⟨rfl, rfl, rfl⟩ ?_ ?_ ?_ (fun _ _ => Iff.rfl)
    (fun other coroutine _ lookup unfinished => inv.live other coroutine lookup unfinished)
    (fun _ => live) ?_ (fun _ _ member => member) ?_ ?_ ?_ ?_ rfl
  · intro sent
    split <;> simp
  · split
    · exact fun _ => ‹_›
    · simp
  · simp only [running, true_iff]
    exact executing
  · -- Only a message that will be answered adds a place.
    have header := asks.header.2
    have answered := asks.answered
    cases write : what.isWrite with
    | true =>
        refine inv.balanced.move (fun address => ?_) (fun address other => ?_)
        · simp [places, Service.asked, List.countP_append, answered, write]
        · rw [AsyncClient.owns_update state.client ⟨what, data, acb, .sending request⟩ rfl]
          by_cases same : other = call
          · subst same
            simp [AsyncClient.Owns, found, CoPc.isOutstanding]
          · simp [same]
    | false =>
        refine inv.balanced.issue acb call ?_ (fun address => ?_)
          (fun address other => ?_)
        · exact inv.unowned found rfl rfl
        · simp only [places, Service.asked, List.countP_append, List.countP_cons, List.countP_nil,
            answered, write, header, Bool.not_false, Bool.true_and, beq_iff_eq, Nat.zero_add,
            eq_comm (a := acb), AsyncClient.setCoroutine_replyThread,
            AsyncClient.setCoroutine_bhs]
          omega
        · rw [AsyncClient.owns_update state.client ⟨what, data, acb, .sending request⟩ rfl]
          by_cases same : other = call
          · subst same
            simp [AsyncClient.Owns, found, CoPc.isOutstanding, eq_comm (a := acb)]
          · simp [same]
  · intro active write
    simp only [outstanding] at active
    simp only [write] at active
    simp at active
  · intro queued member
    simp only [List.mem_append, List.mem_singleton] at member
    rcases member with old | rfl
    · exact (inv.requests queued old).of_passive rfl found rfl rfl rfl
    · have accepted : what.Accepted := inv.accepted call _ found rfl
      refine ⟨_, Function.update_self .., accepted, by rw [asks.header.2]; exact asks, ?_⟩
      intro answers
      rw [asks.answered] at answers
      exact ⟨asks.header.2.symm, by rw [outstanding]; exact answers⟩
  · exact fun reply member => (inv.replies reply member).of_passive rfl found rfl
  · exact fun other reply held => (inv.hand other reply held).of_passive rfl found rfl

theorem cvbdFinishAio_fields (ret : Int32) (acb : Acb) :
    (cvbdFinishAio ret acb).coroutine = acb.coroutine ∧ (cvbdFinishAio ret acb).qiov = acb.qiov ∧
      (cvbdFinishAio ret acb).size = acb.size ∧ (cvbdFinishAio ret acb).callback = acb.callback := by
  unfold cvbdFinishAio
  split
  · exact ⟨rfl, rfl, rfl, rfl⟩
  split <;> exact ⟨rfl, rfl, rfl, rfl⟩

/-- A write is completed as soon as its message is in the queue. -/
theorem Inv.callback {call : Nat} {what : CoCall} {data : Bytes} {address : UInt64} {acb : Acb}
    (inv : state.Inv volume) (executing : state.client.current = some call)
    (found : state.client.coroutines call = some ⟨what, data, address, .callback⟩)
    (heap : state.client.heap address = some acb) :
    ({ state with client :=
      ((state.client.finishAio address 0 { acb with ret := acb.size.toInt64 }).setCoroutine call
        ⟨what, data, address, .yielding⟩) } : PrivateState Client).Inv volume := by
  have live := inv.live call _ found rfl
  have same := cvbdFinishAio_fields 0 { acb with ret := acb.size.toInt64 }
  refine inv.advance found rfl ⟨rfl, rfl, rfl⟩ (by simp) (by simp) ?_ (fun _ _ => Iff.rfl)
    ?_ ?_ ?_ ?_ ?_ ?_ ?_ ?_ rfl
  · simp only [CoPc.isRunning, true_iff]
    exact executing
  · intro other coroutine _ lookup unfinished
    exact (inv.live other coroutine lookup unfinished).of_heap heap rfl same
  · exact fun _ => live.of_heap heap rfl same
  · refine inv.balanced.issue address call ?_ (fun acb => ?_)
      (fun acb other => ?_)
    · exact inv.unowned found rfl rfl
    · simp only [places, AsyncClient.finishAio, AsyncClient.setCoroutine_replyThread,
        AsyncClient.setAcb_replyThread, AsyncClient.setCoroutine_bhs, List.count_append,
        List.count_singleton, beq_iff_eq, eq_comm (a := address)]
      omega
    · rw [AsyncClient.owns_update state.client ⟨what, data, address, .callback⟩ rfl]
      by_cases same : other = call
      · subst same
        simp [AsyncClient.Owns, found, CoPc.isOutstanding, eq_comm (a := address)]
      · simp [same]
  · intro acb _ member
    simp [AsyncClient.finishAio, member]
  · intro _ _
    simp [AsyncClient.finishAio]
  · exact fun queued member => (inv.requests queued member).of_passive rfl found rfl rfl rfl
  · exact fun reply member => (inv.replies reply member).of_passive rfl found rfl
  · exact fun other reply held => (inv.hand other reply held).of_passive rfl found rfl

theorem Inv.yield {call : Nat} {what : CoCall} {data : Bytes} {acb : UInt64}
    (inv : state.Inv volume) (executing : state.client.current = some call)
    (found : state.client.coroutines call = some ⟨what, data, acb, .yielding⟩) :
    ({ state with client :=
      { state.client.setCoroutine call (⟨what, data, acb, .yielded⟩ : Coroutine) with
        current := none } } : PrivateState Client).Inv volume := by
  have live := inv.live call _ found rfl
  refine inv.advance found rfl ⟨rfl, rfl, rfl⟩ (by simp) (by simp) (by simp [CoPc.isRunning]) ?_
    (fun other coroutine _ lookup unfinished => inv.live other coroutine lookup unfinished)
    (fun _ => live) ?_ (fun _ _ member => member) (inv.writes call _ found) ?_ ?_ ?_ rfl
  · intro other different
    simp [executing, Ne.symm different]
  · refine inv.balanced.move (fun _ => rfl) (fun address other => ?_)
    rw [AsyncClient.owns_update state.client ⟨what, data, acb, .yielding⟩ rfl]
    by_cases same : other = call
    · subst same
      simp [AsyncClient.Owns, found, CoPc.isOutstanding]
    · simp [same]
  · intro queued member
    exact (inv.requests queued member).of_update rfl found rfl rfl fun _ _ _ _ => ⟨rfl, rfl⟩
  · intro reply member
    exact (inv.replies reply member).of_update rfl found fun _ _ _ => ⟨rfl, rfl, rfl⟩
  · intro other reply held
    exact (inv.hand other reply held).of_update rfl found fun _ _ _ => ⟨rfl, rfl, rfl⟩

/-- A control block with a scheduled bottom half is in no message. -/
theorem Inv.not_elsewhere {call : Nat} {coroutine : Coroutine} (inv : state.Inv volume)
    (found : state.client.coroutines call = some coroutine)
    (outstanding : coroutine.pc.isOutstanding = true)
    (scheduled : coroutine.acb ∈ state.client.bhs) :
    Service.asked state.service.requests coroutine.acb = 0 ∧
      Service.answers state.service.replies coroutine.acb = 0 ∧
      state.client.replyThread.holds coroutine.acb = 0 ∧
      state.client.bhs.count coroutine.acb = 1 := by
  have one := inv.place found outstanding
  have counted := List.count_pos_iff.mpr scheduled
  unfold places at one
  omega

theorem Inv.bottomHalf {address : UInt64} {what : CoCall} {data : Bytes} {acb : Acb}
    (inv : state.Inv volume) (idle : state.client.current = none)
    (scheduled : address ∈ state.client.bhs) (heap : state.client.heap address = some acb)
    (found : state.client.coroutines acb.coroutine = some ⟨what, data, address, .yielded⟩) :
    ({ state with client :=
      { (state.client.setAcb address (some { acb with bh := false })).setCoroutine acb.coroutine
          (⟨what, data, address, .entered⟩ : Coroutine) with
        bhs := state.client.bhs.erase address
        current := some acb.coroutine } } : PrivateState Client).Inv volume := by
  have live := inv.live acb.coroutine _ found rfl
  obtain ⟨notAsked, notAnswered, notHeld, once⟩ := inv.not_elsewhere found rfl scheduled
  refine inv.advance found rfl ⟨rfl, rfl, rfl⟩ (by simp) (by simp) (by simp [CoPc.isRunning]) ?_
    ?_ ?_ ?_ ?_ (by simp [CoPc.isOutstanding]) ?_ ?_ ?_ rfl
  · intro other different
    simp [idle, Ne.symm different]
  · intro other coroutine _ lookup unfinished
    exact (inv.live other coroutine lookup unfinished).of_heap heap rfl ⟨rfl, rfl, rfl, rfl⟩
  · exact fun _ => live.of_heap heap rfl ⟨rfl, rfl, rfl, rfl⟩
  · refine inv.balanced.redeem address acb.coroutine
      ⟨_, found, rfl, rfl⟩ ?_ (fun other => ?_) (fun other call => ?_)
    · rintro other ⟨coroutine, lookup, own, active⟩
      by_contra different
      exact live.acb_ne (inv.live_outstanding lookup active) different own
    · simp only [places, AsyncClient.setCoroutine_replyThread, AsyncClient.setAcb_replyThread,
        List.count_erase, beq_iff_eq]
      by_cases same : other = address
      · subst same
        simp only at once
        simp only [if_true]
        omega
      · simp [same, Ne.symm same]
    · rw [AsyncClient.owns_update state.client ⟨what, data, address, .yielded⟩ rfl]
      by_cases same : call = acb.coroutine
      · subst same
        simp [AsyncClient.Owns, found, CoPc.isOutstanding, eq_comm (a := address)]
      · simp [same]
  · intro other different member
    exact (List.mem_erase_of_ne different).mpr member
  · intro queued member
    refine (inv.requests queued member).of_update rfl found rfl rfl ?_
    intro _ answered own _
    have none := List.countP_eq_zero.mp notAsked queued member
    simp only [answered, Bool.true_and, beq_iff_eq] at none
    exact (none own.symm).elim
  · intro reply member
    refine (inv.replies reply member).of_update rfl found ?_
    intro _ own _
    have none := List.countP_eq_zero.mp notAnswered reply member
    simp only [beq_iff_eq] at none
    exact (none own.symm).elim
  · intro other reply held
    refine (inv.hand other reply held).of_update rfl found ?_
    intro _ own _
    simp only [AsyncClient.setCoroutine_replyThread, AsyncClient.setAcb_replyThread] at held
    simp only [held, ReplyThread.holds, own.symm, if_true, Nat.one_ne_zero] at notHeld

theorem Inv.resume {call : Nat} {what : CoCall} {data : Bytes} {address : UInt64} {ret : Int32}
    (inv : state.Inv volume) (executing : state.client.current = some call)
    (found : state.client.coroutines call = some ⟨what, data, address, .entered⟩) :
    ({ state with client :=
      { (state.client.setAcb address none).setCoroutine call
          (⟨what, data, address, .returned ret⟩ : Coroutine) with
        current := none } } : PrivateState Client).Inv volume := by
  have live := inv.live call _ found rfl
  refine inv.advance found rfl ⟨rfl, rfl, rfl⟩ (by simp) (by simp) (by simp [CoPc.isRunning]) ?_
    ?_ (by simp [CoPc.isReturned]) ?_ (fun _ _ member => member) (by simp [CoPc.isOutstanding])
    ?_ ?_ ?_ rfl
  · intro other different
    simp [executing, Ne.symm different]
  · intro other coroutine different lookup unfinished
    have liveOther := inv.live other coroutine lookup unfinished
    exact liveOther.of_other rfl (live.acb_ne liveOther different)
  · refine inv.balanced.move (fun _ => rfl) (fun other owner => ?_)
    rw [AsyncClient.owns_update state.client ⟨what, data, address, .entered⟩ rfl]
    by_cases same : owner = call
    · subst same
      simp [AsyncClient.Owns, found, CoPc.isOutstanding]
    · simp [same]
  · exact fun queued member => (inv.requests queued member).of_passive rfl found rfl rfl rfl
  · exact fun reply member => (inv.replies reply member).of_passive rfl found rfl
  · exact fun other reply held => (inv.hand other reply held).of_passive rfl found rfl

theorem Inv.receive {reply : Envelope Client Reply} {rest : List (Envelope Client Reply)}
    (inv : state.Inv volume) (idle : state.client.replyThread = .idle)
    (queue : state.service.replies = reply :: rest) :
    (⟨{ state.client with replyThread := .hand reply.call reply.body },
      { state.service with replies := rest }⟩ : PrivateState Client).Inv volume := by
  refine inv.keep rfl ⟨rfl, rfl, rfl⟩ inv.fault (fun _ _ live => live) (fun acb => ?_)
    (fun _ member => member) (fun _ member => member) ?_ ?_
  · simp only [places, queue, idle, Service.answers, List.countP_cons, ReplyThread.holds,
      beq_iff_eq]
    omega
  · intro other member
    exact inv.replies other (by rw [queue]; exact List.mem_cons_of_mem _ member)
  · rintro call other ⟨⟩
    exact inv.replies reply (by simp [queue])

theorem Inv.copy {call : Nat} {reply : Reply} {old new : Acb} {ret : Int32}
    (inv : state.Inv volume) (memory : Bytes) (held : state.client.replyThread = .hand call reply)
    (heap : state.client.heap reply.header.acb = some old)
    (same : new.coroutine = old.coroutine ∧ new.qiov = old.qiov ∧ new.size = old.size ∧
      new.callback = old.callback) :
    ({ state with client := { state.client.setAcb reply.header.acb (some new) with
      memory
      replyThread := .finishing reply.header.acb ret } } : PrivateState Client).Inv volume := by
  refine inv.keep rfl ⟨rfl, rfl, rfl⟩ inv.fault (fun _ _ live => live.of_heap heap rfl same)
    (fun acb => ?_) (fun _ member => member) (fun _ member => member) inv.replies (by simp)
  simp [places, held, ReplyThread.holds]

theorem Inv.finish {address : UInt64} {ret : Int32} {acb : Acb} (inv : state.Inv volume)
    (held : state.client.replyThread = .finishing address ret)
    (heap : state.client.heap address = some acb) :
    ({ state with client :=
      { state.client.finishAio address ret acb with replyThread := .idle } } :
      PrivateState Client).Inv volume := by
  refine inv.keep rfl ⟨rfl, rfl, rfl⟩ inv.fault
    (fun _ _ live => live.of_heap heap rfl (cvbdFinishAio_fields ret acb)) (fun acb => ?_) ?_
    (fun _ member => member) inv.replies (by simp)
  · simp only [places, held, ReplyThread.holds, AsyncClient.finishAio, List.count_append,
      List.count_singleton, beq_iff_eq]
    omega
  · intro acb member
    simp [AsyncClient.finishAio, member]

/-- The oldest request is answered with the reply its call expects. -/
theorem Inv.answered {request : Envelope Client Request} {rest : List (Envelope Client Request)}
    {reply : Reply} {coroutine : Coroutine} {file : VolumeFile} (inv : state.Inv volume)
    (queue : state.service.requests = request :: rest)
    (found : state.client.coroutines request.call = some coroutine)
    (own : coroutine.acb = request.body.header.acb) (outstanding : coroutine.pc.isOutstanding = true)
    (waits : request.body.answered = true) (header : reply.header = request.body.header)
    (expects : coroutine.call.Expects reply) :
    ({ state with service := { state.service.answered rest request reply with file } } :
      PrivateState Client).Inv volume := by
  refine inv.keep rfl ⟨rfl, rfl, rfl⟩ inv.fault (fun _ _ live => live) (fun acb => ?_)
    (fun _ member => member) ?_ ?_ inv.hand
  · simp only [places, Service.answered, queue, Service.asked, Service.answers,
      List.countP_append, List.countP_cons, List.countP_nil, waits, header, Bool.true_and]
    omega
  · intro queued member
    rw [queue]
    exact List.mem_cons_of_mem _ member
  · intro other member
    simp only [Service.answered, List.mem_append, List.mem_singleton] at member
    rcases member with old | rfl
    · exact inv.replies other old
    · exact ⟨coroutine, found, by rw [header]; exact own, outstanding, expects⟩

theorem Inv.serve {request : Envelope Client Request} {rest : List (Envelope Client Request)}
    {kernel : Kernel} {service : Service Client} (inv : state.Inv volume)
    (queue : state.service.requests = request :: rest)
    (served : state.service.serve kernel = some service) :
    ({ state with service } : PrivateState Client).Inv volume := by
  obtain ⟨⟨what, data, address, pc⟩, found, _, asks, answers⟩ := inv.requests request (by simp [queue])
  have answered := asks.answered
  have serves := asks.serves queue served
  simp only at serves answered
  cases serves with
  | read body type passed =>
      obtain ⟨own, outstanding⟩ := answers answered
      exact inv.answered queue found own outstanding answered (by rw [body]; rfl)
        ⟨type.1, type.2, rfl⟩
  | flush body type made =>
      obtain ⟨own, outstanding⟩ := answers answered
      exact inv.answered queue found own outstanding answered (by rw [body]; rfl) type
  | write body passed =>
      refine inv.keep rfl ⟨rfl, rfl, rfl⟩ inv.fault (fun _ _ live => live) (fun acb => ?_)
        (fun _ member => member) (fun queued member => ?_) inv.replies inv.hand
      · simp [places, Service.stored, queue, Service.asked, answered, CoCall.isWrite]
      · rw [queue]
        exact List.mem_cons_of_mem _ member
  | abort transfers => exact { inv with }

theorem Inv.step {label : PrivateLabel} {events : List CallEvent} (inv : state.Inv volume)
    (effect : Effect self volume state label after events) : after.Inv volume := by
  cases effect with
  | abort large => exact inv.abort
  | refuse idle free misaligned => exact inv.refuse idle free
  | enter idle nonzero free accepted volume_eq asks filled =>
      exact inv.enter idle nonzero free accepted volume_eq asks filled
  | send executing found asks => exact inv.send executing found asks
  | callback executing found write live => exact inv.callback executing found live
  | yield executing found => exact inv.yield executing found
  | bottomHalf idle scheduled live found => exact inv.bottomHalf idle scheduled live found
  | resume executing found live => exact inv.resume executing found
  | receive idle queue => exact inv.receive idle queue
  | copyRead held found outstanding size live copied =>
      exact inv.copy _ held live ⟨rfl, rfl, rfl, rfl⟩
  | copyFsync held found outstanding live =>
      rename_i acb reply
      exact inv.copy state.client.memory held live ⟨rfl, rfl, rfl, rfl⟩
  | finish held live found own outstanding => exact inv.finish held live
  | guest => exact { inv with }
  | serve alive queue served => exact inv.serve queue served
  | crash => exact { inv with }

end PrivateState

end Cvbd
