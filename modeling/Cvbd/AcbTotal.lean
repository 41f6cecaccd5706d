import Cvbd.AcbCore
import Cvbd.AsyncSteps

/-!
The balance of the control blocks over whole runs. A step is followed on a view
of the client that keeps the live blocks and, for every call, its block and
whether it has returned.
-/

namespace Cvbd

structure AcbCall where
  what : CoCall
  acb : UInt64
  returned : Bool

structure AcbView where
  live : UInt64 → Bool
  calls : Nat → Option AcbCall
  next : Nat

def AsyncClient.acbView (client : AsyncClient) : AcbView where
  live := client.liveAcbs
  calls := fun call => (client.coroutines call).map fun coroutine =>
    ⟨coroutine.call, coroutine.acb, coroutine.pc.isReturned⟩
  next := client.next

namespace AcbView

variable {view after : AcbView} {trace events : List AcbEvent}

/-- A new call holds the block at the address. -/
def enter (view : AcbView) (what : CoCall) (address : UInt64) (returned : Bool) : AcbView where
  live := Function.update view.live address true
  calls := Function.update view.calls view.next (some ⟨what, address, returned⟩)
  next := view.next + 1

def free (view : AcbView) (call : Nat) (what : CoCall) (address : UInt64) : AcbView where
  live := Function.update view.live address false
  calls := Function.update view.calls call (some ⟨what, address, true⟩)
  next := view.next

/-- What a step can do to the control blocks. -/
inductive Move (view : AcbView) : List AcbEvent → AcbView → Prop
  | silent : Move view [] view
  | entered {what address} (unused : view.live address = false) (aligned : what.aligned = true) :
      Move view [] (view.enter what address false)
  | refused {what address} (unused : view.live address = false) (aligned : what.aligned = false) :
      Move view [.rejected view.live (view.enter what address true).live]
        (view.enter what address true)
  | freed {call what address} (found : view.calls call = some ⟨what, address, false⟩)
      (live : view.live address = true) :
      Move view [.freed call address] (view.free call what address)

end AcbView

/-- The call keeps its block: it has not returned, or it has been refused. -/
def AcbCall.holds (entry : AcbCall) : Bool := !entry.returned || !entry.what.aligned

/-- What has been freed for the call. -/
def AcbCall.freed (call : Nat) (entry : AcbCall) : List AcbEvent :=
  if entry.holds then [] else [.freed call entry.acb]

namespace AcbView

variable {view after : AcbView} {trace events : List AcbEvent}

structure Inv (view : AcbView) (trace : List AcbEvent) : Prop where
  known : ∀ call, view.next ≤ call → view.calls call = none
  live : ∀ address, view.live address = true ↔ ∃ call entry,
    view.calls call = some entry ∧ entry.acb = address ∧ entry.holds = true
  apart : ∀ call other entry found, view.calls call = some entry → view.calls other = some found →
    entry.holds = true → found.holds = true → entry.acb = found.acb → call = other
  refused : ∀ call entry, view.calls call = some entry → entry.what.aligned = false →
    entry.returned = true
  freed : ∀ call, trace.filter (AcbEvent.frees call) =
    (view.calls call).elim [] (AcbCall.freed call)
  rejected : ∀ before after, .rejected before after ∈ trace → ∃ call entry,
    view.calls call = some entry ∧ entry.what.aligned = false

/-- A new call keeps its block, which nobody held. -/
theorem Inv.enter (inv : view.Inv trace) {what : CoCall} {address : UInt64} {returned : Bool}
    (unused : view.live address = false) (holds : (AcbCall.mk what address returned).holds = true)
    (refused : what.aligned = false → returned = true)
    (quiet : ∀ call, events.filter (AcbEvent.frees call) = [])
    (rejected : ∀ before after, .rejected before after ∈ events → what.aligned = false) :
    (view.enter what address returned).Inv (trace ++ events) := by
  have fresh : view.calls view.next = none := inv.known view.next (Nat.le_refl _)
  have unheld (call : Nat) (entry : AcbCall) (found : view.calls call = some entry)
      (held : entry.holds = true) : entry.acb ≠ address := by
    intro same
    have live := (inv.live address).mpr ⟨call, entry, found, same, held⟩
    simp [unused] at live
  have lookup (call : Nat) (entry : AcbCall)
      (found : (view.enter what address returned).calls call = some entry) :
      call = view.next ∧ entry = ⟨what, address, returned⟩ ∨
        call ≠ view.next ∧ view.calls call = some entry := by
    by_cases same : call = view.next
    · subst same
      exact Or.inl ⟨rfl, by simpa [AcbView.enter, eq_comm] using found⟩
    · exact Or.inr ⟨same, by simpa [AcbView.enter, same] using found⟩
  have kept (call : Nat) (entry : AcbCall) (found : view.calls call = some entry) :
      (view.enter what address returned).calls call = some entry := by
    have different : call ≠ view.next := by
      rintro rfl
      simp [fresh] at found
    simpa [AcbView.enter, different] using found
  have newest : (view.enter what address returned).calls view.next =
      some ⟨what, address, returned⟩ := by
    simp [AcbView.enter]
  refine ⟨?_, ?_, ?_, ?_, ?_, ?_⟩
  · intro call beyond
    have later : view.next + 1 ≤ call := beyond
    have different : call ≠ view.next := by omega
    simpa [AcbView.enter, different] using inv.known call (by omega)
  · intro other
    by_cases same : other = address
    · subst same
      simp only [AcbView.enter, Function.update_self, true_iff]
      exact ⟨view.next, _, newest, rfl, holds⟩
    · simp only [AcbView.enter, Function.update_of_ne same, inv.live]
      constructor
      · rintro ⟨call, entry, found, own, held⟩
        exact ⟨call, entry, kept call entry found, own, held⟩
      · rintro ⟨call, entry, found, own, held⟩
        rcases lookup call entry found with ⟨_, rfl⟩ | ⟨_, old⟩
        · exact (same own.symm).elim
        · exact ⟨call, entry, old, own, held⟩
  · intro call other entry found first second heldFirst heldSecond equal
    rcases lookup call entry first with ⟨rfl, rfl⟩ | ⟨_, oldFirst⟩
    · rcases lookup other found second with ⟨rfl, _⟩ | ⟨_, oldSecond⟩
      · rfl
      · exact (unheld other found oldSecond heldSecond equal.symm).elim
    · rcases lookup other found second with ⟨rfl, rfl⟩ | ⟨_, oldSecond⟩
      · exact (unheld call entry oldFirst heldFirst equal).elim
      · exact inv.apart call other entry found oldFirst oldSecond heldFirst heldSecond equal
  · intro call entry found misaligned
    rcases lookup call entry found with ⟨_, rfl⟩ | ⟨_, old⟩
    · exact refused misaligned
    · exact inv.refused call entry old misaligned
  · intro call
    rw [List.filter_append, quiet, List.append_nil, inv.freed]
    by_cases same : call = view.next
    · subst same
      rw [fresh, newest]
      simp [AcbCall.freed, holds]
    · simp [AcbView.enter, same]
  · intro before after member
    rcases List.mem_append.mp member with old | new
    · obtain ⟨call, entry, found, misaligned⟩ := inv.rejected before after old
      exact ⟨call, entry, kept call entry found, misaligned⟩
    · exact ⟨view.next, _, newest, rejected before after new⟩

/-- A call returns and frees the block that it alone held. -/
theorem Inv.free (inv : view.Inv trace) {call : Nat} {what : CoCall} {address : UInt64}
    (found : view.calls call = some ⟨what, address, false⟩) :
    (view.free call what address).Inv (trace ++ [.freed call address]) := by
  have aligned : what.aligned = true := by
    by_contra misaligned
    have returned := inv.refused call _ found (by simpa using misaligned)
    simp at returned
  have held : (AcbCall.mk what address false).holds = true := rfl
  have released : (AcbCall.mk what address true).holds = false := by
    simp [AcbCall.holds, aligned]
  have lookup (other : Nat) (entry : AcbCall)
      (lookedUp : (view.free call what address).calls other = some entry)
      (keeps : entry.holds = true) : other ≠ call ∧ view.calls other = some entry := by
    by_cases same : other = call
    · subst same
      obtain rfl : (⟨what, address, true⟩ : AcbCall) = entry := by
        simpa [AcbView.free] using lookedUp
      simp [released] at keeps
    · exact ⟨same, by simpa [AcbView.free, same] using lookedUp⟩
  have kept (other : Nat) (different : other ≠ call) :
      (view.free call what address).calls other = view.calls other := by
    simp [AcbView.free, different]
  refine ⟨?_, ?_, ?_, ?_, ?_, ?_⟩
  · intro other beyond
    have known : other ≠ call := by
      rintro rfl
      simp [inv.known other beyond] at found
    rw [kept other known]
    exact inv.known other beyond
  · intro other
    by_cases same : other = address
    · subst same
      simp only [AcbView.free, Function.update_self, Bool.false_eq_true, false_iff]
      rintro ⟨another, entry, lookedUp, own, keeps⟩
      obtain ⟨different, old⟩ := lookup another entry lookedUp keeps
      exact different (inv.apart another call entry _ old found keeps held own)
    · simp only [AcbView.free, Function.update_of_ne same, inv.live]
      constructor
      · rintro ⟨another, entry, old, own, keeps⟩
        have different : another ≠ call := by
          rintro rfl
          rw [found] at old
          obtain rfl := Option.some.inj old
          exact same own.symm
        exact ⟨another, entry, (kept another different).trans old, own, keeps⟩
      · rintro ⟨another, entry, lookedUp, own, keeps⟩
        obtain ⟨_, old⟩ := lookup another entry lookedUp keeps
        exact ⟨another, entry, old, own, keeps⟩
  · intro first second entry other lookedFirst lookedSecond heldFirst heldSecond equal
    exact inv.apart first second entry other (lookup first entry lookedFirst heldFirst).2
      (lookup second other lookedSecond heldSecond).2 heldFirst heldSecond equal
  · intro other entry lookedUp misaligned
    by_cases same : other = call
    · subst same
      obtain rfl : (⟨what, address, true⟩ : AcbCall) = entry := by
        simpa [AcbView.free] using lookedUp
      rfl
    · exact inv.refused other entry ((kept other same).symm.trans lookedUp) misaligned
  · intro other
    rw [List.filter_append, inv.freed]
    by_cases same : other = call
    · subst same
      simp [found, AcbView.free, AcbCall.freed, held, released, AcbEvent.frees]
    · rw [kept other same]
      simp [AcbEvent.frees, Ne.symm same]
  · intro before after member
    have old : .rejected before after ∈ trace := by simpa using member
    obtain ⟨other, entry, lookedUp, misaligned⟩ := inv.rejected before after old
    by_cases same : other = call
    · subst same
      rw [found] at lookedUp
      obtain rfl := Option.some.inj lookedUp
      simp [aligned] at misaligned
    · exact ⟨other, entry, (kept other same).trans lookedUp, misaligned⟩

theorem Inv.move (inv : view.Inv trace) (move : view.Move events after) :
    after.Inv (trace ++ events) := by
  cases move with
  | silent =>
      rw [List.append_nil]
      exact inv
  | entered unused aligned =>
      exact inv.enter unused (by simp [AcbCall.holds]) (by simp [aligned]) (by simp) (by simp)
  | refused unused misaligned =>
      exact inv.enter unused (by simp [AcbCall.holds, misaligned]) (fun _ => rfl)
        (by simp [AcbEvent.frees]) fun _ _ _ => misaligned
  | freed found live => exact inv.free found

theorem Move.of_eq (same : after = view) : view.Move [] after := by
  rw [same]
  exact .silent

end AcbView

/-! The steps of a client are such moves. -/

namespace AsyncClient

variable {client after : AsyncClient}

theorem acbView_setAcb {address : UInt64} {old new : Acb} (lookup : client.heap address = some old) :
    (client.setAcb address (some new)).acbView = client.acbView := by
  have live : (client.setAcb address (some new)).liveAcbs = client.liveAcbs := by
    funext other
    by_cases same : other = address
    · subst same
      simp [liveAcbs, setAcb, lookup]
    · simp [liveAcbs, setAcb, same]
  simp only [acbView, live, setAcb_coroutines]
  rfl

theorem acbView_setCoroutine {call : Nat} {what : CoCall} {data other : Bytes} {acb : UInt64}
    {pc next : CoPc} (found : client.coroutines call = some ⟨what, data, acb, pc⟩)
    (same : next.isReturned = pc.isReturned) :
    (client.setCoroutine call ⟨what, other, acb, next⟩).acbView = client.acbView := by
  simp only [acbView, setCoroutine, AcbView.mk.injEq, and_true]
  refine ⟨rfl, ?_⟩
  funext place
  by_cases here : place = call
  · subst here
    simp [found, same]
  · simp [here]

theorem acbView_finishAio {address : UInt64} {ret : Int32} {old new : Acb}
    (lookup : client.heap address = some old) :
    (client.finishAio address ret new).acbView = client.acbView := by
  show (client.setAcb address (some (cvbdFinishAio ret new))).acbView = client.acbView
  exact acbView_setAcb lookup

theorem writeCallback_acbView {call : Nat} {what : CoCall} {data : Bytes} {acb : UInt64}
    (found : client.coroutines call = some ⟨what, data, acb, .callback⟩) :
    (client.writeCallback call ⟨what, data, acb, .callback⟩).acbView = client.acbView := by
  unfold writeCallback
  split
  · rfl
  · rename_i block lookup
    split
    · have found' : (client.finishAio acb 0 { block with ret := block.size.toInt64 }).coroutines
          call = some ⟨what, data, acb, .callback⟩ := found
      refine Eq.trans (acbView_setCoroutine found' ?_) (acbView_finishAio lookup)
      rfl
    · rfl

theorem completeAio_acbView (address : UInt64) :
    (client.completeAio address).1.acbView = client.acbView := by
  unfold completeAio
  split
  · rfl
  · rename_i acb lookup
    split
    · rename_i what data own found
      show ((client.setAcb address (some { acb with bh := false })).setCoroutine acb.coroutine
        ⟨what, data, own, .entered⟩).acbView = client.acbView
      have found' : (client.setAcb address (some { acb with bh := false })).coroutines
          acb.coroutine = some ⟨what, data, own, .yielded⟩ := found
      refine Eq.trans (acbView_setCoroutine found' ?_) (acbView_setAcb lookup)
      rfl
    · rfl

theorem handleCoReply_acbView (reply : Reply) :
    (client.handleCoReply reply).acbView = client.acbView := by
  unfold handleCoReply
  dsimp only
  split
  · rfl
  · split
    · split
      · rfl
      · split
        · rfl
        · rename_i acb lookup
          split
          · rfl
          · split
            · rfl
            · exact acbView_setAcb lookup
    · split
      · rfl
      · split
        · rfl
        · rename_i acb lookup
          exact acbView_setAcb lookup
    · rfl
    · rfl
    · rfl

theorem finish_acbView (address : UInt64) (ret : Int32) :
    (client.finish address ret).acbView = client.acbView := by
  unfold AsyncClient.finish
  split
  · rfl
  · rename_i acb lookup
    split
    · exact acbView_finishAio lookup
    · rfl

theorem acbView_new {what : CoCall} {address : UInt64} {acb : Acb} {pc : CoPc} {returned : Bool}
    (heap : after.heap = Function.update client.heap address (some acb))
    (table : after.coroutines = Function.update client.coroutines client.next
      (some (client.newCoroutine what address pc))) (next : after.next = client.next + 1)
    (place : pc.isReturned = returned) :
    after.acbView = client.acbView.enter what address returned := by
  simp only [acbView, AcbView.enter, AcbView.mk.injEq]
  refine ⟨?_, ?_, next⟩
  · funext other
    by_cases same : other = address
    · simp [liveAcbs, heap, same]
    · simp [liveAcbs, heap, same]
  · funext call
    by_cases same : call = client.next
    · simp [table, same, newCoroutine, place]
    · simp [table, same]

/-- A call that gets as far as its send, or is aborted by an assert on its size. -/
theorem enterSend_move {what : CoCall} {address : UInt64} {acb : Acb}
    (free : client.heap address = none) (aligned : what.aligned = true)
    (posted : Option (Request × SharedMemClient)) :
    client.acbView.Move [] (client.enterSend what address acb posted).acbView := by
  cases posted with
  | none => exact .silent
  | some sent =>
      have entered : (client.enterSend what address acb (some sent)).acbView =
          client.acbView.enter what address false :=
        acbView_new rfl rfl rfl rfl
      rw [entered]
      exact .entered (by simp [acbView, liveAcbs, free]) aligned

theorem refuse_move {what : CoCall} {address : UInt64} {fresh : Acb}
    (free : client.heap address = none) (misaligned : what.aligned = false) :
    client.acbView.Move [.rejected client.liveAcbs (client.refuse what address fresh).liveAcbs]
      (client.refuse what address fresh).acbView := by
  have refused : (client.refuse what address fresh).acbView =
      client.acbView.enter what address true :=
    acbView_new rfl rfl rfl rfl
  have live : (client.refuse what address fresh).liveAcbs =
      (client.acbView.enter what address true).live := by
    rw [← refused]
    rfl
  rw [refused, live]
  exact .refused (by simp [acbView, liveAcbs, free]) misaligned

theorem cvbdCoRw_move {address : UInt64} {fresh : Acb} {write : Bool} {sectorNum : Int64}
    {nbSectors : Int32} {qiov : Qiov} {what : CoCall} (free : client.heap address = none)
    (what_eq : what = if write then .writev sectorNum nbSectors qiov
      else .readv sectorNum nbSectors qiov)
    (aligned_eq : what.aligned = isRequestAligned sectorNum nbSectors)
    (moved : after = (client.cvbdCoRw address fresh write sectorNum nbSectors qiov).1) :
    client.acbView.Move (client.acbEvents after (.call what address fresh)) after.acbView := by
  subst moved
  simp only [acbEvents, aligned_eq, cvbdCoRw, ← what_eq]
  cases aligned : isRequestAligned sectorNum nbSectors with
  | true =>
      simp only [if_true]
      exact enterSend_move free (aligned_eq.trans aligned) _
  | false =>
      simp only [Bool.false_eq_true, if_false]
      exact refuse_move free (aligned_eq.trans aligned)

theorem enter_move {what : CoCall} {address : UInt64} {fresh : Acb}
    (free : client.heap address = none) :
    client.acbView.Move
      (client.acbEvents (client.enter address fresh what).1 (.call what address fresh))
      (client.enter address fresh what).1.acbView := by
  cases what with
  | readv sectorNum nbSectors qiov => exact cvbdCoRw_move free rfl rfl rfl
  | writev sectorNum nbSectors qiov => exact cvbdCoRw_move free rfl rfl rfl
  | flush =>
      have aligned : CoCall.flush.aligned = true := rfl
      simp only [acbEvents, aligned, if_true, enter, cvbdCoFlushToDisk]
      exact enterSend_move free aligned _

theorem resume_move {call : Nat} {what : CoCall} {data : Bytes} {acb : UInt64}
    (running : client.running = some (call, ⟨what, data, acb, .entered⟩))
    (moved : after = (client.resume call ⟨what, data, acb, .entered⟩).1) :
    client.acbView.Move (client.acbEvents after .resume) after.acbView := by
  subst moved
  obtain ⟨_, found⟩ := running_eq_some running
  cases lookup : client.heap acb with
  | none =>
      have dead : (client.resume call ⟨what, data, acb, .entered⟩).1 =
          { client with fault := some .deadAcb } := by
        simp [AsyncClient.resume, lookup]
      simp only [acbEvents, running, liveAcbs, lookup, dead]
      exact .silent
  | some block =>
      have returned : (client.resume call ⟨what, data, acb, .entered⟩).1.acbView =
          client.acbView.free call what acb := by
        simp only [AsyncClient.resume, lookup, acbView, AcbView.free, setCoroutine, setAcb,
          AcbView.mk.injEq, and_true]
        constructor
        · funext other
          by_cases same : other = acb
          · simp [liveAcbs, same]
          · simp [liveAcbs, same]
        · funext place
          by_cases same : place = call
          · simp [same, CoPc.isReturned]
          · simp [same]
      simp only [acbEvents, running, liveAcbs, lookup, Option.isSome_some, if_true, returned]
      exact .freed (by simp [acbView, found, CoPc.isReturned])
        (by simp [acbView, liveAcbs, lookup])

theorem localStep_move {label : LocalLabel} {events : List CallEvent}
    (allocates : ∀ what address fresh, label = .call what address fresh →
      client.heap address = none)
    (stepped : client.localStep label = some (after, events)) :
    client.acbView.Move (client.acbEvents after label) after.acbView := by
  cases localStep_cases stepped with
  | @call what address fresh idle => exact enter_move (allocates what address fresh rfl)
  | flushSendFails running =>
      refine AcbView.Move.of_eq (acbView_setCoroutine (running_eq_some running).2 ?_)
      rfl
  | sendFails notFlush running => exact AcbView.Move.of_eq rfl
  | callback running =>
      exact AcbView.Move.of_eq (writeCallback_acbView (running_eq_some running).2)
  | @yield call what data acb running =>
      refine AcbView.Move.of_eq ?_
      show (client.setCoroutine call ⟨what, data, acb, .yielded⟩).acbView = client.acbView
      refine acbView_setCoroutine (running_eq_some running).2 ?_
      rfl
  | bottomHalf idle scheduled => exact AcbView.Move.of_eq (completeAio_acbView _)
  | resume running => exact resume_move running rfl
  | copy hand => exact AcbView.Move.of_eq (handleCoReply_acbView _)
  | finish finishing => exact AcbView.Move.of_eq (finish_acbView _ _)
  | guest => exact AcbView.Move.of_eq rfl

theorem takeSend_acbView {call : Nat} {request : Request}
    (taken : client.takeSend = some (call, request, after)) : after.acbView = client.acbView := by
  obtain ⟨what, data, acb, _, found, rfl⟩ := takeSend_spec taken
  refine acbView_setCoroutine found ?_
  split <;> rfl

theorem takeReply_acbView {call : Nat} {reply : Reply}
    (taken : client.takeReply call reply = some after) : after.acbView = client.acbView := by
  obtain ⟨_, rfl⟩ := takeReply_spec taken
  rfl

end AsyncClient

/-! Runs of the whole system. -/

namespace AsyncState

variable {Index Client : Type} [DecidableEq Index] [DecidableEq Client]
variable {endpoints : Client → Endpoint Index} {initial state after : AsyncState Index Client}
variable {trace events : List (Client × AcbEvent)}

theorem acbMachine_move {label : AsyncLabel Index Client} (allocates : state.Allocates label)
    (stepped : (acbMachine endpoints).step state label = some (after, events)) (client : Client) :
    (state.clients client).acbView.Move (acbTrace client events) (after.clients client).acbView := by
  obtain ⟨⟨next, calls⟩, moved, pair⟩ := Option.map_eq_some_iff.mp stepped
  obtain ⟨rfl, rfl⟩ := Prod.mk.inj pair
  have others (mover : Client) (moverAfter : AsyncClient) (own : List AcbEvent)
      (move : (state.clients mover).acbView.Move own moverAfter.acbView) :
      (state.clients client).acbView.Move (acbTrace client (own.map (mover, ·)))
        (Function.update state.clients mover moverAfter client).acbView := by
    by_cases same : mover = client
    · subst same
      have kept : acbTrace mover (own.map (mover, ·)) = own := by
        simp [acbTrace, List.filterMap_map]
      rw [kept, Function.update_self]
      exact move
    · have none : acbTrace client (own.map (mover, ·)) = [] := by
        simp [acbTrace, List.filterMap_map, same]
      rw [none, Function.update_of_ne (Ne.symm same)]
      exact .silent
  rcases machine_cases moved with ⟨mover, own, rfl, moved⟩ | ⟨own, exchange, rfl, _, rfl, _⟩
  · cases clientStep_cases moved with
    | sent taken _ => exact others mover _ [] (.of_eq (AsyncClient.takeSend_acbView taken))
    | received _ taken => exact others mover _ [] (.of_eq (AsyncClient.takeReply_acbView taken))
    | @inside label ownAfter calls taken =>
        have move := AsyncClient.localStep_move (by
          rintro what address fresh rfl
          exact allocates) taken
        have lifted := others mover ownAfter _ move
        simpa only [acbEvents, Function.update_self] using lifted
  · exact .silent

omit [DecidableEq Index] [DecidableEq Client] in
theorem Unused.acb_inv (unused : initial.Unused) (client : Client) :
    (initial.clients client).acbView.Inv [] where
  known := by
    intro call _
    simp [AsyncClient.acbView, unused.coroutines]
  live := by
    intro address
    simp [AsyncClient.acbView, AsyncClient.liveAcbs, unused.coroutines, unused.heap]
  apart := by simp [AsyncClient.acbView, unused.coroutines]
  refused := by simp [AsyncClient.acbView, unused.coroutines]
  freed := by simp [AsyncClient.acbView, unused.coroutines]
  rejected := by simp

theorem Unused.acb_run (unused : initial.Unused)
    (run : (acbMachine endpoints).Run Allocates initial trace state) (client : Client) :
    (state.clients client).acbView.Inv (acbTrace client trace) := by
  refine run.invariant (fun trace state => (state.clients client).acbView.Inv
    (acbTrace client trace)) (unused.acb_inv client) ?_
  intro trace state label after events inv allocates stepped
  have moved := inv.move (acbMachine_move allocates stepped client)
  simpa only [acbTrace, List.filterMap_append] using moved

end AsyncState

namespace AsyncClient

variable {client : AsyncClient} {trace : List AcbEvent}

theorem acbView_calls {call : Nat} {entry : AcbCall} :
    client.acbView.calls call = some entry ↔ ∃ coroutine,
      client.coroutines call = some coroutine ∧ coroutine.call = entry.what ∧
        coroutine.acb = entry.acb ∧ coroutine.pc.isReturned = entry.returned := by
  simp only [acbView, Option.map_eq_some_iff]
  constructor
  · rintro ⟨coroutine, found, rfl⟩
    exact ⟨coroutine, found, rfl, rfl, rfl⟩
  · rintro ⟨coroutine, found, what, acb, returned⟩
    exact ⟨coroutine, found, by rw [what, acb, returned]⟩

theorem acbView_found {call : Nat} {coroutine : Coroutine}
    (found : client.coroutines call = some coroutine) : client.acbView.calls call =
      some ⟨coroutine.call, coroutine.acb, coroutine.pc.isReturned⟩ :=
  acbView_calls.mpr ⟨coroutine, found, rfl, rfl, rfl⟩

/-- The control blocks are balanced exactly if no call has been refused as misaligned. -/
theorem acbBalance_iff (inv : client.acbView.Inv trace) : client.AcbBalance trace ↔
    ∀ call coroutine, client.coroutines call = some coroutine → coroutine.call.aligned = true := by
  constructor
  · intro balance call coroutine found
    by_contra misaligned
    have refused : coroutine.call.aligned = false := by simpa using misaligned
    have lookup := acbView_found found
    have returned : coroutine.pc.isReturned = true := inv.refused call _ lookup refused
    have never := inv.freed call
    have once := balance.freed call coroutine found
    -- The block of a refused call has not been freed.
    simp [lookup, AcbCall.freed, AcbCall.holds, refused] at never
    rw [returned, if_pos rfl] at once
    rw [List.filter_eq_nil_iff.mpr fun event member => by simpa using never event member] at once
    simp at once
  · intro aligned
    have holds (call : Nat) (coroutine : Coroutine) (found : client.coroutines call = some coroutine) :
        (AcbCall.mk coroutine.call coroutine.acb coroutine.pc.isReturned).holds =
          !coroutine.pc.isReturned := by
      simp [AcbCall.holds, aligned call coroutine found]
    refine ⟨?_, ?_, ?_, ?_⟩
    · intro address
      refine (inv.live address).trans ⟨?_, ?_⟩
      · rintro ⟨call, ⟨what, acb, returned⟩, lookup, own, held⟩
        obtain ⟨coroutine, found, rfl, rfl, rfl⟩ := acbView_calls.mp lookup
        rw [holds call coroutine found] at held
        exact ⟨call, coroutine, found, own, by simpa using held⟩
      · rintro ⟨call, coroutine, found, own, unreturned⟩
        exact ⟨call, _, acbView_found found, own, by rw [holds call coroutine found, unreturned]; rfl⟩
    · intro call other coroutine found first second unreturned otherUnreturned equal
      refine inv.apart call other _ _ (acbView_found first) (acbView_found second) ?_ ?_ equal
      · rw [holds call coroutine first, unreturned]
        rfl
      · rw [holds other found second, otherUnreturned]
        rfl
    · intro call coroutine found
      rw [inv.freed, acbView_found found]
      simp only [Option.elim_some, AcbCall.freed, holds call coroutine found]
      cases coroutine.pc.isReturned <;> rfl
    · intro before after member
      obtain ⟨call, entry, lookup, misaligned⟩ := inv.rejected before after member
      obtain ⟨coroutine, found, what, _⟩ := acbView_calls.mp lookup
      rw [← what, aligned call coroutine found] at misaligned
      simp at misaligned

end AsyncClient

namespace AsyncState

variable {Index Client : Type} [DecidableEq Index] [DecidableEq Client]
variable {endpoints : Client → Endpoint Index} {initial state : AsyncState Index Client}
variable {trace : List (Client × AcbEvent)}

/-- In every run the control blocks of a client are balanced exactly if it has made no misaligned
call. -/
theorem Unused.balanced_iff (unused : initial.Unused)
    (run : (acbMachine endpoints).Run Allocates initial trace state) (client : Client) :
    (state.clients client).AcbBalance (acbTrace client trace) ↔
      ∀ call coroutine, (state.clients client).coroutines call = some coroutine →
        coroutine.call.aligned = true :=
  AsyncClient.acbBalance_iff (unused.acb_run run client)

end AsyncState

end Cvbd
