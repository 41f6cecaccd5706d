import Mathlib.Algebra.Order.BigOperators.Group.Finset
import Cvbd.AsyncProject
import Cvbd.ServiceProgress

/-!
Progress of the asynchronous driver: once no new calls are made, every schedule
of the event loops, the reply threads and the server ends with all calls
returned and all requests served, unless the server aborts.
-/

namespace Cvbd

/-- Steps that remain for a coroutine until it waits or returns, and for its message. -/
def CoPc.weight : CoPc → Nat
  | .sending _ => 20
  | .callback => 4
  | .yielding | .entered => 1
  | .yielded | .returned _ => 0

def ReplyThread.weight : ReplyThread → Nat
  | .hand .. => 5
  | .finishing .. => 4
  | .idle | .stopped => 0

namespace AsyncClient

def weight (client : AsyncClient) : Nat :=
  (match client.running with
    | some (_, coroutine) => coroutine.pc.weight
    | none => 0) + client.replyThread.weight + 2 * client.bhs.length

theorem weight_idle (client : AsyncClient) (idle : client.current = none) :
    client.weight = client.replyThread.weight + 2 * client.bhs.length := by
  simp [weight, running, idle]

theorem weight_running (client : AsyncClient) {call : Nat} {coroutine : Coroutine}
    (executing : client.current = some call) (found : client.coroutines call = some coroutine) :
    client.weight =
      coroutine.pc.weight + client.replyThread.weight + 2 * client.bhs.length := by
  simp [weight, running, executing, found]

end AsyncClient

/-- Steps of the code itself: no new call, and no access by anybody else. -/
def LocalLabel.Internal : LocalLabel → Prop
  | .callback | .yield | .bottomHalf _ | .resume | .copy | .finish => True
  | .call .. | .sendFails | .guest _ => False

def ClientLabel.Internal : ClientLabel → Prop
  | .send | .receive => True
  | .inside label => label.Internal

/-- A submission also costs the server a step. -/
def ClientLabel.cost : ClientLabel → Nat
  | .send => 2
  | .receive | .inside _ => 1

theorem LocalLabel.Internal.fits {label : LocalLabel} (internal : label.Internal) : label.Fits := by
  cases label with
  | call what address fresh => exact internal.elim
  | sendFails => trivial
  | callback => trivial
  | yield => trivial
  | bottomHalf acb => trivial
  | resume => trivial
  | copy => trivial
  | finish => trivial
  | guest memory => trivial

namespace PrivateState

variable {Client : Type} {self : Client} {volume : UInt64} {state after : PrivateState Client}
variable {label : PrivateLabel} {events : List CallEvent}

/-- No thread of the client has ended, and the event loop knows what it executes. -/
structure Sound (state : PrivateState Client) : Prop where
  fault : state.client.fault = none
  thread : state.client.replyThread ≠ .stopped
  current : ∀ call, state.client.current = some call →
    (state.client.coroutines call).isSome = true

theorem Sound.of_update {call : Nat} {coroutine : Coroutine} (sound : state.Sound)
    (fault : after.client.fault = state.client.fault)
    (thread : after.client.replyThread = state.client.replyThread)
    (table : after.client.coroutines =
      Function.update state.client.coroutines call (some coroutine))
    (current : ∀ other, after.client.current = some other →
      other = call ∨ state.client.current = some other) : after.Sound where
  fault := by rw [fault, sound.fault]
  thread := by rw [thread]; exact sound.thread
  current := by
    intro other executing
    rw [table]
    by_cases same : other = call
    · subst same
      simp
    · rw [Function.update_of_ne same]
      rcases current other executing with rfl | old
      · exact (same rfl).elim
      · exact sound.current other old

theorem Effect.sound (effect : Effect self volume state label after events)
    (fits : ∀ client, label = .client client → client.Fits) (sound : state.Sound) :
    after.Sound := by
  cases effect with
  | @abort what address fresh large =>
      have small : what.size.toNat ≤ maxDataSize := fits _ rfl
      omega
  | refuse idle free misaligned => exact sound.of_update rfl rfl rfl fun _ => Or.inr
  | enter idle nonzero free accepted volume_eq asks filled =>
      exact sound.of_update rfl rfl rfl fun _ same => Or.inl (Option.some.inj same).symm
  | send executing found asks => exact sound.of_update rfl rfl rfl fun _ => Or.inr
  | callback executing found write live => exact sound.of_update rfl rfl rfl fun _ => Or.inr
  | yield executing found => exact sound.of_update rfl rfl rfl fun _ none => by simp at none
  | bottomHalf idle scheduled live found =>
      exact sound.of_update rfl rfl rfl fun _ same => Or.inl (Option.some.inj same).symm
  | resume executing found live => exact sound.of_update rfl rfl rfl fun _ none => by simp at none
  | receive idle queue => exact ⟨sound.fault, by simp, sound.current⟩
  | copyRead held found outstanding size live copied =>
      exact ⟨sound.fault, by simp, sound.current⟩
  | copyFsync held found outstanding live => exact ⟨sound.fault, by simp, sound.current⟩
  | finish held live found own outstanding => exact ⟨sound.fault, by simp, sound.current⟩
  | guest => exact { sound with }
  | serve alive queue served => exact { sound with }
  | crash => exact { sound with }

/-- Work left for the client and for the server on its behalf. -/
def measure (state : PrivateState Client) : Nat :=
  state.client.weight + 9 * state.service.requests.length + 6 * state.service.replies.length

theorem Effect.measure_client {label : ClientLabel}
    (effect : Effect self volume state (.client label) after events) (internal : label.Internal) :
    after.measure + label.cost ≤ state.measure := by
  unfold ClientLabel.cost
  cases effect with
  | abort large => exact internal.elim
  | refuse idle free misaligned => exact internal.elim
  | enter idle nonzero free accepted volume_eq asks filled => exact internal.elim
  | guest => exact internal.elim
  | @send call what data acb request executing found asks =>
      have before := AsyncClient.weight_running _ executing found
      have now := AsyncClient.weight_running
        (state.client.setCoroutine call
          ⟨what, data, acb, if what.isWrite = true then .callback else .yielding⟩)
        executing (Function.update_self ..)
      have small : (if what.isWrite = true then CoPc.callback else .yielding).weight ≤ 4 := by
        split <;> simp [CoPc.weight]
      unfold measure
      rw [before, now]
      simp only [CoPc.weight, AsyncClient.setCoroutine_bhs,
        AsyncClient.setCoroutine_replyThread, List.length_append, List.length_singleton] at small ⊢
      omega
  | @callback call what data address acb executing found write live =>
      have before := AsyncClient.weight_running _ executing found
      have now := AsyncClient.weight_running
        ((state.client.finishAio address 0
          { acb with ret := acb.size.toInt64 }).setCoroutine call ⟨what, data, address, .yielding⟩)
        executing (Function.update_self ..)
      unfold measure
      rw [before, now]
      simp only [CoPc.weight, AsyncClient.setCoroutine_bhs,
        AsyncClient.setCoroutine_replyThread, AsyncClient.finishAio, AsyncClient.setAcb_replyThread,
        List.length_append, List.length_singleton]
      omega
  | @yield call what data acb executing found =>
      have before := AsyncClient.weight_running _ executing found
      have now := AsyncClient.weight_idle
        { state.client.setCoroutine call (⟨what, data, acb, .yielded⟩ : Coroutine) with
          current := none } rfl
      unfold measure
      rw [before, now]
      simp only [CoPc.weight, AsyncClient.setCoroutine_bhs,
        AsyncClient.setCoroutine_replyThread]
      omega
  | @bottomHalf address what data acb idle scheduled live found =>
      have before := AsyncClient.weight_idle _ idle
      have now := AsyncClient.weight_running
        { (state.client.setAcb address (some { acb with bh := false })).setCoroutine
            acb.coroutine (⟨what, data, address, .entered⟩ : Coroutine) with
          bhs := state.client.bhs.erase address
          current := some acb.coroutine } rfl (Function.update_self ..)
      have shorter := List.length_erase_of_mem scheduled
      have positive := List.length_pos_of_mem scheduled
      unfold measure
      rw [before, now]
      simp only [CoPc.weight, AsyncClient.setCoroutine_replyThread,
        AsyncClient.setAcb_replyThread, shorter]
      omega
  | @resume call what data address acb executing found live =>
      have before := AsyncClient.weight_running _ executing found
      have now := AsyncClient.weight_idle
        { (state.client.setAcb address none).setCoroutine call
            (⟨what, data, address, .returned acb.ret.toInt32⟩ : Coroutine) with
          current := none } rfl
      unfold measure
      rw [before, now]
      simp only [CoPc.weight, AsyncClient.setCoroutine_bhs,
        AsyncClient.setCoroutine_replyThread, AsyncClient.setAcb_bhs,
        AsyncClient.setAcb_replyThread]
      omega
  | receive idle queue =>
      simp only [measure, AsyncClient.weight, AsyncClient.running, idle, queue, ReplyThread.weight,
        List.length_cons]
      omega
  | copyRead held found outstanding size live copied =>
      simp only [measure, AsyncClient.weight, AsyncClient.running, held, ReplyThread.weight,
        AsyncClient.setAcb]
      omega
  | copyFsync held found outstanding live =>
      simp only [measure, AsyncClient.weight, AsyncClient.running, held, ReplyThread.weight,
        AsyncClient.setAcb]
      omega
  | finish held live found own outstanding =>
      simp only [measure, AsyncClient.weight, AsyncClient.running, held, ReplyThread.weight,
        AsyncClient.setAcb, AsyncClient.finishAio, List.length_append, List.length_singleton]
      omega

theorem measure_answered {request : Envelope Client Request}
    {rest : List (Envelope Client Request)} {reply : Reply} (file : VolumeFile)
    (queue : state.service.requests = request :: rest) :
    ({ state with service := { state.service.answered rest request reply with file } } :
      PrivateState Client).measure + 3 = state.measure := by
  simp only [measure, Service.answered, queue, List.length_cons, List.length_append,
    List.length_nil]
  omega

/-- Serving a request does some of the work, unless the server aborts. -/
theorem Effect.measure_serve {kernel : Kernel} (inv : state.Inv volume)
    (effect : Effect self volume state (.serve kernel) after events) :
    after.measure + 2 ≤ state.measure ∨
      after.service.alive = false ∧ after.measure = state.measure := by
  cases effect with
  | @serve request rest _ service alive queue served =>
      obtain ⟨⟨what, data, address, pc⟩, _, _, asks, _⟩ := inv.requests request (by simp [queue])
      have serves := asks.serves queue served
      simp only at serves
      cases serves with
      | read body type passed =>
          exact Or.inl (Nat.le_of_lt (Nat.le_of_eq
            (measure_answered state.service.file queue)))
      | write body passed =>
          refine Or.inl ?_
          simp only [measure, Service.stored, queue, List.length_cons]
          omega
      | @flush header durable body type made =>
          exact Or.inl (Nat.le_of_lt (Nat.le_of_eq
            (measure_answered { state.service.file with durable } queue)))
      | abort transfers => exact Or.inr ⟨rfl, rfl⟩

end PrivateState

theorem sum_add_le {Summand : Type} [Fintype Summand] [DecidableEq Summand]
    (before after : Summand → Nat) (paid gained : Nat) {chosen : Summand}
    (here : after chosen + paid ≤ before chosen + gained)
    (others : ∀ other, other ≠ chosen → after other = before other) :
    ∑ summand, after summand + paid ≤ ∑ summand, before summand + gained := by
  rw [← Finset.add_sum_erase Finset.univ after (Finset.mem_univ chosen),
    ← Finset.add_sum_erase Finset.univ before (Finset.mem_univ chosen)]
  have rest : ∑ summand ∈ Finset.univ.erase chosen, after summand =
      ∑ summand ∈ Finset.univ.erase chosen, before summand :=
    Finset.sum_congr rfl fun other member => others other (Finset.ne_of_mem_erase member)
  omega

namespace AsyncState

variable {Index Client : Type} [DecidableEq Index] [DecidableEq Client]
variable {endpoints : Client → Endpoint Index} {state after : AsyncState Index Client}
variable {label : AsyncLabel Index Client} {events : List (Event Client)}

/-- Steps of the clients' and the server's own code, on a kernel that transfers in full. -/
def Internal (state : AsyncState Index Client) : AsyncLabel Index Client → Prop
  | .client _ label => label.Internal
  | .server label => state.exchange.ValidLabel label ∧ state.exchange.FullTransfers label

/-- All calls have returned and all requests have been served. -/
structure Finished (endpoints : Client → Endpoint Index) (state : AsyncState Index Client) :
    Prop where
  returned : ∀ client call coroutine, (state.clients client).coroutines call = some coroutine →
    coroutine.pc.isReturned = true
  served : ∀ client, (state.view endpoints client).service.requests = []

section Measure

variable [Fintype Index] [Fintype Client]

def measure (endpoints : Client → Endpoint Index) (state : AsyncState Index Client) : Nat :=
  ∑ client, (state.view endpoints client).measure + ∑ index, state.exchange.load index +
    if state.exchange.fault = none then 2 else 0

theorem Inv.client_lowers {client : Client} {label : ClientLabel} (inv : state.Inv endpoints)
    (valid : state.Valid (.client client label)) (internal : label.Internal)
    (stepped : state.clientStep endpoints client label = some (after, events)) :
    after.measure endpoints < state.measure endpoints := by
  obtain ⟨own, others⟩ := clientStep_project inv.wired stepped
  have validPrivate : (state.view endpoints client).Valid (.client label) := by
    cases label with
    | send => trivial
    | receive => trivial
    | inside label => exact valid
  have pays := sum_add_le (fun client => (state.view endpoints client).measure)
    (fun client => (after.view endpoints client).measure) _ 0
    (((inv.clients client).effect validPrivate own).measure_client internal)
    fun other different => by rw [(others other different).1]
  cases clientStep_cases stepped with
  | @sent call request next exchange taken pushed =>
      obtain ⟨here, elsewhere⟩ := Exchange.pushRequest_load pushed
      have loads := sum_add_le _ _ 0 1 here elsewhere
      obtain ⟨_, equal⟩ := Exchange.pushRequest_spec pushed
      have fault : exchange.fault = state.exchange.fault := by rw [equal]
      simp only [measure, ClientLabel.cost, fault] at pays loads ⊢
      omega
  | received popped taken =>
      obtain ⟨_, _, rfl⟩ := Exchange.popReply_spec popped
      simp only [measure, Exchange.load, ClientLabel.cost] at pays ⊢
      omega
  | inside taken =>
      simp only [measure, ClientLabel.cost] at pays ⊢
      omega

theorem Inv.server_lowers {label : ServerLabel Index} {exchange : Exchange Index Client}
    (inv : state.Inv endpoints) (stepped : state.exchange.serverStep label = some exchange) :
    ({ state with exchange } : AsyncState Index Client).measure endpoints <
      state.measure endpoints := by
  have running := Exchange.serverStep_running stepped
  by_cases handles : ∃ index kernel, label = .handle index kernel
  · obtain ⟨index, kernel, rfl⟩ := handles
    have handled : state.exchange.handleStep index kernel = some exchange := by
      simpa [Exchange.serverStep, running] using stepped
    obtain ⟨request, rest, hand, queue, served, others⟩ :=
      Exchange.handleStep_service inv.wired running handled
    obtain ⟨here, elsewhere⟩ := Exchange.handleStep_load inv.wired handled
    have loads := sum_add_le state.exchange.load exchange.load 0 1 here elsewhere
    have alive : (state.view endpoints request.sender).service.alive = true := by
      simp [view, Exchange.service, running]
    have unseen (other : Client) (different : other ≠ request.sender) :
        (({ state with exchange } : AsyncState Index Client).view endpoints other).measure =
          (state.view endpoints other).measure := by
      simp only [PrivateState.measure, view, others other different]
    have effect : PrivateState.Effect request.sender (endpoints request.sender).volume
        (state.view endpoints request.sender) (.serve kernel) _ _ :=
      PrivateState.Effect.serve alive queue served
    rcases effect.measure_serve (inv.clients request.sender) with pays | ⟨dead, same⟩
    · have total := sum_add_le (fun client => (state.view endpoints client).measure)
        (fun client =>
          (({ state with exchange } : AsyncState Index Client).view endpoints client).measure)
        2 0 pays unseen
      simp only [measure, running, if_true] at total ⊢
      split <;> omega
    · have total := sum_add_le (fun client => (state.view endpoints client).measure)
        (fun client =>
          (({ state with exchange } : AsyncState Index Client).view endpoints client).measure)
        0 0 (Nat.le_of_eq same) unseen
      have aborted : exchange.fault ≠ none := by
        intro none
        simp [Exchange.service, none] at dead
      simp only [measure, running, if_true, aborted, if_false] at total ⊢
      omega
  · obtain ⟨fault, bounded, index, lower⟩ := Exchange.serverStep_load inv.wired
      (fun index kernel same => handles ⟨index, kernel, same⟩) stepped
    have loads : ∑ index, exchange.load index < ∑ index, state.exchange.load index :=
      Finset.sum_lt_sum (fun index _ => bounded index) ⟨index, Finset.mem_univ index, lower⟩
    rcases Exchange.serverStep_service inv.wired stepped with ⟨same, _⟩ | ⟨index, kernel, is, _⟩
    · simp only [measure, view, same, fault]
      omega
    · exact (handles ⟨index, kernel, is⟩).elim

theorem Inv.lowers (inv : state.Inv endpoints) (valid : state.Valid label)
    (internal : state.Internal label)
    (stepped : (machine endpoints).step state label = some (after, events)) :
    after.measure endpoints < state.measure endpoints := by
  cases label with
  | client client label => exact inv.client_lowers valid internal stepped
  | server label =>
      simp only [machine] at stepped
      split at stepped
      · rename_i exchange next
        obtain ⟨rfl, rfl⟩ := Prod.mk.inj (Option.some.inj stepped)
        exact inv.server_lowers next
      · simp at stepped

end Measure

end AsyncState

end Cvbd
