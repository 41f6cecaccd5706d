import Cvbd.AsyncProgress
import Cvbd.DiskTotal

/-!
Calls that have been made come to their end: as long as one is unfinished or a
message is on its way, some thread can go on, and each step uses up work.
-/

namespace Cvbd

variable {Index Client : Type}

namespace SyncState

variable {endpoint : Endpoint Unit} {sync : SyncState} {call : SyncCall} {plain : PlainDisk}

/-- One reply at most is on its way to a machine, as it waits for each of its READs. -/
theorem Follows.replies_le (follows : sync.Follows endpoint call plain) :
    (sync.service endpoint).replies.length ≤ 1 := by
  by_cases outside : ∃ ret, sync.pc = .returned ret
  · obtain ⟨ret, returned⟩ := outside
    obtain ⟨_, ready, _⟩ := follows.outside returned
    simp [ready.quiet]
  · obtain ⟨_, _, _, _, inv⟩ := follows.inside fun ret returned => outside ⟨ret, returned⟩
    have holds := inv.pc
    cases pc : sync.pc with
    | looping copy =>
        rw [pc] at holds
        simp [holds.2.2.1]
    | sending request copy reply =>
        rw [pc] at holds
        cases reply with
        | none => simp [holds.2.2.2.2.1]
        | some destination =>
            obtain ⟨_, _, _, _, _, quiet, _⟩ := holds
            simp [quiet]
    | receiving copy message size =>
        rw [pc] at holds
        obtain ⟨_, _, _, _, _, _, ⟨_, _, _, _, _, quiet⟩ | ⟨_, reply, replies, _⟩⟩ := holds
        · simp [quiet]
        · simp [replies]
    | returned ret => exact (outside ⟨ret, pc⟩).elim
    | aborted =>
        rw [pc] at holds
        exact holds.elim

end SyncState

namespace DisksState

variable [DecidableEq Index] [DecidableEq Client]
variable {endpoints : Client → Endpoint Index} {state after : DisksState Index Client}
variable {events : List (Client × DiskEvent)}

/-- No further call is made. -/
def Carries : DisksLabel Index Client → Prop
  | .enter .. => False
  | .client _ | .server _ => True

/-- All calls have returned, and the server has handled all messages. -/
def Finished (endpoints : Client → Endpoint Index) (state : DisksState Index Client) : Prop :=
  ∀ client, (∃ ret, (state.disks client).pc = .returned ret) ∧
    (state.exchange.service (endpoints client) client).requests = []

/-! Somebody can go on. -/

theorem Inv.server_enabled (inv : state.Inv endpoints) (index : Index)
    (busy : state.exchange.requestMq index ≠ [] ∨ state.exchange.thread index ≠ .idle) :
    ∃ label after events, (state.Permitted endpoints label ∧ Carries label) ∧
      (machine endpoints).step state label = some (after, events) := by
  have room (mq : Nat) (reply : Envelope Client Reply) (closing : Option UInt64)
      (sends : state.exchange.thread index = .sending mq reply closing) :
      (state.exchange.replyMq mq).length < maxQueueSize := by
    obtain ⟨place, rfl, _⟩ := inv.wired.sending index mq reply closing sends
    obtain ⟨plain, follows⟩ := inv.follows reply.sender
    have single := follows.replies_le
    have replies := Exchange.alone_replies state.exchange (endpoints reply.sender) reply.sender
    have single : ((state.exchange.alone (endpoints reply.sender) reply.sender).service
        (endpoints reply.sender).single ()).replies.length ≤ 1 := single
    rw [replies] at single
    simp only [Exchange.service, ← place, sends, Thread.repliesOf, if_true, List.length_map,
      List.length_append, List.length_singleton] at single
    have positive : 0 < maxQueueSize := by decide
    omega
  obtain ⟨label, exchange, valid, full, stepped⟩ :=
    Exchange.server_enabled index inv.wired inv.running busy room
  exact ⟨.server label, { state with exchange }, [], ⟨⟨valid, full⟩, trivial⟩,
    by simp [machine, stepped]⟩

theorem Inv.client_enabled (inv : state.Inv endpoints) {client : Client}
    (quiet : state.exchange.requestMq (endpoints client).index = [])
    (idle : state.exchange.thread (endpoints client).index = .idle)
    (unfinished : ∀ ret, (state.disks client).pc ≠ .returned ret) :
    ∃ after events, state.clientStep endpoints client = some (after, events) := by
  obtain ⟨plain, follows⟩ := inv.follows client
  obtain ⟨_, _, _, _, own⟩ := follows.inside unfinished
  have holds := own.pc
  cases pc : (state.disks client).pc with
  | looping copy => exact ⟨_, _, by simp only [clientStep, pc]; rfl⟩
  | sending request copy reply =>
      have room : (state.exchange.requestMq (endpoints client).index).length < maxQueueSize := by
        simp [quiet, maxQueueSize]
      cases reply <;>
        exact ⟨_, _, by simp only [clientStep, pc, Exchange.pushRequest, room, if_true]; rfl⟩
  | receiving copy message size =>
      have pc_alone : (state.alone endpoints client).pc = .receiving copy message size := pc
      rw [pc_alone] at holds
      have requests : ((state.alone endpoints client).service (endpoints client).single).requests =
          [] := by
        show ((state.exchange.alone (endpoints client) client).service
          (endpoints client).single ()).requests = []
        rw [Exchange.alone_requests]
        simp [Exchange.service, quiet, idle]
      have waiting : state.exchange.replyMq (endpoints client).mq ≠ [] := by
        intro none
        obtain ⟨_, _, _, _, _, _, ⟨_, _, queue, _⟩ | ⟨_, reply, replies, _⟩⟩ := holds
        · simp [requests] at queue
        · have replies : ((state.exchange.alone (endpoints client) client).service
              (endpoints client).single ()).replies = [reply] := replies
          rw [Exchange.alone_replies] at replies
          simp [Exchange.service, none, idle] at replies
      obtain ⟨reply, rest, queue⟩ := List.exists_cons_of_ne_nil waiting
      simp only [clientStep, pc, Exchange.popReply, queue]
      split <;> exact ⟨_, _, rfl⟩
  | returned ret => exact (unfinished ret pc).elim
  | aborted =>
      have pc_alone : (state.alone endpoints client).pc = .aborted := pc
      rw [pc_alone] at holds
      exact holds.elim

theorem Inv.enabled (inv : state.Inv endpoints) (unfinished : ¬state.Finished endpoints) :
    ∃ label after events, (state.Permitted endpoints label ∧ Carries label) ∧
      (machine endpoints).step state label = some (after, events) := by
  by_cases busy : ∃ index, state.exchange.requestMq index ≠ [] ∨ state.exchange.thread index ≠ .idle
  · obtain ⟨index, busy⟩ := busy
    exact inv.server_enabled index busy
  · push Not at busy
    unfold Finished at unfinished
    push Not at unfinished
    obtain ⟨client, unfinished⟩ := unfinished
    obtain ⟨quiet, idle⟩ := busy (endpoints client).index
    have handled : (state.exchange.service (endpoints client) client).requests = [] := by
      simp [Exchange.service, quiet, idle]
    have inside (ret : Int32) : (state.disks client).pc ≠ .returned ret := fun returned =>
      unfinished ⟨ret, returned⟩ handled
    obtain ⟨after, events, stepped⟩ := inv.client_enabled quiet idle inside
    exact ⟨.client client, after, events, ⟨trivial, trivial⟩, stepped⟩

/-! Each step uses up work. -/

section Measure

variable [Fintype Client]

def measure (endpoints : Client → Endpoint Index) (state : DisksState Index Client) : Nat :=
  ∑ client, (state.disks client).call.measure (state.alone endpoints client)

omit [DecidableEq Index] in
/-- The work of the others stays as it is. -/
theorem measure_lowers (client : Client)
    (here : (after.disks client).call.measure (after.alone endpoints client) <
      (state.disks client).call.measure (state.alone endpoints client))
    (others : ∀ other, other ≠ client → after.alone endpoints other = state.alone endpoints other ∧
      after.disks other = state.disks other) :
    after.measure endpoints < state.measure endpoints := by
  refine sum_add_le _ _ 1 0 here fun other different => ?_
  rw [(others other different).1, (others other different).2]

theorem Inv.client_lowers (inv : state.Inv endpoints) {client : Client}
    (stepped : state.clientStep endpoints client = some (after, events)) :
    after.measure endpoints < state.measure endpoints := by
  obtain ⟨moved, call, _, others⟩ := clientStep_alone inv.wired stepped
  refine measure_lowers client ?_ others
  obtain ⟨plain, follows⟩ := inv.follows client
  have unfinished : ∀ ret, (state.alone endpoints client).pc ≠ .returned ret := by
    intro ret returned
    simp [SyncCall.clientStep, returned] at moved
  obtain ⟨_, _, _, inside, own⟩ := follows.inside unfinished
  rw [call]
  exact own.clientStep_lowers inside moved

theorem Inv.server_lowers (inv : state.Inv endpoints) {label : ServerLabel Index}
    {exchange : Exchange Index Client} (permitted : state.Permitted endpoints (.server label))
    (stepped : state.exchange.serverStep label = some exchange) :
    ({ state with exchange } : DisksState Index Client).measure endpoints <
      state.measure endpoints := by
  have seen := inv.server_seen permitted stepped
  have running : exchange.fault = none := seen.running
  obtain ⟨mover, ⟨own, valid, full, moved⟩, others⟩ :=
    Exchange.serverStep_alone inv.wired permitted.1 permitted.2 stepped
  refine measure_lowers mover ?_ fun other different => ?_
  · have lighter := SyncCall.serverStep_lowers (Exchange.wired_alone inv.wired mover) running moved
    show _ + SyncCall.weight (exchange.alone (endpoints mover) mover) (endpoints mover).mq <
      _ + SyncCall.weight (state.exchange.alone (endpoints mover) mover) (endpoints mover).mq
    exact Nat.add_lt_add_left lighter _
  · have unseen := others other different (by rw [running, inv.running])
    exact ⟨by simp [alone, unseen], rfl⟩

variable {initial : DisksState Index Client} {trace : List (Client × DiskEvent)}

/-- Whatever has been called so far comes to its end, on every schedule, once no machine makes
further calls. -/
theorem settles_run (started : initial.Started endpoints)
    (run : (machine endpoints).Run (Permitted endpoints) initial trace state) :
    (machine endpoints).Settles (fun state label => state.Permitted endpoints label ∧ Carries label)
      (fun state => state.Finished endpoints) state := by
  refine Machine.Settles.of_measure (fun state => state.Inv endpoints)
    (fun state => state.measure endpoints) (fun _ inv unfinished => inv.enabled unfinished) ?_
    (inv_run started run)
  rintro state label after events inv _ ⟨permitted, carries⟩ stepped
  refine ⟨inv.step (inv.seen permitted stepped), ?_⟩
  cases label with
  | enter client call memory => exact carries.elim
  | client client => exact inv.client_lowers stepped
  | server label =>
      simp only [machine, Option.map_eq_some_iff, Prod.mk.injEq] at stepped
      obtain ⟨exchange, stepped, rfl, _⟩ := stepped
      exact inv.server_lowers permitted stepped

end Measure

end DisksState

end Cvbd
