import Cvbd.Service
import Cvbd.Transfer

/-!
Progress of the server threads: a thread with something to do can do it, and
what no client sees of it uses up the queue and the thread's hands.
-/

namespace Cvbd

variable {Index Client : Type} [DecidableEq Index] [DecidableEq Client]
variable {exchange after : Exchange Index Client} {endpoints : Client → Endpoint Index}
variable {label : ServerLabel Index}

namespace Exchange

/-- Steps that thread `index` can take without handling a request. -/
def load (exchange : Exchange Index Client) (index : Index) : Nat :=
  (exchange.requestMq index).length + match exchange.thread index with
    | .sending .. => 1
    | .idle | .hand _ | .closing _ | .stopped => 0

omit [DecidableEq Client] in
theorem pushRequest_load {index : Index} {request : Envelope Client Request}
    (pushed : exchange.pushRequest index request = some after) :
    after.load index ≤ exchange.load index + 1 ∧
      ∀ other, other ≠ index → after.load other = exchange.load other := by
  obtain ⟨_, rfl⟩ := pushRequest_spec pushed
  constructor
  · simp only [load, Function.update_self, List.length_append, List.length_singleton]
    omega
  · exact fun other different => by simp [load, different]

omit [DecidableEq Client] in
/-- As long as a request is unhandled, or a reply has not reached its queue, the thread can go on,
unless the reply queue is full. -/
theorem server_enabled (index : Index) (wired : exchange.Wired endpoints)
    (running : exchange.fault = none)
    (busy : exchange.requestMq index ≠ [] ∨ exchange.thread index ≠ .idle)
    (room : ∀ mq reply closing, exchange.thread index = .sending mq reply closing →
      (exchange.replyMq mq).length < maxQueueSize) :
    ∃ label after, exchange.ValidLabel label ∧ exchange.FullTransfers label ∧
      exchange.serverStep label = some after := by
  cases thread : exchange.thread index with
  | idle =>
      have queued : exchange.requestMq index ≠ [] := by simpa [thread] using busy
      obtain ⟨request, rest, queue⟩ := List.exists_cons_of_ne_nil queued
      have io := (wired.queued index request (by simp [queue])).io
      refine ⟨.receive index, ?_⟩
      cases body : request.body <;> simp_all [Request.isIo, Exchange.serverStep,
        Exchange.receiveStep, Exchange.ValidLabel, Exchange.FullTransfers]
  | hand request =>
      have belongs := wired.inHand index request thread
      have live : exchange.world.volumes request.body.header.volume =
          some ⟨(endpoints request.sender).name, (endpoints request.sender).fd,
            (endpoints request.sender).mq⟩ := by
        rw [belongs.volume]
        exact (wired.isOpen request.sender).live
      let kernel :=
        Kernel.ofRequest (exchange.world.content (endpoints request.sender).fd) request.body
      refine ⟨.handle index kernel, ?_⟩
      have valid : kernel.Valid exchange.world request.body :=
        Kernel.ofRequest_valid belongs.io live
      have full : kernel.Full (exchange.world.content (endpoints request.sender).fd) request.body :=
        Kernel.ofRequest_full _ request.body
      have stepped : ∃ after, exchange.handleStep index kernel = some after := by
        simp only [Exchange.handleStep, thread]
        split <;> exact ⟨_, rfl⟩
      obtain ⟨after, stepped⟩ := stepped
      refine ⟨after, ?_, ?_, by simpa [Exchange.serverStep, running] using stepped⟩
      · rintro held hand
        obtain rfl := Thread.hand.inj (thread.symm.trans hand)
        exact valid
      · rintro held volume hand used
        obtain rfl := Thread.hand.inj (thread.symm.trans hand)
        obtain rfl := Option.some.inj (live.symm.trans used)
        exact full
  | sending mq reply closing =>
      have free := room mq reply closing thread
      have stepped : ∃ after, exchange.sendStep index = some after := by
        simp only [Exchange.sendStep, thread, free, if_true]
        cases closing <;> exact ⟨_, rfl⟩
      obtain ⟨after, stepped⟩ := stepped
      exact ⟨.send index, after, trivial, trivial,
        by simpa [Exchange.serverStep, running] using stepped⟩
  | closing volume => exact (wired.notClosing _ _ thread).elim
  | stopped => exact (wired.notStopped _ thread).elim

omit [DecidableEq Client] in
theorem serverStep_load (wired : exchange.Wired endpoints)
    (notHandle : ∀ index kernel, label ≠ .handle index kernel)
    (stepped : exchange.serverStep label = some after) :
    after.fault = exchange.fault ∧ (∀ index, after.load index ≤ exchange.load index) ∧
      ∃ index, after.load index < exchange.load index := by
  simp only [Exchange.serverStep, Exchange.serverStep_running stepped, Option.isSome_none,
    Bool.false_eq_true, if_false] at stepped
  have elsewhere (index : Index) {next : Exchange Index Client}
      (queues : ∀ other, other ≠ index → next.requestMq other = exchange.requestMq other)
      (threads : ∀ other, other ≠ index → next.thread other = exchange.thread other)
      (here : next.load index < exchange.load index) :
      (∀ other, next.load other ≤ exchange.load other) ∧
        ∃ index, next.load index < exchange.load index := by
    refine ⟨fun other => ?_, index, here⟩
    by_cases same : other = index
    · subst same
      exact Nat.le_of_lt here
    · simp only [load, queues other same, threads other same]
      exact Nat.le_refl _
  cases label with
  | receive index =>
      obtain ⟨request, rest, idle, queue, rfl⟩ := receiveStep_spec wired stepped
      refine ⟨rfl, elsewhere index ?_ ?_ ?_⟩
      · exact fun other different => by simp [different]
      · exact fun other different => by simp [different]
      · simp [load, idle, queue]
  | handle index kernel => exact (notHandle index kernel rfl).elim
  | send index =>
      obtain ⟨reply, sends, _, rfl⟩ := sendStep_spec wired stepped
      refine ⟨rfl, elsewhere index (fun _ _ => rfl) ?_ ?_⟩
      · exact fun other different => by simp [different]
      · simp [load, sends]
  | close index => simp [wired.closeStep_none] at stepped

omit [DecidableEq Client] in
theorem handleStep_load {index : Index} {kernel : Kernel} (wired : exchange.Wired endpoints)
    (stepped : exchange.handleStep index kernel = some after) :
    after.load index ≤ exchange.load index + 1 ∧
      ∀ other, other ≠ index → after.load other = exchange.load other := by
  obtain ⟨request, hand, _, file, _, rfl⟩ := handleStep_spec wired stepped
  cases file.serve kernel request.body with
  | done file => exact ⟨by simp [load, hand], fun other different => by simp [load, different]⟩
  | reply file reply =>
      exact ⟨by simp [load, hand], fun other different => by simp [load, different]⟩
  | fault file fault => exact ⟨by simp [load], fun other different => by simp [load]⟩

end Exchange

end Cvbd
