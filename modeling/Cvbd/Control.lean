import Cvbd.Client
import Cvbd.ControlCore
import Cvbd.Service

/-! What the steps of the calling thread and of the reply thread do to the queues. -/

namespace Cvbd

namespace ControlState

variable {Index Client : Type} [DecidableEq Index]
variable {self : Client} {endpoint : Endpoint Index} {state after : ControlState Index Client}
variable {events : List (ControlEvent Client)}

omit [DecidableEq Index] in
@[simp] theorem readReply_exchange (state : ControlState Index Client) (operation : Operation) :
    (state.readReply operation).exchange = state.exchange := by
  cases operation with
  | getsize => rfl
  | openVolume =>
      simp only [readReply]
      split
      · split <;> rfl
      · rfl

omit [DecidableEq Index] in
theorem handleCoReply_spec (state : ControlState Index Client) :
    ∃ replyLoop aborted, state.handleCoReply = { state with replyLoop, aborted } := by
  simp only [handleCoReply]
  split
  · exact ⟨_, _, rfl⟩
  · split
    · split <;> exact ⟨_, _, rfl⟩
    · split <;> exact ⟨_, _, rfl⟩
    · exact ⟨_, _, rfl⟩
    · exact ⟨_, _, rfl⟩
    · exact ⟨_, _, rfl⟩
    · exact ⟨_, _, rfl⟩
    · exact ⟨_, _, rfl⟩

omit [DecidableEq Index] in
@[simp] theorem handleCoReply_exchange (state : ControlState Index Client) :
    state.handleCoReply.exchange = state.exchange := by
  obtain ⟨replyLoop, aborted, equal⟩ := state.handleCoReply_spec
  rw [equal]

omit [DecidableEq Index] in
@[simp] theorem signal_exchange (state : ControlState Index Client) :
    state.signal.exchange = state.exchange := by
  unfold signal
  split <;> rfl

theorem callerStep_exchange {label : CallerLabel}
    (stepped : state.callerStep self endpoint label = some after) :
    after.exchange = state.exchange ∨ ∃ operation request,
      state.caller = .sending operation request ∧
      state.exchange.pushRequest endpoint.index ⟨self, state.call, request⟩ =
        some after.exchange ∧
      after = { state with exchange := after.exchange, caller := operation.afterSend } := by
  cases label with
  | send =>
      simp only [callerStep] at stepped
      split at stepped
      · rename_i operation request sending
        split at stepped
        · rename_i exchange pushed
          obtain rfl := Option.some.inj stepped
          exact Or.inr ⟨operation, request, sending, pushed, rfl⟩
        · simp at stepped
      · simp at stepped
  | read =>
      simp only [callerStep] at stepped
      split at stepped
      · obtain rfl := Option.some.inj stepped
        exact Or.inl (readReply_exchange _ _)
      · simp at stepped
  | getsize =>
      simp only [callerStep] at stepped
      split at stepped
      · obtain rfl := Option.some.inj stepped
        exact Or.inl rfl
      · obtain rfl := Option.some.inj stepped
        exact Or.inl rfl
      · simp at stepped
  | construct | lock | wait | spurious | unlock =>
      simp only [callerStep] at stepped
      split at stepped
      · obtain rfl := Option.some.inj stepped
        exact Or.inl rfl
      · simp at stepped

omit [DecidableEq Index] in
/-- A receive overlays the reply object with the oldest message of the reply queue. -/
theorem receive_spec {serverOld : Bytes}
    (stepped : state.replyStep endpoint (.receive serverOld) = some (after, events)) :
    ∃ reply, state.exchange.popReply endpoint.mq = some (reply, after.exchange) ∧
      events = [.received reply] ∧ after = { state with
        exchange := after.exchange
        replyMsg := Wire.receive state.replyMsg (Wire.replyMessage serverOld reply.body)
        replyLoop := .received } := by
  simp only [replyStep] at stepped
  split at stepped
  · split at stepped
    · rename_i reply exchange popped
      obtain ⟨rfl, rfl⟩ := Prod.mk.inj (Option.some.inj stepped)
      exact ⟨reply, popped, rfl, rfl⟩
    · simp at stepped
  · simp at stepped

omit [DecidableEq Index] in
theorem replyStep_exchange {label : ReplyLabel}
    (stepped : state.replyStep endpoint label = some (after, events)) :
    after.exchange = state.exchange ∨
      ∃ reply, state.exchange.popReply endpoint.mq = some (reply, after.exchange) := by
  cases label with
  | receive serverOld =>
      obtain ⟨reply, popped, _⟩ := receive_spec stepped
      exact Or.inr ⟨reply, popped⟩
  | dispatch =>
      simp only [replyStep] at stepped
      split at stepped
      · obtain ⟨rfl, _⟩ := Prod.mk.inj (Option.some.inj stepped)
        exact Or.inl (handleCoReply_exchange _)
      · simp at stepped
  | signal =>
      simp only [replyStep] at stepped
      split at stepped
      · obtain ⟨rfl, _⟩ := Prod.mk.inj (Option.some.inj stepped)
        exact Or.inl (signal_exchange _)
      · simp at stepped

omit [DecidableEq Index] in
/-- With nobody waiting, a step that receives nothing moves the reply thread only. -/
theorem replyStep_silent {label : ReplyLabel} (notWaiting : state.caller ≠ .waiting)
    (notReceive : ∀ serverOld, label ≠ .receive serverOld)
    (stepped : state.replyStep endpoint label = some (after, events)) :
    (∃ replyLoop aborted, after = { state with replyLoop, aborted }) ∧
      ∀ reply, .answered reply ∉ events := by
  cases label with
  | receive serverOld => exact absurd rfl (notReceive serverOld)
  | dispatch =>
      simp only [replyStep] at stepped
      split at stepped
      · obtain ⟨rfl, rfl⟩ := Prod.mk.inj (Option.some.inj stepped)
        exact ⟨state.handleCoReply_spec, by simp⟩
      · simp at stepped
  | signal =>
      simp only [replyStep] at stepped
      split at stepped
      · obtain ⟨rfl, rfl⟩ := Prod.mk.inj (Option.some.inj stepped)
        refine ⟨⟨.receiving, state.aborted, ?_⟩, by simp⟩
        unfold signal
        split
        · contradiction
        · rfl
      · simp at stepped

/-- The steps of the whole system: the client's two threads, the server and the other clients. -/
inductive ControlMove (self : Client) (endpoint : Endpoint Index)
    (state : ControlState Index Client) :
    ControlLabel Index Client → ControlState Index Client → List (ControlEvent Client) → Prop
  | caller {label after} (stepped : state.callerStep self endpoint label = some after) :
      ControlMove self endpoint state (.caller label) after []
  | replyThread {label after events}
      (stepped : state.replyStep endpoint label = some (after, events)) :
      ControlMove self endpoint state (.replyThread label) after events
  | server {label exchange} (served : state.exchange.serverStep label = some exchange) :
      ControlMove self endpoint state (.server label) { state with exchange }
        (answers exchange label)
  | push {index request exchange}
      (pushed : state.exchange.pushRequest index request = some exchange) :
      ControlMove self endpoint state (.push index request) { state with exchange } []
  | pop {mq reply exchange} (popped : state.exchange.popReply mq = some (reply, exchange)) :
      ControlMove self endpoint state (.pop mq) { state with exchange } []

theorem machine_cases {label : ControlLabel Index Client}
    (stepped : (machine self endpoint).step state label = some (after, events)) :
    state.ControlMove self endpoint label after events := by
  simp only [machine] at stepped
  split at stepped
  · simp at stepped
  · cases label with
    | caller label =>
        obtain ⟨_, next, equal⟩ := Option.map_eq_some_iff.mp stepped
        obtain ⟨rfl, rfl⟩ := Prod.mk.inj equal
        exact .caller next
    | replyThread label => exact .replyThread stepped
    | server label =>
        simp only at stepped
        split at stepped
        · rename_i served
          obtain ⟨rfl, rfl⟩ := Prod.mk.inj (Option.some.inj stepped)
          exact .server served
        · simp at stepped
    | push index request =>
        simp only at stepped
        split at stepped
        · rename_i pushed
          obtain ⟨rfl, rfl⟩ := Prod.mk.inj (Option.some.inj stepped)
          exact .push pushed
        · simp at stepped
    | pop mq =>
        simp only at stepped
        split at stepped
        · rename_i popped
          obtain ⟨rfl, rfl⟩ := Prod.mk.inj (Option.some.inj stepped)
          exact .pop popped
        · simp at stepped

end ControlState

end Cvbd
