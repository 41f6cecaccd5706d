import Cvbd.AsyncContent
import Cvbd.AsyncTrace

/-!
The messages a client has submitted, in the order of the trace: the calls made
before a call have the effect of the messages submitted before its own.
-/

namespace Cvbd

variable {Client : Type}

def CallEvent.message (self : Client) : CallEvent → Option (Envelope Client Request)
  | .submitted call request => some ⟨self, call, request⟩
  | .served .. | .yielded _ | .entered _ | .returned .. => none

/-- The messages submitted in a trace, oldest first. -/
def submitted (self : Client) (trace : List CallEvent) : List (Envelope Client Request) :=
  trace.filterMap (CallEvent.message self)

theorem submitted_append (self : Client) (first second : List CallEvent) :
    submitted self (first ++ second) = submitted self first ++ submitted self second := by
  simp [submitted]

theorem submitted_eq_nil {self : Client} {events : List CallEvent}
    (none : ∀ event ∈ events, event.isSubmitted = false) : submitted self events = [] := by
  refine List.filterMap_eq_nil_iff.mpr fun event member => ?_
  have notSubmitted := none event member
  cases event with
  | submitted call request => simp [CallEvent.isSubmitted] at notSubmitted
  | served call request kernel file => rfl
  | yielded call => rfl
  | entered call => rfl
  | returned call ret => rfl

theorem List.split_before {α : Type} {front back first rest : List α} {element : α}
    (equal : front ++ back = first ++ element :: rest) (absent : element ∉ back) :
    ∃ between, front = first ++ element :: between := by
  rcases List.append_eq_append_iff.mp equal with ⟨between, _, back_eq⟩ | ⟨between, front_eq, rest_eq⟩
  · exact (absent (by simp [back_eq])).elim
  · cases between with
    | nil => exact (absent (by simp [← show _ = back from rest_eq])).elim
    | cons head tail =>
        obtain ⟨rfl, _⟩ := List.cons.inj rest_eq
        exact ⟨tail, front_eq⟩

namespace PrivateState

variable {self : Client} {volume : UInt64} {state after : PrivateState Client} {initial : File}
variable {trace : List CallEvent} {label : PrivateLabel} {events : List CallEvent}

structure Submissions (sender : Client) (volume : UInt64) (initial : File)
    (trace : List CallEvent) (state : PrivateState Client) : Prop where
  before : ∀ first call request rest, trace = first ++ .submitted call request :: rest →
    initial.applyAll (submitted sender first) = state.client.contentBefore initial call
  tracks : state.client.Tracks initial (initial.applyAll (submitted sender trace))
  carried : ∀ call request, .submitted call request ∈ trace →
    ∃ coroutine acb, state.client.coroutines call = some coroutine ∧
      coroutine.call.Asks coroutine.data volume acb request

/-- Only the send submits. -/
theorem Effect.silent (effect : Effect self volume state label after events)
    (notSend : label ≠ .client .send) : ∀ event ∈ events, event.isSubmitted = false := by
  cases effect with
  | send executing found asks => exact (notSend rfl).elim
  | refuse idle free misaligned => simp [CallEvent.isSubmitted]
  | yield executing found => simp [CallEvent.isSubmitted]
  | bottomHalf idle scheduled live found => simp [CallEvent.isSubmitted]
  | resume executing found live => simp [CallEvent.isSubmitted]
  | serve alive queue served => simp [CallEvent.isSubmitted]
  | abort large => simp
  | enter idle nonzero free accepted volume_eq asks filled => simp
  | callback executing found write live => simp
  | receive idle queue => simp
  | copyRead held found outstanding size live copied => simp
  | copyFsync held found outstanding live => simp
  | finish held live found own outstanding => simp
  | guest => simp
  | crash => simp

theorem Submissions.keep (submissions : state.Submissions self volume initial trace)
    (inv : state.Inv volume) (effect : Effect self volume state label after events)
    (notSend : label ≠ .client .send) :
    after.Submissions self volume initial (trace ++ events) where
  before := by
    intro first call request rest split
    have absent : CallEvent.submitted call request ∉ events := by
      intro member
      have silent := effect.silent notSend _ member
      simp [CallEvent.isSubmitted] at silent
    obtain ⟨between, earlier⟩ := List.split_before split absent
    obtain ⟨coroutine, _, found, _⟩ := submissions.carried call request (by simp [earlier])
    have known := (inv.known call).mp (by simp [found])
    rw [inv.contentBefore_step effect (by omega)]
    exact submissions.before first call request between earlier
  tracks := by
    rw [submitted_append, submitted_eq_nil (effect.silent notSend), List.append_nil]
    exact inv.tracks_step submissions.tracks effect notSend
  carried := by
    intro call request member
    rcases List.mem_append.mp member with before | new
    · obtain ⟨coroutine, acb, found, asks⟩ := submissions.carried call request before
      obtain ⟨kept, lookup, call_eq, data_eq⟩ := inv.keeps_call effect found
      exact ⟨kept, acb, lookup, by rw [call_eq, data_eq]; exact asks⟩
    · have silent := effect.silent notSend _ new
      simp [CallEvent.isSubmitted] at silent

/-- The message of the latest call comes after the messages of all earlier calls. -/
theorem Submissions.send {call : Nat} {what : CoCall} {data : Bytes} {acb : UInt64}
    {request : Request} {pc : CoPc} (submissions : state.Submissions self volume initial trace)
    (inv : state.Inv volume)
    (found : state.client.coroutines call = some ⟨what, data, acb, .sending request⟩)
    (effect : Effect self volume state label after [.submitted call request])
    (client : after.client = state.client.setCoroutine call ⟨what, data, acb, pc⟩)
    (notBecomes : ∀ request, pc ≠ .sending request) :
    after.Submissions self volume initial (trace ++ [.submitted call request]) where
  before := by
    intro first other sent rest split
    have last := inv.last call _ request found rfl
    rcases List.eq_nil_or_concat rest with rfl | ⟨inner, tail, rfl⟩
    · obtain ⟨rfl, same⟩ := List.append_inj' split rfl
      obtain ⟨rfl, rfl⟩ := CallEvent.submitted.inj (List.cons.inj same).1
      rw [inv.contentBefore_step effect (by omega)]
      exact submissions.tracks.sending call _ request found rfl
    · rw [List.concat_eq_append, ← List.cons_append, ← List.append_assoc] at split
      have earlier := (List.append_inj' split rfl).1
      obtain ⟨coroutine, _, lookup, _⟩ := submissions.carried other sent (by simp [earlier])
      have known := (inv.known other).mp (by simp [lookup])
      rw [inv.contentBefore_step effect (by omega)]
      exact submissions.before first other sent inner earlier
  tracks := by
    rw [submitted_append, File.applyAll_append, client]
    exact inv.tracks_send submissions.tracks found notBecomes
  carried := by
    intro other sent member
    rcases List.mem_append.mp member with before | new
    · obtain ⟨coroutine, acb', lookup, asks⟩ := submissions.carried other sent before
      obtain ⟨kept, keptLookup, call_eq, data_eq⟩ := inv.keeps_call effect lookup
      exact ⟨kept, acb', keptLookup, by rw [call_eq, data_eq]; exact asks⟩
    · obtain ⟨rfl, rfl⟩ := CallEvent.submitted.inj (List.mem_singleton.mp new)
      have asks := inv.sends _ _ _ found rfl
      refine ⟨⟨what, data, acb, pc⟩, acb, ?_, asks⟩
      rw [client]
      exact Function.update_self ..

theorem Submissions.step (submissions : state.Submissions self volume initial trace)
    (inv : state.Inv volume) (effect : Effect self volume state label after events) :
    after.Submissions self volume initial (trace ++ events) := by
  by_cases isSend : label = .client .send
  · subst isSend
    have again := effect
    cases effect with
    | send executing found asks =>
        refine submissions.send inv found again rfl fun request => ?_
        split <;> simp
  · exact submissions.keep inv effect isSend

end PrivateState

end Cvbd
