import Cvbd.PlainReadTotal
import Cvbd.Transfer

/-! A read of one block while a flush is outstanding, in two orders. -/

namespace Cvbd

namespace PlainRead

def sampleCall : PlainCall Unit Unit := ⟨(), .sample, 1, 4096, 0⟩

/-- The flush is queued at the server; its control block is at address 64. -/
def sampleStart : PlainRead Unit Unit where
  exchange := .sample 8192 [⟨(), 0, .fsync ⟨⟨false, .reqFsync, 2, 4096, 64⟩⟩⟩]
  client := {
    shared := ⟨[118], 4096, 2, fun _ => 0⟩
    memory := fun _ => 3
    heap := Function.update (fun _ => none) 64 (some ⟨0, 0, 0, none, true, false⟩)
    coroutines := fun _ => none
    next := 1
    current := none
    bhs := []
    replyThread := .idle
    fault := none }
  replyMsg := fun _ => 0
  caller := .outside
  window := .closed
  message := fun _ => 0
  aborted := false
  taken := []
  threadTaken := []
  seen := []
  owed := []
  called := []

theorem sampleStart_start : Start sampleCall sampleStart where
  separate := ⟨fun _ _ _ _ => rfl, by simp [sampleStart, Exchange.sample],
    by simp [sampleStart, Exchange.sample]⟩
  requests := by
    intro envelope member
    simp only [own, sampleStart, sampleCall, Exchange.sample_service, List.mem_singleton] at member
    subst member
    refine ⟨by decide, fun reply replies => ?_⟩
    obtain ⟨answer, rfl, header⟩ := replies.fsync
    simp [Completes, Reply.header, header, sampleStart]
  replies := by
    intro envelope member
    simp [own, sampleStart, sampleCall, Exchange.sample_service] at member
  small := by decide
  fault := rfl
  aborted := rfl
  caller := rfl
  thread := Or.inl rfl
  taken := rfl
  threadTaken := .nothing rfl
  seen := rfl
  owed := rfl
  called := rfl

def valid (state : PlainRead Unit Unit) : PlainReadLabel Unit Unit → Bool
  | .caller _ | .replyThread _ => true
  | .server (.handle index kernel) =>
      match state.exchange.thread index with
      | .hand request => kernel.permits state.exchange.world request.body
      | _ => true
  | .server _ => true
  | .push .. | .pop _ => false

theorem valid_sound {state : PlainRead Unit Unit} {label : PlainReadLabel Unit Unit}
    (passes : valid state label = true) : Valid sampleCall state label := by
  cases label with
  | caller label => trivial
  | replyThread label => trivial
  | server label =>
      cases label with
      | handle index kernel =>
          constructor
          · intro request hand
            simp only [valid, hand] at passes
            exact Kernel.permits_valid passes
          · intro request _ foreign
            exact (foreign rfl).elim
      | receive index => exact ⟨trivial, trivial⟩
      | send index => exact ⟨trivial, trivial⟩
      | close index => exact ⟨trivial, trivial⟩
  | push index request => simp [valid] at passes
  | pop mq => simp [valid] at passes

/-- `send_read` is between its receive and the end of its copy. -/
def PlainCaller.reads : PlainCaller → Bool
  | .received | .checked => true
  | .outside | .sending _ | .receiving | .returned => false

def ordered (state : PlainRead Unit Unit) : PlainReadLabel Unit Unit → Bool
  | .caller (.receive _) =>
      match state.exchange.replyMq 0, state.window with
      | reply :: _, .closed => reply.call == 1
      | _, _ => false
  | .replyThread (.receive _) =>
      match state.exchange.replyMq 0 with
      | reply :: _ => reply.call != 1 && !PlainCaller.reads state.caller
      | [] => false
  | _ => true

theorem ordered_sound {state : PlainRead Unit Unit} {label : PlainReadLabel Unit Unit}
    (passes : ordered state label = true) : Ordered sampleCall state label := by
  cases label with
  | caller label =>
      cases label with
      | receive serverOld =>
          intro reply rest queue
          simp only [ordered] at passes
          rw [show state.exchange.replyMq 0 = reply :: rest from queue] at passes
          split at passes
          · rename_i first _ equal closed
            obtain ⟨rfl, _⟩ := List.cons.inj equal
            have mine : reply.call = 1 := by simpa using passes
            exact ⟨mine, closed⟩
          · simp at passes
      | begin => trivial
      | send => trivial
      | check => trivial
      | copy => trivial
  | replyThread label =>
      cases label with
      | receive serverOld =>
          intro reply rest queue
          simp only [ordered] at passes
          rw [show state.exchange.replyMq 0 = reply :: rest from queue] at passes
          simp only [Bool.and_eq_true, bne_iff_ne, Bool.not_eq_true'] at passes
          obtain ⟨foreign, free⟩ := passes
          refine ⟨foreign, ?_, ?_⟩
          · intro received
            simp [received, PlainCaller.reads] at free
          · intro checked
            simp [checked, PlainCaller.reads] at free
      | test => trivial
      | copy => trivial
      | finish => trivial
  | server label => trivial
  | push index request => trivial
  | pop mq => trivial

/-- The server takes and answers its oldest request. -/
def sampleServe : List (PlainReadLabel Unit Unit) :=
  [.server (.receive ()), .server (.handle () (Kernel.transfer (File.filled 8192 1) 0 4096)),
    .server (.send ())]

def sampleThread : List (PlainReadLabel Unit Unit) :=
  [.replyThread (.receive fun _ => 0), .replyThread .test, .replyThread .copy]

/-- The flush is completed before the reply to the read is sent. -/
def sampleFlushed : List (PlainReadLabel Unit Unit) :=
  sampleServe ++ [.caller .begin, .caller .send] ++ sampleThread ++ [.replyThread .finish] ++
    sampleServe

def returned (state : PlainRead Unit Unit) : Bool :=
  match state.caller with
  | .returned => state.message 0 == 1 && state.called == [64]
  | _ => false

theorem sample_ownReplies : ∃ trace state, (machine sampleCall).Run
      (fun state label => Valid sampleCall state label ∧ Ordered sampleCall state label)
      sampleStart trace state ∧
    returned state = true ∧ OwnReplies sampleCall state := by
  obtain ⟨trace, state, run, test⟩ := Machine.Run.of_exec (machine sampleCall) sampleStart
    (fun state label => valid state label && ordered state label)
    (fun state label passes => by
      simp only [Bool.and_eq_true] at passes
      exact And.intro (valid_sound passes.1) (ordered_sound passes.2))
    (sampleFlushed ++ [.caller (.receive fun _ => 0), .caller .check, .caller .copy])
    (fun _ state => returned state) (by decide +kernel)
  exact ⟨trace, state, run, test, Start.ownReplies sampleStart_start run⟩

/-- The reply thread gets the reply to the read, and its `assert(acb)` fails. -/
theorem read_taken : ¬∀ (start : PlainRead Unit Unit) trace state, Start sampleCall start →
    (machine sampleCall).Run (Valid sampleCall) start trace state →
      OwnReplies sampleCall state := by
  intro owns
  obtain ⟨trace, state, run, test⟩ := Machine.Run.of_exec (machine sampleCall) sampleStart valid
    (fun state label passes => valid_sound passes) (sampleFlushed ++ sampleThread)
    (fun _ state => state.client.fault.isSome) (by decide +kernel)
  have kept := owns sampleStart trace state sampleStart_start run
  simp [kept.healthy.1] at test

end PlainRead

end Cvbd
