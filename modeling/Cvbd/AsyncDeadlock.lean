import Cvbd.AsyncRanged
import Cvbd.AsyncTotal

/-!
The bounded queues cannot deadlock: whoever waits, somebody else can go on. The
server may wait for a full reply queue and an event loop for a full request
queue, but a reply thread waits for nothing but a reply.
-/

namespace Cvbd

namespace AsyncState

variable {Index Client : Type} [DecidableEq Index] [DecidableEq Client]
variable {endpoints : Client → Endpoint Index} {initial state : AsyncState Index Client}
variable {trace : List (Event Client)} {sizes : Client → Nat}

/-- Somebody waits: a coroutine for its completion, an event loop for room in the request queue, or
a server thread for room in a reply queue. -/
inductive Waiting (endpoints : Client → Endpoint Index) (state : AsyncState Index Client) : Prop
  | suspended {client call coroutine} (found : (state.clients client).coroutines call = some coroutine)
      (yielded : coroutine.pc = .yielded)
  | requestBlocked {client call coroutine request}
      (executing : (state.clients client).current = some call)
      (found : (state.clients client).coroutines call = some coroutine)
      (sending : coroutine.pc = .sending request)
      (full : maxQueueSize ≤ (state.exchange.requestMq (endpoints client).index).length)
  | replyBlocked {index mq reply closing}
      (sending : state.exchange.thread index = .sending mq reply closing)
      (full : maxQueueSize ≤ (state.exchange.replyMq mq).length)

/-- The steps that count as progress: the server receives, handles or answers a request, an event
loop sends a request, executes a coroutine or runs a bottom half, or a reply thread receives or
completes a reply. -/
def Progress : AsyncLabel Index Client → Prop
  | .client _ .send | .client _ .receive => True
  | .client _ (.inside label) => label.Internal
  | .server (.receive _) | .server (.handle _ _) | .server (.send _) => True
  | .server (.close _) => False

/-- No connected client's thread is closing a volume, so what is enabled is progress. -/
theorem Internal.progress {label : AsyncLabel Index Client} (wired : state.exchange.Wired endpoints)
    (internal : state.Internal label)
    (enabled : ((machine endpoints).step state label).isSome = true) : Progress label := by
  cases label with
  | client client label =>
      cases label with
      | send => trivial
      | receive => trivial
      | inside label => exact internal
  | server label =>
      cases label with
      | receive index => trivial
      | handle index kernel => trivial
      | send index => trivial
      | close index =>
          simp only [machine, Exchange.serverStep, wired.closeStep_none] at enabled
          split at enabled
          · rename_i exchange stepped
            split at stepped <;> simp at stepped
          · simp at enabled

/-- The kernel behaves, sends do not fail, and every call fits into one message and lies inside its
client's volume. -/
def Accepts (endpoints : Client → Endpoint Index) (initial state : AsyncState Index Client)
    (label : AsyncLabel Index Client) : Prop :=
  state.Valid label ∧ Fits label ∧
    state.InRange (fun client => (initial.content endpoints client).size) label

theorem Started.ranged (started : initial.Started endpoints)
    (run : (machine endpoints).Run (Accepts endpoints initial) initial trace state) :
    state.Inv endpoints ∧ (∀ client, (state.view endpoints client).Sound) ∧
      state.Ranged endpoints fun client => (initial.content endpoints client).size := by
  refine run.invariant (fun _ state => state.Inv endpoints ∧
    (∀ client, (state.view endpoints client).Sound) ∧
      state.Ranged endpoints fun client => (initial.content endpoints client).size) ?_ ?_
  · refine ⟨started.inv, (started.sound Machine.Run.start).2, started.running, ?_⟩
    intro client
    refine ⟨rfl, ?_⟩
    intro call coroutine found
    have none := (started.clients client).coroutines call
    have found : (initial.clients client).coroutines call = some coroutine := found
    simp [none] at found
  · rintro trace state label after events ⟨inv, sound, ranged⟩ ⟨valid, fits, inRange⟩ stepped
    exact ⟨inv.step valid stepped, inv.sound_step sound valid fits stepped,
      ranged.step inv valid inRange stepped⟩

/-- Whoever waits, some step can be taken. -/
theorem Waiting.canStep (waiting : state.Waiting endpoints) (inv : state.Inv endpoints)
    (running : state.exchange.fault = none)
    (sound : ∀ client, (state.view endpoints client).Sound) : state.CanStep endpoints := by
  cases waiting with
  | @suspended client call coroutine found yielded =>
      refine inv.canStep running sound ?_
      intro finished
      have returned := finished.returned client call coroutine found
      simp [yielded, CoPc.isReturned] at returned
  | requestBlocked executing found sending full => exact inv.canStep_running running sound executing
  | @replyBlocked index mq reply closing sending full =>
      exact inv.canStep_server running sound index (Or.inr (by simp [sending]))

/-- With calls inside the volumes and sends that do not fail, there is no deadlock: in every
reachable state in which somebody waits, a step that makes progress is enabled, and it ends neither
the server nor a client. -/
theorem Started.noDeadlock (started : initial.Started endpoints)
    (run : (machine endpoints).Run (Accepts endpoints initial) initial trace state)
    (waiting : state.Waiting endpoints) :
    ∃ label after events, state.Valid label ∧ Progress label ∧
      (machine endpoints).step state label = some (after, events) ∧
      after.exchange.fault = none ∧ ∀ client, (after.clients client).fault = none := by
  obtain ⟨inv, sound, ranged⟩ := started.ranged run
  obtain ⟨label, ⟨valid, internal⟩, enabled⟩ := waiting.canStep inv ranged.running sound
  obtain ⟨⟨after, events⟩, stepped⟩ := Option.isSome_iff_exists.mp enabled
  refine ⟨label, after, events, valid, internal.progress inv.wired enabled, stepped, ?_, ?_⟩
  · exact (ranged.step inv valid internal.inRange stepped).running
  · intro client
    exact (inv.sound_step sound valid internal.fits stepped client).fault

/-! A flush that waits for its completion. -/

/-- A label that only makes, sends or suspends flushes. -/
def flushes (state : AsyncState Unit Unit) : AsyncLabel Unit Unit → Bool
  | .client client (.inside (.call .flush address _)) =>
      decide (address ≠ 0) && ((state.clients client).heap address).isNone
  | .client _ .send | .client _ (.inside .yield) => true
  | _ => false

theorem flushes_accepted {state : AsyncState Unit Unit} {label : AsyncLabel Unit Unit}
    (flush : state.flushes label = true) : Accepts (fun _ => .sample) sample state label := by
  unfold flushes at flush
  split at flush
  · simp only [Bool.and_eq_true, decide_eq_true_eq, Option.isNone_iff_eq_none] at flush
    exact ⟨flush, Nat.zero_le _, trivial⟩
  · exact ⟨trivial, trivial, trivial⟩
  · exact ⟨trivial, trivial, trivial⟩
  · simp at flush

def sampleFlushing : List (AsyncLabel Unit Unit) :=
  [.client () (.inside (.call .flush 64 ⟨0, 0, 0, none, false, false⟩)), .client () .send,
    .client () (.inside .yield)]

/-- The flush has yielded and its message is in the queue. -/
def sampleSuspended (state : AsyncState Unit Unit) : Bool :=
  match (state.clients ()).coroutines 0 with
  | some ⟨.flush, _, _, .yielded⟩ => true
  | _ => false

theorem sample_noDeadlock : ∃ trace state label after events,
    (machine fun _ => .sample).Run (Accepts (fun _ => .sample) sample) sample trace state ∧
      state.sampleSuspended = true ∧ Progress label ∧
      (machine fun _ => .sample).step state label = some (after, events) := by
  obtain ⟨trace, state, run, passes⟩ := Machine.Run.of_exec (machine fun _ => .sample) sample
    flushes (fun _ _ => flushes_accepted) sampleFlushing (fun _ state => state.sampleSuspended)
    (by decide +kernel)
  have suspended := passes
  simp only [sampleSuspended] at passes
  split at passes
  · rename_i found
    obtain ⟨label, after, events, _, progress, stepped, _⟩ :=
      sample_started.noDeadlock run (.suspended found rfl)
    exact ⟨_, state, label, after, events, run, suspended, progress, stepped⟩
  · simp at passes

end AsyncState

end Cvbd
