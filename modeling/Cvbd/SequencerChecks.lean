import Cvbd.SequencerCore

/-!
Every step of the exchange is one of the sequencer or not seen at all. A request
counts as served when its handler runs: what the thread still has to do then, to
send the reply and to clear away a failed OPEN, nobody else can come before.
-/

namespace Cvbd

/-- A `VolumeState` that is still to be deleted is there. -/
def World.Clearable (world : World) (doomed : Option UInt64) : Prop :=
  ∀ volume, doomed = some volume → ∃ volState, world.volumes volume = some volState

namespace World

variable {world : World}

theorem settle_none (world : World) : world.settle none = world := rfl

theorem settle_null (world : World) : world.settle (some 0) = world := by
  simp [settle, IOHandler.closeVolume, Outcome.world]

theorem settle_live {volume : UInt64} {volState : VolumeState} (nonzero : volume ≠ 0)
    (live : world.volumes volume = some volState) :
    world.settle (some volume) = world.dropVolume volume volState := by
  simp [settle, IOHandler.closeVolume, nonzero, live, dropVolume, Outcome.world]

theorem settle_setQueue (world : World) (name : Name) (queue : Option Nat)
    (doomed : Option UInt64) :
    (world.setQueue name queue).settle doomed = (world.settle doomed).setQueue name queue := by
  cases doomed with
  | none => rfl
  | some volume =>
      by_cases null : volume = 0
      · subst null
        rw [settle_null, settle_null]
      · cases live : world.volumes volume with
        | none => simp [settle, IOHandler.closeVolume, null, live, Outcome.world]
        | some volState =>
            rw [settle_live null live, settle_live null (by simpa using live)]
            rfl

theorem Clearable.setQueue {doomed : Option UInt64} (clearable : world.Clearable doomed)
    (name : Name) (queue : Option Nat) : (world.setQueue name queue).Clearable doomed :=
  clearable

end World

namespace IOHandler

variable {world : World} {kernel : Kernel} {request : Request}

/-- The `VolumeState` that a handler leaves to be deleted is the one it has made. -/
theorem Handling.clearable {after : World} {mq : Nat} {reply : Reply} {closing : Option UInt64}
    (handling : Handling world kernel request (.reply after mq reply closing)) :
    after.Clearable closing := by
  rintro volume rfl
  generalize next : some volume = closing at handling
  cases handling with
  | replied io live grown answers => simp at next
  | opened named replyNamed attached obtained opens =>
      split at next
      · simp at next
      · obtain rfl := Option.some.inj next
        rw [opens.volumes]
        exact ⟨_, Function.update_self ..⟩

theorem turn_done {after : World} (handled : handle world kernel request = .done after) :
    turn world kernel request = .ok (after, []) := by
  simp [turn, handled]

theorem turn_fault {after : World} {fault : Fault}
    (handled : handle world kernel request = .fault after fault) :
    turn world kernel request = .error fault := by
  simp [turn, handled]

/-- A turn is the handler together with the deletion it leaves to be done. -/
theorem turn_reply {after : World} {mq : Nat} {message : Reply} {closing : Option UInt64}
    (handled : handle world kernel request = .reply after mq message closing) :
    turn world kernel request = .ok (after.settle closing, [(mq, message)]) := by
  have handling := handle_spec world kernel request
  rw [handled] at handling
  have clearable := handling.clearable
  cases closing with
  | none => simp [turn, handled, World.settle_none]
  | some volume =>
      obtain ⟨volState, live⟩ := clearable volume rfl
      by_cases null : volume = 0
      · subst null
        simp [turn, handled, closeVolume, World.settle_null]
      · simp [turn, handled, closeVolume, null, live, World.settle_live null live,
          World.dropVolume]

end IOHandler

/-- What a turn makes of a request that is no stop message. -/
theorem Sequencer.turn_eq {Client : Type} {sequencer : Sequencer Client} {kernel : Kernel}
    {world : World} {request : Envelope Client Request} {rest : List (Envelope Client Request)}
    (server : sequencer.server = .ok world) (running : sequencer.halted = false)
    (pending : sequencer.pending = request :: rest)
    (notStop : ∀ header, request.body ≠ .stop header) :
    sequencer.turn kernel =
      match IOHandler.turn world kernel request.body with
      | .error fault => some ({ sequencer with server := .error fault }, [])
      | .ok (after, replies) => some ({ sequencer with
          server := .ok after
          pending := rest
          outbox := post sequencer.outbox (replies.map request.answer) },
          [.served () request (world.served request.body)
            (IOHandler.effects world kernel request.body) (replies.map request.answer)]) := by
  unfold turn
  rw [server, running, pending]
  dsimp only
  split
  · rename_i header body
    exact (notStop header body).elim
  · rfl

/-- A message joins the end of one queue. -/
theorem update_append {Key Value : Type} [DecidableEq Key] (queues : Key → List Value) (key : Key)
    (value : Value) :
    Function.update queues key (queues key ++ [value]) =
      fun other => queues other ++ if key = other then [value] else [] := by
  funext other
  by_cases same : other = key
  · simp [same]
  · simp [same, Ne.symm same]

namespace Exchange

variable {Client : Type} {exchange after : Exchange Unit Client}

/-- What the thread is about to delete is there, and it has no stop message in hand. -/
structure Steady (exchange : Exchange Unit Client) : Prop where
  clearable : exchange.world.Clearable (exchange.thread ()).doomed
  notStop : ∀ request, exchange.thread () = .hand request → ∀ header, request.body ≠ .stop header

theorem Steady.of_idle (idle : exchange.thread () = .idle) : exchange.Steady where
  clearable := by simp [World.Clearable, idle, Thread.doomed]
  notStop := by simp [idle]

theorem Steady.serverStep (steady : exchange.Steady) {label : ServerLabel Unit}
    (move : exchange.ServerMove label after) : after.Steady := by
  cases move with
  | @received _ request rest idle queue notStop =>
      refine ⟨by simp [World.Clearable, setThread, Thread.doomed], ?_⟩
      intro other hand
      obtain rfl : request = other := by simpa [setThread] using hand
      exact notStop
  | stopped => exact ⟨by simp [World.Clearable, setThread, Thread.doomed], by simp [setThread]⟩
  | done => exact ⟨by simp [World.Clearable, setThread, Thread.doomed], by simp [setThread]⟩
  | replied hand handling =>
      exact ⟨by simpa [setThread, Thread.doomed] using handling.clearable, by simp [setThread]⟩
  | aborted hand handling =>
      exact ⟨by simp [World.Clearable, hand, Thread.doomed], steady.notStop⟩
  | @sent _ mq reply closing sends room =>
      have clearable := steady.clearable
      rw [sends] at clearable
      cases closing with
      | none =>
          exact ⟨by simp [World.Clearable, setThread, afterSend, Thread.doomed],
            by simp [setThread, afterSend]⟩
      | some volume =>
          exact ⟨by simpa [setThread, afterSend, Thread.doomed] using clearable,
            by simp [setThread, afterSend]⟩
  | closed => exact ⟨by simp [World.Clearable, setThread, Thread.doomed], by simp [setThread]⟩
  | closedNull => exact ⟨by simp [World.Clearable, setThread, Thread.doomed], by simp [setThread]⟩
  | closedDead => exact ⟨steady.clearable, steady.notStop⟩

theorem Steady.step (steady : exchange.Steady) {label : SystemLabel Unit Client}
    {events : List (SystemEvent Unit Client)}
    (stepped : system.step exchange label = some (after, events)) : after.Steady := by
  cases label with
  | submit index request =>
      obtain ⟨pushed, push, equal⟩ := Option.map_eq_some_iff.mp stepped
      obtain rfl := congrArg Prod.fst equal
      obtain ⟨_, rfl⟩ := pushRequest_spec push
      exact ⟨steady.clearable, steady.notStop⟩
  | take mq =>
      obtain ⟨taken, pop, equal⟩ := Option.map_eq_some_iff.mp stepped
      obtain rfl := congrArg Prod.fst equal
      obtain ⟨rest, _, rest_eq⟩ := popReply_spec pop
      rw [rest_eq]
      exact ⟨steady.clearable, steady.notStop⟩
  | rename name queue =>
      obtain ⟨rfl, _⟩ := Prod.mk.inj (Option.some.inj stepped)
      exact ⟨steady.clearable.setQueue name queue, steady.notStop⟩
  | server label =>
      obtain ⟨moved, move, equal⟩ := Option.map_eq_some_iff.mp stepped
      obtain rfl := congrArg Prod.fst equal
      exact steady.serverStep (serverStep_move move).2

/-! The steps that nobody sees. -/

theorem sequencer_received {index : Unit} {request : Envelope Client Request}
    {rest : List (Envelope Client Request)} (idle : exchange.thread index = .idle)
    (queue : exchange.requestMq index = request :: rest) :
    (({ exchange with requestMq := Function.update exchange.requestMq index rest }).setThread index
      (.hand request)).sequencer = exchange.sequencer := by
  cases index
  simp [sequencer, setThread, idle, queue, Thread.current, Thread.leaving, Thread.doomed,
    Thread.isStopped]

theorem sequencer_sent {index : Unit} {mq : Nat} {reply : Envelope Client Reply}
    {closing : Option UInt64} (sends : exchange.thread index = .sending mq reply closing) :
    (({ exchange with
      replyMq := Function.update exchange.replyMq mq (exchange.replyMq mq ++ [reply]) }).setThread
        index (afterSend closing)).sequencer = exchange.sequencer := by
  cases index
  cases closing with
  | none =>
      simp [sequencer, setThread, sends, afterSend, update_append, Thread.doomed, Thread.current,
        Thread.isStopped, Thread.leaving]
  | some volume =>
      simp [sequencer, setThread, sends, afterSend, update_append, Thread.doomed, Thread.current,
        Thread.isStopped, Thread.leaving]

theorem closeStep_spec (steady : exchange.Steady) {index : Unit}
    (stepped : exchange.closeStep index = some after) :
    ∃ volume, exchange.thread index = .closing volume ∧
      after = ({ exchange with world := exchange.world.settle (some volume) }).setThread index
        .idle := by
  cases index
  unfold closeStep at stepped
  split at stepped
  · rename_i volume closing
    have clearable := steady.clearable
    rw [closing] at clearable
    obtain ⟨volState, live⟩ := clearable volume rfl
    refine ⟨volume, closing, ?_⟩
    by_cases null : volume = 0
    · subst null
      simp only [IOHandler.closeVolume, if_true, Option.some.injEq] at stepped
      rw [World.settle_null, ← stepped]
    · simp only [IOHandler.closeVolume, null, if_false, live, Option.some.injEq] at stepped
      rw [World.settle_live null live, ← stepped]
      rfl
  · simp at stepped

theorem sequencer_closed {index : Unit} {volume : UInt64}
    (closing : exchange.thread index = .closing volume) :
    (({ exchange with world := exchange.world.settle (some volume) }).setThread index
      .idle).sequencer = exchange.sequencer := by
  cases index
  simp [sequencer, setThread, closing, World.settle_none, Thread.current, Thread.leaving,
    Thread.doomed, Thread.isStopped]

/-! The steps of the server that are steps of the sequencer. -/

theorem sequencer_stopped {index : Unit} {request : Envelope Client Request}
    {rest : List (Envelope Client Request)} {header : Header} (running : exchange.fault = none)
    (idle : exchange.thread index = .idle) (queue : exchange.requestMq index = request :: rest)
    (stop : request.body = .stop header) :
    exchange.sequencer.stop =
      some (({ exchange with
        requestMq := Function.update exchange.requestMq index rest }).setThread index
          .stopped).sequencer := by
  cases index
  simp [sequencer, Sequencer.stop, setThread, running, idle, queue, stop, Thread.current,
    Thread.leaving, Thread.doomed, Thread.isStopped]

theorem sequencer_handled {index : Unit} {kernel : Kernel} {request : Envelope Client Request}
    (running : exchange.fault = none) (hand : exchange.thread index = .hand request)
    (notStop : ∀ header, request.body ≠ .stop header)
    (stepped : exchange.handleStep index kernel = some after) :
    exchange.sequencer.turn kernel =
      some (after.sequencer, exchange.served (.handle index kernel)) := by
  cases index
  have server : exchange.sequencer.server = .ok exchange.world := by
    simp [sequencer, running, hand, Thread.doomed, World.settle_none]
  have running' : exchange.sequencer.halted = false := by
    simp [sequencer, hand, Thread.isStopped]
  have pending : exchange.sequencer.pending = request :: exchange.requestMq () := by
    simp [sequencer, hand, Thread.current]
  rw [Sequencer.turn_eq server running' pending notStop]
  unfold handleStep at stepped
  simp only [hand] at stepped
  simp only [served, hand]
  cases outcome : IOHandler.handle exchange.world kernel request.body with
  | done world =>
      simp only [outcome, ownerAfter_done, Option.some.injEq] at stepped
      subst stepped
      rw [IOHandler.turn_done outcome]
      simp [sequencer, setThread, running, hand, Thread.doomed, Thread.current, Thread.isStopped,
        Thread.leaving, World.settle_none, Sequencer.post, Outcome.replies]
  | reply world mq message closing =>
      simp only [outcome, Option.some.injEq] at stepped
      subst stepped
      rw [IOHandler.turn_reply outcome]
      simp [sequencer, setThread, running, hand, Thread.doomed, Thread.current, Thread.isStopped,
        Thread.leaving, World.settle_none, Sequencer.post, Outcome.replies, Envelope.answer,
        update_append]
  | fault world fault =>
      simp only [outcome, ownerAfter_fault, Option.some.injEq] at stepped
      subst stepped
      rw [IOHandler.turn_fault outcome]
      simp [sequencer, running, hand, Thread.doomed, Thread.current, Thread.isStopped,
        Thread.leaving, World.settle_none]

theorem follows_handled (steady : exchange.Steady) {index : Unit} {kernel : Kernel}
    {request : Envelope Client Request} (valid : exchange.ValidLabel (.handle index kernel))
    (running : exchange.fault = none) (hand : exchange.thread index = .hand request)
    (stepped : exchange.serverStep (.handle index kernel) = some after) :
    ∃ label, exchange.sequencer.Lawful label ∧
      Sequencer.machine.step exchange.sequencer label =
        some (after.sequencer, exchange.served (.handle index kernel)) := by
  cases index
  have handled : exchange.handleStep () kernel = some after := by
    simpa [serverStep, running] using stepped
  refine ⟨.turn kernel, ?_, sequencer_handled running hand (steady.notStop request hand) handled⟩
  intro world other server pending
  obtain rfl : exchange.world = world := by
    simpa [sequencer, running, hand, Thread.doomed, World.settle_none] using server
  obtain rfl : request = other := by simpa [sequencer, hand, Thread.current] using pending
  exact valid request hand

theorem follows_closed (steady : exchange.Steady) {index : Unit} (running : exchange.fault = none)
    (stepped : exchange.serverStep (.close index) = some after) :
    after.sequencer = exchange.sequencer ∧ exchange.served (.close index) = [] := by
  have closes : exchange.closeStep index = some after := by
    simpa [serverStep, running] using stepped
  obtain ⟨volume, closing, rfl⟩ := closeStep_spec steady closes
  exact ⟨sequencer_closed closing, rfl⟩

/-- The step is one of the sequencer, or nobody sees it. -/
def Follows (exchange after : Exchange Unit Client)
    (events : List (SystemEvent Unit Client)) : Prop :=
  (after.sequencer = exchange.sequencer ∧ events = []) ∨
    ∃ label, exchange.sequencer.Lawful label ∧
      Sequencer.machine.step exchange.sequencer label = some (after.sequencer, events)

theorem follows_server (steady : exchange.Steady) {label : ServerLabel Unit}
    (valid : exchange.ValidLabel label) (stepped : exchange.serverStep label = some after) :
    exchange.Follows after (exchange.served label) := by
  obtain ⟨running, move⟩ := serverStep_move stepped
  cases move with
  | received idle queue notStop => exact Or.inl ⟨sequencer_received idle queue, rfl⟩
  | stopped idle queue stop =>
      refine Or.inr ⟨.stop, trivial, ?_⟩
      simp only [Sequencer.machine, sequencer_stopped running idle queue stop]
      rfl
  | sent sends room => exact Or.inl ⟨sequencer_sent sends, rfl⟩
  | done hand handling => exact Or.inr (follows_handled steady valid running hand stepped)
  | replied hand handling => exact Or.inr (follows_handled steady valid running hand stepped)
  | aborted hand handling => exact Or.inr (follows_handled steady valid running hand stepped)
  | closed closing live => exact Or.inl (follows_closed steady running stepped)
  | closedNull closing => exact Or.inl (follows_closed steady running stepped)
  | closedDead closing gone => exact Or.inl (follows_closed steady running stepped)

theorem follows (steady : exchange.Steady) {label : SystemLabel Unit Client}
    (lawful : exchange.Lawful label) {events : List (SystemEvent Unit Client)}
    (stepped : system.step exchange label = some (after, events)) :
    exchange.Follows after events := by
  cases label with
  | submit index request =>
      obtain ⟨pushed, push, equal⟩ := Option.map_eq_some_iff.mp stepped
      obtain ⟨rfl, rfl⟩ := Prod.mk.inj equal
      obtain ⟨_, rfl⟩ := pushRequest_spec push
      refine Or.inr ⟨.submit request, trivial, ?_⟩
      simp [Sequencer.machine, sequencer]
  | take mq =>
      obtain ⟨⟨reply, rest⟩, pop, equal⟩ := Option.map_eq_some_iff.mp stepped
      obtain ⟨rfl, rfl⟩ := Prod.mk.inj equal
      obtain ⟨replies, queue, rfl⟩ := popReply_spec pop
      refine Or.inr ⟨.take mq, trivial, ?_⟩
      have outbox : Function.update
          (fun other => exchange.replyMq other ++ (exchange.thread ()).leaving other) mq
            (replies ++ (exchange.thread ()).leaving mq) =
          fun other => Function.update exchange.replyMq mq replies other ++
            (exchange.thread ()).leaving other := by
        funext other
        by_cases same : other = mq
        · subst same
          simp
        · simp [same]
      simp [Sequencer.machine, Sequencer.take, sequencer, queue, outbox]
  | rename name queue =>
      obtain ⟨rfl, rfl⟩ := Prod.mk.inj (Option.some.inj stepped)
      refine Or.inr ⟨.rename name queue, trivial, ?_⟩
      cases alive : exchange.fault with
      | none => simp [Sequencer.machine, sequencer, alive, World.settle_setQueue, Except.map]
      | some fault => simp [Sequencer.machine, sequencer, alive, Except.map]
  | server label =>
      obtain ⟨moved, move, equal⟩ := Option.map_eq_some_iff.mp stepped
      obtain ⟨rfl, rfl⟩ := Prod.mk.inj equal
      exact follows_server steady lawful move

end Exchange

end Cvbd
