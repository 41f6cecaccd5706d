import Cvbd.ExchangeMoves
import Cvbd.ServerShutdownCore

/-! A shutdown that waits for each thread before it releases the queue is clean. -/

namespace Cvbd

namespace ServerShutdown

variable {Client : Type}

/-- One queue and its thread: every request that arrived was handled, is in hand or still queued,
and a thread ends at the first stop message. -/
structure Place (thread : Thread (Option Client)) (queue : List (Envelope (Option Client) Request))
    (arrived handled : List Request) : Prop where
  running : thread ≠ .stopped → arrived = handled ++ inHand thread ++ queue.map Envelope.body
  ended : thread = .stopped → ∃ header later, arrived = handled ++ .stop header :: later
  hand : ∀ request ∈ inHand thread, ∀ header, request ≠ .stop header
  noStop : ∀ request ∈ handled, ∀ header, request ≠ .stop header

namespace Place

variable {thread : Thread (Option Client)} {queue : List (Envelope (Option Client) Request)}
variable {arrived handled : List Request} {request : Envelope (Option Client) Request}

theorem push (place : Place thread queue arrived handled) :
    Place thread (queue ++ [request]) (arrived ++ [request.body]) handled where
  running := by
    intro running
    rw [place.running running]
    simp
  ended := by
    intro stopped
    obtain ⟨header, later, equal⟩ := place.ended stopped
    exact ⟨header, later ++ [request.body], by rw [equal]; simp⟩
  hand := place.hand
  noStop := place.noStop

theorem received (place : Place .idle (request :: queue) arrived handled)
    (notStop : ∀ header, request.body ≠ .stop header) :
    Place (.hand request) queue arrived handled where
  running := by
    intro _
    rw [place.running (by simp)]
    simp [inHand]
  ended := by simp
  hand := by
    intro body member
    obtain rfl := List.mem_singleton.mp member
    exact notStop
  noStop := place.noStop

theorem stopped {header : Header} (place : Place .idle (request :: queue) arrived handled)
    (stop : request.body = .stop header) : Place .stopped queue arrived handled where
  running := by simp
  ended := by
    intro _
    refine ⟨header, queue.map Envelope.body, ?_⟩
    rw [place.running (by simp), List.map_cons, stop]
    simp [inHand]
  hand := by simp [inHand]
  noStop := place.noStop

theorem returned (place : Place (.hand request) queue arrived handled)
    {next : Thread (Option Client)} (running : next ≠ .stopped) (free : inHand next = []) :
    Place next queue arrived (handled ++ [request.body]) where
  running := by
    intro _
    rw [place.running (by simp), free]
    simp [inHand]
  ended := fun stopped => (running stopped).elim
  hand := by simp [free]
  noStop := by
    intro body member
    rcases List.mem_append.mp member with old | fresh
    · exact place.noStop body old
    · exact place.hand body (by simpa [inHand] using fresh)

theorem between (place : Place thread queue arrived handled) {next : Thread (Option Client)}
    (running : thread ≠ .stopped) (free : inHand thread = []) (goesOn : next ≠ .stopped)
    (still : inHand next = []) : Place next queue arrived handled where
  running := by
    intro _
    rw [place.running running, free, still]
  ended := fun stopped => (goesOn stopped).elim
  hand := by simp [still]
  noStop := place.noStop

end Place

/-- How many queues the destructor has released. -/
def released (queues : Nat) : ServerDestructor → Nat
  | .outside => 0
  | .sending index | .resetting index => index
  | .removing index => index + 1
  | .joining _ | .finished => queues

/-- The destructor releases the queues in order, each after its thread has ended. -/
structure Inv (state : ServerShutdown Client) : Prop where
  noMisuse : state.misuse = none
  passed : ∀ index, index < released state.queues state.destructor → state.live index = false
  gone : ∀ index, state.live index = false → state.exchange.thread index = .stopped
  joins : ∀ index, state.destructor = .joining index → index < state.queues
  place : ∀ index, Place (state.exchange.thread index) (state.exchange.requestMq index)
    (state.arrived index) (state.handled index)

variable {state after : ServerShutdown Client}

theorem Start.inv (start : state.Start) : state.Inv where
  noMisuse := start.misuse
  passed := by simp [start.destructor, released]
  gone := by simp [start.live]
  joins := by simp [start.destructor]
  place := by
    intro index
    refine ⟨fun _ => ?_, fun stopped => (start.running index stopped).elim, ?_, ?_⟩
    · rw [start.arrived, start.handled, List.nil_append]
    · intro body member header
      cases hand : state.exchange.thread index with
      | hand request =>
          obtain rfl : body = request.body := by simpa [inHand, hand] using member
          exact start.hand index request header hand
      | idle => simp [inHand, hand] at member
      | sending mq reply closing => simp [inHand, hand] at member
      | closing volume => simp [inHand, hand] at member
      | stopped => simp [inHand, hand] at member
    · simp [start.handled]

theorem Inv.kept (inv : state.Inv) : state.Clean where
  noMisuse := inv.noMisuse
  ended := by
    intro index stopped
    obtain ⟨header, later, equal⟩ := (inv.place index).ended stopped
    exact ⟨header, later, equal, (inv.place index).noStop⟩
  joinable := by
    intro index joining
    left
    apply inv.gone
    apply inv.passed
    rw [joining]
    exact inv.joins index joining

theorem Inv.act (inv : state.Inv) (index : Nat) (queues : after.queues = state.queues)
    (live : after.live = state.live) (destructor : after.destructor = state.destructor)
    (noMisuse : after.misuse = none) (running : state.exchange.thread index ≠ .stopped)
    (threads : ∀ other, other ≠ index →
      after.exchange.thread other = state.exchange.thread other)
    (places : ∀ other, other ≠ index →
      after.exchange.requestMq other = state.exchange.requestMq other ∧
        after.arrived other = state.arrived other ∧ after.handled other = state.handled other)
    (place : Place (after.exchange.thread index) (after.exchange.requestMq index)
      (after.arrived index) (after.handled index)) : after.Inv where
  noMisuse := noMisuse
  passed := by
    rw [queues, live, destructor]
    exact inv.passed
  gone := by
    intro other dead
    rw [live] at dead
    have ended := inv.gone other dead
    by_cases same : other = index
    · subst same
      exact (running ended).elim
    · rw [threads other same]
      exact ended
  joins := by
    rw [queues, destructor]
    exact inv.joins
  place := by
    intro other
    by_cases same : other = index
    · subst same
      exact place
    · obtain ⟨queue, arrived, handled⟩ := places other same
      rw [threads other same, queue, arrived, handled]
      exact inv.place other

theorem Inv.advance (inv : state.Inv) (next : ServerDestructor)
    (less : released state.queues next ≤ released state.queues state.destructor)
    (joins : ∀ index, next = .joining index → index < state.queues) :
    ({ state with destructor := next } : ServerShutdown Client).Inv where
  noMisuse := inv.noMisuse
  passed := fun index below => inv.passed index (Nat.lt_of_lt_of_le below less)
  gone := inv.gone
  joins := joins
  place := inv.place

theorem released_nextJoin (index : Nat) :
    released state.queues (state.nextJoin index) = state.queues := by
  unfold nextJoin
  split <;> rfl

theorem nextJoin_joins {place index : Nat} (joining : state.nextJoin place = .joining index) :
    index < state.queues := by
  unfold nextJoin at joining
  split at joining
  · rename_i below
    cases joining
    exact below
  · simp at joining

theorem released_nextQueue (index : Nat) :
    released state.queues (state.nextQueue index) ≤ index := by
  unfold nextQueue
  split
  · exact Nat.le_refl index
  · rename_i beyond
    rw [released_nextJoin]
    omega

theorem nextQueue_joins {place index : Nat} (joining : state.nextQueue place = .joining index) :
    index < state.queues := by
  unfold nextQueue at joining
  split at joining
  · simp at joining
  · exact nextJoin_joins joining

theorem Inv.push (inv : state.Inv) {index : Nat} {request : Envelope (Option Client) Request}
    (stepped : state.push index request = some after) :
    after.Inv ∧ after.queues = state.queues ∧ after.destructor = state.destructor := by
  obtain ⟨exchange, pushed, rfl⟩ := Option.map_eq_some_iff.mp stepped
  obtain ⟨_, rfl⟩ := Exchange.pushRequest_spec pushed
  refine ⟨⟨inv.noMisuse, inv.passed, inv.gone, inv.joins, ?_⟩, rfl, rfl⟩
  intro other
  by_cases same : other = index
  · subst same
    simpa using (inv.place other).push
  · simpa [same] using inv.place other

theorem Inv.destruct (inv : state.Inv) (stepped : state.destruct = some after) : after.Inv := by
  unfold ServerShutdown.destruct at stepped
  split at stepped
  · obtain rfl := Option.some.inj stepped
    refine inv.advance _ ?_ fun _ => nextQueue_joins
    exact Nat.le_trans (released_nextQueue 0) (Nat.zero_le _)
  · simp at stepped

theorem Inv.send (inv : state.Inv) (stepped : state.send = some after) : after.Inv := by
  unfold ServerShutdown.send at stepped
  split at stepped
  · rename_i index sending
    split at stepped
    · rename_i sent pushed
      obtain rfl := Option.some.inj stepped
      obtain ⟨kept, queues, destructor⟩ := inv.push pushed
      refine kept.advance _ ?_ (by simp)
      rw [destructor, sending]
      exact Nat.le_refl index
    · obtain rfl := Option.some.inj stepped
      refine inv.advance _ ?_ (by simp)
      rw [sending]
      exact Nat.le_refl index
  · simp at stepped

/-- The only step that needs the condition. -/
theorem Inv.reset (inv : state.Inv) (awaits : state.Awaits .reset)
    (stepped : state.reset = some after) : after.Inv := by
  unfold ServerShutdown.reset at stepped
  split at stepped
  · rename_i index resetting
    obtain rfl := Option.some.inj stepped
    have ended := awaits index resetting
    refine ⟨inv.noMisuse, ?_, ?_, by simp, inv.place⟩
    · intro other below
      by_cases same : other = index
      · simp [same]
      · simp only [Function.update_of_ne same]
        apply inv.passed
        rw [resetting]
        simp only [released] at below ⊢
        omega
    · intro other dead
      by_cases same : other = index
      · rw [same]
        exact ended
      · exact inv.gone other (by simpa [same] using dead)
  · simp at stepped

theorem Inv.remove (inv : state.Inv) (stepped : state.remove = some after) : after.Inv := by
  unfold ServerShutdown.remove at stepped
  split at stepped
  · rename_i index removing
    obtain rfl := Option.some.inj stepped
    refine inv.advance _ ?_ fun _ => nextQueue_joins
    rw [removing]
    exact released_nextQueue (index + 1)
  · simp at stepped

theorem Inv.join (inv : state.Inv) (stepped : state.join = some after) : after.Inv := by
  unfold ServerShutdown.join at stepped
  split at stepped
  · rename_i index joining
    split at stepped
    · obtain rfl := Option.some.inj stepped
      refine inv.advance _ ?_ fun _ => nextJoin_joins
      rw [joining, released_nextJoin]
      exact Nat.le_refl _
    · simp at stepped
  · simp at stepped

theorem Inv.enter (inv : state.Inv) {index : Nat} (stepped : state.enter index = some after) :
    after.Inv := by
  unfold ServerShutdown.enter at stepped
  split at stepped
  · rename_i idle _
    split at stepped
    · obtain rfl := Option.some.inj stepped
      exact ⟨inv.noMisuse, inv.passed, inv.gone, inv.joins, inv.place⟩
    · rename_i dead
      have ended := inv.gone index (by simpa using dead)
      simp [idle] at ended
  · simp at stepped

theorem Inv.receive (inv : state.Inv) {index : Nat} (stepped : state.receive index = some after) :
    after.Inv := by
  unfold ServerShutdown.receive at stepped
  split at stepped
  · rename_i idle _
    split at stepped
    · obtain ⟨exchange, received, rfl⟩ := Option.map_eq_some_iff.mp stepped
      have place := inv.place index
      have running : state.exchange.thread index ≠ .stopped := by simp [idle]
      cases (Exchange.serverStep_move received).2 with
      | received _ queue notStop =>
          rw [idle, queue] at place
          refine inv.act index rfl rfl rfl inv.noMisuse running ?_ ?_ ?_
          · intro other different
            simp [Exchange.setThread, different]
          · intro other different
            simp [Exchange.setThread, different]
          · simpa [Exchange.setThread] using place.received notStop
      | stopped _ queue stop =>
          rw [idle, queue] at place
          refine inv.act index rfl rfl rfl inv.noMisuse running ?_ ?_ ?_
          · intro other different
            simp [Exchange.setThread, different]
          · intro other different
            simp [Exchange.setThread, different]
          · simpa [Exchange.setThread] using place.stopped stop
    · rename_i dead
      have ended := inv.gone index (by simpa using dead)
      simp [idle] at ended
  · simp at stepped

theorem Inv.handle (inv : state.Inv) {index : Nat} {kernel : Kernel}
    (stepped : state.handle index kernel = some after) : after.Inv := by
  unfold ServerShutdown.handle at stepped
  split at stepped
  · rename_i request hand
    obtain ⟨exchange, handled, rfl⟩ := Option.map_eq_some_iff.mp stepped
    obtain ⟨healthy, move⟩ := Exchange.serverStep_move handled
    have place := inv.place index
    have running : state.exchange.thread index ≠ .stopped := by simp [hand]
    rw [hand] at place
    cases move with
    | done inHands _ =>
        obtain rfl := Thread.hand.inj (hand.symm.trans inHands)
        simp only [Exchange.setThread, healthy, Option.isSome_none, Bool.false_eq_true, if_false]
        refine inv.act index rfl rfl rfl inv.noMisuse running ?_ ?_ ?_
        · intro other different
          simp [different]
        · intro other different
          simp [different]
        · simpa using place.returned (by simp) rfl
    | replied inHands _ =>
        obtain rfl := Thread.hand.inj (hand.symm.trans inHands)
        simp only [Exchange.setThread, healthy, Option.isSome_none, Bool.false_eq_true, if_false]
        refine inv.act index rfl rfl rfl inv.noMisuse running ?_ ?_ ?_
        · intro other different
          simp [different]
        · intro other different
          simp [different]
        · simpa using place.returned (by simp) rfl
    | aborted _ _ =>
        simp only [Option.isSome_some, if_true]
        exact ⟨inv.noMisuse, inv.passed, inv.gone, inv.joins, inv.place⟩
  · simp at stepped

theorem Inv.finish (inv : state.Inv) {label : ServerLabel Nat} {exchange : Exchange Nat (Option Client)}
    (moved : state.exchange.ServerMove label exchange)
    (late : label = .send label.index ∨ label = .close label.index) :
    ({ state with exchange } : ServerShutdown Client).Inv := by
  have goOn (next : Thread (Option Client)) (place : Nat) (world : World)
      (replyMq : Nat → List (Envelope (Option Client) Reply))
      (running : state.exchange.thread place ≠ .stopped)
      (free : inHand (state.exchange.thread place) = []) (goesOn : next ≠ .stopped)
      (still : inHand next = []) :
      ({ state with
        exchange := ({ state.exchange with world, replyMq }).setThread place next } :
          ServerShutdown Client).Inv := by
    refine inv.act place rfl rfl rfl inv.noMisuse running ?_ ?_ ?_
    · intro other different
      simp [Exchange.setThread, different]
    · intro other different
      simp [Exchange.setThread]
    · simpa [Exchange.setThread] using (inv.place place).between running free goesOn still
  cases moved with
  | received => simp [ServerLabel.index] at late
  | stopped => simp [ServerLabel.index] at late
  | done => simp [ServerLabel.index] at late
  | replied => simp [ServerLabel.index] at late
  | aborted => simp [ServerLabel.index] at late
  | @sent index mq reply closing sends room =>
      refine goOn _ index _ _ (by simp [sends]) (by simp [sends, inHand]) ?_ ?_
      · cases closing <;> simp [Exchange.afterSend]
      · cases closing <;> rfl
  | @closed index volume volState closing live =>
      exact goOn .idle index _ _ (by simp [closing]) (by simp [closing, inHand]) (by simp) rfl
  | @closedNull index closing =>
      exact goOn .idle index _ _ (by simp [closing]) (by simp [closing, inHand]) (by simp) rfl
  | closedDead =>
      exact ⟨inv.noMisuse, inv.passed, inv.gone, inv.joins, inv.place⟩

theorem Inv.serve (inv : state.Inv) {label : ServerLabel Nat}
    (stepped : state.serve label = some after) : after.Inv := by
  cases label with
  | receive index => exact inv.receive stepped
  | handle index kernel => exact inv.handle stepped
  | send index =>
      obtain ⟨exchange, sent, rfl⟩ := Option.map_eq_some_iff.mp stepped
      exact inv.finish (Exchange.serverStep_move sent).2 (Or.inl rfl)
  | close index =>
      obtain ⟨exchange, closed, rfl⟩ := Option.map_eq_some_iff.mp stepped
      exact inv.finish (Exchange.serverStep_move closed).2 (Or.inr rfl)

theorem Inv.step (inv : state.Inv) {label : ShutdownLabel Client} (awaits : state.Awaits label)
    (stepped : state.step label = some after) : after.Inv := by
  cases label with
  | push index request =>
      simp only [ServerShutdown.step] at stepped
      split at stepped
      · exact (inv.push stepped).1
      · simp at stepped
  | destruct => exact inv.destruct (Option.ite_none_left_eq_some.mp stepped).2
  | send => exact inv.send (Option.ite_none_left_eq_some.mp stepped).2
  | reset => exact inv.reset awaits (Option.ite_none_left_eq_some.mp stepped).2
  | remove => exact inv.remove (Option.ite_none_left_eq_some.mp stepped).2
  | join => exact inv.join (Option.ite_none_left_eq_some.mp stepped).2
  | enter index => exact inv.enter (Option.ite_none_left_eq_some.mp stepped).2
  | server label => exact inv.serve (Option.ite_none_left_eq_some.mp stepped).2

/-- Once a queue is released, the next thing its thread does between two requests is a misuse. -/
theorem released_misused {index : Nat} (below : index < state.queues) (up : state.down = false)
    (idle : state.exchange.thread index = .idle) (dead : state.live index = false) :
    ∃ label after, state.step label = some after ∧ after.misuse.isSome = true := by
  cases inside : state.receiving index with
  | false =>
      refine ⟨.enter index, { state with misuse := some .nullQueue }, ?_, rfl⟩
      simp [ServerShutdown.step, ServerShutdown.enter, up, below, idle, dead, inside]
  | true =>
      refine ⟨.server (.receive index), { state with misuse := some .destroyedQueue }, ?_, rfl⟩
      simp [ServerShutdown.step, serve, ServerLabel.index, ServerShutdown.receive, up, below, idle,
        dead, inside]

end ServerShutdown

end Cvbd
