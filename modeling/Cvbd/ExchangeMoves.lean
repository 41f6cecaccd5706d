import Cvbd.HandlerChecks
import Cvbd.ServiceCore

/-!
What a step of a server thread can do to the shared state, said once, and the
requests of one client that a queue and its thread hold.
-/

namespace Cvbd

namespace Exchange

variable {Index Client : Type} [DecidableEq Index]

/-- The thread goes on to delete the `VolumeState` of an OPEN that has failed. -/
def afterSend : Option UInt64 → Thread Client
  | none => .idle
  | some volume => .closing volume

/-- The steps of the server. -/
inductive ServerMove (exchange : Exchange Index Client) :
    ServerLabel Index → Exchange Index Client → Prop
  | received {index request rest} (idle : exchange.thread index = .idle)
      (queue : exchange.requestMq index = request :: rest)
      (notStop : ∀ header, request.body ≠ .stop header) :
      ServerMove exchange (.receive index)
        (({ exchange with requestMq := Function.update exchange.requestMq index rest }).setThread
          index (.hand request))
  | stopped {index request rest header} (idle : exchange.thread index = .idle)
      (queue : exchange.requestMq index = request :: rest) (stop : request.body = .stop header) :
      ServerMove exchange (.receive index)
        (({ exchange with requestMq := Function.update exchange.requestMq index rest }).setThread
          index .stopped)
  | done {index kernel request world} (hand : exchange.thread index = .hand request)
      (handling : IOHandler.Handling exchange.world kernel request.body (.done world)) :
      ServerMove exchange (.handle index kernel) (({ exchange with world }).setThread index .idle)
  | replied {index kernel request world mq reply closing}
      (hand : exchange.thread index = .hand request)
      (handling : IOHandler.Handling exchange.world kernel request.body
        (.reply world mq reply closing)) :
      ServerMove exchange (.handle index kernel)
        (({ exchange with
          world
          owner := exchange.ownerAfter kernel request (.reply world mq reply closing) }).setThread
            index (.sending mq ⟨request.sender, request.call, reply⟩ closing))
  | aborted {index kernel request world fault} (hand : exchange.thread index = .hand request)
      (handling : IOHandler.Handling exchange.world kernel request.body (.fault world fault)) :
      ServerMove exchange (.handle index kernel) { exchange with world, fault := some fault }
  | sent {index mq reply closing} (sends : exchange.thread index = .sending mq reply closing)
      (room : (exchange.replyMq mq).length < maxQueueSize) :
      ServerMove exchange (.send index)
        (({ exchange with
          replyMq := Function.update exchange.replyMq mq (exchange.replyMq mq ++ [reply]) }).setThread
            index (afterSend closing))
  | closed {index volume volState} (closing : exchange.thread index = .closing volume)
      (live : exchange.world.volumes volume = some volState) :
      ServerMove exchange (.close index)
        (({ exchange with world := exchange.world.dropVolume volume volState }).setThread index .idle)
  | closedNull {index} (closing : exchange.thread index = .closing 0) :
      ServerMove exchange (.close index) (exchange.setThread index .idle)
  | closedDead {index volume} (closing : exchange.thread index = .closing volume)
      (gone : exchange.world.volumes volume = none) :
      ServerMove exchange (.close index) { exchange with fault := some .deadVolume }

variable {exchange after : Exchange Index Client} {label : ServerLabel Index}

theorem receive_move {index : Index} (stepped : exchange.receiveStep index = some after) :
    exchange.ServerMove (.receive index) after := by
  unfold receiveStep at stepped
  split at stepped
  · rename_i request rest idle queue
    split at stepped
    · rename_i header body
      obtain rfl := Option.some.inj stepped
      exact .stopped idle queue body
    · rename_i notStop
      obtain rfl := Option.some.inj stepped
      exact .received idle queue notStop
  · simp at stepped

omit [DecidableEq Index] in
theorem ownerAfter_done (kernel : Kernel) (request : Envelope Client Request) (world : World) :
    exchange.ownerAfter kernel request (.done world) = exchange.owner := by
  unfold ownerAfter
  split <;> simp_all

omit [DecidableEq Index] in
theorem ownerAfter_fault (kernel : Kernel) (request : Envelope Client Request) (world : World)
    (fault : Fault) :
    exchange.ownerAfter kernel request (.fault world fault) = exchange.owner := by
  unfold ownerAfter
  split <;> simp_all

theorem handle_move {index : Index} {kernel : Kernel}
    (stepped : exchange.handleStep index kernel = some after) :
    exchange.ServerMove (.handle index kernel) after := by
  unfold handleStep at stepped
  split at stepped
  · rename_i request hand
    have handling := IOHandler.handle_spec exchange.world kernel request.body
    cases handled : IOHandler.handle exchange.world kernel request.body with
    | done world =>
        simp only [handled, ownerAfter_done] at stepped handling
        obtain rfl := Option.some.inj stepped
        exact .done hand handling
    | reply world mq reply closing =>
        simp only [handled] at stepped handling
        obtain rfl := Option.some.inj stepped
        exact .replied hand handling
    | fault world fault =>
        simp only [handled, ownerAfter_fault] at stepped handling
        obtain rfl := Option.some.inj stepped
        exact .aborted hand handling
  · simp at stepped

theorem send_move {index : Index} (stepped : exchange.sendStep index = some after) :
    exchange.ServerMove (.send index) after := by
  unfold sendStep at stepped
  split at stepped
  · rename_i mq reply closing sends
    split at stepped
    · rename_i room
      cases closing with
      | none =>
          obtain rfl := Option.some.inj stepped
          exact .sent sends room
      | some volume =>
          obtain rfl := Option.some.inj stepped
          exact .sent sends room
    · simp at stepped
  · simp at stepped

theorem close_move {index : Index} (stepped : exchange.closeStep index = some after) :
    exchange.ServerMove (.close index) after := by
  unfold closeStep at stepped
  split at stepped
  · rename_i volume closing
    by_cases null : volume = 0
    · subst null
      obtain rfl : exchange.setThread index .idle = after := by
        simpa [IOHandler.closeVolume] using stepped
      exact .closedNull closing
    · cases live : exchange.world.volumes volume with
      | none =>
          obtain rfl : { exchange with fault := some .deadVolume } = after := by
            simpa [IOHandler.closeVolume, null, live] using stepped
          exact .closedDead closing live
      | some volState =>
          simp only [IOHandler.closeVolume, null, if_false, live] at stepped
          obtain rfl := Option.some.inj stepped
          exact .closed closing live
  · simp at stepped

theorem serverStep_move (stepped : exchange.serverStep label = some after) :
    exchange.fault = none ∧ exchange.ServerMove label after := by
  unfold serverStep at stepped
  split at stepped
  · simp at stepped
  · rename_i running
    refine ⟨by simpa using running, ?_⟩
    cases label with
    | receive index => exact receive_move stepped
    | handle index kernel => exact handle_move stepped
    | send index => exact send_move stepped
    | close index => exact close_move stepped

theorem ServerMove.mqNames (move : exchange.ServerMove label after) :
    after.world.mqNames = exchange.world.mqNames := by
  cases move with
  | received idle queue notStop => rfl
  | stopped idle queue stop => rfl
  | done hand handling => exact handling.mqNames
  | replied hand handling => exact handling.mqNames
  | aborted hand handling => exact handling.mqNames
  | sent sends room => rfl
  | closed closing live => rfl
  | closedNull closing => rfl
  | closedDead closing gone => rfl

/-! The requests of one client. -/

variable [DecidableEq Client]

/-- The requests of the client that are queued or in hand, oldest first. -/
def inFlight (exchange : Exchange Index Client) (index : Index) (client : Client) :
    List (Envelope Client Request) :=
  (exchange.thread index).requestsOf client ++
    (exchange.requestMq index).filter fun request => request.sender = client

omit [DecidableEq Index] in
theorem mem_inFlight_hand {index : Index} {request : Envelope Client Request}
    (hand : exchange.thread index = .hand request) :
    request ∈ exchange.inFlight index request.sender := by
  simp [inFlight, hand, Thread.requestsOf]

omit [DecidableEq Index] in
theorem mem_inFlight_queued {index : Index} {request : Envelope Client Request}
    (queued : request ∈ exchange.requestMq index) :
    request ∈ exchange.inFlight index request.sender := by
  simp [inFlight, queued]

theorem inFlight_setThread {index : Index} {thread : Thread Client} (place : Index) (client : Client)
    (before : (exchange.thread index).requestsOf client = [])
    (behind : thread.requestsOf client = []) :
    (exchange.setThread index thread).inFlight place client = exchange.inFlight place client := by
  by_cases same : place = index
  · subst same
    simp [inFlight, setThread, before, behind]
  · simp [inFlight, setThread, same]

theorem inFlight_received {index : Index} {request : Envelope Client Request}
    {rest : List (Envelope Client Request)} (idle : exchange.thread index = .idle)
    (queue : exchange.requestMq index = request :: rest) (place : Index) (client : Client) :
    (({ exchange with requestMq := Function.update exchange.requestMq index rest }).setThread
      index (.hand request)).inFlight place client = exchange.inFlight place client := by
  by_cases same : place = index
  · subst same
    by_cases own : request.sender = client <;>
      simp [inFlight, setThread, idle, queue, Thread.requestsOf, own]
  · simp [inFlight, setThread, same]

/-- The request in hand is the oldest of its sender, and the others have none of theirs in hand. -/
theorem inFlight_hand {index : Index} {request : Envelope Client Request} {thread : Thread Client}
    (hand : exchange.thread index = .hand request)
    (behind : ∀ client, thread.requestsOf client = []) (place : Index) (client : Client) :
    exchange.inFlight place client =
      (if place = index ∧ request.sender = client then [request] else []) ++
        (exchange.setThread index thread).inFlight place client := by
  by_cases same : place = index
  · subst same
    simp only [inFlight, setThread, hand, Function.update_self, behind]
    by_cases own : request.sender = client <;> simp [Thread.requestsOf, own]
  · simp [inFlight, setThread, same]

theorem inFlight_push {index : Index} {request : Envelope Client Request}
    (pushed : exchange.pushRequest index request = some after) (place : Index) (client : Client) :
    after.inFlight place client = exchange.inFlight place client ++
      (if place = index ∧ request.sender = client then [request] else []) := by
  unfold pushRequest at pushed
  split at pushed
  · obtain rfl := Option.some.inj pushed
    by_cases same : place = index
    · subst same
      by_cases own : request.sender = client <;>
        simp [inFlight, List.filter_append, own]
    · simp [inFlight, same]
  · simp at pushed

end Exchange

end Cvbd
