import Cvbd.DiskCore

/-!
What one client sees of the server, as an exchange of its own: its messages, its
file and nothing else. A step of the shared exchange is a step of this one or is
not seen at all.
-/

namespace Cvbd

variable {Index Client : Type}

def Envelope.unnamed {Body : Type} (envelope : Envelope Client Body) : Envelope Unit Body :=
  ⟨(), envelope.call, envelope.body⟩

namespace Endpoint

variable (endpoint : Endpoint Index)

def single : Endpoint Unit :=
  ⟨(), endpoint.volume, endpoint.name, endpoint.fd, endpoint.mq⟩

/-- The part of the world that the endpoint refers to. -/
def part (world : World) : World where
  files := fun name => if name = endpoint.name then world.files name else none
  fds := Function.update (fun _ => none) endpoint.fd (some endpoint.name)
  volumes := Function.update (fun _ => none) endpoint.volume
    (some ⟨endpoint.name, endpoint.fd, endpoint.mq⟩)
  mqNames := fun _ => none

variable {endpoint} {world : World}

theorem Open.part (isOpen : endpoint.Open world) : endpoint.single.Open (endpoint.part world) where
  nonzero := isOpen.nonzero
  live := by simp [Endpoint.part, single]
  fdOpen := by simp [Endpoint.part, single]
  exists_file := by
    obtain ⟨file, found⟩ := isOpen.exists_file
    exact ⟨file, by simpa [Endpoint.part, single] using found⟩

theorem part_setFile (file : VolumeFile) :
    endpoint.part (world.setFile endpoint.name file) =
      (endpoint.part world).setFile endpoint.single.name file := by
  unfold part World.setFile single
  congr 1
  funext name
  by_cases same : name = endpoint.name <;> simp [same]

theorem part_setFile_ne {name : Name} (file : VolumeFile) (different : name ≠ endpoint.name) :
    endpoint.part (world.setFile name file) = endpoint.part world := by
  unfold part World.setFile
  congr 1
  funext other
  by_cases same : other = endpoint.name
  · simp [same, Ne.symm different]
  · simp [same]

end Endpoint

variable [DecidableEq Client]

def Thread.alone (client : Client) : Thread Client → Thread Unit
  | .hand request => if request.sender = client then .hand request.unnamed else .idle
  | .sending mq reply volume =>
      if reply.sender = client then .sending mq reply.unnamed volume else .idle
  | .idle | .closing _ | .stopped => .idle

/-- The thread is busy with a message of the client, or seems idle. -/
theorem Thread.alone_cases (thread : Thread Client) (client : Client) :
    thread.alone client = .idle ∨
      (∃ request, thread = .hand request ∧ request.sender = client ∧
        thread.alone client = .hand request.unnamed) ∨
      ∃ mq reply volume, thread = .sending mq reply volume ∧ reply.sender = client ∧
        thread.alone client = .sending mq reply.unnamed volume := by
  cases thread with
  | hand request =>
      by_cases own : request.sender = client
      · exact Or.inr (Or.inl ⟨request, rfl, own, if_pos own⟩)
      · exact Or.inl (if_neg own)
  | sending mq reply volume =>
      by_cases own : reply.sender = client
      · exact Or.inr (Or.inr ⟨mq, reply, volume, rfl, own, if_pos own⟩)
      · exact Or.inl (if_neg own)
  | idle => exact Or.inl rfl
  | closing volume => exact Or.inl rfl
  | stopped => exact Or.inl rfl

theorem update_unit {Value : Type} (before : Unit → Value) (value : Value) :
    Function.update before () value = fun _ => value := by
  funext _
  simp

namespace Exchange

def alone (exchange : Exchange Index Client) (endpoint : Endpoint Index) (client : Client) :
    Exchange Unit Unit where
  world := endpoint.part exchange.world
  requestMq := fun _ => ((exchange.requestMq endpoint.index).filter
    fun request => request.sender = client).map Envelope.unnamed
  thread := fun _ => (exchange.thread endpoint.index).alone client
  replyMq := fun mq => if mq = endpoint.mq then (exchange.replyMq mq).map Envelope.unnamed else []
  fault := exchange.fault
  owner := fun _ => none

variable {exchange after : Exchange Index Client} {endpoints : Client → Endpoint Index}
variable {client : Client}

theorem wired_alone (wired : exchange.Wired endpoints) (client : Client) :
    (exchange.alone (endpoints client) client).Wired fun _ => (endpoints client).single where
  isOpen := fun _ => (wired.isOpen client).part
  nameInjective := fun _ _ _ => rfl
  mqInjective := fun _ _ _ => rfl
  queued := by
    intro _ request member
    obtain ⟨original, listed, rfl⟩ := List.mem_map.mp member
    obtain ⟨queued, sender⟩ := List.mem_filter.mp listed
    obtain rfl := of_decide_eq_true sender
    have belongs := wired.queued _ original queued
    exact ⟨rfl, belongs.volume, belongs.io⟩
  inHand := by
    intro _ request hand
    change (exchange.thread (endpoints client).index).alone client = .hand request at hand
    rcases Thread.alone_cases (exchange.thread (endpoints client).index) client with
      idle | ⟨original, thread, rfl, busy⟩ | ⟨_, _, _, _, _, busy⟩
    · simp [idle] at hand
    · obtain rfl := Thread.hand.inj (busy.symm.trans hand)
      have belongs := wired.inHand _ original thread
      exact ⟨rfl, belongs.volume, belongs.io⟩
    · simp [busy] at hand
  sending := by
    intro _ mq reply volume sends
    change (exchange.thread (endpoints client).index).alone client = .sending mq reply volume
      at sends
    rcases Thread.alone_cases (exchange.thread (endpoints client).index) client with
      idle | ⟨_, _, _, busy⟩ | ⟨_, original, _, thread, rfl, busy⟩
    · simp [idle] at sends
    · simp [busy] at sends
    · obtain ⟨rfl, rfl, rfl⟩ := Thread.sending.inj (busy.symm.trans sends)
      obtain ⟨_, mq, none⟩ := wired.sending _ _ _ _ thread
      exact ⟨rfl, mq, none⟩
  notClosing := by
    intro _ volume closing
    change (exchange.thread (endpoints client).index).alone client = .closing volume at closing
    rcases Thread.alone_cases (exchange.thread (endpoints client).index) client with
      idle | ⟨_, _, _, busy⟩ | ⟨_, _, _, _, _, busy⟩ <;> simp_all
  notStopped := by
    intro _ stopped
    change (exchange.thread (endpoints client).index).alone client = .stopped at stopped
    rcases Thread.alone_cases (exchange.thread (endpoints client).index) client with
      idle | ⟨_, _, _, busy⟩ | ⟨_, _, _, _, _, busy⟩ <;> simp_all
  replied := by
    intro mq reply member
    by_cases same : mq = (endpoints client).mq
    · exact same
    · simp [alone, same] at member

/-! The two views of a client's service agree. -/

theorem alone_requests (exchange : Exchange Index Client) (endpoint : Endpoint Index)
    (client : Client) :
    ((exchange.alone endpoint client).service endpoint.single ()).requests =
      (exchange.service endpoint client).requests.map Envelope.unnamed := by
  rcases Thread.alone_cases (exchange.thread endpoint.index) client with
    idle | ⟨request, thread, own, busy⟩ | ⟨mq, reply, volume, thread, own, busy⟩
  · have none : (exchange.thread endpoint.index).requestsOf client = [] := by
      cases thread : exchange.thread endpoint.index <;>
        simp_all [Thread.alone, Thread.requestsOf]
    simp [service, alone, idle, none]
  · simp [service, alone, thread, Thread.alone, own, Thread.requestsOf]
  · simp [service, alone, thread, Thread.alone, own]

theorem alone_replies (exchange : Exchange Index Client) (endpoint : Endpoint Index)
    (client : Client) :
    ((exchange.alone endpoint client).service endpoint.single ()).replies =
      (exchange.service endpoint client).replies.map Envelope.unnamed := by
  have own_mq : endpoint.single.mq = endpoint.mq := rfl
  rcases Thread.alone_cases (exchange.thread endpoint.index) client with
    idle | ⟨request, thread, own, busy⟩ | ⟨mq, reply, volume, thread, own, busy⟩
  · have none : (exchange.thread endpoint.index).repliesOf client = [] := by
      cases thread : exchange.thread endpoint.index <;>
        simp_all [Thread.alone, Thread.repliesOf]
    simp [service, alone, idle, none, own_mq]
  · simp [service, alone, thread, Thread.alone, own, own_mq]
  · simp [service, alone, thread, Thread.alone, own, own_mq, Thread.repliesOf]

theorem alone_file (exchange : Exchange Index Client) (endpoint : Endpoint Index)
    (client : Client) :
    ((exchange.alone endpoint client).service endpoint.single ()).file =
      (exchange.service endpoint client).file := by
  simp [service, alone, Endpoint.part, Endpoint.single]

variable [DecidableEq Index]

/-! Client ends of the queues. -/

theorem pushRequest_alone (endpoints : Client → Endpoint Index)
    (request : Envelope Client Request)
    (pushed : exchange.pushRequest (endpoints request.sender).index request = some after) :
    (exchange.alone (endpoints request.sender) request.sender).pushRequest () request.unnamed =
        some (after.alone (endpoints request.sender) request.sender) ∧
      ∀ other, other ≠ request.sender →
        after.alone (endpoints other) other = exchange.alone (endpoints other) other := by
  obtain ⟨room, rfl⟩ := pushRequest_spec pushed
  constructor
  · have fits : ((exchange.requestMq (endpoints request.sender).index).filter
        fun queued => queued.sender = request.sender).length < maxQueueSize :=
      Nat.lt_of_le_of_lt (List.length_filter_le _ _) room
    simp only [pushRequest, alone, List.length_map, fits, if_true, Function.update_self,
      List.filter_append, List.map_append]
    congr 2
    funext _
    simp
  · intro other different
    by_cases same : (endpoints other).index = (endpoints request.sender).index
    · simp [alone, same, List.filter_append, Ne.symm different]
    · simp [alone, same]

omit [DecidableEq Index] in
theorem popReply_alone (wired : exchange.Wired endpoints) {reply : Envelope Client Reply}
    (popped : exchange.popReply (endpoints client).mq = some (reply, after)) :
    (exchange.alone (endpoints client) client).popReply (endpoints client).mq =
        some (reply.unnamed, after.alone (endpoints client) client) ∧
      ∀ other, other ≠ client →
        after.alone (endpoints other) other = exchange.alone (endpoints other) other := by
  obtain ⟨rest, queue, rfl⟩ := popReply_spec popped
  constructor
  · simp only [popReply, alone, if_true, queue, List.map_cons]
    congr 3
    funext mq
    by_cases same : mq = (endpoints client).mq <;> simp [same]
  · intro other different
    have otherMq : (endpoints other).mq ≠ (endpoints client).mq :=
      fun equal => different (wired.mqInjective _ _ equal)
    simp only [alone]
    congr 1
    funext mq
    by_cases same : mq = (endpoints other).mq
    · subst same
      simp [otherMq]
    · simp [same]

/-! Steps of a server thread. -/

theorem receiveStep_alone {index : Index} (wired : exchange.Wired endpoints)
    (stepped : exchange.receiveStep index = some after) :
    ∃ client, (exchange.alone (endpoints client) client).receiveStep () =
        some (after.alone (endpoints client) client) ∧
      ∀ other, other ≠ client →
        after.alone (endpoints other) other = exchange.alone (endpoints other) other := by
  obtain ⟨request, rest, idle, queue, rfl⟩ := receiveStep_spec wired stepped
  have belongs := wired.queued index request (by simp [queue])
  have place := belongs.index
  refine ⟨request.sender, ?_, ?_⟩
  · have io := belongs.io
    have idle_alone :
        (exchange.alone (endpoints request.sender) request.sender).thread () = .idle := by
      simp [alone, ← place, idle, Thread.alone]
    have queue_alone : (exchange.alone (endpoints request.sender) request.sender).requestMq () =
        request.unnamed :: (rest.filter fun queued => queued.sender = request.sender).map
          Envelope.unnamed := by
      simp [alone, ← place, queue]
    simp only [receiveStep, idle_alone, queue_alone]
    split
    · rename_i stop
      simp [show request.body = _ from stop, Request.isIo] at io
    · simp only [alone, ← place, setThread, update_unit, Function.update_self, Thread.alone, if_true]
  · intro other different
    by_cases same : (endpoints other).index = index
    · simp [alone, same, idle, queue, Thread.alone, Ne.symm different]
    · simp [alone, same]

theorem sendStep_alone {index : Index} (wired : exchange.Wired endpoints)
    (stepped : exchange.sendStep index = some after) :
    ∃ client, (exchange.alone (endpoints client) client).sendStep () =
        some (after.alone (endpoints client) client) ∧
      ∀ other, other ≠ client →
        after.alone (endpoints other) other = exchange.alone (endpoints other) other := by
  have room : ∀ reply : Envelope Client Reply,
      exchange.thread index = .sending (endpoints reply.sender).mq reply none →
      (exchange.replyMq (endpoints reply.sender).mq).length < maxQueueSize := by
    intro reply sends
    by_contra full
    simp [sendStep, sends, full] at stepped
  obtain ⟨reply, sends, place, rfl⟩ := sendStep_spec wired stepped
  refine ⟨reply.sender, ?_, ?_⟩
  · have sends_alone : (exchange.alone (endpoints reply.sender) reply.sender).thread () =
        .sending (endpoints reply.sender).mq reply.unnamed none := by
      simp [alone, ← place, sends, Thread.alone]
    have room_alone : ((exchange.alone (endpoints reply.sender) reply.sender).replyMq
        (endpoints reply.sender).mq).length < maxQueueSize := by
      simpa [alone] using room reply sends
    simp only [sendStep, sends_alone, room_alone, if_true, setThread, update_unit]
    simp only [alone, ← place, Function.update_self, Thread.alone]
    congr 2
    funext mq
    by_cases same : mq = (endpoints reply.sender).mq <;> simp [same]
  · intro other different
    have otherMq : (endpoints other).mq ≠ (endpoints reply.sender).mq :=
      fun same => different (wired.mqInjective _ _ same)
    simp only [alone]
    congr 1
    · funext _
      by_cases same : (endpoints other).index = index
      · simp [same, sends, Thread.alone, Ne.symm different]
      · simp [same]
    · funext mq
      by_cases same : mq = (endpoints other).mq
      · subst same
        simp [otherMq]
      · simp [same]

/-- Handling is a step of the sender's own exchange. Another client notices nothing, as long as
the server runs. -/
theorem handleStep_alone {index : Index} {kernel : Kernel} {request : Envelope Client Request}
    (wired : exchange.Wired endpoints) (hand : exchange.thread index = .hand request)
    (stepped : exchange.handleStep index kernel = some after) :
    (exchange.alone (endpoints request.sender) request.sender).handleStep () kernel =
        some (after.alone (endpoints request.sender) request.sender) ∧
      ∀ client, client ≠ request.sender → after.fault = exchange.fault →
        after.alone (endpoints client) client = exchange.alone (endpoints client) client := by
  obtain ⟨handled, busy, belongs, file, found, equal⟩ := handleStep_spec wired stepped
  obtain rfl := Thread.hand.inj (hand.symm.trans busy)
  have place := belongs.index
  have hand_alone : (exchange.alone (endpoints request.sender) request.sender).thread () =
      .hand request.unnamed := by
    simp [alone, ← place, hand, Thread.alone]
  obtain ⟨own, own_eq⟩ : ∃ own, (exchange.alone (endpoints request.sender) request.sender).handleStep
      () kernel = some own := by
    simp only [handleStep, hand_alone]
    split <;> exact ⟨_, rfl⟩
  have wired_own := wired_alone wired request.sender
  obtain ⟨_, busy_own, _, file_own, found_own, equal_own⟩ := handleStep_spec wired_own own_eq
  obtain rfl := Thread.hand.inj (hand_alone.symm.trans busy_own)
  obtain rfl : file = file_own := by
    change ((endpoints request.sender).part exchange.world).files (endpoints request.sender).name =
      some file_own at found_own
    simpa [Endpoint.part, found] using found_own
  constructor
  · rw [show request.unnamed.body = request.body from rfl] at equal_own
    cases served : file.serve kernel request.body with
    | done file =>
        simp only [served] at equal equal_own
        rw [own_eq, equal_own, equal]
        simp only [update_unit, alone, ← place, Function.update_self, Endpoint.part_setFile]
        rfl
    | reply file reply =>
        simp only [served] at equal equal_own
        rw [own_eq, equal_own, equal]
        simp only [update_unit, alone, ← place, Function.update_self, Endpoint.part_setFile,
          Thread.alone, if_true]
        rfl
    | fault file fault =>
        simp only [served] at equal equal_own
        rw [own_eq, equal_own, equal]
        simp only [alone, Endpoint.part_setFile]
  · intro client different running
    have otherName : (endpoints request.sender).name ≠ (endpoints client).name :=
      fun same => different (wired.nameInjective _ _ same).symm
    have unseen (thread : Thread Client) (idle : thread.alone client = .idle) (place : Index) :
        (Function.update exchange.thread index thread place).alone client =
          (exchange.thread place).alone client := by
      by_cases same : place = index
      · subst same
        rw [Function.update_self, idle, hand]
        exact (if_neg (Ne.symm different)).symm
      · rw [Function.update_of_ne same]
    rw [equal] at running ⊢
    cases served : file.serve kernel request.body with
    | done file =>
        simp only [alone, Endpoint.part_setFile_ne file otherName, unseen .idle rfl]
    | reply file reply =>
        have idle : (Thread.sending (endpoints request.sender).mq
            ⟨request.sender, request.call, reply⟩ none).alone client = .idle :=
          if_neg (Ne.symm different)
        simp only [alone, Endpoint.part_setFile_ne file otherName, unseen _ idle]
    | fault file fault =>
        simp only [served] at running
        simp only [alone, Endpoint.part_setFile_ne file otherName, running]

omit [DecidableEq Index] in
/-- What POSIX promises of the whole world it promises of the part behind an endpoint. -/
theorem valid_alone {index : Index} {kernel : Kernel} {request : Envelope Client Request}
    (wired : exchange.Wired endpoints) (hand : exchange.thread index = .hand request)
    (valid : exchange.ValidLabel (.handle index kernel))
    (full : exchange.FullTransfers (.handle index kernel)) :
    (exchange.alone (endpoints request.sender) request.sender).ValidLabel (.handle () kernel) ∧
      (exchange.alone (endpoints request.sender) request.sender).FullTransfers
        (.handle () kernel) := by
  have belongs := wired.inHand index request hand
  have isOpen := wired.isOpen request.sender
  obtain ⟨file, found⟩ := isOpen.exists_file
  have valid := valid request hand
  have io := belongs.io
  have hand_alone : (exchange.alone (endpoints request.sender) request.sender).thread () =
      .hand request.unnamed := by
    simp [alone, ← belongs.index, hand, Thread.alone]
  have content : (exchange.alone (endpoints request.sender) request.sender).world.content
      (endpoints request.sender).fd = exchange.world.content (endpoints request.sender).fd := by
    rw [World.content_eq isOpen.fdOpen found]
    exact World.content_eq isOpen.part.fdOpen (by simpa [alone, Endpoint.part, Endpoint.single] using found)
  have live : exchange.world.volumes request.body.header.volume =
      some ⟨(endpoints request.sender).name, (endpoints request.sender).fd,
        (endpoints request.sender).mq⟩ := by
    rw [belongs.volume]
    exact isOpen.live
  have live_alone : ∀ volState, (exchange.alone (endpoints request.sender)
      request.sender).world.volumes request.body.header.volume = some volState →
      volState = ⟨(endpoints request.sender).name, (endpoints request.sender).fd,
        (endpoints request.sender).mq⟩ := by
    intro volState found
    rw [belongs.volume] at found
    exact Option.some.inj (found.symm.trans isOpen.part.live)
  refine ⟨?_, ?_⟩
  · intro other other_hand
    obtain rfl := Thread.hand.inj (hand_alone.symm.trans other_hand)
    refine ⟨?_, ?_, ?_, ?_, valid.pwrite⟩
    · intro fd answer
      have free := valid.open1 fd answer
      have different : fd ≠ (endpoints request.sender).fd := by
        rintro rfl
        simp [isOpen.fdOpen] at free
      simp [alone, Endpoint.part, different]
    · intro fd answer
      have free := valid.open2 fd answer
      have different : fd ≠ (endpoints request.sender).fd := by
        rintro rfl
        simp [isOpen.fdOpen] at free
      simp [alone, Endpoint.part, different]
    · intro req body
      simp [show request.body = _ from body, Request.isIo] at io
    · intro req volState count body found_alone answer
      have body : request.body = .read req := body
      have same := live_alone volState (by rw [body]; exact found_alone)
      subst same
      rw [content]
      exact valid.pread req _ count body (by rw [← live, body]; rfl) answer
  · intro other volState other_hand found_alone
    obtain rfl := Thread.hand.inj (hand_alone.symm.trans other_hand)
    obtain rfl := live_alone volState found_alone
    rw [content]
    exact full request _ hand live

/-- A step of the server is a step of one client's own exchange, and no other client sees it as
long as the server runs. -/
theorem serverStep_alone {label : ServerLabel Index} (wired : exchange.Wired endpoints)
    (valid : exchange.ValidLabel label) (full : exchange.FullTransfers label)
    (stepped : exchange.serverStep label = some after) :
    ∃ client, (∃ own, (exchange.alone (endpoints client) client).ValidLabel own ∧
        (exchange.alone (endpoints client) client).FullTransfers own ∧
        (exchange.alone (endpoints client) client).serverStep own =
          some (after.alone (endpoints client) client)) ∧
      ∀ other, other ≠ client → after.fault = exchange.fault →
        after.alone (endpoints other) other = exchange.alone (endpoints other) other := by
  have running := serverStep_running stepped
  have running_alone (endpoint : Endpoint Index) (client : Client) :
      ¬(exchange.alone endpoint client).fault.isSome = true := by
    simp [alone, running]
  simp only [serverStep, running, Option.isSome_none, Bool.false_eq_true, if_false] at stepped
  cases label with
  | receive index =>
      obtain ⟨client, own, others⟩ := receiveStep_alone wired stepped
      exact ⟨client, ⟨.receive (), trivial, trivial, by
        rwa [serverStep, if_neg (running_alone _ _)]⟩,
        fun other different _ => others other different⟩
  | handle index kernel =>
      obtain ⟨request, hand, _⟩ := handleStep_spec wired stepped
      obtain ⟨own, others⟩ := handleStep_alone wired hand stepped
      obtain ⟨valid, full⟩ := valid_alone wired hand valid full
      exact ⟨request.sender, ⟨.handle () kernel, valid, full, by
        rwa [serverStep, if_neg (running_alone _ _)]⟩, others⟩
  | send index =>
      obtain ⟨client, own, others⟩ := sendStep_alone wired stepped
      exact ⟨client, ⟨.send (), trivial, trivial, by
        rwa [serverStep, if_neg (running_alone _ _)]⟩,
        fun other different _ => others other different⟩
  | close index => simp [wired.closeStep_none] at stepped

end Exchange

end Cvbd
