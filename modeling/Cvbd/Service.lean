import Cvbd.ServiceCore

/-!
Each step of the shared queues and server threads leaves a client's private
service as it is, serves its oldest request, or stops it because the server
aborted.
-/

namespace Cvbd

/-! One request against an open volume. -/

namespace World

theorem setFile_self {world : World} {name : Name} {file : VolumeFile}
    (found : world.files name = some file) : world.setFile name file = world := by
  unfold setFile
  rw [← found, Function.update_eq_self]

@[simp] theorem setFile_files_self (world : World) (name : Name) (file : VolumeFile) :
    (world.setFile name file).files name = some file := by
  simp [setFile]

theorem setFile_files_ne {world : World} {name other : Name} (file : VolumeFile)
    (different : other ≠ name) : (world.setFile name file).files other = world.files other := by
  simp [setFile, different]

theorem updateFile_eq_setFile {world : World} {fd : Nat} {name : Name} {file : VolumeFile}
    (change : VolumeFile → VolumeFile) (fdOpen : world.fds fd = some name)
    (found : world.files name = some file) :
    world.updateFile fd change = world.setFile name (change file) := by
  simp [updateFile, setFile, fdOpen, found]

theorem content_eq {world : World} {fd : Nat} {name : Name} {file : VolumeFile}
    (fdOpen : world.fds fd = some name) (found : world.files name = some file) :
    world.content fd = file.content := by
  simp [content, volumeFile, fdOpen, found]

end World

/-- What the server makes of the result of serving a request of the endpoint. -/
def Served.outcome (world : World) (name : Name) (mq : Nat) : Served → Outcome
  | .done file => .done (world.setFile name file)
  | .reply file message => .reply (world.setFile name file) mq message none
  | .fault file reason => .fault (world.setFile name file) reason

theorem handle_eq_serve {Index : Type} {endpoint : Endpoint Index} {world : World}
    {file : VolumeFile} (isOpen : endpoint.Open world)
    (found : world.files endpoint.name = some file) (kernel : Kernel) {request : Request}
    (volume : request.header.volume = endpoint.volume) (io : request.isIo = true) :
    IOHandler.handle world kernel request =
      (file.serve kernel request).outcome world endpoint.name endpoint.mq := by
  have unchanged := World.setFile_self found
  cases request with
  | write req =>
      simp only [Request.header] at volume
      simp only [IOHandler.handle, IOHandler.write, volume, isOpen.nonzero, if_false, isOpen.live,
        VolumeFile.serve, World.updateFile_eq_setFile _ isOpen.fdOpen found]
      split <;> rfl
  | read req =>
      simp only [Request.header] at volume
      simp only [IOHandler.handle, IOHandler.read, volume, isOpen.nonzero, if_false, isOpen.live,
        VolumeFile.serve, World.content_eq isOpen.fdOpen found]
      split <;> simp only [Served.outcome, unchanged]
  | getsize req =>
      simp only [Request.header] at volume
      simp only [IOHandler.handle, IOHandler.getsize, volume, isOpen.nonzero, if_false, isOpen.live,
        VolumeFile.serve, World.content_eq isOpen.fdOpen found, Served.outcome, unchanged]
  | fsync req =>
      simp only [Request.header] at volume
      simp only [IOHandler.handle, IOHandler.fsync, volume, isOpen.nonzero, if_false, isOpen.live,
        VolumeFile.serve, World.updateFile_eq_setFile _ isOpen.fdOpen found]
      cases kernel.fsync <;> rfl
  | stop header => simp [Request.isIo] at io
  | openVolume req => simp [Request.isIo] at io
  | close req => simp [Request.isIo] at io
  | unknown header => simp [Request.isIo] at io

theorem Endpoint.Open.setFile {Index : Type} {endpoint : Endpoint Index} {world : World}
    (isOpen : endpoint.Open world) (name : Name) (file : VolumeFile) :
    endpoint.Open (world.setFile name file) where
  nonzero := isOpen.nonzero
  live := isOpen.live
  fdOpen := isOpen.fdOpen
  exists_file := by
    by_cases same : endpoint.name = name
    · exact ⟨file, by rw [same]; simp⟩
    · obtain ⟨found, equal⟩ := isOpen.exists_file
      exact ⟨found, by rw [World.setFile_files_ne file same]; exact equal⟩

variable {Index Client : Type} [DecidableEq Client]

/-! Views of a thread. -/

@[simp] theorem Thread.requestsOf_idle (client : Client) :
    (Thread.idle : Thread Client).requestsOf client = [] := rfl

@[simp] theorem Thread.repliesOf_idle (client : Client) :
    (Thread.idle : Thread Client).repliesOf client = [] := rfl

@[simp] theorem Thread.requestsOf_sending (mq : Nat) (reply : Envelope Client Reply)
    (closing : Option UInt64) (client : Client) :
    (Thread.sending mq reply closing).requestsOf client = [] := rfl

@[simp] theorem Thread.repliesOf_hand (request : Envelope Client Request) (client : Client) :
    (Thread.hand request).repliesOf client = [] := rfl

namespace Exchange

variable {exchange after : Exchange Index Client} {endpoints : Client → Endpoint Index}

theorem service_file {client : Client} {file : VolumeFile}
    (found : exchange.world.files (endpoints client).name = some file) :
    (exchange.service (endpoints client) client).file = file := by
  simp [service, found]

/-! Client ends of the queues. -/

section Push

variable [DecidableEq Index]

omit [DecidableEq Client] in
theorem pushRequest_spec {index : Index} {request : Envelope Client Request}
    (pushed : exchange.pushRequest index request = some after) :
    (exchange.requestMq index).length < maxQueueSize ∧ after = { exchange with
      requestMq := Function.update exchange.requestMq index
        (exchange.requestMq index ++ [request]) } := by
  unfold pushRequest at pushed
  split at pushed
  · rename_i room
    exact ⟨room, (Option.some.inj pushed).symm⟩
  · simp at pushed

omit [DecidableEq Client] in
theorem Wired.pushRequest {index : Index} {request : Envelope Client Request}
    (wired : exchange.Wired endpoints) (belongs : Belongs endpoints index request)
    (pushed : exchange.pushRequest index request = some after) : after.Wired endpoints := by
  obtain ⟨_, rfl⟩ := pushRequest_spec pushed
  exact { wired with
    queued := by
      intro other queued member
      by_cases same : other = index
      · subst other
        simp only [Function.update_self, List.mem_append, List.mem_singleton] at member
        rcases member with old | rfl
        · exact wired.queued _ _ old
        · exact belongs
      · simp only [Function.update_of_ne same] at member
        exact wired.queued _ _ member }

/-- A client's own request joins the end of its service; another client's is not seen. -/
theorem pushRequest_service (endpoints : Client → Endpoint Index)
    (request : Envelope Client Request)
    (pushed : exchange.pushRequest (endpoints request.sender).index request = some after) :
    after.service (endpoints request.sender) request.sender =
        { exchange.service (endpoints request.sender) request.sender with
          requests := (exchange.service (endpoints request.sender) request.sender).requests ++
            [request] } ∧
      ∀ client, client ≠ request.sender →
        after.service (endpoints client) client = exchange.service (endpoints client) client := by
  obtain ⟨_, rfl⟩ := pushRequest_spec pushed
  constructor
  · simp [service, List.append_assoc]
  · intro client different
    by_cases same : (endpoints client).index = (endpoints request.sender).index
    · simp [service, same, List.filter_append, Ne.symm different]
    · simp [service, same]

end Push

omit [DecidableEq Client] in
theorem popReply_spec {mq : Nat} {reply : Envelope Client Reply}
    (popped : exchange.popReply mq = some (reply, after)) :
    ∃ rest, exchange.replyMq mq = reply :: rest ∧
      after = { exchange with replyMq := Function.update exchange.replyMq mq rest } := by
  unfold popReply at popped
  split at popped
  · simp at popped
  · rename_i first rest queue
    simp only [Option.some.injEq, Prod.mk.injEq] at popped
    obtain ⟨rfl, rfl⟩ := popped
    exact ⟨rest, queue, rfl⟩

omit [DecidableEq Client] in
theorem Wired.popReply {mq : Nat} {reply : Envelope Client Reply}
    (wired : exchange.Wired endpoints) (popped : exchange.popReply mq = some (reply, after)) :
    after.Wired endpoints := by
  obtain ⟨rest, queue, rfl⟩ := popReply_spec popped
  exact { wired with
    replied := by
      intro other replied member
      by_cases same : other = mq
      · subst other
        simp only [Function.update_self] at member
        exact wired.replied _ _ (by rw [queue]; exact List.mem_cons_of_mem _ member)
      · simp only [Function.update_of_ne same] at member
        exact wired.replied _ _ member }

theorem popReply_service (wired : exchange.Wired endpoints) (client : Client)
    {reply : Envelope Client Reply}
    (popped : exchange.popReply (endpoints client).mq = some (reply, after)) :
    reply.sender = client ∧
      (exchange.service (endpoints client) client).replies =
        reply :: (after.service (endpoints client) client).replies ∧
      after.service (endpoints client) client = { exchange.service (endpoints client) client with
        replies := (after.service (endpoints client) client).replies } ∧
      ∀ other, other ≠ client →
        after.service (endpoints other) other = exchange.service (endpoints other) other := by
  obtain ⟨rest, queue, rfl⟩ := popReply_spec popped
  refine ⟨?_, by simp [service, queue], rfl, ?_⟩
  · exact (wired.mqInjective _ _ (wired.replied _ reply (by simp [queue]))).symm
  · intro other different
    have otherMq : (endpoints other).mq ≠ (endpoints client).mq :=
      fun equal => different (wired.mqInjective _ _ equal)
    simp [service, otherMq]

/-! Steps of a server thread. -/

section Server

variable [DecidableEq Index]

omit [DecidableEq Client] in
theorem receiveStep_spec {index : Index} (wired : exchange.Wired endpoints)
    (stepped : exchange.receiveStep index = some after) :
    ∃ request rest, exchange.thread index = .idle ∧ exchange.requestMq index = request :: rest ∧
      after = { exchange with
        requestMq := Function.update exchange.requestMq index rest
        thread := Function.update exchange.thread index (.hand request) } := by
  unfold receiveStep at stepped
  split at stepped
  · rename_i request rest idle queue
    have io := (wired.queued index request (by simp [queue])).io
    refine ⟨request, rest, idle, queue, ?_⟩
    cases body : request.body with
    | stop header => simp [body, Request.isIo] at io
    | write req => simpa [body, setThread] using stepped.symm
    | read req => simpa [body, setThread] using stepped.symm
    | openVolume req => simp [body, Request.isIo] at io
    | close req => simp [body, Request.isIo] at io
    | getsize req => simpa [body, setThread] using stepped.symm
    | fsync req => simpa [body, setThread] using stepped.symm
    | unknown header => simp [body, Request.isIo] at io
  · simp at stepped

omit [DecidableEq Client] in
theorem Wired.setThread (wired : exchange.Wired endpoints) (index : Index) (thread : Thread Client)
    (inHand : ∀ request, thread = .hand request → Belongs endpoints index request)
    (sending : ∀ mq reply closing, thread = .sending mq reply closing →
      index = (endpoints reply.sender).index ∧ mq = (endpoints reply.sender).mq ∧ closing = none)
    (notClosing : ∀ volume, thread ≠ .closing volume) (notStopped : thread ≠ .stopped) :
    ({ exchange with thread := Function.update exchange.thread index thread } :
      Exchange Index Client).Wired endpoints := by
  refine { wired with inHand := ?_, sending := ?_, notClosing := ?_, notStopped := ?_ }
  · intro other held hand
    by_cases same : other = index
    · subst other
      exact inHand _ (by simpa using hand)
    · exact wired.inHand _ _ (by simpa [same] using hand)
  · intro other mq reply closing sends
    by_cases same : other = index
    · subst other
      exact sending _ _ _ (by simpa using sends)
    · exact wired.sending _ _ _ _ (by simpa [same] using sends)
  · intro other volume
    by_cases same : other = index
    · subst other
      simpa using notClosing volume
    · simpa [same] using wired.notClosing other volume
  · intro other
    by_cases same : other = index
    · subst other
      simpa using notStopped
    · simpa [same] using wired.notStopped other

omit [DecidableEq Client] in
theorem Wired.dropRequest {index : Index} {request : Envelope Client Request}
    {rest : List (Envelope Client Request)} (wired : exchange.Wired endpoints)
    (queue : exchange.requestMq index = request :: rest) :
    ({ exchange with requestMq := Function.update exchange.requestMq index rest } :
      Exchange Index Client).Wired endpoints := by
  refine { wired with queued := ?_ }
  intro other queued member
  by_cases same : other = index
  · subst other
    simp only [Function.update_self] at member
    exact wired.queued _ _ (by rw [queue]; exact List.mem_cons_of_mem _ member)
  · simp only [Function.update_of_ne same] at member
    exact wired.queued _ _ member

omit [DecidableEq Client] [DecidableEq Index] in
theorem Wired.setFile (wired : exchange.Wired endpoints) (name : Name) (file : VolumeFile) :
    ({ exchange with world := exchange.world.setFile name file } :
      Exchange Index Client).Wired endpoints :=
  { wired with isOpen := fun client => (wired.isOpen client).setFile name file }

omit [DecidableEq Client] in
theorem Wired.receiveStep {index : Index} (wired : exchange.Wired endpoints)
    (stepped : exchange.receiveStep index = some after) : after.Wired endpoints := by
  obtain ⟨request, rest, idle, queue, rfl⟩ := receiveStep_spec wired stepped
  have belongs := wired.queued index request (by simp [queue])
  refine (wired.dropRequest queue).setThread index _ ?_ (by simp) (by simp) (by simp)
  rintro other ⟨⟩
  exact belongs

theorem receiveStep_service {index : Index} (wired : exchange.Wired endpoints)
    (stepped : exchange.receiveStep index = some after) (client : Client) :
    after.service (endpoints client) client = exchange.service (endpoints client) client := by
  obtain ⟨request, rest, idle, queue, rfl⟩ := receiveStep_spec wired stepped
  by_cases same : (endpoints client).index = index
  · by_cases own : request.sender = client <;>
      simp [service, same, idle, queue, Thread.requestsOf, Thread.repliesOf, own]
  · simp [service, same]

omit [DecidableEq Client] in
/-- Handling a request of an open volume, as long as only I/O requests are about. -/
theorem handleStep_spec {index : Index} {kernel : Kernel} (wired : exchange.Wired endpoints)
    (stepped : exchange.handleStep index kernel = some after) :
    ∃ request, exchange.thread index = .hand request ∧ Belongs endpoints index request ∧
      ∃ file, exchange.world.files (endpoints request.sender).name = some file ∧
        after = match file.serve kernel request.body with
          | .done file => { exchange with
              world := exchange.world.setFile (endpoints request.sender).name file
              thread := Function.update exchange.thread index .idle }
          | .reply file reply => { exchange with
              world := exchange.world.setFile (endpoints request.sender).name file
              thread := Function.update exchange.thread index
                (.sending (endpoints request.sender).mq
                  ⟨request.sender, request.call, reply⟩ none) }
          | .fault file fault => { exchange with
              world := exchange.world.setFile (endpoints request.sender).name file
              fault := some fault } := by
  unfold handleStep at stepped
  split at stepped
  · rename_i request hand
    have belongs := wired.inHand index request hand
    have isOpen := wired.isOpen request.sender
    obtain ⟨file, found⟩ := isOpen.exists_file
    refine ⟨request, hand, belongs, file, found, ?_⟩
    have keepsOwner (outcome : Outcome) :
        exchange.ownerAfter kernel request outcome = exchange.owner := by
      have io := belongs.io
      unfold ownerAfter
      cases body : request.body <;> simp_all [Request.isIo]
    simp only [keepsOwner, handle_eq_serve isOpen found kernel belongs.volume belongs.io] at stepped
    cases served : file.serve kernel request.body with
    | done file => simpa [served, Served.outcome, setThread] using stepped.symm
    | reply file reply => simpa [served, Served.outcome, setThread] using stepped.symm
    | fault file fault => simpa [served, Served.outcome] using stepped.symm
  · simp at stepped

omit [DecidableEq Client] in
theorem Wired.handleStep {index : Index} {kernel : Kernel} (wired : exchange.Wired endpoints)
    (stepped : exchange.handleStep index kernel = some after) : after.Wired endpoints := by
  obtain ⟨request, hand, belongs, file, found, rfl⟩ := handleStep_spec wired stepped
  cases file.serve kernel request.body with
  | done file => exact (wired.setFile _ file).setThread index _ (by simp) (by simp) (by simp) (by simp)
  | reply file reply =>
      refine (wired.setFile _ file).setThread index _ (by simp) ?_ (by simp) (by simp)
      rintro mq sent closing ⟨⟩
      exact ⟨belongs.index, rfl, rfl⟩
  | fault file fault => exact { wired.setFile (endpoints request.sender).name file with }

/-- Handling serves the oldest request of its client. Another client notices nothing, or that
the server is gone. -/
theorem handleStep_service {index : Index} {kernel : Kernel} (wired : exchange.Wired endpoints)
    (running : exchange.fault = none) (stepped : exchange.handleStep index kernel = some after) :
    ∃ request rest, exchange.thread index = .hand request ∧
      (exchange.service (endpoints request.sender) request.sender).requests = request :: rest ∧
      (exchange.service (endpoints request.sender) request.sender).serve kernel =
        some (after.service (endpoints request.sender) request.sender) ∧
      ∀ client, client ≠ request.sender →
        after.service (endpoints client) client =
          { exchange.service (endpoints client) client with alive := after.fault.isNone } := by
  obtain ⟨request, hand, belongs, file, found, equal⟩ := handleStep_spec wired stepped
  have index_eq := belongs.index
  have ownView : (exchange.service (endpoints request.sender) request.sender) = {
      requests := request :: (exchange.requestMq index).filter fun queued =>
        queued.sender = request.sender
      replies := exchange.replyMq (endpoints request.sender).mq
      file
      alive := true } := by
    simp [service, ← index_eq, hand, Thread.requestsOf, Thread.repliesOf, found, running]
  refine ⟨request, _, hand, by rw [ownView], ?_, ?_⟩
  · rw [ownView]
    simp only [Service.serve]
    cases served : file.serve kernel request.body with
    | done file =>
        simp only [served] at equal
        simp [equal, service, ← index_eq, running]
    | reply file reply =>
        simp only [served] at equal
        simp [equal, service, ← index_eq, running, Thread.repliesOf]
    | fault file fault =>
        simp only [served] at equal
        simp [equal, service, ← index_eq, hand, Thread.requestsOf, Thread.repliesOf]
  · intro client different
    have otherName : (endpoints client).name ≠ (endpoints request.sender).name :=
      fun same => different (wired.nameInjective _ _ same)
    have notOwn : request.sender ≠ client := fun same => different same.symm
    cases served : file.serve kernel request.body with
    | done file =>
        simp only [served] at equal
        by_cases same : (endpoints client).index = index <;>
          simp [equal, service, same, hand, Thread.requestsOf, Thread.repliesOf, notOwn,
            World.setFile_files_ne _ otherName, running]
    | reply file reply =>
        simp only [served] at equal
        by_cases same : (endpoints client).index = index <;>
          simp [equal, service, same, hand, Thread.requestsOf, Thread.repliesOf, notOwn,
            World.setFile_files_ne _ otherName, running]
    | fault file fault =>
        simp only [served] at equal
        simp [equal, service, World.setFile_files_ne _ otherName]

omit [DecidableEq Client] in
theorem sendStep_spec {index : Index} (wired : exchange.Wired endpoints)
    (stepped : exchange.sendStep index = some after) :
    ∃ reply, exchange.thread index = .sending (endpoints reply.sender).mq reply none ∧
      index = (endpoints reply.sender).index ∧
      after = { exchange with
        replyMq := Function.update exchange.replyMq (endpoints reply.sender).mq
          (exchange.replyMq (endpoints reply.sender).mq ++ [reply])
        thread := Function.update exchange.thread index .idle } := by
  unfold sendStep at stepped
  split at stepped
  · rename_i mq reply closing sends
    obtain ⟨index_eq, rfl, rfl⟩ := wired.sending _ _ _ _ sends
    split at stepped
    · exact ⟨reply, sends, index_eq, by simpa [Exchange.setThread] using stepped.symm⟩
    · simp at stepped
  · simp at stepped

omit [DecidableEq Client] in
theorem Wired.sendStep {index : Index} (wired : exchange.Wired endpoints)
    (stepped : exchange.sendStep index = some after) : after.Wired endpoints := by
  obtain ⟨reply, sends, index_eq, rfl⟩ := sendStep_spec wired stepped
  have idle := wired.setThread index .idle (by simp) (by simp) (by simp)
    (by simp)
  refine { idle with replied := ?_ }
  intro mq replied member
  by_cases same : mq = (endpoints reply.sender).mq
  · subst mq
    simp only [Function.update_self, List.mem_append, List.mem_singleton] at member
    rcases member with old | rfl
    · exact wired.replied _ _ old
    · rfl
  · simp only [Function.update_of_ne same] at member
    exact wired.replied _ _ member

theorem sendStep_service {index : Index} (wired : exchange.Wired endpoints)
    (stepped : exchange.sendStep index = some after) (client : Client) :
    after.service (endpoints client) client = exchange.service (endpoints client) client := by
  obtain ⟨reply, sends, index_eq, rfl⟩ := sendStep_spec wired stepped
  by_cases own : reply.sender = client
  · subst own
    simp [service, ← index_eq, sends, Thread.requestsOf, Thread.repliesOf]
  · have otherMq : (endpoints client).mq ≠ (endpoints reply.sender).mq :=
      fun same => own (wired.mqInjective _ _ same).symm
    by_cases same : (endpoints client).index = index <;>
      simp [service, same, sends, Thread.requestsOf, Thread.repliesOf, own, otherMq]

omit [DecidableEq Client] in
theorem Wired.closeStep_none {index : Index} (wired : exchange.Wired endpoints) :
    exchange.closeStep index = none := by
  unfold closeStep
  split
  · rename_i volume closing
    exact (wired.notClosing _ _ closing).elim
  · rfl

omit [DecidableEq Client] in
theorem serverStep_running {label : ServerLabel Index}
    (stepped : exchange.serverStep label = some after) : exchange.fault = none := by
  unfold serverStep at stepped
  split at stepped
  · simp at stepped
  · rename_i running
    simpa using running

omit [DecidableEq Client] in
theorem Wired.serverStep {label : ServerLabel Index} (wired : exchange.Wired endpoints)
    (stepped : exchange.serverStep label = some after) : after.Wired endpoints := by
  have running := serverStep_running stepped
  simp only [Exchange.serverStep, running, Option.isSome_none, Bool.false_eq_true, if_false] at stepped
  cases label with
  | receive index => exact wired.receiveStep stepped
  | handle index kernel => exact wired.handleStep stepped
  | send index => exact wired.sendStep stepped
  | close index => simp [wired.closeStep_none] at stepped

/-- Only handling a request is visible to a client. -/
theorem serverStep_service {label : ServerLabel Index} (wired : exchange.Wired endpoints)
    (stepped : exchange.serverStep label = some after) :
    ((∀ client, after.service (endpoints client) client =
        exchange.service (endpoints client) client) ∧
      ∀ index kernel, label ≠ .handle index kernel) ∨
      ∃ index kernel, label = .handle index kernel ∧
        exchange.handleStep index kernel = some after := by
  have running := serverStep_running stepped
  simp only [Exchange.serverStep, running, Option.isSome_none, Bool.false_eq_true, if_false] at stepped
  cases label with
  | receive index => exact Or.inl ⟨receiveStep_service wired stepped, by simp⟩
  | handle index kernel => exact Or.inr ⟨index, kernel, rfl, stepped⟩
  | send index => exact Or.inl ⟨sendStep_service wired stepped, by simp⟩
  | close index => simp [wired.closeStep_none] at stepped

end Server

end Exchange

end Cvbd
