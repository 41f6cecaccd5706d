import Cvbd.Client
import Cvbd.OpenTotal

/-!
`cvbd_open` of the asynchronous driver: the constructor of the client, the
translation of its exceptions, and the OPEN. A failure behind the creation of the
reply queue leaves everything in place, and an exception while `errno` is zero is
returned as success.
-/

namespace Cvbd

/-- How far the constructor of `SharedMemClient` gets before it throws. -/
inductive Construction
  | allocation
  | requestQueue
  | replyQueue
  | replyThread
  | complete
  deriving DecidableEq, Repr

/-- It throws before it has created the reply queue. -/
def Construction.beforeReplyQueue : Construction → Bool
  | .allocation | .requestQueue | .replyQueue => true
  | .replyThread | .complete => false

/-- What one call of `cvbd_open` meets. -/
structure OpenRun where
  construction : Construction
  /-- The queue that `create_only` makes. -/
  replyMq : Nat
  /-- The global `id`, and what the constructor leaves uninitialised. -/
  id : UInt64
  volume : UInt64
  requestMsg : Bytes
  /-- `send_open` throws with this `errno`, before or after its message has been queued. -/
  thrown : Option (Int32 × Bool)
  kernel : Kernel

/-- What the call returns and leaves behind; `reply` is the reply it has read. -/
structure OpenResult where
  ret : Int32
  world : World
  client : Option SharedMemClient
  replyThread : Bool
  reply : Option OpenReply

def World.setQueue (world : World) (name : Name) (queue : Option Nat) : World :=
  { world with mqNames := Function.update world.mqNames name queue }

@[simp] theorem World.setQueue_volumes (world : World) (name : Name) (queue : Option Nat) :
    (world.setQueue name queue).volumes = world.volumes := rfl

@[simp] theorem World.setQueue_self (world : World) (name : Name) (queue : Option Nat) :
    (world.setQueue name queue).mqNames name = queue := by
  simp [setQueue]

def OpenRun.client (run : OpenRun) (name : Name) : SharedMemClient :=
  ⟨name, run.volume, run.id, run.requestMsg⟩

/-- The constructor of `SharedMemClient`. It removes an old reply queue of the name before it opens
the request queue. When it throws, its members are destroyed, but the name of a queue outlives the
queue object. -/
def construct (world : World) (name : Name) (run : OpenRun) : World × Option SharedMemClient :=
  match run.construction with
  | .allocation => (world, none)
  | .requestQueue | .replyQueue => (world.setQueue name none, none)
  | .replyThread => (world.setQueue name (some run.replyMq), none)
  | .complete => (world.setQueue name (some run.replyMq), some (run.client name))

/-- `shared_mem_make_client`; a null name throws, and the assert on an empty one aborts. -/
def sharedMemMakeClient (world : World) (exportName : Option Name) (run : OpenRun) :
    Option (World × Option SharedMemClient) :=
  match exportName with
  | none => some (world, none)
  | some name =>
      if name = [] ∧ run.construction ≠ .allocation then none
      else some (construct world name run)

/-- The server's state after it has handled a message whose sender does not wait. -/
def OpenRun.handled (run : OpenRun) (world : World) (request : Request) : World :=
  match IOHandler.turn world run.kernel request with
  | .ok (after, _) => after
  | .error _ => world

/-- `create_volume`; without a reply in the client's own queue `send_open` waits for ever. -/
def createVolume (world : World) (client : SharedMemClient) (run : OpenRun) : Option OpenResult :=
  let (request, posted) := client.sendOpen
  match run.thrown with
  | some (errno, queued) =>
      let after := if queued then run.handled world request else world
      some ⟨-errno, after, some posted, true, none⟩
  | none =>
      match IOHandler.turn world run.kernel request with
      | .ok (after, [(mq, .openVolume reply)]) =>
          if mq = run.replyMq then
            let held := if reply.err = 0 then { posted with volume := reply.volume } else posted
            some ⟨reply.err, after, some held, true, some reply⟩
          else none
      | _ => none

def cvbdOpen (world : World) (exportName : Option Name) (run : OpenRun) : Option OpenResult :=
  match sharedMemMakeClient world exportName run with
  | none => none
  | some (made, none) => some ⟨einval.negative, made, none, false, none⟩
  | some (made, some client) => createVolume made client run

/-- The queue made is a new one, and the kernel answers as POSIX allows. -/
structure OpenRun.Valid (run : OpenRun) (world : World) : Prop where
  fresh : ∀ name, world.mqNames name ≠ some run.replyMq
  kernel : ∀ name, run.kernel.Valid (world.setQueue name (some run.replyMq))
    (run.client name).sendOpen.1

/-- Success means an open volume, and failure leaves nothing behind. -/
structure AllOrNothing (world : World) (exportName : Option Name) (run : OpenRun)
    (result : OpenResult) : Prop where
  success : result.ret = 0 → ∃ client reply volState, result.client = some client ∧
    result.reply = some reply ∧ reply.err = 0 ∧ client.volume = reply.volume ∧
    result.world.volumes client.volume = some volState ∧ volState.replyMq = run.replyMq
  failure : result.ret ≠ 0 → result.client = none ∧ result.replyThread = false ∧
    (∀ name, exportName = some name → result.world.mqNames name ≠ some run.replyMq) ∧
    ∀ volume, result.world.volumes volume ≠ none → world.volumes volume ≠ none

/-- The call fails before the reply queue is there, or it is answered without an error. -/
def OpenRun.Clean (run : OpenRun) (exportName : Option Name) : Prop :=
  exportName = none ∨ run.construction.beforeReplyQueue = true ∨
    run.construction = .complete ∧ run.thrown = none ∧ run.kernel.ftruncate = .ok ()

variable {world : World} {exportName : Option Name} {run : OpenRun} {result : OpenResult}

/-- The reply to an OPEN reports success exactly if `ftruncate` succeeded, and then the volume is
live. -/
theorem turn_openReply {after : World} {kernel : Kernel} {req : OpenRequest} {mq : Nat}
    {reply : OpenReply} (valid : kernel.Valid world (.openVolume req))
    (turned : IOHandler.turn world kernel (.openVolume req) =
      .ok (after, [(mq, .openVolume reply)])) :
    (kernel.ftruncate = .ok () ∧ reply.err = 0 ∧
      ∃ volState, after.volumes reply.volume = some volState ∧ volState.replyMq = mq) ∨
    (kernel.ftruncate ≠ .ok () ∧ reply.err ≠ 0) := by
  cases IOHandler.turn_spec valid turned with
  | @opened req name replyMqName mq fd named replyNamed attached obtained resized =>
      refine Or.inl ⟨resized, rfl, ⟨name, fd, mq⟩, ?_, rfl⟩
      rw [(IOHandler.opened_content world name fd _).2.1, Function.update_self]
  | @notResized req name replyMqName mq fd errno named replyNamed attached obtained failed =>
      exact Or.inr ⟨by simp [failed], errno.negative_ne_zero⟩

/-- Where no client has been made, nothing is left unless the reply queue had been created. -/
theorem allOrNothing_einval {made : World} (volumes : made.volumes = world.volumes) :
    AllOrNothing world exportName run ⟨einval.negative, made, none, false, none⟩ ↔
      ∀ name, exportName = some name → made.mqNames name ≠ some run.replyMq := by
  have failed : einval.negative ≠ 0 := einval.negative_ne_zero
  constructor
  · intro whole name named
    exact (whole.failure failed).2.2.1 name named
  · intro unnamed
    refine ⟨fun success => (failed success).elim, fun _ => ⟨rfl, rfl, unnamed, ?_⟩⟩
    intro volume live
    rwa [volumes] at live

/-- A client that is left without a reply belongs neither to a success nor to a failure. -/
theorem not_allOrNothing {client : SharedMemClient} (left : result.client = some client)
    (unanswered : ∀ reply, result.reply = some reply → reply.err ≠ 0) :
    ¬AllOrNothing world exportName run result := by
  intro whole
  by_cases zero : result.ret = 0
  · obtain ⟨_, reply, _, _, read, success, _⟩ := whole.success zero
    exact unanswered reply read success
  · have gone := (whole.failure zero).1
    simp [left] at gone

/-- With a client, the call is all or nothing exactly if the server has answered without an error. -/
theorem createVolume_allOrNothing_iff {made : World} {client : SharedMemClient}
    (valid : run.kernel.Valid made client.sendOpen.1)
    (returned : createVolume made client run = some result) :
    AllOrNothing world exportName run result ↔
      run.thrown = none ∧ run.kernel.ftruncate = .ok () := by
  rw [SharedMemClient.sendOpen_request] at valid
  simp only [createVolume] at returned
  cases thrown : run.thrown with
  | some failure =>
      obtain ⟨errno, queued⟩ := failure
      simp only [thrown] at returned
      obtain rfl := Option.some.inj returned
      refine ⟨fun whole => ?_, by simp⟩
      exact (not_allOrNothing rfl (by simp) whole).elim
  | none =>
      simp only [thrown] at returned
      split at returned
      · rename_i after mq reply turned
        split at returned
        · rename_i ownQueue
          obtain rfl := Option.some.inj returned
          rw [SharedMemClient.sendOpen_request] at turned
          rcases turn_openReply valid turned with
            ⟨resized, success, volState, live, queue⟩ | ⟨notResized, failed⟩
          · refine ⟨fun _ => ⟨rfl, resized⟩, fun _ => ⟨fun _ => ?_, fun failed => ?_⟩⟩
            · exact ⟨_, reply, volState, rfl, rfl, success, by simp [success], by simpa [success],
                queue.trans ownQueue⟩
            · exact absurd success failed
          · refine ⟨fun whole => ?_, fun clean => absurd clean.2 notResized⟩
            exact (not_allOrNothing rfl (by simpa using failed) whole).elim
        · simp at returned
      · simp at returned

/-- The buffer is clear, so the names of the OPEN arrive. -/
def OpenRun.sample (thrown : Option (Int32 × Bool)) : OpenRun where
  construction := .complete
  replyMq := 0
  id := 0
  volume := 0
  requestMsg := fun _ => 0
  thrown := thrown
  kernel := IOHandler.sampleKernel (.error enoent) (.ok 3)

def World.sampleEmpty : World := .started (fun _ => none) (fun _ => none)

theorem OpenRun.sample_valid (thrown : Option (Int32 × Bool)) :
    (OpenRun.sample thrown).Valid .sampleEmpty where
  fresh := by simp [World.sampleEmpty, World.started]
  kernel := by
    intro name
    rw [SharedMemClient.sendOpen_request]
    refine ⟨fun _ _ => rfl, fun _ _ => rfl, fun _ _ => ⟨(by decide : (4096 : UInt64) ≠ 0), rfl⟩, ?_, ?_⟩
    · rintro _ _ _ ⟨⟩
    · rintro _ _ ⟨⟩

/-- The call returns 0, and the client has read a reply. -/
def OpenResult.isSuccess (result : OpenResult) : Bool :=
  result.ret == 0 && result.reply.isSome

end Cvbd
