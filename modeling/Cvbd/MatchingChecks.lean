import Cvbd.MatchingCore

/-!
The requests and replies of one synchronous client that are under way. The one
it waits on is the last of its requests; those before it are not answered.
-/

namespace Cvbd

/-- The awaited request, the requests not yet handled and the replies not yet received. -/
inductive Pending : Option Request → List Request → List Reply → Prop
  | silent {requests} (silent : ∀ request ∈ requests, request.answered = false) :
      Pending none requests []
  | asked {earlier request} (silent : ∀ other ∈ earlier, other.answered = false)
      (answered : request.answered = true) : Pending (some request) (earlier ++ [request]) []
  | replied {request reply} (answers : request.AnsweredBy reply) :
      Pending (some request) [] [reply]

namespace Pending

variable {awaited : Option Request} {requests : List Request} {replies : List Reply}
variable {request : Request} {reply : Reply}

theorem post (pending : Pending none requests replies) (silent : request.answered = false) :
    Pending none (requests ++ [request]) replies := by
  cases pending with
  | silent earlier =>
      refine .silent fun other member => ?_
      rcases List.mem_append.mp member with old | last
      · exact earlier other old
      · rwa [List.mem_singleton.mp last]

theorem ask (pending : Pending none requests replies) (answered : request.answered = true) :
    Pending (some request) (requests ++ [request]) replies := by
  cases pending with
  | silent earlier => exact .asked earlier answered

/-- The server has handled the oldest request without a reply. -/
theorem drop (pending : Pending awaited (request :: requests) replies)
    (unanswered : request.answered = false) : Pending awaited requests replies := by
  generalize queue : request :: requests = all at pending
  cases pending with
  | silent earlier =>
      subst queue
      exact .silent fun other member => earlier other (List.mem_cons_of_mem _ member)
  | @asked earlier last silent answered =>
      cases earlier with
      | nil =>
          obtain ⟨rfl, _⟩ := List.cons.inj queue
          simp [unanswered] at answered
      | cons first earlier =>
          obtain ⟨rfl, rfl⟩ := List.cons.inj queue
          exact .asked (fun other member => silent other (List.mem_cons_of_mem _ member)) answered
  | replied answers => simp at queue

/-- Only the awaited request is answered, and nothing is queued behind it. -/
theorem answer (pending : Pending awaited (request :: requests) replies)
    (answers : request.AnsweredBy reply) :
    replies = [] ∧ Pending awaited requests [reply] := by
  have answered := answers.answered
  generalize queue : request :: requests = all at pending
  cases pending with
  | silent earlier =>
      subst queue
      simp [earlier request (by simp)] at answered
  | @asked earlier last silent _ =>
      cases earlier with
      | nil =>
          obtain ⟨rfl, rfl⟩ := List.cons.inj queue
          exact ⟨rfl, .replied answers⟩
      | cons first earlier =>
          obtain ⟨rfl, _⟩ := List.cons.inj queue
          simp [silent request (by simp)] at answered
  | replied other => simp at queue

/-- A reply answers the awaited request, and it is the only message under way. -/
theorem take (pending : Pending awaited requests (reply :: replies)) :
    replies = [] ∧ requests = [] ∧
      ∃ request, awaited = some request ∧ request.AnsweredBy reply := by
  generalize queue : reply :: replies = all at pending
  cases pending with
  | silent silent => simp at queue
  | asked silent answered => simp at queue
  | @replied request _ answers =>
      obtain ⟨rfl, rfl⟩ := List.cons.inj queue
      exact ⟨rfl, rfl, request, rfl, answers⟩

theorem answered (pending : Pending awaited requests replies) (member : reply ∈ replies) :
    ∃ request, awaited = some request ∧ request.AnsweredBy reply := by
  cases pending with
  | silent silent => simp at member
  | asked silent answered => simp at member
  | replied answers =>
      obtain rfl := List.mem_singleton.mp member
      exact ⟨_, rfl, answers⟩

/-- The awaited request is not lost. -/
theorem underway (pending : Pending (some request) requests replies) :
    request ∈ requests ∨ ∃ reply ∈ replies, request.AnsweredBy reply := by
  cases pending with
  | asked silent answered => exact Or.inl (by simp)
  | replied answers => exact Or.inr ⟨_, by simp, answers⟩

theorem length_replies (pending : Pending awaited requests replies) : replies.length ≤ 1 := by
  cases pending <;> simp

end Pending

/-! What a reply says about the request it belongs to. -/

theorem Request.AnsweredBy.header {request : Request} {reply : Reply}
    (answers : request.AnsweredBy reply) :
    reply.header.id = request.header.id ∧ reply.header.type = request.header.type := by
  cases request <;> cases reply <;> simp_all [AnsweredBy, Request.header, Reply.header]

/-- The stages of a synchronous client, with the types of the requests it waits on. -/
def Stage.Typed : Stage → Prop
  | .opening (.openVolume req) => req.header.type = .reqOpen
  | .waiting (.getsize req) => req.header.type = .reqGetsize
  | .waiting (.read req) => req.header.type = .reqRead
  | .opening _ | .waiting _ | .mismatched => False
  | _ => True

theorem Stage.Typed.accepts {request : Request} {reply : Reply}
    (typed : (Stage.waiting request).Typed) (answers : request.AnsweredBy reply) :
    request.accepts reply = true := by
  cases request with
  | getsize req =>
      cases reply with
      | getsize reply =>
          have sameHeader : reply.header = req.header := answers
          have type : req.header.type = .reqGetsize := typed
          simp [Request.accepts, SharedMemClient.acceptGetsize, sameHeader, type]
      | read reply => exact answers.elim
      | openVolume reply => exact answers.elim
      | fsync reply => exact answers.elim
  | read req =>
      cases reply with
      | read reply =>
          obtain ⟨sameHeader, sameSize⟩ := answers
          have type : req.header.type = .reqRead := typed
          simp [Request.accepts, SharedMemClient.acceptRead, sameHeader, sameSize, type]
      | getsize reply => exact answers.elim
      | openVolume reply => exact answers.elim
      | fsync reply => exact answers.elim
  | stop header => exact typed.elim
  | write req => exact typed.elim
  | openVolume req => exact typed.elim
  | close req => exact typed.elim
  | fsync req => exact typed.elim
  | unknown header => exact typed.elim

theorem Stage.Typed.acceptOpen (client : SharedMemClient) {request : Request} {reply : Reply}
    (typed : (Stage.opening request).Typed) (answers : request.AnsweredBy reply) :
    ∃ outcome, client.acceptOpen reply = some outcome := by
  cases request with
  | openVolume req =>
      cases reply with
      | openVolume reply =>
          have sameHeader : reply.header = { req.header with volume := reply.volume } := answers
          have type : req.header.type = .reqOpen := typed
          exact ⟨_, by simp only [SharedMemClient.acceptOpen, sameHeader, type, if_true]; rfl⟩
      | read reply => exact answers.elim
      | getsize reply => exact answers.elim
      | fsync reply => exact answers.elim
  | stop header => exact typed.elim
  | write req => exact typed.elim
  | read req => exact typed.elim
  | close req => exact typed.elim
  | getsize req => exact typed.elim
  | fsync req => exact typed.elim
  | unknown header => exact typed.elim

theorem Session.received_answered {shared : SharedMemClient} {stage : Stage} {request : Request}
    {reply : Reply} {outcome : SharedMemClient × Stage} (typed : stage.Typed)
    (awaited : stage.waitsFor = some request) (answers : request.AnsweredBy reply)
    (took : received .sync shared stage reply = some outcome) :
    outcome.2 = .opened ∨ outcome.2 = .refused := by
  cases stage with
  | opening other =>
      obtain rfl : other = request := Option.some.inj awaited
      obtain ⟨accepted, equal⟩ := typed.acceptOpen shared answers
      simp only [received, equal] at took
      obtain rfl := Option.some.inj took
      dsimp only
      split
      · exact Or.inl rfl
      · exact Or.inr rfl
  | waiting other =>
      obtain rfl : other = request := Option.some.inj awaited
      simp only [received, typed.accepts answers, if_true] at took
      obtain rfl := Option.some.inj took
      exact Or.inl rfl
  | outside => simp [Stage.waitsFor] at awaited
  | removed => simp [Stage.waitsFor] at awaited
  | made => simp [Stage.waitsFor] at awaited
  | refused => simp [Stage.waitsFor] at awaited
  | opened => simp [Stage.waitsFor] at awaited
  | closed => simp [Stage.waitsFor] at awaited
  | destroyed => simp [Stage.waitsFor] at awaited
  | failed => simp [Stage.waitsFor] at awaited
  | aborted => simp [Stage.waitsFor] at awaited
  | mismatched => simp [Stage.waitsFor] at awaited

/-! What the handlers do where the kernel does not fail. -/

namespace IOHandler

variable {world after : World} {kernel : Kernel} {request : Request}

theorem Handling.unanswered (handling : Handling world kernel request (.done after))
    (succeeds : kernel.Succeeds world request) : request.answered = false := by
  cases handling with
  | skipped nothing =>
      cases request with
      | openVolume req => exact (succeeds nothing).elim
      | read req => exact nothing.elim
      | getsize req => exact nothing.elim
      | fsync req => exact nothing.elim
      | stop header => rfl
      | write req => rfl
      | close req => rfl
      | unknown header => rfl
  | stored live grown => rfl
  | closed live => rfl

theorem Handling.answers {mq : Nat} {reply : Reply} {closing : Option UInt64}
    (handling : Handling world kernel request (.reply after mq reply closing)) :
    request.AnsweredBy reply := by
  cases handling with
  | replied io live grown answers => exact answers
  | opened named replyNamed attached obtained opens => rfl

end IOHandler

/-- The file has at least the length that OPEN gives a volume. -/
def World.Large (world : World) (name : Name) : Prop :=
  ∃ file, world.files name = some file ∧ 2 ^ 34 ≤ file.content.size

namespace World.Large

variable {world after : World} {name : Name}

theorem grown (large : world.Large name) (grown : world.Grown after) : after.Large name := by
  obtain ⟨file, found, size⟩ := large
  obtain ⟨longer, still, grows⟩ := grown.file found
  exact ⟨longer, still, by omega⟩

theorem openFile (large : world.Large name) (other : Name) (fd : Nat) :
    (world.openFile other fd).Large name := by
  obtain ⟨file, found, size⟩ := large
  by_cases same : name = other
  · subst same
    exact ⟨file, by simp [World.openFile, found], size⟩
  · exact ⟨file, by simp [World.openFile, same, found], size⟩

/-- `ftruncate` makes a file large, and the others stay so. -/
theorem resized {fd : Nat} {other : Name} (isOpen : world.fds fd = some other)
    (exists_file : (world.files other).isSome = true)
    (large : name = other ∨ world.Large name) :
    (world.updateFile fd fun file =>
      { file with content := file.content.truncate (2 ^ 34) }).Large name := by
  obtain ⟨old, present⟩ := Option.isSome_iff_exists.mp exists_file
  by_cases same : name = other
  · subst same
    exact ⟨_, by simp [World.updateFile, isOpen, present]; rfl, Nat.le_refl _⟩
  · obtain ⟨file, found, size⟩ := large.resolve_left same
    exact ⟨file, by simp [World.updateFile, isOpen, same, found], size⟩

end World.Large

namespace IOHandler

variable {world after : World} {kernel : Kernel} {request : Request} {name : Name}

theorem Opens.large {volumeName : Name} {fd mq : Nat} {err : Int32}
    (opens : Opens world kernel volumeName fd mq after err)
    (large : err = 0 ∧ name = volumeName ∨ world.Large name) : after.Large name := by
  have added (before : world.Large name) :
      (world.addVolume kernel.newVolume ⟨volumeName, fd, mq⟩).Large name :=
    before.openFile volumeName fd
  cases opens with
  | resized success =>
      have isOpen : (world.addVolume kernel.newVolume ⟨volumeName, fd, mq⟩).fds fd =
          some volumeName := by
        simp [World.addVolume, World.openFile]
      refine World.Large.resized isOpen ?_ ?_
      · simp [World.addVolume, World.openFile]
      · exact large.imp And.right added
  | @notResized errno failed =>
      rcases large with ⟨success, _⟩ | before
      · exact (errno.negative_ne_zero success).elim
      · exact added before

/-- No handler makes a large file small. -/
theorem Handling.large {outcome : Outcome} (handling : Handling world kernel request outcome)
    (large : world.Large name) : outcome.world.Large name := by
  cases handling with
  | skipped nothing => exact large
  | stored live grown => exact large.grown grown
  | replied io live grown answers => exact large.grown grown
  | closed live => exact large
  | opened named replyNamed attached obtained opens => exact opens.large (Or.inr large)
  | dead uses gone => exact large
  | short live grown short => exact large.grown grown
  | denied failed => exact large
  | unread unread => exact large
  | replyUnread unread obtained => exact large.openFile _ _
  | unattached replyNamed missing obtained => exact large.openFile _ _

end IOHandler

end Cvbd
