import Cvbd.Message
import Cvbd.Posix

/-!
What a handler can do to the `VolumeState` objects, the descriptors and the
queues before its reply is sent, said once for all requests.
-/

namespace Cvbd

def Request.usesVolume : Request → Bool
  | .read _ | .write _ | .getsize _ | .fsync _ | .close _ => true
  | .stop _ | .openVolume _ | .unknown _ => false

theorem Request.usesVolume_of_isIo {request : Request} (io : request.isIo = true) :
    request.usesVolume = true := by
  cases request <;> simp_all [isIo, usesVolume]

/-- The reply belongs to the request. -/
def Request.AnsweredBy : Request → Reply → Prop
  | .read req, .read reply => reply.header = req.header ∧ reply.sizeInBytes = req.sizeInBytes
  | .openVolume req, .openVolume reply =>
      reply.header = { req.header with volume := reply.volume }
  | .getsize req, .getsize reply => reply.header = req.header
  | .fsync req, .fsync reply => reply.header = req.header
  | _, _ => False

theorem Request.AnsweredBy.answered {request : Request} {reply : Reply}
    (answers : request.AnsweredBy reply) : request.answered = true := by
  cases request <;> cases reply <;> simp_all [AnsweredBy, Request.answered]

theorem Request.AnsweredBy.notOpen {request : Request} {reply : OpenReply} (io : request.isIo = true) :
    ¬request.AnsweredBy (.openVolume reply) := by
  cases request <;> simp_all [AnsweredBy, isIo]

/-- The transfer of a READ or WRITE is full. -/
def Kernel.Transfers (kernel : Kernel) : Request → Prop
  | .read req => (transferResult kernel.pread).toUInt64 = req.sizeInBytes
  | .write req => (transferResult kernel.pwrite).toUInt64 = req.sizeInBytes
  | _ => True

def Outcome.world : Outcome → World
  | .done world | .reply world _ _ _ | .fault world _ => world

theorem World.updateFile_mqNames (world : World) (fd : Nat) (change : VolumeFile → VolumeFile) :
    (world.updateFile fd change).mqNames = world.mqNames := by
  unfold World.updateFile
  split <;> rfl

/-- At most one file has changed, and none has become shorter. -/
inductive World.Grown (world : World) : World → Prop
  | same : Grown world world
  | update (fd : Nat) (change : VolumeFile → VolumeFile)
      (longer : ∀ file, file.content.size ≤ (change file).content.size) :
      Grown world (world.updateFile fd change)

namespace World.Grown

variable {world after : World}

theorem objects (grown : world.Grown after) :
    after.volumes = world.volumes ∧ after.fds = world.fds ∧ after.mqNames = world.mqNames := by
  cases grown with
  | same => exact ⟨rfl, rfl, rfl⟩
  | update fd change _ =>
      unfold World.updateFile
      split <;> exact ⟨rfl, rfl, rfl⟩

theorem sound (grown : world.Grown after) (sound : world.Sound) : after.Sound := by
  cases grown with
  | same => exact sound
  | update fd change _ => exact sound.updateFile fd change

theorem file (grown : world.Grown after) {name : Name} {old : VolumeFile}
    (found : world.files name = some old) :
    ∃ file, after.files name = some file ∧ old.content.size ≤ file.content.size := by
  cases grown with
  | same => exact ⟨old, found, Nat.le_refl _⟩
  | update fd change longer =>
      cases isOpen : world.fds fd with
      | none => exact ⟨old, by simpa [World.updateFile, isOpen] using found, Nat.le_refl _⟩
      | some other =>
          by_cases same : name = other
          · subst same
            exact ⟨change old, by simp [World.updateFile, isOpen, found], longer old⟩
          · exact ⟨old, by simpa [World.updateFile, isOpen, same] using found, Nat.le_refl _⟩

end World.Grown

namespace IOHandler

/-- What an OPEN that has obtained a descriptor and found its reply queue makes of the server's
memory, with the result it reports. -/
inductive Opens (world : World) (kernel : Kernel) (name : Name) (fd mq : Nat) : World → Int32 → Prop
  | resized (success : kernel.ftruncate = .ok ()) :
      Opens world kernel name fd mq ((world.addVolume kernel.newVolume ⟨name, fd, mq⟩).updateFile fd
        fun file => { file with content := file.content.truncate (2 ^ 34) }) 0
  | notResized {errno} (failed : kernel.ftruncate = .error errno) :
      Opens world kernel name fd mq (world.addVolume kernel.newVolume ⟨name, fd, mq⟩) errno.negative

/-- How a handler ends. -/
inductive Handling (world : World) (kernel : Kernel) : Request → Outcome → Prop
  | skipped {request} (nothing : Skipped kernel request) : Handling world kernel request (.done world)
  | stored {req volState after} (live : world.volumes req.header.volume = some volState)
      (grown : world.Grown after) : Handling world kernel (.write req) (.done after)
  | replied {request reply volState after} (io : request.isIo = true)
      (live : world.volumes request.header.volume = some volState) (grown : world.Grown after)
      (answers : request.AnsweredBy reply) :
      Handling world kernel request (.reply after volState.replyMq reply none)
  | closed {req volState} (live : world.volumes req.header.volume = some volState) :
      Handling world kernel (.close req) (.done (world.dropVolume req.header.volume volState))
  | opened {req name replyMqName mq fd after err} (named : req.volumeName = some name)
      (replyNamed : req.replyMqName = some replyMqName)
      (attached : world.mqNames replyMqName = some mq) (obtained : descriptor kernel = some fd)
      (opens : Opens world kernel name fd mq after err) :
      Handling world kernel (.openVolume req) (.reply after mq
        (.openVolume ⟨{ req.header with volume := kernel.newVolume }, kernel.newVolume, err⟩)
        (if err = 0 then none else some kernel.newVolume))
  | dead {request fault} (uses : request.usesVolume = true)
      (gone : request.header.volume = 0 ∨ world.volumes request.header.volume = none) :
      Handling world kernel request (.fault world fault)
  | short {request volState after} (live : world.volumes request.header.volume = some volState)
      (grown : world.Grown after) (short : ¬kernel.Transfers request) :
      Handling world kernel request (.fault after .assertion)
  | denied {req} (failed : descriptor kernel = none) :
      Handling world kernel (.openVolume req) (.fault world .assertion)
  | unread {req} (unread : req.volumeName = none) :
      Handling world kernel (.openVolume req) (.fault world .overrun)
  | replyUnread {req name fd} (unread : req.replyMqName = none)
      (obtained : descriptor kernel = some fd) :
      Handling world kernel (.openVolume req) (.fault (world.openFile name fd) .overrun)
  | unattached {req name replyMqName fd} (replyNamed : req.replyMqName = some replyMqName)
      (missing : world.mqNames replyMqName = none) (obtained : descriptor kernel = some fd) :
      Handling world kernel (.openVolume req) (.fault (world.openFile name fd) .exception)

variable {world : World} {kernel : Kernel}

theorem Opens.volumes {name : Name} {fd mq : Nat} {after : World} {err : Int32}
    (opens : Opens world kernel name fd mq after err) :
    after.volumes = Function.update world.volumes kernel.newVolume (some ⟨name, fd, mq⟩) := by
  cases opens with
  | resized success =>
      have isOpen : (world.addVolume kernel.newVolume ⟨name, fd, mq⟩).fds fd = some name := by
        simp [World.addVolume, World.openFile]
      exact (World.updateFile_spec _ isOpen).2.1
  | notResized failed => rfl

theorem handling_write (req : WriteRequest) :
    Handling world kernel (.write req) (write world kernel req) := by
  unfold write
  by_cases skip : req.header.volume = 0
  · rw [if_pos skip]
    exact .skipped skip
  · rw [if_neg skip]
    cases live : world.volumes req.header.volume with
    | none => exact .dead rfl (Or.inr live)
    | some volState =>
        have grown : world.Grown (world.updateFile volState.fd fun file => { file with
            content := kernel.written file.content req.offset.toInt.toNat req.data }) := by
          refine .update _ _ fun file => ?_
          unfold Kernel.written
          split
          · simp only [File.pwrite]
            split <;> omega
          · exact Nat.le_refl _
        by_cases full : (transferResult kernel.pwrite).toUInt64 = req.sizeInBytes
        · simpa only [full, if_true] using .stored live grown
        · simp only [full, if_false]
          exact .short live grown full

theorem handling_read (req : ReadRequest) :
    Handling world kernel (.read req) (read world kernel req) := by
  unfold read
  by_cases skip : req.header.volume = 0
  · rw [if_pos skip]
    exact .dead rfl (Or.inl skip)
  · rw [if_neg skip]
    cases live : world.volumes req.header.volume with
    | none => exact .dead rfl (Or.inr live)
    | some volState =>
        by_cases full : (transferResult kernel.pread).toUInt64 = req.sizeInBytes
        · simp only [full, if_true]
          exact .replied rfl live .same ⟨rfl, rfl⟩
        · simp only [full, if_false]
          exact .short live .same full

theorem handling_getsize (req : HeaderRequest) :
    Handling world kernel (.getsize req) (getsize world kernel req) := by
  unfold getsize
  by_cases skip : req.header.volume = 0
  · rw [if_pos skip]
    exact .dead rfl (Or.inl skip)
  · rw [if_neg skip]
    cases live : world.volumes req.header.volume with
    | none => exact .dead rfl (Or.inr live)
    | some volState => exact .replied rfl live .same rfl

theorem handling_fsync (req : HeaderRequest) :
    Handling world kernel (.fsync req) (fsync world kernel req) := by
  unfold fsync
  by_cases skip : req.header.volume = 0
  · rw [if_pos skip]
    exact .dead rfl (Or.inl skip)
  · rw [if_neg skip]
    cases live : world.volumes req.header.volume with
    | none => exact .dead rfl (Or.inr live)
    | some volState =>
        cases synced : kernel.fsync with
        | ok _ =>
            exact .replied rfl live
              (.update _ _ fun _ => Nat.le_refl _) rfl
        | error errno =>
            exact .replied rfl live
              (.update _ _ fun _ => Nat.le_refl _) rfl

theorem handling_close (req : HeaderRequest) :
    Handling world kernel (.close req) (close world req) := by
  unfold close closeVolume
  by_cases skip : req.header.volume = 0
  · rw [if_pos skip]
    exact .skipped skip
  · rw [if_neg skip]
    cases live : world.volumes req.header.volume with
    | none => exact .dead rfl (Or.inr live)
    | some volState => exact .closed live

theorem handling_openVolume (req : OpenRequest) :
    Handling world kernel (.openVolume req) (openVolume world kernel req) := by
  cases named : req.volumeName with
  | none =>
      simp only [openVolume, named]
      exact .unread named
  | some name =>
      cases obtained : descriptor kernel with
      | none =>
          rcases openVolume_eq_none world named obtained with skipped | aborted
          · rw [skipped]
            exact .skipped obtained
          · rw [aborted]
            exact .denied obtained
      | some fd =>
          rw [openVolume_eq world named obtained]
          unfold attach
          cases replyNamed : req.replyMqName with
          | none => exact .replyUnread replyNamed obtained
          | some replyMqName =>
              cases attached : world.mqNames replyMqName with
              | none =>
                  simp only [World.openFile, attached]
                  exact .unattached replyNamed attached obtained
              | some mq =>
                  simp only [World.openFile, attached]
                  cases resized : kernel.ftruncate with
                  | ok _ => exact .opened named replyNamed attached obtained (.resized resized)
                  | error errno =>
                      have ended := Handling.opened named replyNamed attached obtained
                        (.notResized resized)
                      simp only [errno.negative_ne_zero, if_false] at ended
                      exact ended

/-- Every handler ends in one of the ways listed. -/
theorem handle_spec (world : World) (kernel : Kernel) (request : Request) :
    Handling world kernel request (handle world kernel request) := by
  cases request with
  | stop header => exact .skipped trivial
  | write req => exact handling_write req
  | read req => exact handling_read req
  | openVolume req => exact handling_openVolume req
  | close req => exact handling_close req
  | getsize req => exact handling_getsize req
  | fsync req => exact handling_fsync req
  | unknown header => exact .skipped trivial

theorem Handling.mqNames {request : Request} {outcome : Outcome}
    (handling : Handling world kernel request outcome) :
    outcome.world.mqNames = world.mqNames := by
  cases handling with
  | skipped nothing => rfl
  | stored live grown => exact grown.objects.2.2
  | replied io live grown answers => exact grown.objects.2.2
  | closed live => rfl
  | opened named replyNamed attached obtained opens =>
      cases opens with
      | resized success => exact (World.updateFile_mqNames _ _ _).trans rfl
      | notResized failed => rfl
  | dead uses gone => rfl
  | short live grown short => exact grown.objects.2.2
  | denied failed => rfl
  | unread unread => rfl
  | replyUnread unread obtained => rfl
  | unattached replyNamed missing obtained => rfl

end IOHandler

end Cvbd
