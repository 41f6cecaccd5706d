import Cvbd.Message
import Cvbd.Posix
import Cvbd.Transfer

/-!
The answer to an OPEN. The two `::open` calls, the attachment to the client's
queue and `ftruncate` can each fail; the handler answers and cleans up where a
descriptor was obtained, and only there.
-/

namespace Cvbd

namespace IOHandler

/-- The error of the call at which an OPEN fails. -/
def failure (kernel : Kernel) : Option Errno :=
  match kernel.open1, kernel.open2, kernel.ftruncate with
  | .ok _, _, .ok _ => none
  | .ok _, _, .error errno => some errno
  | .error errno, .error second, _ => if errno.code = enoent.code then some second else some errno
  | .error errno, .ok _, .error third => if errno.code = enoent.code then some third else some errno
  | .error errno, .ok _, .ok _ => if errno.code = enoent.code then none else some errno

/-- The OPEN is answered with one reply in the client's queue `mq`. The reply carries the request's
header and reports success exactly if the file is open and has its size; otherwise it carries the
error, and no descriptor or `VolumeState` is left behind. -/
def Answered (world : World) (kernel : Kernel) (req : OpenRequest) (mq : Nat) : Prop :=
  ∃ after reply, turn world kernel (.openVolume req) = .ok (after, [(mq, .openVolume reply)]) ∧
    reply.header.id = req.header.id ∧ reply.header.type = req.header.type ∧
    reply.header.acb = req.header.acb ∧
    (reply.err = 0 ↔ ∃ fd name, req.volumeName = some name ∧ world.fds fd = none ∧
      after.fds fd = some name ∧ (after.content fd).size = 2 ^ 34) ∧
    (reply.err = 0 → ∃ volState, world.volumes reply.volume = none ∧
      after.volumes reply.volume = some volState ∧ req.volumeName = some volState.volumeName ∧
      after.fds volState.fd = some volState.volumeName ∧
      (after.content volState.fd).size = 2 ^ 34 ∧ volState.replyMq = mq) ∧
    (reply.err ≠ 0 → ∃ errno, failure kernel = some errno ∧ reply.err = errno.negative ∧
      after.fds = world.fds ∧ after.volumes = world.volumes)

variable {world : World} {kernel : Kernel} {req : OpenRequest} {name replyMqName : Name} {mq fd : Nat}

theorem opened_content (world : World) (name : Name) (fd : Nat) (volumes : UInt64 → Option VolumeState) :
    let opened : World := { world.openFile name fd with volumes }
    let resized := opened.updateFile fd
      fun file => { file with content := file.content.truncate (2 ^ 34) }
    resized.fds fd = some name ∧ resized.volumes = volumes ∧ (resized.content fd).size = 2 ^ 34 := by
  intro opened resized
  have fdOpen : opened.fds fd = some name := by simp [opened, World.openFile]
  obtain ⟨fds, sameVolumes, _, files⟩ := World.updateFile_spec
    (fun file => { file with content := file.content.truncate (2 ^ 34) }) fdOpen
  refine ⟨by rw [← fdOpen, ← fds], sameVolumes, ?_⟩
  have found : resized.files name = some ⟨((world.files name).getD
      ⟨File.empty, File.empty⟩).content.truncate (2 ^ 34),
        ((world.files name).getD ⟨File.empty, File.empty⟩).durable⟩ := by
    rw [show resized.files = _ from files]
    simp [opened, World.openFile]
  have reaches : resized.fds fd = some name := by rw [← fdOpen, ← fds]
  rw [World.content_eq reaches found]
  rfl

theorem failure_eq_ftruncate (obtained : descriptor kernel = some fd) {errno : Errno}
    (failed : kernel.ftruncate = .error errno) : failure kernel = some errno := by
  unfold descriptor at obtained
  unfold failure
  rw [failed]
  cases first : kernel.open1 with
  | ok value => rfl
  | error missing =>
      cases second : kernel.open2 with
      | error other => simp [first, second] at obtained
      | ok value =>
          have enoent : missing.code = enoent.code := by
            by_contra different
            simp [first, second, different] at obtained
          simp [enoent]

/-- With a descriptor the OPEN is answered, whatever `ftruncate` says. -/
theorem answered_of_descriptor (valid : kernel.Valid world (.openVolume req))
    (named : req.volumeName = some name) (replyNamed : req.replyMqName = some replyMqName)
    (attached : world.mqNames replyMqName = some mq) (obtained : descriptor kernel = some fd) :
    Answered world kernel req mq := by
  have fresh := descriptor_fresh valid obtained
  obtain ⟨_, unused⟩ := valid.newVolume req rfl
  cases resized : kernel.ftruncate with
  | ok _ =>
      obtain ⟨reaches, volumes, size⟩ := opened_content world name fd
        (Function.update world.volumes kernel.newVolume (some ⟨name, fd, mq⟩))
      refine ⟨_, _, turn_opened named replyNamed attached obtained resized, rfl, rfl, rfl, ?_, ?_, ?_⟩
      · exact ⟨fun _ => ⟨fd, name, named, fresh, reaches, size⟩, fun _ => rfl⟩
      · intro _
        refine ⟨⟨name, fd, mq⟩, unused, ?_, named, reaches, size, rfl⟩
        rw [volumes, Function.update_self]
      · intro failed
        exact absurd rfl failed
  | error errno =>
      have nonzero := errno.negative_ne_zero
      refine ⟨_, _, turn_notResized valid named replyNamed attached obtained resized, rfl, rfl, rfl,
        ?_, ?_, ?_⟩
      · constructor
        · intro success
          exact absurd success nonzero
        · rintro ⟨other, otherName, _, unopened, isOpen, _⟩
          rw [show world.fds other = some otherName from isOpen] at unopened
          simp at unopened
      · intro success
        exact absurd success nonzero
      · intro _
        exact ⟨errno, failure_eq_ftruncate obtained resized, rfl, rfl, rfl⟩

def eacces : Errno := ⟨13, by decide⟩

def sampleWorld : World :=
  .started (fun _ => none) (Function.update (fun _ => none) [118] (some 0))

def sampleOpen : OpenRequest := ⟨⟨false, .reqOpen, 1, 0, 0⟩, some [118], some [118]⟩

def sampleKernel (open1 open2 : Except Errno Nat) : Kernel :=
  { Kernel.transfer File.empty 0 0 with open1, open2, newVolume := 4096, ftruncate := .ok () }

theorem sample_valid {open1 open2 : Except Errno Nat} :
    (sampleKernel open1 open2).Valid sampleWorld (.openVolume sampleOpen) where
  open1 := fun _ _ => rfl
  open2 := fun _ _ => rfl
  newVolume := fun _ _ => ⟨(by decide : (4096 : UInt64) ≠ 0), rfl⟩
  pread := by rintro _ _ _ ⟨⟩
  pwrite := by rintro _ _ ⟨⟩

/-- A volume file that does not exist and may not be created leaves the client without an answer. -/
example : (turn sampleWorld (sampleKernel (.error enoent) (.error eacces))
    (.openVolume sampleOpen)).map Prod.snd = .ok [] := rfl

end IOHandler

end Cvbd
