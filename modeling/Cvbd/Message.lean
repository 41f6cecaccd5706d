import Cvbd.MessageCore
import Cvbd.Service

/-!
What one turn of a server thread can do, said once, and the invariant of the
server's memory that every turn keeps.
-/

namespace Cvbd

namespace World

variable {world : World}

theorem updateFile_spec {fd : Nat} {name : Name} (change : VolumeFile → VolumeFile)
    (fdOpen : world.fds fd = some name) :
    (world.updateFile fd change).fds = world.fds ∧
      (world.updateFile fd change).volumes = world.volumes ∧
      (world.updateFile fd change).mqNames = world.mqNames ∧
      (world.updateFile fd change).files =
        Function.update world.files name ((world.files name).map change) := by
  simp [updateFile, fdOpen]

theorem Sound.updateFile (sound : world.Sound) (fd : Nat) (change : VolumeFile → VolumeFile) :
    (world.updateFile fd change).Sound := by
  cases fdOpen : world.fds fd with
  | none => simpa [World.updateFile, fdOpen] using sound
  | some name =>
      obtain ⟨fds, volumes, _, files⟩ := updateFile_spec change fdOpen
      refine ⟨?_, ?_, ?_, ?_⟩
      · rw [volumes]
        exact sound.null
      · rw [volumes, fds]
        exact sound.fdOpen
      · rw [volumes]
        exact sound.fdDistinct
      · intro other otherName isOpen
        rw [fds] at isOpen
        obtain ⟨file, found⟩ := sound.existsFile other otherName isOpen
        rw [files]
        by_cases same : otherName = name
        · subst same
          exact ⟨change file, by simp [found]⟩
        · exact ⟨file, by simpa [same] using found⟩

/-- A descriptor has been opened and a `VolumeState` made for it. -/
def addVolume (world : World) (volume : UInt64) (state : VolumeState) : World :=
  { world.openFile state.volumeName state.fd with
    volumes := Function.update world.volumes volume (some state) }

/-- A `VolumeState` has been deleted and its descriptor closed. -/
def dropVolume (world : World) (volume : UInt64) (state : VolumeState) : World :=
  { world with
    fds := Function.update world.fds state.fd none
    volumes := Function.update world.volumes volume none }

theorem Sound.openFile (sound : world.Sound) (name : Name) {fd : Nat}
    (fresh : world.fds fd = none) : (world.openFile name fd).Sound where
  null := sound.null
  fdOpen := by
    intro volume state found
    have isOpen := sound.fdOpen volume state found
    have different : state.fd ≠ fd := by
      rintro rfl
      simp [fresh] at isOpen
    simpa [World.openFile, different] using isOpen
  fdDistinct := sound.fdDistinct
  existsFile := by
    intro other otherName isOpen
    by_cases sameName : otherName = name
    · exact ⟨_, by simp [World.openFile, sameName]; rfl⟩
    · have different : other ≠ fd := by
        rintro rfl
        exact sameName (by simpa [World.openFile] using isOpen.symm)
      obtain ⟨file, found⟩ := sound.existsFile other otherName
        (by simpa [World.openFile, different] using isOpen)
      exact ⟨file, by simpa [World.openFile, sameName] using found⟩

theorem Sound.addVolume (sound : world.Sound) {volume : UInt64} {state : VolumeState}
    (nonzero : volume ≠ 0) (fresh : world.fds state.fd = none) :
    (world.addVolume volume state).Sound := by
  have opened := sound.openFile state.volumeName fresh
  have split (other : UInt64) (otherState : VolumeState)
      (found : Function.update world.volumes volume (some state) other = some otherState) :
      other = volume ∧ otherState = state ∨ world.volumes other = some otherState := by
    by_cases same : other = volume
    · exact Or.inl ⟨same, by simpa [same] using found.symm⟩
    · exact Or.inr (by simpa [same] using found)
  have used (other : UInt64) (otherState : VolumeState)
      (found : world.volumes other = some otherState) : otherState.fd ≠ state.fd := by
    intro same
    have isOpen := sound.fdOpen _ _ found
    simp [same, fresh] at isOpen
  refine ⟨?_, ?_, ?_, opened.existsFile⟩
  · simpa [World.addVolume, Ne.symm nonzero] using sound.null
  · intro other otherState found
    rcases split _ _ found with ⟨_, rfl⟩ | old
    · simp [World.addVolume, World.openFile]
    · exact opened.fdOpen other otherState old
  · intro left right leftState rightState found otherFound same
    rcases split _ _ found with ⟨rfl, rfl⟩ | old
    · rcases split _ _ otherFound with ⟨rfl, _⟩ | otherOld
      · rfl
      · exact absurd same.symm (used _ _ otherOld)
    · rcases split _ _ otherFound with ⟨rfl, rfl⟩ | otherOld
      · exact absurd same (used _ _ old)
      · exact sound.fdDistinct _ _ _ _ old otherOld same

/-- The descriptor that is closed belongs to no other live object. -/
theorem Sound.dropVolume (sound : world.Sound) {volume : UInt64} {state : VolumeState}
    (live : world.volumes volume = some state) : (world.dropVolume volume state).Sound := by
  have keeps (other : UInt64) (otherState : VolumeState)
      (found : Function.update world.volumes volume none other = some otherState) :
      other ≠ volume ∧ world.volumes other = some otherState := by
    by_cases same : other = volume
    · simp [same] at found
    · exact ⟨same, by simpa [same] using found⟩
  refine ⟨?_, ?_, ?_, ?_⟩
  · by_cases same : (0 : UInt64) = volume
    · simp [World.dropVolume, same]
    · simp [World.dropVolume, same, sound.null]
  · intro other otherState found
    obtain ⟨different, found⟩ := keeps other otherState found
    have distinct : otherState.fd ≠ state.fd := fun same =>
      different (sound.fdDistinct _ _ _ _ found live same)
    simp [World.dropVolume, distinct, sound.fdOpen _ _ found]
  · intro left right leftState rightState found otherFound same
    exact sound.fdDistinct _ _ _ _ (keeps _ _ found).2 (keeps _ _ otherFound).2 same
  · intro fd name isOpen
    by_cases same : fd = state.fd
    · simp [World.dropVolume, same] at isOpen
    · exact sound.existsFile fd name (by simpa [World.dropVolume, same] using isOpen)

theorem openFile_files_ne {name other : Name} (fd : Nat) (different : other ≠ name) :
    (world.openFile name fd).files other = world.files other := by
  simp [openFile, different]

end World

namespace IOHandler

/-- Messages of which nothing becomes but a line in the log. -/
def Skipped (kernel : Kernel) : Request → Prop
  | .stop _ | .unknown _ => True
  | .write req => req.header.volume = 0
  | .close req => req.header.volume = 0
  | .openVolume _ => descriptor kernel = none
  | .read _ | .getsize _ | .fsync _ => False

/-- The turns that do not abort. -/
inductive Turn (world : World) (kernel : Kernel) : Request → World → Replies → Prop
  | skipped {request} : Skipped kernel request → Turn world kernel request world []
  | write {req volState} (live : world.volumes req.header.volume = some volState)
      (full : (transferResult kernel.pwrite).toUInt64 = req.sizeInBytes) :
      Turn world kernel (.write req)
        (world.updateFile volState.fd fun file => { file with
          content := kernel.written file.content req.offset.toInt.toNat req.data }) []
  | read {req volState} (live : world.volumes req.header.volume = some volState)
      (full : (transferResult kernel.pread).toUInt64 = req.sizeInBytes) :
      Turn world kernel (.read req) world [(volState.replyMq, .read ⟨req.header, req.sizeInBytes,
        kernel.readData (world.content volState.fd) req.offset.toInt.toNat⟩)]
  | getsize {req volState} (live : world.volumes req.header.volume = some volState) :
      Turn world kernel (.getsize req) world
        [(volState.replyMq, .getsize ⟨req.header, kernel.statSize (world.content volState.fd)⟩)]
  | synced {req volState} (live : world.volumes req.header.volume = some volState)
      (success : kernel.fsync = .ok ()) :
      Turn world kernel (.fsync req)
        (world.updateFile volState.fd fun file => { file with durable := file.content })
        [(volState.replyMq, .fsync ⟨req.header, 0⟩)]
  | notSynced {req volState errno} (live : world.volumes req.header.volume = some volState)
      (failed : kernel.fsync = .error errno) :
      Turn world kernel (.fsync req)
        (world.updateFile volState.fd fun file => { file with durable := kernel.durableAfterFailure })
        [(volState.replyMq, .fsync ⟨req.header, errno.negative⟩)]
  | closed {req volState} (live : world.volumes req.header.volume = some volState) :
      Turn world kernel (.close req) { world with
        fds := Function.update world.fds volState.fd none
        volumes := Function.update world.volumes req.header.volume none } []
  | opened {req name replyMqName mq fd} (named : req.volumeName = some name)
      (replyNamed : req.replyMqName = some replyMqName)
      (attached : world.mqNames replyMqName = some mq) (obtained : descriptor kernel = some fd)
      (resized : kernel.ftruncate = .ok ()) :
      Turn world kernel (.openVolume req)
        (({ world.openFile name fd with
          volumes := Function.update world.volumes kernel.newVolume
            (some ⟨name, fd, mq⟩) } : World).updateFile fd
              fun file => { file with content := file.content.truncate (2 ^ 34) })
        [(mq, .openVolume ⟨{ req.header with volume := kernel.newVolume }, kernel.newVolume, 0⟩)]
  | notResized {req name replyMqName mq fd errno} (named : req.volumeName = some name)
      (replyNamed : req.replyMqName = some replyMqName)
      (attached : world.mqNames replyMqName = some mq) (obtained : descriptor kernel = some fd)
      (failed : kernel.ftruncate = .error errno) :
      Turn world kernel (.openVolume req)
        { world with files := (world.openFile name fd).files }
        [(mq, .openVolume ⟨{ req.header with volume := kernel.newVolume }, kernel.newVolume,
          errno.negative⟩)]

variable {world after : World} {kernel : Kernel} {request : Request} {replies : Replies}

/-- Where the two `::open` calls obtain a descriptor, the rest of the handler runs with it. -/
theorem openVolume_eq (world : World) {req : OpenRequest} {name : Name} {fd : Nat}
    (named : req.volumeName = some name) (obtained : descriptor kernel = some fd) :
    openVolume world kernel req = attach (world.openFile name fd) kernel req name fd := by
  unfold descriptor at obtained
  unfold openVolume
  rw [named]
  cases first : kernel.open1 with
  | ok value =>
      simp only [first, Option.some.injEq] at obtained
      simp [obtained]
  | error errno =>
      cases second : kernel.open2 with
      | error other => simp [first, second] at obtained
      | ok value =>
          simp only [first, second] at obtained
          split at obtained
          · rename_i missing
            simp only [Option.some.injEq] at obtained
            simp [missing, obtained]
          · simp at obtained

/-- Where they do not, the handler sends nothing: it aborts unless the first error is `ENOENT`. -/
theorem openVolume_eq_none (world : World) {req : OpenRequest} {name : Name}
    (named : req.volumeName = some name) (failed : descriptor kernel = none) :
    openVolume world kernel req = .done world ∨
      openVolume world kernel req = .fault world .assertion := by
  unfold descriptor at failed
  unfold openVolume
  rw [named]
  cases first : kernel.open1 with
  | ok value => simp [first] at failed
  | error errno =>
      by_cases missing : errno.code = enoent.code
      · cases second : kernel.open2 with
        | ok value => simp [first, second, missing] at failed
        | error other => simp [missing]
      · simp [missing]

/-- The kernel hands out a descriptor that is not in use. -/
theorem descriptor_fresh {fd : Nat} (valid : kernel.Valid world request)
    (obtained : descriptor kernel = some fd) : world.fds fd = none := by
  unfold descriptor at obtained
  cases first : kernel.open1 with
  | ok value =>
      simp only [first, Option.some.injEq] at obtained
      subst obtained
      exact valid.open1 value first
  | error errno =>
      cases second : kernel.open2 with
      | error other => simp [first, second] at obtained
      | ok value =>
          simp only [first, second] at obtained
          split at obtained
          · simp only [Option.some.injEq] at obtained
            subst obtained
            exact valid.open2 value second
          · simp at obtained

/-- Closing the `VolumeState` of an OPEN that failed at `ftruncate` takes back all but the file. -/
theorem turn_notResized {req : OpenRequest} {name replyMqName : Name} {mq fd : Nat} {errno : Errno}
    (valid : kernel.Valid world (.openVolume req)) (named : req.volumeName = some name)
    (replyNamed : req.replyMqName = some replyMqName)
    (attached : world.mqNames replyMqName = some mq) (obtained : descriptor kernel = some fd)
    (failed : kernel.ftruncate = .error errno) :
    turn world kernel (.openVolume req) =
      .ok ({ world with files := (world.openFile name fd).files },
        [(mq, .openVolume ⟨{ req.header with volume := kernel.newVolume }, kernel.newVolume,
          errno.negative⟩)]) := by
  obtain ⟨nonzero, unused⟩ := valid.newVolume req rfl
  have fresh := descriptor_fresh valid obtained
  have found : (world.openFile name fd).mqNames replyMqName = some mq := attached
  have fds : Function.update (world.openFile name fd).fds fd none = world.fds := by
    simp only [World.openFile]
    rw [Function.update_idem, ← fresh, Function.update_eq_self]
  have volumes : Function.update (Function.update world.volumes kernel.newVolume
      (some ⟨name, fd, mq⟩)) kernel.newVolume none = world.volumes := by
    rw [Function.update_idem, ← unused, Function.update_eq_self]
  have opened : (world.openFile name fd).volumes = world.volumes := rfl
  simp only [turn, handle, openVolume_eq world named obtained, attach, replyNamed, found, failed,
    closeVolume, nonzero, if_false, Function.update_self, opened, fds, volumes]
  rfl

theorem turn_opened {req : OpenRequest} {name replyMqName : Name} {mq fd : Nat}
    (named : req.volumeName = some name) (replyNamed : req.replyMqName = some replyMqName)
    (attached : world.mqNames replyMqName = some mq) (obtained : descriptor kernel = some fd)
    (resized : kernel.ftruncate = .ok ()) :
    turn world kernel (.openVolume req) =
      .ok (({ world.openFile name fd with
          volumes := Function.update world.volumes kernel.newVolume
            (some ⟨name, fd, mq⟩) } : World).updateFile fd
              fun file => { file with content := file.content.truncate (2 ^ 34) },
        [(mq, .openVolume ⟨{ req.header with volume := kernel.newVolume }, kernel.newVolume, 0⟩)]) := by
  have found : (world.openFile name fd).mqNames replyMqName = some mq := attached
  have opened : (world.openFile name fd).volumes = world.volumes := rfl
  simp only [turn, handle, openVolume_eq world named obtained, attach, replyNamed, found, resized,
    opened]

/-- Every turn that does not abort is one of those listed. -/
theorem turn_spec (valid : kernel.Valid world request)
    (turned : turn world kernel request = .ok (after, replies)) :
    Turn world kernel request after replies := by
  cases request with
  | stop header =>
      obtain ⟨rfl, rfl⟩ : world = after ∧ [] = replies := by simpa [turn, handle] using turned
      exact .skipped trivial
  | unknown header =>
      obtain ⟨rfl, rfl⟩ : world = after ∧ [] = replies := by simpa [turn, handle] using turned
      exact .skipped trivial
  | write req =>
      simp only [turn, handle, write] at turned
      by_cases null : req.header.volume = 0
      · obtain ⟨rfl, rfl⟩ : world = after ∧ [] = replies := by simpa [null] using turned
        exact .skipped null
      · cases live : world.volumes req.header.volume with
        | none => simp [null, live] at turned
        | some volState =>
            by_cases full : (transferResult kernel.pwrite).toUInt64 = req.sizeInBytes
            · simp only [null, if_false, live, full, if_true, Except.ok.injEq,
                Prod.mk.injEq] at turned
              obtain ⟨rfl, rfl⟩ := turned
              exact .write live full
            · simp [null, live, full] at turned
  | read req =>
      simp only [turn, handle, read] at turned
      by_cases null : req.header.volume = 0
      · simp [null] at turned
      · cases live : world.volumes req.header.volume with
        | none => simp [null, live] at turned
        | some volState =>
            by_cases full : (transferResult kernel.pread).toUInt64 = req.sizeInBytes
            · simp only [null, if_false, live, full, if_true, Except.ok.injEq,
                Prod.mk.injEq] at turned
              obtain ⟨rfl, rfl⟩ := turned
              exact .read live full
            · simp [null, live, full] at turned
  | getsize req =>
      simp only [turn, handle, getsize] at turned
      by_cases null : req.header.volume = 0
      · simp [null] at turned
      · cases live : world.volumes req.header.volume with
        | none => simp [null, live] at turned
        | some volState =>
            simp only [null, if_false, live, Except.ok.injEq, Prod.mk.injEq] at turned
            obtain ⟨rfl, rfl⟩ := turned
            exact .getsize live
  | fsync req =>
      simp only [turn, handle, fsync] at turned
      by_cases null : req.header.volume = 0
      · simp [null] at turned
      · cases live : world.volumes req.header.volume with
        | none => simp [null, live] at turned
        | some volState =>
            cases synced : kernel.fsync with
            | ok _ =>
                simp only [null, if_false, live, synced, Except.ok.injEq, Prod.mk.injEq] at turned
                obtain ⟨rfl, rfl⟩ := turned
                exact .synced live synced
            | error errno =>
                simp only [null, if_false, live, synced, Except.ok.injEq, Prod.mk.injEq] at turned
                obtain ⟨rfl, rfl⟩ := turned
                exact .notSynced live synced
  | close req =>
      simp only [turn, handle, close, closeVolume] at turned
      by_cases null : req.header.volume = 0
      · obtain ⟨rfl, rfl⟩ : world = after ∧ [] = replies := by simpa [null] using turned
        exact .skipped null
      · cases live : world.volumes req.header.volume with
        | none => simp [null, live] at turned
        | some volState =>
            simp only [null, if_false, live, Except.ok.injEq, Prod.mk.injEq] at turned
            obtain ⟨rfl, rfl⟩ := turned
            exact .closed live
  | openVolume req =>
      cases named : req.volumeName with
      | none => simp [turn, handle, openVolume, named] at turned
      | some name =>
          cases obtained : descriptor kernel with
          | none =>
              rcases openVolume_eq_none world named obtained with skipped | aborted
              · obtain ⟨rfl, rfl⟩ : world = after ∧ [] = replies := by
                  simpa [turn, handle, skipped] using turned
                exact .skipped obtained
              · simp [turn, handle, aborted] at turned
          | some fd =>
              cases replyNamed : req.replyMqName with
              | none =>
                  simp [turn, handle, openVolume_eq world named obtained, attach, replyNamed] at turned
              | some replyMqName =>
                  cases attached : world.mqNames replyMqName with
                  | none =>
                      simp [turn, handle, openVolume_eq world named obtained, attach, replyNamed,
                        World.openFile, attached] at turned
                  | some mq =>
                      cases resized : kernel.ftruncate with
                      | ok _ =>
                          rw [turn_opened named replyNamed attached obtained resized] at turned
                          obtain ⟨rfl, rfl⟩ := Prod.mk.inj (Except.ok.inj turned)
                          exact .opened named replyNamed attached obtained resized
                      | error errno =>
                          rw [turn_notResized valid named replyNamed attached obtained resized]
                            at turned
                          obtain ⟨rfl, rfl⟩ := Prod.mk.inj (Except.ok.inj turned)
                          exact .notResized named replyNamed attached obtained resized

theorem Turn.sound (sound : world.Sound) (valid : kernel.Valid world request)
    (turned : Turn world kernel request after replies) : after.Sound := by
  cases turned with
  | skipped _ => exact sound
  | write _ _ => exact sound.updateFile _ _
  | read _ _ => exact sound
  | getsize _ => exact sound
  | synced _ _ => exact sound.updateFile _ _
  | notSynced _ _ => exact sound.updateFile _ _
  | closed live => exact sound.dropVolume live
  | @opened req name replyMqName mq fd _ _ _ obtained _ =>
      have added : (world.addVolume kernel.newVolume ⟨name, fd, mq⟩).Sound :=
        sound.addVolume (valid.newVolume req rfl).1 (descriptor_fresh valid obtained)
      exact added.updateFile fd _
  | @notResized req name replyMqName mq fd _ _ _ _ _ _ =>
      refine ⟨sound.null, sound.fdOpen, sound.fdDistinct, ?_⟩
      intro other otherName isOpen
      obtain ⟨file, found⟩ := sound.existsFile other otherName isOpen
      by_cases sameName : otherName = name
      · exact ⟨_, by simp [World.openFile, sameName]; rfl⟩
      · exact ⟨file, by simpa [World.openFile, sameName] using found⟩

theorem sound_run {initial : World} {trace : List TurnEvent} {world : World}
    (sound : initial.Sound) (run : machine.Run Permitted initial trace world) : world.Sound := by
  induction run with
  | start => exact sound
  | @next _ state label after events _ permitted stepped ih =>
      obtain ⟨kernel, request⟩ := label
      cases turned : turn state kernel request with
      | error _ => simp [machine, turned] at stepped
      | ok result =>
          obtain ⟨reached, replies⟩ := result
          simp only [machine, turned, Option.some.injEq, Prod.mk.injEq] at stepped
          obtain ⟨rfl, _⟩ := stepped
          exact (turn_spec permitted turned).sound ih permitted

end IOHandler

end Cvbd
