import Cvbd.IsolationCore
import Cvbd.Message

/-!
One turn in two runs. Bytes of the reply object that did not come from the
secret volume agree, and so do the worlds up to the content of its file.
-/

namespace Cvbd

/-! The bytes a handler stores. -/

namespace Wire

theorem store_congr_at {old other : Bytes} {start width value position : Nat}
    (outside : position < start ∨ start + width ≤ position → old position = other position) :
    LittleEndian.store old start width value position =
      LittleEndian.store other start width value position :=
  Region.copy_congr_at (fun _ _ => rfl) outside

theorem storeHeader_congr_at {old other : Bytes} (header : Header) {position : Nat}
    (stale : ¬(position = 0 ∨ 4 ≤ position ∧ position < 32) → old position = other position) :
    storeHeader old header position = storeHeader other header position := by
  refine store_congr_at fun notAcb => ?_
  refine store_congr_at fun notVolume => ?_
  refine store_congr_at fun notId => ?_
  refine store_congr_at fun notType => ?_
  refine store_congr_at fun notStop => ?_
  exact stale (by omega)

/-- Replies with the same fields; the data of a READ agrees if it is visible. -/
inductive Alike (visible : Prop) : Reply → Reply → Prop
  | same (reply : Reply) : Alike visible reply reply
  | read {header sizeInBytes data other}
      (same : visible → ∀ index, index < sizeInBytes.toNat → data index = other index) :
      Alike visible (.read ⟨header, sizeInBytes, data⟩) (.read ⟨header, sizeInBytes, other⟩)

variable {visible : Prop} {left right : Reply}

theorem Alike.fields (alike : Alike visible left right) (old other : Bytes) :
    left.header = right.header ∧ (replyMessage old left).size = (replyMessage other right).size ∧
      isData left = isData right ∧ isField left = isField right := by
  cases alike with
  | same => cases left <;> exact ⟨rfl, rfl, rfl, rfl⟩
  | read same => exact ⟨rfl, rfl, rfl, rfl⟩

/-- Alike replies leave alike bytes, where they store something and where they leave the old byte. -/
theorem Alike.bytes (alike : Alike visible left right) {old other : Bytes} {position : Nat}
    (data : isData left position = true → visible)
    (stale : isData left position = false → isField left position = false →
      old position = other position) :
    (replyMessage old left).bytes position = (replyMessage other right).bytes position := by
  cases alike with
  | @read header sizeInBytes _ _ same =>
      refine Region.copy_congr_at ?_ fun notData => ?_
      · intro lower upper
        have upper : position < 40 + sizeInBytes.toNat := upper
        exact same (data (by simp [isData]; omega)) _ (by omega)
      · have notData : position < 40 ∨ 40 + sizeInBytes.toNat ≤ position := notData
        refine store_congr_at fun notSize => storeHeader_congr_at _ fun notHeader => ?_
        exact stale (by simp [isData]; omega) (by simp [isField]; omega)
  | same =>
      cases left with
      | read reply =>
          refine Region.copy_congr_at (fun _ _ => rfl) fun notData => ?_
          refine store_congr_at fun notSize => storeHeader_congr_at _ fun notHeader => ?_
          exact stale (by simp [isData]; omega) (by simp [isField]; omega)
      | openVolume reply =>
          refine store_congr_at fun notErr => store_congr_at fun notVolume => ?_
          refine storeHeader_congr_at _ fun notHeader => ?_
          exact stale rfl (by simp [isField]; omega)
      | getsize reply =>
          refine store_congr_at fun notSize => storeHeader_congr_at _ fun notHeader => ?_
          exact stale rfl (by simp [isField]; omega)
      | fsync reply =>
          refine store_congr_at fun notErr => storeHeader_congr_at _ fun notHeader => ?_
          exact stale rfl (by simp [isField]; omega)

end Wire

/-! The worlds of two runs. -/

/-- The worlds agree but for the file of the volume `secret`; while that volume is open, the two
files have one size. -/
structure World.SameBut (secret : Name) (left right : World) : Prop where
  fds : left.fds = right.fds
  volumes : left.volumes = right.volumes
  mqNames : left.mqNames = right.mqNames
  contents : ∀ name, name ≠ secret →
    (left.files name).map VolumeFile.content = (right.files name).map VolumeFile.content
  sizes : ∀ volume volState, left.volumes volume = some volState → volState.volumeName = secret →
    (left.files secret).map (fun file => file.content.size) =
      (right.files secret).map fun file => file.content.size

/-- What is known of the two files of one volume. -/
structure VolumeFile.SameBut (secret name : Name) (left right : VolumeFile) : Prop where
  content : name ≠ secret → left.content = right.content
  size : left.content.size = right.content.size

namespace World

variable {secret name : Name} {left right : World} {volume : UInt64} {volState : VolumeState}

theorem SameBut.liveFiles (same : SameBut secret left right) (soundLeft : left.Sound)
    (soundRight : right.Sound) (live : left.volumes volume = some volState) :
    ∃ fileLeft fileRight, left.files volState.volumeName = some fileLeft ∧
      right.files volState.volumeName = some fileRight ∧
      fileLeft.SameBut secret volState.volumeName fileRight := by
  have liveRight : right.volumes volume = some volState := by rw [← same.volumes, live]
  obtain ⟨fileLeft, foundLeft⟩ := soundLeft.existsFile _ _ (soundLeft.fdOpen _ _ live)
  obtain ⟨fileRight, foundRight⟩ := soundRight.existsFile _ _ (soundRight.fdOpen _ _ liveRight)
  refine ⟨fileLeft, fileRight, foundLeft, foundRight, ?_⟩
  by_cases isSecret : volState.volumeName = secret
  · have sizes := same.sizes volume volState live isSecret
    rw [← isSecret, foundLeft, foundRight] at sizes
    exact ⟨fun other => (other isSecret).elim, Option.some.inj sizes⟩
  · have contents := same.contents _ isSecret
    rw [foundLeft, foundRight] at contents
    have equal : fileLeft.content = fileRight.content := Option.some.inj contents
    exact ⟨fun _ => equal, by rw [equal]⟩

theorem SameBut.updateFile {change other : VolumeFile → VolumeFile}
    (same : SameBut secret left right) (soundLeft : left.Sound) (soundRight : right.Sound)
    (live : left.volumes volume = some volState)
    (changes : ∀ fileLeft fileRight, fileLeft.SameBut secret volState.volumeName fileRight →
      (change fileLeft).SameBut secret volState.volumeName (other fileRight)) :
    SameBut secret (left.updateFile volState.fd change) (right.updateFile volState.fd other) := by
  obtain ⟨fileLeft, fileRight, foundLeft, foundRight, alike⟩ :=
    same.liveFiles soundLeft soundRight live
  have liveRight : right.volumes volume = some volState := by rw [← same.volumes, live]
  obtain ⟨fdsLeft, volumesLeft, namesLeft, filesLeft⟩ :=
    updateFile_spec change (soundLeft.fdOpen _ _ live)
  obtain ⟨fdsRight, volumesRight, namesRight, filesRight⟩ :=
    updateFile_spec other (soundRight.fdOpen _ _ liveRight)
  have changed := changes _ _ alike
  refine ⟨?_, ?_, ?_, ?_, ?_⟩
  · rw [fdsLeft, fdsRight, same.fds]
  · rw [volumesLeft, volumesRight, same.volumes]
  · rw [namesLeft, namesRight, same.mqNames]
  · intro name different
    rw [filesLeft, filesRight]
    by_cases here : name = volState.volumeName
    · subst here
      simp [foundLeft, foundRight, changed.content different]
    · simp [here, same.contents name different]
  · intro again againState open' isSecret
    rw [volumesLeft] at open'
    rw [filesLeft, filesRight]
    by_cases here : secret = volState.volumeName
    · subst here
      simp [foundLeft, foundRight, changed.size]
    · simp [here, same.sizes again againState open' isSecret]

theorem SameBut.openFile (same : SameBut secret left right) (soundLeft : left.Sound)
    (soundRight : right.Sound) (name : Name) (fd : Nat) :
    SameBut secret { left with files := (left.openFile name fd).files }
      { right with files := (right.openFile name fd).files } := by
  refine ⟨same.fds, same.volumes, same.mqNames, ?_, ?_⟩
  · intro other different
    by_cases here : other = name
    · subst here
      have contents := same.contents other different
      cases foundLeft : left.files other <;> cases foundRight : right.files other <;>
        simp_all [World.openFile]
    · simp only [openFile_files_ne fd here]
      exact same.contents other different
  · intro volume volState live isSecret
    by_cases here : secret = name
    · subst here
      obtain ⟨fileLeft, fileRight, foundLeft, foundRight, alike⟩ :=
        same.liveFiles soundLeft soundRight live
      rw [isSecret] at foundLeft foundRight
      simp [World.openFile, foundLeft, foundRight, alike.size]
    · simp only [openFile_files_ne fd here]
      exact same.sizes volume volState live isSecret

/-- A successful OPEN gives both files their common size. -/
theorem SameBut.opened (same : SameBut secret left right) (soundLeft : left.Sound)
    (soundRight : right.Sound) (name : Name) (fd mq : Nat) (vol : UInt64) :
    SameBut secret
      (({ left.openFile name fd with
        volumes := Function.update left.volumes vol (some ⟨name, fd, mq⟩) } : World).updateFile fd
          fun file => { file with content := file.content.truncate (2 ^ 34) })
      (({ right.openFile name fd with
        volumes := Function.update right.volumes vol (some ⟨name, fd, mq⟩) } : World).updateFile fd
          fun file => { file with content := file.content.truncate (2 ^ 34) }) := by
  have created := same.openFile soundLeft soundRight name fd
  have reaches (world : World) : ({ world.openFile name fd with
      volumes := Function.update world.volumes vol (some ⟨name, fd, mq⟩) } : World).fds fd =
        some name := by simp [World.openFile]
  obtain ⟨fdsLeft, volumesLeft, namesLeft, filesLeft⟩ := updateFile_spec
    (fun file => { file with content := file.content.truncate (2 ^ 34) }) (reaches left)
  obtain ⟨fdsRight, volumesRight, namesRight, filesRight⟩ := updateFile_spec
    (fun file => { file with content := file.content.truncate (2 ^ 34) }) (reaches right)
  have exists' (world : World) : ∃ file, (world.openFile name fd).files name = some file := by
    simp [World.openFile]
  obtain ⟨fileLeft, foundLeft⟩ := exists' left
  obtain ⟨fileRight, foundRight⟩ := exists' right
  refine ⟨?_, ?_, ?_, ?_, ?_⟩
  · rw [fdsLeft, fdsRight]
    simp [World.openFile, same.fds]
  · rw [volumesLeft, volumesRight]
    simp [same.volumes]
  · rw [namesLeft, namesRight]
    exact same.mqNames
  · intro other different
    rw [filesLeft, filesRight]
    have contents := created.contents other different
    by_cases here : other = name
    · subst here
      simp only [foundLeft, foundRight, Option.map_some, Option.some.injEq] at contents
      simp [foundLeft, foundRight, contents]
    · simpa [here] using contents
  · intro volume volState live isSecret
    rw [filesLeft, filesRight]
    by_cases here : secret = name
    · subst here
      simp [foundLeft, foundRight, File.truncate]
    · have old : left.volumes volume = some volState := by
        rw [volumesLeft] at live
        by_cases new : volume = vol
        · subst new
          simp only [Function.update_self, Option.some.injEq] at live
          rw [← live] at isSecret
          exact (here isSecret.symm).elim
        · simpa [new] using live
      simpa [here] using created.sizes volume volState old isSecret

end World

end Cvbd
