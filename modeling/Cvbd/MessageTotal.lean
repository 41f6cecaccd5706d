import Cvbd.Message
import Cvbd.OpenTotal

/-!
A server thread over a sequence of messages on open volumes: which answers it
gives, and which messages it survives.
-/

namespace Cvbd

/-- READ, WRITE, GETSIZE, FSYNC, CLOSE and messages of an unknown type. -/
def Request.onVolume : Request → Bool
  | .read _ | .write _ | .getsize _ | .fsync _ | .close _ | .unknown _ => true
  | .openVolume _ | .stop _ => false

/-- The data of a message fits into the message. -/
def Request.Fits : Request → Prop
  | .read req => req.sizeInBytes.toNat ≤ maxDataSize
  | .write req => req.sizeInBytes.toNat ≤ maxDataSize
  | _ => True

namespace IOHandler

/-- A message whose `header.volume` is null or names a live `VolumeState`. -/
structure Admissible (world : World) (kernel : Kernel) (request : Request) : Prop where
  onVolume : request.onVolume = true
  volume : request.header.volume = 0 ∨ ∃ volState,
    world.volumes request.header.volume = some volState
  fits : request.Fits
  valid : kernel.Valid world request

/-- How many bytes of the data area a READ has filled. -/
def validBytes (kernel : Kernel) : Nat :=
  match kernel.pread with
  | .ok count => count
  | .error _ => 0

/-- The reply tells what became of the request. -/
def Tells (kernel : Kernel) (content : File) : Request → Reply → Prop
  | .read req, .read reply => reply.sizeInBytes.toNat = validBytes kernel ∧
      ∀ index, index < validBytes kernel →
        reply.data index = content.byte (req.offset.toInt.toNat + index)
  | .getsize _, .getsize reply =>
      (kernel.fstat = .ok () → reply.sizeInBytes = Int64.ofNat content.size) ∧
        ∀ errno, kernel.fstat = .error errno → reply.sizeInBytes = 0
  | .fsync _, .fsync reply => (kernel.fsync = .ok () → reply.err = 0) ∧
      ∀ errno, kernel.fsync = .error errno → reply.err = errno.negative
  | _, _ => False

/-- What a turn owes: one reply with the request's header for a READ, GETSIZE or FSYNC on a live
volume and none for the rest, and no other volume changed. -/
structure Proper (world : World) (kernel : Kernel) (request : Request) (after : World)
    (replies : Replies) : Prop where
  answers : ∀ volState, request.answered = true →
    world.volumes request.header.volume = some volState → ∃ reply,
      replies = [(volState.replyMq, reply)] ∧ reply.header = request.header ∧
        Tells kernel (world.content volState.fd) request reply
  silent : request.answered = false → replies = []
  volumes : ∀ other, other ≠ request.header.volume → after.volumes other = world.volumes other
  fds : ∀ other volState, other ≠ request.header.volume → world.volumes other = some volState →
    after.fds volState.fd = world.fds volState.fd
  files : ∀ name, (∀ volState, world.volumes request.header.volume = some volState →
    volState.volumeName ≠ name) → after.files name = world.files name

/-- The messages the server survives: a READ, GETSIZE or FSYNC must name a volume, and a READ or
WRITE on a volume must be transferred in full. -/
def Benign (kernel : Kernel) : Request → Prop
  | .read req => req.header.volume ≠ 0 ∧ kernel.pread = .ok req.sizeInBytes.toNat
  | .write req => req.header.volume = 0 ∨ kernel.pwrite = .ok req.sizeInBytes.toNat
  | .getsize req | .fsync req => req.header.volume ≠ 0
  | .close _ | .openVolume _ | .stop _ | .unknown _ => True

def Survives : World → List (Kernel × Request) → Prop
  | _, [] => True
  | world, (kernel, request) :: rest => ∃ after replies,
      turn world kernel request = .ok (after, replies) ∧
        Proper world kernel request after replies ∧ Survives after rest

/-- Every message is admissible when its turn comes. -/
def Admitted : World → List (Kernel × Request) → Prop
  | _, [] => True
  | world, (kernel, request) :: rest => Admissible world kernel request ∧
      ∀ after replies, turn world kernel request = .ok (after, replies) → Admitted after rest

variable {world after : World} {kernel : Kernel} {request : Request} {replies : Replies}

/-- What a change to one volume's file leaves alone. -/
theorem updateFile_elsewhere (sound : world.Sound) {volume : UInt64} {volState : VolumeState}
    (live : world.volumes volume = some volState) (change : VolumeFile → VolumeFile) {name : Name}
    (elsewhere : ∀ volState, world.volumes volume = some volState → volState.volumeName ≠ name) :
    (world.updateFile volState.fd change).files name = world.files name := by
  obtain ⟨_, _, _, files⟩ := World.updateFile_spec change (sound.fdOpen _ _ live)
  have different : name ≠ volState.volumeName := fun same => elsewhere _ live same.symm
  rw [files, Function.update_of_ne different]

theorem proper_same (silent : request.answered = false → replies = [])
    (answers : ∀ volState, request.answered = true →
      world.volumes request.header.volume = some volState → ∃ reply,
        replies = [(volState.replyMq, reply)] ∧ reply.header = request.header ∧
          Tells kernel (world.content volState.fd) request reply) :
    Proper world kernel request world replies :=
  ⟨answers, silent, fun _ _ => rfl, fun _ _ _ _ => rfl, fun _ _ => rfl⟩

theorem proper_update (request : Request) (sound : world.Sound) {volState : VolumeState}
    (live : world.volumes request.header.volume = some volState)
    (change : VolumeFile → VolumeFile) (silent : request.answered = false → replies = [])
    (answers : ∀ volState, request.answered = true →
      world.volumes request.header.volume = some volState → ∃ reply,
        replies = [(volState.replyMq, reply)] ∧ reply.header = request.header ∧
          Tells kernel (world.content volState.fd) request reply) :
    Proper world kernel request (world.updateFile volState.fd change) replies := by
  obtain ⟨fds, volumes, _, _⟩ := World.updateFile_spec change (sound.fdOpen _ _ live)
  refine ⟨answers, silent, ?_, ?_, ?_⟩
  · intro other _
    rw [volumes]
  · intro other state _ _
    rw [fds]
  · intro name elsewhere
    exact updateFile_elsewhere sound live change elsewhere

/-- Every turn on a volume does what it owes. -/
theorem Turn.proper (sound : world.Sound) (admissible : Admissible world kernel request)
    (turned : Turn world kernel request after replies) :
    Proper world kernel request after replies := by
  obtain ⟨onVolume, _, fits, valid⟩ := admissible
  cases turned with
  | @skipped _ skipped =>
      refine proper_same (fun _ => rfl) ?_
      intro volState answered live
      cases request with
      | read req => exact skipped.elim
      | getsize req => exact skipped.elim
      | fsync req => exact skipped.elim
      | openVolume req => simp [Request.onVolume] at onVolume
      | write req => simp [Request.answered] at answered
      | close req => simp [Request.answered] at answered
      | unknown header => simp [Request.answered] at answered
      | stop header => simp [Request.answered] at answered
  | @write req volState live full =>
      exact proper_update (.write req) sound live _ (fun _ => rfl) (by simp [Request.answered])
  | @read req volState live full =>
      have bounded (count : Nat) (transferred : kernel.pread = .ok count) :
          count ≤ req.sizeInBytes.toNat :=
        Nat.le_trans (valid.pread req volState count rfl live transferred).2 (Nat.min_le_left _ _)
      have transferred := transferResult_full fits bounded full
      have count : validBytes kernel = req.sizeInBytes.toNat := by simp [validBytes, transferred]
      refine proper_same (by simp [Request.answered]) ?_
      intro found _ same
      obtain rfl : volState = found := Option.some.inj (live.symm.trans same)
      refine ⟨_, rfl, rfl, count.symm, ?_⟩
      intro index below
      rw [count] at below
      simp only [Kernel.readData, transferred]
      exact Region.copy_prefix below
  | @getsize req volState live =>
      refine proper_same (by simp [Request.answered]) ?_
      intro found _ same
      obtain rfl : volState = found := Option.some.inj (live.symm.trans same)
      refine ⟨_, rfl, rfl, ?_, ?_⟩
      · intro success
        simp [Kernel.statSize, success]
      · intro errno failed
        simp [Kernel.statSize, failed]
  | @synced req volState live success =>
      refine proper_update (.fsync req) sound live _ (by simp [Request.answered]) ?_
      intro found _ same
      obtain rfl : volState = found := Option.some.inj (live.symm.trans same)
      refine ⟨_, rfl, rfl, fun _ => rfl, ?_⟩
      intro errno failed
      simp [success] at failed
  | @notSynced req volState errno live failed =>
      refine proper_update (.fsync req) sound live _ (by simp [Request.answered]) ?_
      intro found _ same
      obtain rfl : volState = found := Option.some.inj (live.symm.trans same)
      refine ⟨_, rfl, rfl, ?_, ?_⟩
      · intro success
        simp [success] at failed
      · intro other same
        rw [failed] at same
        obtain rfl := Except.error.inj same
        rfl
  | @closed req volState live =>
      refine ⟨by simp [Request.answered], fun _ => rfl, ?_, ?_, fun _ _ => rfl⟩
      · intro other different
        exact Function.update_of_ne different _ _
      · intro other state different found
        have distinct : state.fd ≠ volState.fd := fun same =>
          different (sound.fdDistinct _ _ _ _ found live same)
        exact Function.update_of_ne distinct _ _
  | opened _ _ _ _ _ => simp [Request.onVolume] at onVolume
  | notResized _ _ _ _ _ => simp [Request.onVolume] at onVolume

/-- The turns on volumes that do not abort are those of benign messages. -/
theorem turned_iff (sound : world.Sound) (admissible : Admissible world kernel request) :
    (∃ after replies, turn world kernel request = .ok (after, replies)) ↔
      Benign kernel request := by
  obtain ⟨onVolume, volume, fits, valid⟩ := admissible
  have nonnull {volState : VolumeState}
      (live : world.volumes request.header.volume = some volState) :
      request.header.volume ≠ 0 := by
    intro null
    rw [null, sound.null] at live
    simp at live
  constructor
  · rintro ⟨after, replies, turned⟩
    cases turn_spec valid turned with
    | @skipped _ skipped =>
        cases request with
        | write req => exact Or.inl skipped
        | read req => exact skipped.elim
        | getsize req => exact skipped.elim
        | fsync req => exact skipped.elim
        | close req => trivial
        | openVolume req => trivial
        | stop header => trivial
        | unknown header => trivial
    | @write req volState live full =>
        exact Or.inr (transferResult_full fits
          (fun count transferred => (valid.pwrite req count rfl transferred).2) full)
    | @read req volState live full =>
        exact ⟨nonnull live, transferResult_full fits (fun count transferred =>
          Nat.le_trans (valid.pread req volState count rfl live transferred).2 (Nat.min_le_left _ _)) full⟩
    | getsize live => exact nonnull live
    | synced live _ => exact nonnull live
    | notSynced live _ => exact nonnull live
    | closed _ => trivial
    | opened _ _ _ _ _ => trivial
    | notResized _ _ _ _ _ => trivial
  · intro benign
    cases request with
    | write req =>
        by_cases null : req.header.volume = 0
        · exact ⟨world, [], by simp [turn, handle, write, null]⟩
        · obtain ⟨volState, live⟩ := volume.resolve_left null
          have full := benign.resolve_left null
          simp only [Request.header] at live
          simp [turn, handle, write, null, live, full, transferResult_ok]
    | read req =>
        obtain ⟨null, full⟩ := benign
        obtain ⟨volState, live⟩ := volume.resolve_left null
        simp only [Request.header] at live
        simp [turn, handle, read, null, live, full, transferResult_ok]
    | getsize req =>
        obtain ⟨volState, live⟩ := volume.resolve_left benign
        have null : req.header.volume ≠ 0 := benign
        simp only [Request.header] at live
        simp [turn, handle, getsize, null, live]
    | fsync req =>
        obtain ⟨volState, live⟩ := volume.resolve_left benign
        have null : req.header.volume ≠ 0 := benign
        simp only [Request.header] at live
        cases synced : kernel.fsync with
        | ok _ => simp [turn, handle, fsync, null, live, synced]
        | error errno => simp [turn, handle, fsync, null, live, synced]
    | close req =>
        by_cases null : req.header.volume = 0
        · exact ⟨world, [], by simp [turn, handle, close, closeVolume, null]⟩
        · obtain ⟨volState, live⟩ := volume.resolve_left null
          simp only [Request.header] at live
          simp [turn, handle, close, closeVolume, null, live]
    | unknown header => exact ⟨world, [], rfl⟩
    | stop header => exact ⟨world, [], rfl⟩
    | openVolume req => simp [Request.onVolume] at onVolume

def sampleVolume : World := (Exchange.sample 8192 []).world

theorem sample_sound : sampleVolume.Sound where
  null := rfl
  fdOpen := by
    intro volume volState live
    by_cases same : volume = 4096
    · subst same
      obtain rfl : (⟨[118], 3, 0⟩ : VolumeState) = volState := by
        simpa [sampleVolume, Exchange.sample] using live
      simp [sampleVolume, Exchange.sample]
    · simp [sampleVolume, Exchange.sample, same] at live
  fdDistinct := by
    intro volume other volState otherState live otherLive _
    have only (volume : UInt64) (volState : VolumeState)
        (live : sampleVolume.volumes volume = some volState) : volume = 4096 := by
      by_contra different
      simp [sampleVolume, Exchange.sample, different] at live
    rw [only _ _ live, only _ _ otherLive]
  existsFile := by
    intro fd name isOpen
    by_cases same : fd = 3
    · subst same
      obtain rfl : [118] = name := by simpa [sampleVolume, Exchange.sample] using isOpen
      exact ⟨_, by simp [sampleVolume, Exchange.sample]; rfl⟩
    · simp [sampleVolume, Exchange.sample, same] at isOpen

def sampleRead : Request := .read ⟨⟨false, .reqRead, 1, 4096, 64⟩, 0, 4096⟩

theorem sampleRead_admissible {pread : Except Errno Nat} (short : ∀ count, pread = .ok count →
    count ≤ 4096) :
    Admissible sampleVolume { Kernel.transfer File.empty 0 0 with pread } sampleRead where
  onVolume := rfl
  volume := Or.inr ⟨⟨[118], 3, 0⟩, by simp [sampleVolume, Exchange.sample, sampleRead, Request.header]⟩
  fits := by
    show (4096 : UInt64).toNat ≤ maxDataSize
    decide
  valid := by
    refine ⟨?_, ?_, ?_, ?_, ?_⟩
    · rintro fd ⟨⟩
    · rintro fd ⟨⟩
    · rintro _ ⟨⟩
    · rintro _ volState count ⟨⟩ live answer
      have small := short count answer
      obtain rfl : (⟨[118], 3, 0⟩ : VolumeState) = volState := by
        simpa [sampleVolume, Exchange.sample] using live
      refine ⟨by decide, Nat.le_trans small ?_⟩
      simp [sampleVolume, Exchange.sample, World.content, World.volumeFile, File.available,
        File.filled]
    · rintro _ _ ⟨⟩

theorem sampleRead_admitted {pread : Except Errno Nat} (short : ∀ count, pread = .ok count →
    count ≤ 4096) :
    Admitted sampleVolume [({ Kernel.transfer File.empty 0 0 with pread }, sampleRead)] :=
  And.intro (sampleRead_admissible short) fun _ _ _ => trivial

/-- So does an FSYNC that names no volume. -/
example : (turn sampleVolume (Kernel.transfer File.empty 0 0)
    (.fsync ⟨⟨false, .reqFsync, 1, 0, 64⟩⟩)).isOk = false := rfl

end IOHandler

end Cvbd
