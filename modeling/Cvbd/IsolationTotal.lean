import Cvbd.IsolationChecks
import Cvbd.Posix
import Cvbd.Transfer

/-!
Isolation of the volumes in the replies of one server thread, for pairs of runs
of any length: what differs in a message is stale data of the secret volume.
-/

namespace Cvbd

variable {secret : Name} {left right afterLeft afterRight : World}

/-- Replies to the same queue; the data of a READ agrees unless it is the secret volume's. -/
def Alike (visible : Prop) (left right : Nat × Reply) : Prop :=
  left.1 = right.1 ∧ Wire.Alike visible left.2 right.2

theorem World.Sound.notNull {world : World} (sound : world.Sound) {volume : UInt64}
    {volState : VolumeState} (live : world.volumes volume = some volState) : volume ≠ 0 := by
  intro null
  rw [null, sound.null] at live
  simp at live

namespace IOHandler

variable {kernel : Kernel} {stale otherStale : Nat → UInt8} {durable : File}
variable {request other : Request} {repliesLeft repliesRight : Replies}

/-- WRITEs of which the data may differ. -/
theorem Turn.sameBut_write {header : Header} {offset : Int64} {sizeInBytes : UInt64}
    {data otherData : Nat → UInt8} (same : left.SameBut secret right) (soundLeft : left.Sound)
    (soundRight : right.Sound)
    (visible : (left.volumes header.volume).map VolumeState.volumeName ≠ some secret →
      ∀ index, index < sizeInBytes.toNat → data index = otherData index)
    (honest : ∀ count, kernel.pwrite = .ok count → count ≤ sizeInBytes.toNat)
    (turnLeft : Turn left { kernel with stale := stale } (.write ⟨header, offset, sizeInBytes, data⟩)
      afterLeft repliesLeft)
    (turnRight : Turn right { kernel with stale := otherStale, durableAfterFailure := durable }
      (.write ⟨header, offset, sizeInBytes, otherData⟩) afterRight repliesRight) :
    afterLeft.SameBut secret afterRight ∧ repliesLeft = [] ∧ repliesRight = [] := by
  cases turnLeft with
  | skipped skippedLeft =>
      cases turnRight with
      | skipped _ => exact ⟨same, rfl, rfl⟩
      | write live _ => exact (soundRight.notNull live skippedLeft).elim
  | @write _ volState live _ =>
      cases turnRight with
      | skipped skippedRight => exact (soundLeft.notNull live skippedRight).elim
      | write liveRight _ =>
          rw [← same.volumes] at liveRight
          obtain rfl := Option.some.inj (live.symm.trans liveRight)
          refine ⟨same.updateFile soundLeft soundRight live ?_, rfl, rfl⟩
          intro fileLeft fileRight alike
          cases written : kernel.pwrite with
          | error errno =>
              simp only [Kernel.written]
              exact ⟨alike.content, alike.size⟩
          | ok count =>
              simp only [Kernel.written]
              refine ⟨fun notSecret => ?_, by simp [File.pwrite, alike.size]⟩
              rw [← alike.content notSecret]
              refine File.pwrite_congr _ _ fun index below => ?_
              refine visible ?_ index (Nat.lt_of_lt_of_le below (honest count written))
              simpa [live] using notSecret

/-- One turn in each of two worlds that agree but for the secret file. -/
theorem Turn.sameBut (same : left.SameBut secret right) (soundLeft : left.Sound)
    (soundRight : right.Sound) (valid : kernel.Valid left request)
    (small : ∀ req, request = .read req → req.sizeInBytes.toNat ≤ maxDataSize)
    (turnLeft : Turn left { kernel with stale := stale } request afterLeft repliesLeft)
    (turnRight : Turn right { kernel with stale := otherStale, durableAfterFailure := durable }
      request afterRight repliesRight) :
    afterLeft.SameBut secret afterRight ∧
      List.Forall₂ (Alike (left.served request ≠ some secret)) repliesLeft repliesRight := by
  have agree {volume : UInt64} {volState otherState : VolumeState}
      (live : left.volumes volume = some volState)
      (liveRight : right.volumes volume = some otherState) : volState = otherState := by
    rw [same.volumes] at live
    exact Option.some.inj (live.symm.trans liveRight)
  have notBoth {fd : Nat} (none : IOHandler.descriptor kernel = none)
      (obtained : IOHandler.descriptor kernel = some fd) : False := by
    rw [none] at obtained
    simp at obtained
  have one {mq : Nat} (reply : Reply) {visible : Prop} :
      List.Forall₂ (Alike visible) [(mq, reply)] [(mq, reply)] :=
    List.Forall₂.cons ⟨rfl, .same reply⟩ List.Forall₂.nil
  cases turnLeft with
  | skipped skipped =>
      cases turnRight with
      | skipped _ => exact ⟨same, List.Forall₂.nil⟩
      | write live _ => exact (soundRight.notNull live skipped).elim
      | closed live => exact (soundRight.notNull live skipped).elim
      | opened _ _ _ obtained _ => exact (notBoth skipped obtained).elim
      | notResized _ _ _ obtained _ => exact (notBoth skipped obtained).elim
      | read _ _ => exact skipped.elim
      | getsize _ => exact skipped.elim
      | synced _ _ => exact skipped.elim
      | notSynced _ _ => exact skipped.elim
  | write live full =>
      obtain ⟨after, _, silent⟩ := Turn.sameBut_write same soundLeft soundRight
        (fun _ _ _ => rfl) (fun count written => (valid.pwrite _ count rfl written).2)
        (.write live full) turnRight
      rw [silent]
      exact ⟨after, List.Forall₂.nil⟩
  | @read req volState live full =>
      cases turnRight with
      | skipped skipped => exact skipped.elim
      | read liveRight _ =>
          obtain rfl := agree live liveRight
          obtain ⟨fileLeft, fileRight, foundLeft, foundRight, alike⟩ :=
            same.liveFiles soundLeft soundRight live
          rw [World.content_eq (soundLeft.fdOpen _ _ live) foundLeft,
            World.content_eq (soundRight.fdOpen _ _ liveRight) foundRight]
          refine ⟨same, List.Forall₂.cons ⟨rfl, .read fun visible index below => ?_⟩
            List.Forall₂.nil⟩
          have transferred : kernel.pread = .ok req.sizeInBytes.toNat := by
            refine transferResult_full (small req rfl) (fun count answer => ?_) full
            have available := (valid.pread req _ count rfl live answer).2
            exact Nat.le_trans available (Nat.min_le_left _ _)
          have content : fileLeft.content = fileRight.content := by
            refine alike.content fun isSecret => visible ?_
            simp [World.served, Request.header, live, isSecret]
          simp only [Kernel.readData, transferred, content]
          rw [Region.copy_prefix below, Region.copy_prefix below]
  | @getsize req volState live =>
      cases turnRight with
      | skipped skipped => exact skipped.elim
      | getsize liveRight =>
          obtain rfl := agree live liveRight
          obtain ⟨fileLeft, fileRight, foundLeft, foundRight, alike⟩ :=
            same.liveFiles soundLeft soundRight live
          rw [World.content_eq (soundLeft.fdOpen _ _ live) foundLeft,
            World.content_eq (soundRight.fdOpen _ _ liveRight) foundRight]
          have sizes : ({ kernel with stale := stale } : Kernel).statSize fileLeft.content =
              ({ kernel with stale := otherStale, durableAfterFailure := durable } :
                Kernel).statSize fileRight.content := by
            simp only [Kernel.statSize, alike.size]
          rw [sizes]
          exact ⟨same, one _⟩
  | synced live success =>
      cases turnRight with
      | skipped skipped => exact skipped.elim
      | synced liveRight _ =>
          obtain rfl := agree live liveRight
          refine ⟨same.updateFile soundLeft soundRight live fun _ _ alike => ?_, one _⟩
          exact ⟨alike.content, alike.size⟩
      | notSynced liveRight failed => simp [show kernel.fsync = .ok () from success] at failed
  | notSynced live failed =>
      cases turnRight with
      | skipped skipped => exact skipped.elim
      | synced liveRight success => simp [show kernel.fsync = .error _ from failed] at success
      | notSynced liveRight failedRight =>
          obtain rfl := agree live liveRight
          obtain rfl : _ = _ := Except.error.inj (failed.symm.trans failedRight)
          refine ⟨same.updateFile soundLeft soundRight live fun _ _ alike => ?_, one _⟩
          exact ⟨alike.content, alike.size⟩
  | @closed req volState live =>
      cases turnRight with
      | skipped skipped => exact (soundLeft.notNull live skipped).elim
      | closed liveRight =>
          obtain rfl := agree live liveRight
          refine ⟨⟨?_, ?_, same.mqNames, same.contents, ?_⟩, List.Forall₂.nil⟩
          · rw [same.fds]
          · rw [same.volumes]
          · intro volume volState found isSecret
            by_cases closing : volume = req.header.volume
            · simp [closing] at found
            · exact same.sizes volume volState (by simpa [closing] using found) isSecret
  | opened named replyNamed attached obtained resized =>
      cases turnRight with
      | skipped skipped => exact (notBoth skipped obtained).elim
      | opened namedRight replyNamedRight attachedRight obtainedRight _ =>
          obtain rfl := Option.some.inj (named.symm.trans namedRight)
          obtain rfl := Option.some.inj (replyNamed.symm.trans replyNamedRight)
          obtain rfl := Option.some.inj (obtained.symm.trans obtainedRight)
          rw [← same.mqNames] at attachedRight
          obtain rfl := Option.some.inj (attached.symm.trans attachedRight)
          exact ⟨same.opened soundLeft soundRight _ _ _ _, one _⟩
      | notResized _ _ _ _ failed => simp [show kernel.ftruncate = .ok () from resized] at failed
  | notResized named replyNamed attached obtained failed =>
      cases turnRight with
      | skipped skipped => exact (notBoth skipped obtained).elim
      | opened _ _ _ _ resized =>
          simp [show kernel.ftruncate = .error _ from failed] at resized
      | notResized namedRight replyNamedRight attachedRight obtainedRight failedRight =>
          obtain rfl := Option.some.inj (named.symm.trans namedRight)
          obtain rfl := Option.some.inj (replyNamed.symm.trans replyNamedRight)
          obtain rfl := Option.some.inj (obtained.symm.trans obtainedRight)
          rw [← same.mqNames] at attachedRight
          obtain rfl := Option.some.inj (attached.symm.trans attachedRight)
          obtain rfl := Except.error.inj (failed.symm.trans failedRight)
          exact ⟨same.openFile soundLeft soundRight _ _, one _⟩

end IOHandler

/-- Two messages to one queue that differ at most in stale bytes of the volume `secret`. In a message
about another volume these lie behind the data of a READ or in the padding of an OPEN. -/
structure SentReply.Alike (secret : Name) (left right : SentReply) : Prop where
  volume : left.volume = right.volume
  mq : left.mq = right.mq
  header : left.reply.header = right.reply.header
  size : left.message.size = right.message.size
  origin : left.origin = right.origin
  bytes : ∀ position, left.origin position ≠ some secret →
    left.message.bytes position = right.message.bytes position
  stale : left.volume ≠ some secret → ∀ position, position < left.message.size →
    left.origin position = some secret →
      (∃ reply, left.reply = .read reply ∧ 40 + reply.sizeInBytes.toNat ≤ position) ∨
        ∃ reply, left.reply = .openVolume reply ∧ 44 ≤ position

namespace ServerThread

variable {threadLeft threadRight : ServerThread}

/-- The threads of the two runs. -/
structure Related (secret : Name) (left right : ServerThread) : Prop where
  world : left.world.SameBut secret right.world
  soundLeft : left.world.Sound
  soundRight : right.world.Sound
  origin : left.origin = right.origin
  behind : ∀ position name, left.origin position = some name → 40 ≤ position
  bytes : ∀ position, left.origin position ≠ some secret →
    left.reply position = right.reply position

theorem Related.move (related : Related secret threadLeft threadRight)
    (worlds : afterLeft.SameBut secret afterRight) (soundLeft : afterLeft.Sound)
    (soundRight : afterRight.Sound) :
    Related secret { threadLeft with world := afterLeft } { threadRight with world := afterRight } :=
  ⟨worlds, soundLeft, soundRight, related.origin, related.behind, related.bytes⟩

theorem Related.fill (related : Related secret threadLeft threadRight)
    (worlds : afterLeft.SameBut secret afterRight) (soundLeft : afterLeft.Sound)
    (soundRight : afterRight.Sound) {volume : Option Name} {replyLeft replyRight : Reply}
    (alike : Wire.Alike (volume ≠ some secret) replyLeft replyRight) :
    Related secret (threadLeft.fill afterLeft volume replyLeft)
      (threadRight.fill afterRight volume replyRight) := by
  obtain ⟨_, _, data, field⟩ := alike.fields threadLeft.reply threadRight.reply
  refine ⟨worlds, soundLeft, soundRight, ?_, ?_, ?_⟩
  · simp only [ServerThread.fill, data, field, related.origin]
  · intro position name from'
    simp only [ServerThread.fill] at from'
    split at from'
    · rename_i isData
      cases replyLeft with
      | read reply =>
          simp only [Wire.isData, decide_eq_true_eq] at isData
          exact isData.1
      | openVolume reply => simp [Wire.isData] at isData
      | getsize reply => simp [Wire.isData] at isData
      | fsync reply => simp [Wire.isData] at isData
    · split at from'
      · simp at from'
      · exact related.behind position name from'
  · intro position notSecret
    simp only [ServerThread.fill] at notSecret ⊢
    refine alike.bytes ?_ ?_
    · intro isData
      simpa [isData] using notSecret
    · intro notData notField
      refine related.bytes position ?_
      simpa [notData, notField] using notSecret

theorem Related.sent (related : Related secret threadLeft threadRight)
    (worlds : afterLeft.SameBut secret afterRight) (soundLeft : afterLeft.Sound)
    (soundRight : afterRight.Sound) {volume : Option Name} {mq : Nat} {replyLeft replyRight : Reply}
    (alike : Wire.Alike (volume ≠ some secret) replyLeft replyRight) :
    SentReply.Alike secret
      ⟨volume, mq, replyLeft, Wire.replyMessage threadLeft.reply replyLeft,
        (threadLeft.fill afterLeft volume replyLeft).origin⟩
      ⟨volume, mq, replyRight, Wire.replyMessage threadRight.reply replyRight,
        (threadRight.fill afterRight volume replyRight).origin⟩ := by
  obtain ⟨header, size, _, _⟩ := alike.fields threadLeft.reply threadRight.reply
  have filled := related.fill worlds soundLeft soundRight alike
  refine ⟨rfl, rfl, header, size, filled.origin, filled.bytes, ?_⟩
  intro other position inside from'
  have behind := filled.behind position secret from'
  simp only [ServerThread.fill] at from'
  cases replyLeft with
  | read reply =>
      refine Or.inl ⟨reply, rfl, ?_⟩
      by_contra within
      rw [if_pos (by simp [Wire.isData]; omega)] at from'
      exact other from'
  | openVolume reply =>
      refine Or.inr ⟨reply, rfl, ?_⟩
      by_contra within
      simp only [Wire.isData, Bool.false_eq_true, if_false] at from'
      rw [if_pos (by simp [Wire.isField]; omega)] at from'
      simp at from'
  | getsize reply =>
      have short : position < 40 := inside
      omega
  | fsync reply =>
      have short : position < 40 := inside
      omega

theorem Related.handle (related : Related secret threadLeft threadRight)
    {arrivalLeft arrivalRight : Arrival} {nextLeft nextRight : ServerThread}
    {sentLeft sentRight : List SentReply}
    (same : arrivalLeft.SameBut secret threadLeft.world arrivalRight)
    (permittedLeft : threadLeft.Permitted arrivalLeft)
    (permittedRight : threadRight.Permitted arrivalRight)
    (handledLeft : threadLeft.handle arrivalLeft = .ok (nextLeft, sentLeft))
    (handledRight : threadRight.handle arrivalRight = .ok (nextRight, sentRight)) :
    Related secret nextLeft nextRight ∧ List.Forall₂ (SentReply.Alike secret) sentLeft sentRight := by
  obtain ⟨mqNames, kernel, durable, sameRequest⟩ := same
  rename_i request other
  have worlds : (threadLeft.worldAt ⟨mqNames, kernel, request⟩).SameBut secret
      (threadRight.worldAt ⟨mqNames, { kernel with durableAfterFailure := durable }, other⟩) :=
    ⟨related.world.fds, related.world.volumes, rfl, related.world.contents, related.world.sizes⟩
  have soundLeft : (threadLeft.worldAt ⟨mqNames, kernel, request⟩).Sound :=
    ⟨related.soundLeft.null, related.soundLeft.fdOpen, related.soundLeft.fdDistinct,
      related.soundLeft.existsFile⟩
  have soundRight : (threadRight.worldAt
      ⟨mqNames, { kernel with durableAfterFailure := durable }, other⟩).Sound :=
    ⟨related.soundRight.null, related.soundRight.fdOpen, related.soundRight.fdDistinct,
      related.soundRight.existsFile⟩
  unfold ServerThread.handle at handledLeft handledRight
  cases turnedLeft : IOHandler.turn (threadLeft.worldAt ⟨mqNames, kernel, request⟩)
      (threadLeft.kernelAt ⟨mqNames, kernel, request⟩) request with
  | error fault => simp [turnedLeft] at handledLeft
  | ok resultLeft =>
      obtain ⟨afterLeft, repliesLeft⟩ := resultLeft
      cases turnedRight : IOHandler.turn
          (threadRight.worldAt ⟨mqNames, { kernel with durableAfterFailure := durable }, other⟩)
          (threadRight.kernelAt ⟨mqNames, { kernel with durableAfterFailure := durable }, other⟩)
          other with
      | error fault => simp [turnedRight] at handledRight
      | ok resultRight =>
          obtain ⟨afterRight, repliesRight⟩ := resultRight
          have turnLeft := IOHandler.turn_spec permittedLeft.kernel turnedLeft
          have turnRight := IOHandler.turn_spec permittedRight.kernel turnedRight
          have keptLeft := turnLeft.sound soundLeft permittedLeft.kernel
          have keptRight := turnRight.sound soundRight permittedRight.kernel
          simp only [turnedLeft] at handledLeft
          simp only [turnedRight] at handledRight
          cases sameRequest with
          | same =>
              obtain ⟨worldsAfter, replies⟩ := IOHandler.Turn.sameBut worlds soundLeft soundRight
                permittedLeft.kernel permittedLeft.size turnLeft turnRight
              cases replies with
              | nil =>
                  cases stored : unsent kernel request with
                  | none =>
                      have storedRight :
                          unsent { kernel with durableAfterFailure := durable } request = none :=
                        stored
                      simp only [stored, Except.ok.injEq, Prod.mk.injEq] at handledLeft
                      simp only [storedRight, Except.ok.injEq, Prod.mk.injEq] at handledRight
                      obtain ⟨rfl, rfl⟩ := handledLeft
                      obtain ⟨rfl, rfl⟩ := handledRight
                      exact ⟨related.move worldsAfter keptLeft keptRight, List.Forall₂.nil⟩
                  | some reply =>
                      have storedRight :
                          unsent { kernel with durableAfterFailure := durable } request =
                            some reply := stored
                      simp only [stored, Except.ok.injEq, Prod.mk.injEq] at handledLeft
                      simp only [storedRight, Except.ok.injEq, Prod.mk.injEq] at handledRight
                      obtain ⟨rfl, rfl⟩ := handledLeft
                      obtain ⟨rfl, rfl⟩ := handledRight
                      exact ⟨related.fill worldsAfter keptLeft keptRight (.same reply),
                        List.Forall₂.nil⟩
              | @cons replyLeft replyRight _ _ alike _ =>
                  obtain ⟨mq, replyLeft⟩ := replyLeft
                  obtain ⟨mqRight, replyRight⟩ := replyRight
                  obtain ⟨rfl, alike⟩ := alike
                  have volumes : (threadRight.worldAt ⟨mqNames,
                      { kernel with durableAfterFailure := durable }, request⟩).served request =
                        (threadLeft.worldAt ⟨mqNames, kernel, request⟩).served request := by
                    simp only [World.served, worlds.volumes]
                  simp only [Except.ok.injEq, Prod.mk.injEq] at handledLeft
                  simp only [volumes, Except.ok.injEq, Prod.mk.injEq] at handledRight
                  obtain ⟨rfl, rfl⟩ := handledLeft
                  obtain ⟨rfl, rfl⟩ := handledRight
                  exact ⟨related.fill worldsAfter keptLeft keptRight alike,
                    List.Forall₂.cons (related.sent worldsAfter keptLeft keptRight alike)
                      List.Forall₂.nil⟩
          | write visible =>
              obtain ⟨worldsAfter, rfl, rfl⟩ := IOHandler.Turn.sameBut_write worlds soundLeft
                soundRight visible
                (fun count written => (permittedLeft.kernel.pwrite _ count rfl written).2)
                turnLeft turnRight
              simp only [unsent, Except.ok.injEq, Prod.mk.injEq] at handledLeft handledRight
              obtain ⟨rfl, rfl⟩ := handledLeft
              obtain ⟨rfl, rfl⟩ := handledRight
              exact ⟨related.move worldsAfter keptLeft keptRight, List.Forall₂.nil⟩

/-- Replies to one queue agree in number, order and length in every two runs that differ only in the
data of the volume `secret`, and each byte of them agrees unless it is stale data of that volume. -/
theorem TwoRuns.isolated {files other : Name → Option VolumeFile} {reply : Bytes}
    {traceLeft traceRight : List SentReply}
    (runs : TwoRuns secret files other reply traceLeft traceRight) (mq : Nat) :
    List.Forall₂ (SentReply.Alike secret) (SentReply.toQueue mq traceLeft)
      (SentReply.toQueue mq traceRight) := by
  obtain ⟨outside, _, _, runs⟩ := runs
  have start : Related secret (start files reply) (start other reply) := by
    refine ⟨⟨rfl, rfl, rfl, ?_, ?_⟩, World.started_sound _ _, World.started_sound _ _, rfl, ?_, ?_⟩
    · intro name different
      simp only [ServerThread.start, World.started, outside name different]
    · intro volume volState live
      simp [ServerThread.start, World.started] at live
    · intro position name from'
      simp [ServerThread.start] at from'
    · intro position _
      rfl
  have alike := (runs.unwind (Related secret) (SentReply.Alike secret) start ?_).2
  · refine List.rel_filter ?_ alike
    intro left right alike
    simp only [alike.mq]
  · intro left right arrivalLeft arrivalRight nextLeft nextRight sentLeft sentRight related same
      permittedLeft permittedRight stepLeft stepRight
    simp only [machine] at stepLeft stepRight
    split at stepLeft
    · simp at stepLeft
    · rename_i handledLeft
      split at stepRight
      · simp at stepRight
      · rename_i handledRight
        obtain rfl := Option.some.inj stepLeft
        obtain rfl := Option.some.inj stepRight
        exact related.handle same permittedLeft permittedRight handledLeft handledRight

/-! Volumes `A` and `B` on one thread. -/

theorem sameArrival (secret : Name) (world : World) (arrival : Arrival) :
    arrival.SameBut secret world arrival :=
  .mk arrival.mqNames arrival.kernel arrival.kernel.durableAfterFailure (.same arrival.request)

def permits (thread : ServerThread) (arrival : Arrival) : Bool :=
  match arrival.request with
  | .openVolume _ =>
      (match arrival.kernel.open1 with
        | .ok fd => (thread.world.fds fd).isNone
        | .error _ => false) &&
        !arrival.kernel.open2.isOk && decide (arrival.kernel.newVolume ≠ 0) &&
        (thread.world.volumes arrival.kernel.newVolume).isNone
  | .read req => decide (req.sizeInBytes.toNat ≤ maxDataSize) &&
      (thread.kernelAt arrival).permits (thread.worldAt arrival) arrival.request
  | _ => (thread.kernelAt arrival).permits (thread.worldAt arrival) arrival.request

theorem permits_sound {thread : ServerThread} {arrival : Arrival}
    (passes : thread.permits arrival = true) : thread.Permitted arrival := by
  obtain ⟨mqNames, kernel, request⟩ := arrival
  cases request with
  | openVolume req =>
      simp only [permits, Bool.and_eq_true, decide_eq_true_eq, Option.isNone_iff_eq_none] at passes
      obtain ⟨⟨⟨first, second⟩, nonzero⟩, unused⟩ := passes
      refine ⟨⟨?_, ?_, fun _ _ => ⟨nonzero, unused⟩, by simp, by simp⟩, by simp⟩
      · intro fd opened
        have opened : kernel.open1 = .ok fd := opened
        simp only [opened, Option.isNone_iff_eq_none] at first
        exact first
      · intro fd opened
        have opened : kernel.open2 = .ok fd := opened
        simp [opened, Except.isOk, Except.toBool] at second
  | read req =>
      simp only [permits, Bool.and_eq_true, decide_eq_true_eq] at passes
      refine ⟨Kernel.permits_valid passes.2, ?_⟩
      rintro _ ⟨⟩
      exact passes.1
  | write req => exact ⟨Kernel.permits_valid passes, by simp⟩
  | close req => exact ⟨Kernel.permits_valid passes, by simp⟩
  | getsize req => exact ⟨Kernel.permits_valid passes, by simp⟩
  | fsync req => exact ⟨Kernel.permits_valid passes, by simp⟩
  | stop header => exact ⟨Kernel.permits_valid passes, by simp⟩
  | unknown header => exact ⟨Kernel.permits_valid passes, by simp⟩

def sampleFiles (value : UInt8) : Name → Option VolumeFile :=
  Function.update (fun _ => none) [65] (some ⟨File.filled 8 value, File.filled 8 value⟩)

def sampleQueues : Name → Option Nat :=
  Function.update (Function.update (fun _ => none) [65] (some 0)) [66] (some 1)

def sampleOpen (name : Name) (fd : Nat) (volume : UInt64) : Arrival :=
  ⟨sampleQueues, { Kernel.transfer File.empty 0 0 with
    open1 := .ok fd, newVolume := volume, ftruncate := .ok () },
    .openVolume ⟨⟨false, .reqOpen, 1, 0, 0⟩, some name, some name⟩⟩

def sampleRead (volume size : UInt64) : Arrival :=
  ⟨sampleQueues, Kernel.transfer (File.filled 8 0) 0 size,
    .read ⟨⟨false, .reqRead, 2, volume, 0⟩, 0, size⟩⟩

/-- Both volumes are opened, then eight bytes of `A` are read and four of `B`. -/
def sampleArrivals : List Arrival :=
  [sampleOpen [65] 3 4096, sampleOpen [66] 4 8192, sampleRead 4096 8, sampleRead 8192 4]

/-- The second message to `B` differs in the byte behind its data. -/
def leaks (traceLeft traceRight : List SentReply) : Bool :=
  match SentReply.toQueue 1 traceLeft, SentReply.toQueue 1 traceRight with
  | [_, left], [_, right] => decide (left.volume = some [66] ∧ 44 < left.message.size ∧
      left.message.bytes 44 ≠ right.message.bytes 44)
  | _, _ => false

/-- The file of `A` is full of ones in the one run and full of twos in the other. -/
theorem sample_leaks : ∃ traceLeft traceRight,
    TwoRuns [65] (sampleFiles 1) (sampleFiles 2) (fun _ => 0) traceLeft traceRight ∧
      leaks traceLeft traceRight = true := by
  obtain ⟨traceLeft, traceRight, left, right, runs, passes⟩ := Machine.TwoRuns.of_exec machine
    (start (sampleFiles 1) fun _ => 0) (start (sampleFiles 2) fun _ => 0) permits
    (fun _ _ => permits_sound) (fun left _ arrival => sameArrival [65] left.world arrival)
    sampleArrivals leaks (by decide +kernel)
  refine ⟨traceLeft, traceRight, ⟨?_, left, right, runs⟩, passes⟩
  intro name different
  simp [sampleFiles, different]

theorem sample_isolated : ∃ traceLeft traceRight,
    TwoRuns [65] (sampleFiles 1) (sampleFiles 2) (fun _ => 0) traceLeft traceRight ∧
      List.Forall₂ (SentReply.Alike [65]) (SentReply.toQueue 1 traceLeft)
        (SentReply.toQueue 1 traceRight) := by
  obtain ⟨traceLeft, traceRight, runs, _⟩ := sample_leaks
  exact ⟨traceLeft, traceRight, runs, runs.isolated 1⟩

/-- A READ of `B` is answered with bytes of `A` behind its data. -/
theorem staleBytes_differ : ∃ files other reply traceLeft traceRight,
    TwoRuns [65] files other reply traceLeft traceRight ∧
      ∃ (index position : Nat) (left right : SentReply),
        (SentReply.toQueue 1 traceLeft)[index]? = some left ∧
        (SentReply.toQueue 1 traceRight)[index]? = some right ∧ left.volume = some [66] ∧
        position < left.message.size ∧
        left.message.bytes position ≠ right.message.bytes position := by
  obtain ⟨traceLeft, traceRight, runs, passes⟩ := sample_leaks
  refine ⟨_, _, _, traceLeft, traceRight, runs, ?_⟩
  simp only [leaks] at passes
  split at passes
  · rename_i first left second right queueLeft queueRight
    simp only [decide_eq_true_eq] at passes
    exact ⟨1, 44, left, right, by simp [queueLeft], by simp [queueRight], passes⟩
  · simp at passes

end ServerThread

end Cvbd
