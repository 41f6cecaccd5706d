import Cvbd.HandlerChecks
import Cvbd.RecoveryCore

/-!
What a file holds over any number of servers, kills, aborts and power failures:
the bytes that its history promises, and these are what READ requests are
answered with.
-/

namespace Cvbd

variable {name : Name} {position : Nat}

namespace IOHandler

variable {world after : World} {kernel : Kernel} {request : Request} {replies : Replies}
variable {file : VolumeFile}

theorem Effect.apply_stored {content : File} {offset size : Nat} {data : Nat → UInt8}
    (lower : offset ≤ position) (upper : position < offset + size) :
    position < ((Effect.stored name offset size data).apply name content).size ∧
      ((Effect.stored name offset size data).apply name content).byte position =
        data (position - offset) := by
  simp only [apply, if_true, File.pwrite]
  constructor
  · split <;> omega
  · exact Region.copy_inside lower upper

theorem openFile_file (fd : Nat) {other : Name} (found : world.files name = some file) :
    (world.openFile other fd).files name = some file := by
  by_cases same : name = other
  · subst same
    simp [World.openFile, found]
  · exact (World.openFile_files_ne fd same).trans found

/-- A message has an effect or is observed, not both. -/
theorem observed_of_effect {effect : Effect} (one : effects world kernel request = [effect]) :
    observed world kernel request replies = [] := by
  cases request with
  | write req => rfl
  | openVolume req => rfl
  | read req => simp [effects] at one
  | getsize req => rfl
  | fsync req => simp [effects] at one
  | close req => rfl
  | stop header => rfl
  | unknown header => rfl

theorem observed_skipped (skipped : Skipped kernel request) (replies : Replies) :
    observed world kernel request replies = [] := by
  cases request with
  | fsync req => exact skipped.elim
  | read req => exact skipped.elim
  | write req => rfl
  | openVolume req => rfl
  | getsize req => rfl
  | close req => rfl
  | stop header => rfl
  | unknown header => rfl

theorem observed_cases (turned : Turn world kernel request after replies) :
    observed world kernel request replies = [] ∨
      (∃ req volState, request = .fsync req ∧ world.volumes req.header.volume = some volState ∧
        observed world kernel request replies = [match kernel.fsync with
          | .ok _ => .synced volState.volumeName
          | .error _ => .notSynced volState.volumeName]) ∨
      ∃ req volState, request = .read req ∧ world.volumes req.header.volume = some volState ∧
        (transferResult kernel.pread).toUInt64 = req.sizeInBytes ∧
        observed world kernel request replies = [.read volState.volumeName req.offset.toInt.toNat
          req.sizeInBytes.toNat
          (kernel.readData (world.content volState.fd) req.offset.toInt.toNat)] := by
  cases turned with
  | skipped skipped => exact Or.inl (observed_skipped skipped [])
  | write _ _ => exact Or.inl rfl
  | @read req volState live full =>
      exact Or.inr (Or.inr ⟨req, volState, rfl, live, full, by simp [observed, live]⟩)
  | getsize _ => exact Or.inl rfl
  | @synced req volState live success =>
      exact Or.inr (Or.inl ⟨req, volState, rfl, live, by simp [observed, live, success]⟩)
  | @notSynced req volState errno live failed =>
      exact Or.inr (Or.inl ⟨req, volState, rfl, live, by simp [observed, live, failed]⟩)
  | closed _ => exact Or.inl rfl
  | opened _ _ _ _ _ => exact Or.inl rfl
  | notResized _ _ _ _ _ => exact Or.inl rfl

/-- Only an FSYNC of the file changes what is on disk for sure. -/
theorem Turn.durable (sound : world.Sound) (turned : Turn world kernel request after replies)
    (found : world.files name = some file) :
    ∃ next, after.files name = some next ∧
      (.synced name ∈ observed world kernel request replies → next.durable = file.content) ∧
      (.synced name ∉ observed world kernel request replies →
        .notSynced name ∉ observed world kernel request replies → next.durable = file.durable) := by
  cases turned with
  | skipped skipped => exact ⟨file, found, by simp [observed_skipped skipped]⟩
  | @write req volState live full =>
      refine ⟨_, updateFile_content _ (sound.fdOpen _ _ live) found, by simp [observed], ?_⟩
      rintro _ _
      split <;> rfl
  | @read req volState live full => exact ⟨file, found, by simp [observed, live]⟩
  | getsize _ => exact ⟨file, found, by simp [observed]⟩
  | @synced req volState live success =>
      refine ⟨_, updateFile_content _ (sound.fdOpen _ _ live) found, ?_, ?_⟩
      · intro member
        obtain rfl : name = volState.volumeName := by simpa [observed, live, success] using member
        simp
      · intro others _
        have different : name ≠ volState.volumeName := by
          simpa [observed, live, success] using others
        simp [Ne.symm different]
  | @notSynced req volState errno live failed =>
      refine ⟨_, updateFile_content _ (sound.fdOpen _ _ live) found, ?_, ?_⟩
      · intro member
        simp [observed, live, failed] at member
      · intro _ others
        have different : name ≠ volState.volumeName := by
          simpa [observed, live, failed] using others
        simp [Ne.symm different]
  | closed _ => exact ⟨file, found, by simp [observed]⟩
  | @opened req volumeName _ mq fd named _ _ obtained resized =>
      have fdOpen : ({ world.openFile volumeName fd with
          volumes := Function.update world.volumes kernel.newVolume
            (some ⟨volumeName, fd, mq⟩) } : World).fds fd = some volumeName := by
        simp [World.openFile]
      refine ⟨_, updateFile_content _ fdOpen (openFile_file fd found), by simp [observed], ?_⟩
      rintro _ _
      split <;> rfl
  | @notResized req volumeName _ _ fd errno named _ _ obtained failed =>
      exact ⟨file, openFile_file fd found, by simp [observed]⟩

theorem effectsOfAbort_other (other : ∀ req, request ≠ .write req) :
    effectsOfAbort world kernel request = [] := by
  cases request with
  | write req => exact (other req rfl).elim
  | openVolume req => rfl
  | read req => rfl
  | getsize req => rfl
  | fsync req => rfl
  | close req => rfl
  | stop header => rfl
  | unknown header => rfl

theorem effectsOfAbort_cases (world : World) (kernel : Kernel) (request : Request) :
    effectsOfAbort world kernel request = [] ∨
      ∃ effect, effectsOfAbort world kernel request = [effect] ∧
        effect ∈ effects world kernel request := by
  by_cases written : ∃ req, request = .write req
  · obtain ⟨req, rfl⟩ := written
    rcases effects_length world kernel (.write req) with none | ⟨effect, one⟩
    · exact Or.inl none
    · exact Or.inr ⟨effect, one, by simp [one]⟩
  · exact Or.inl (effectsOfAbort_other (not_exists.mp written))

theorem write_fault {left : World} {fault : Fault} {req : WriteRequest}
    (faulted : write world kernel req = .fault left fault) :
    (world.volumes req.header.volume = none ∧ left = world) ∨
      ∃ volState, world.volumes req.header.volume = some volState ∧
        left = world.updateFile volState.fd fun file => { file with
          content := kernel.written file.content req.offset.toInt.toNat req.data } := by
  simp only [write] at faulted
  split at faulted
  · cases faulted
  · cases live : world.volumes req.header.volume with
    | none =>
        simp only [live] at faulted
        cases faulted
        exact Or.inl ⟨rfl, rfl⟩
    | some volState =>
        simp only [live] at faulted
        split at faulted <;> cases faulted
        exact Or.inr ⟨volState, rfl, rfl⟩

theorem read_fault {left : World} {fault : Fault} {req : ReadRequest}
    (faulted : read world kernel req = .fault left fault) : left = world := by
  simp only [read] at faulted
  split at faulted
  · cases faulted
    rfl
  · split at faulted
    · cases faulted
      rfl
    · split at faulted <;> cases faulted
      rfl

/-- Besides a WRITE, only an OPEN has done anything when it ends the process. -/
theorem fault_other {left : World} {fault : Fault}
    (faulted : handle world kernel request = .fault left fault)
    (other : ∀ req, request ≠ .write req) :
    left = world ∨ ∃ volumeName fd, left = world.openFile volumeName fd := by
  have ended := handle_spec world kernel request
  rw [faulted] at ended
  cases ended with
  | dead uses gone => exact Or.inl rfl
  | short live grown short =>
      cases request with
      | write req => exact (other req rfl).elim
      | read req => exact Or.inl (read_fault faulted)
      | openVolume req => exact (short trivial).elim
      | getsize req => exact (short trivial).elim
      | fsync req => exact (short trivial).elim
      | close req => exact (short trivial).elim
      | stop header => exact (short trivial).elim
      | unknown header => exact (short trivial).elim
  | denied failed => exact Or.inl rfl
  | unread unread => exact Or.inl rfl
  | replyUnread unread obtained => exact Or.inr ⟨_, _, rfl⟩
  | unattached replyNamed missing obtained => exact Or.inr ⟨_, _, rfl⟩

/-- A handler that ends the process has at most stored part of its data or created the file. -/
theorem fault_files {left : World} {fault : Fault} (sound : world.Sound)
    (faulted : handle world kernel request = .fault left fault)
    (found : world.files name = some file) :
    ∃ next, left.files name = some next ∧
      next.content =
        (effectsOfAbort world kernel request).foldl (Effect.apply name) file.content ∧
      next.durable = file.durable := by
  by_cases written : ∃ req, request = .write req
  · obtain ⟨req, rfl⟩ := written
    rcases write_fault faulted with ⟨missing, rfl⟩ | ⟨volState, live, rfl⟩
    · exact ⟨file, found, by simp [effectsOfAbort, effects, missing]⟩
    · refine ⟨_, updateFile_content _ (sound.fdOpen _ _ live) found, ?_, ?_⟩
      · cases transferred : kernel.pwrite with
        | ok count =>
            simp only [effectsOfAbort, effects, live, transferred, List.foldl_cons,
              List.foldl_nil, Effect.apply]
            split <;> simp [Kernel.written, transferred]
        | error errno =>
            simp only [effectsOfAbort, effects, live, transferred, List.foldl_nil]
            split <;> simp [Kernel.written, transferred]
      · split <;> rfl
  · have other := not_exists.mp written
    rw [effectsOfAbort_other other]
    rcases fault_other faulted other with rfl | ⟨volumeName, fd, rfl⟩
    · exact ⟨file, found, rfl, rfl⟩
    · exact ⟨file, openFile_file fd found, rfl, rfl⟩

end IOHandler

namespace Promise

variable {host after : Host} {promise : Promise}

theorem after_spared {effect : IOHandler.Effect} (uncovered : effect.covers name position = false)
    (kept : effect.discards name position = false) :
    promise.after name position (.effect effect) = promise := by
  cases effect with
  | stored other offset size data => exact if_neg (of_decide_eq_false uncovered)
  | resized other => exact if_neg (of_decide_eq_false kept)

theorem Kept.hasByte (kept : promise.Kept name position host) {value : UInt8}
    (promised : promise.value = some value) : IOHandler.HasByte host.world name position value := by
  cases promise with
  | nothing => simp [Promise.value] at promised
  | stored stored =>
      obtain rfl := Option.some.inj promised
      exact kept
  | durable durable =>
      obtain rfl := Option.some.inj promised
      exact kept.1

/-- The byte is still in the file, and what is on disk is the same. -/
theorem Kept.byte (kept : promise.Kept name position host)
    (files : ∀ file, host.world.files name = some file → ∃ next, after.world.files name = some next ∧
      (position < file.content.size → position < next.content.size ∧
        next.content.byte position = file.content.byte position) ∧
      next.durable = file.durable)
    (touched : after.touched name position = host.touched name position) :
    promise.Kept name position after := by
  have hasByte {value : UInt8} (holds : IOHandler.HasByte host.world name position value) :
      IOHandler.HasByte after.world name position value := by
    obtain ⟨file, found, inside, byte⟩ := holds
    obtain ⟨next, foundNext, content, _⟩ := files file found
    obtain ⟨still, same⟩ := content inside
    exact ⟨next, foundNext, still, same.trans byte⟩
  cases promise with
  | nothing => trivial
  | stored value => exact hasByte kept
  | durable value =>
      obtain ⟨holds, untouched, file, found, inside, byte⟩ := kept
      obtain ⟨next, foundNext, _, durable⟩ := files file found
      rw [← durable] at inside byte
      exact ⟨hasByte holds, touched.trans untouched, next, foundNext, inside, byte⟩

/-- Nothing happens to the file. -/
theorem Kept.same (kept : promise.Kept name position host)
    (files : ∀ file, host.world.files name = some file → ∃ next, after.world.files name = some next ∧
      next.content = file.content ∧ next.durable = file.durable)
    (touched : after.touched name position = host.touched name position) :
    promise.Kept name position after := by
  refine kept.byte (fun file found => ?_) touched
  obtain ⟨next, foundNext, content, durable⟩ := files file found
  exact ⟨next, foundNext, fun inside => by simpa only [content, and_true] using inside, durable⟩

/-- The content of the file changes, what is on disk does not. -/
theorem Kept.effect {effect : IOHandler.Effect} (kept : promise.Kept name position host)
    (files : ∀ file, host.world.files name = some file → ∃ next, after.world.files name = some next ∧
      next.content = effect.apply name file.content ∧ next.durable = file.durable)
    (touched : after.touched = HostEvent.touch host.touched (.effect effect))
    (isThere : effect.covers name position = true → ∃ file, host.world.files name = some file) :
    (promise.after name position (.effect effect)).Kept name position after := by
  by_cases covers : effect.covers name position = true
  · obtain ⟨file, found⟩ := isThere covers
    obtain ⟨next, foundNext, content, _⟩ := files file found
    cases effect with
    | resized other => simp [IOHandler.Effect.covers] at covers
    | stored other offset size data =>
        obtain ⟨rfl, lower, upper⟩ := of_decide_eq_true covers
        simp only [Promise.after, lower, upper, and_self, if_true]
        refine ⟨next, foundNext, ?_, ?_⟩
        · rw [content]
          exact (IOHandler.Effect.apply_stored lower upper).1
        · rw [content]
          exact (IOHandler.Effect.apply_stored lower upper).2
  · have uncovered := Bool.eq_false_iff.mpr covers
    by_cases discards : effect.discards name position = true
    · cases effect with
      | stored other offset size data => simp [IOHandler.Effect.discards] at discards
      | resized other =>
          rw [show promise.after name position (.effect (.resized other)) = .nothing from
            if_pos (of_decide_eq_true discards)]
          trivial
    · have spared := Bool.eq_false_iff.mpr discards
      rw [after_spared uncovered spared]
      refine kept.byte (fun file found => ?_)
        (by simp [touched, HostEvent.touch, uncovered, spared])
      obtain ⟨next, foundNext, content, durable⟩ := files file found
      refine ⟨next, foundNext, fun inside => ?_, durable⟩
      obtain ⟨same, still⟩ := IOHandler.Effect.apply_byte inside uncovered spared
      rw [content]
      exact ⟨still, same⟩

/-- What is on disk is in doubt. -/
theorem Kept.doubted (kept : promise.Kept name position host)
    (files : ∀ file, host.world.files name = some file → ∃ next, after.world.files name = some next ∧
      next.content = file.content) :
    promise.doubt.Kept name position after := by
  have stored {value : UInt8} (holds : IOHandler.HasByte host.world name position value) :
      IOHandler.HasByte after.world name position value := by
    obtain ⟨file, found, inside, byte⟩ := holds
    obtain ⟨next, foundNext, content⟩ := files file found
    rw [← content] at inside byte
    exact ⟨next, foundNext, inside, byte⟩
  cases promise with
  | nothing => trivial
  | stored value => exact stored kept
  | durable value => exact stored kept.1

/-- The file is on disk as it is. -/
theorem Kept.synced (kept : promise.Kept name position host)
    (files : ∀ file, host.world.files name = some file → ∃ next, after.world.files name = some next ∧
      next.content = file.content ∧ next.durable = file.content)
    (untouched : after.touched name position = false) :
    promise.sync.Kept name position after := by
  have durable {value : UInt8} (holds : IOHandler.HasByte host.world name position value) :
      (Promise.durable value).Kept name position after := by
    obtain ⟨file, found, inside, byte⟩ := holds
    obtain ⟨next, foundNext, content, synced⟩ := files file found
    have isHere : position < next.content.size ∧ next.content.byte position = value := by
      rw [content]
      exact ⟨inside, byte⟩
    rw [← synced] at inside byte
    exact ⟨⟨next, foundNext, isHere⟩, untouched, next, foundNext, inside, byte⟩
  cases promise with
  | nothing => trivial
  | stored value => exact durable kept
  | durable value => exact durable kept.1

theorem Kept.powerFailure {image : Name → Option File} (kept : promise.Kept name position host)
    (left : host.MayLeave image) :
    promise.powerFail.Kept name position (Host.powerFailure image) := by
  cases promise with
  | nothing => trivial
  | stored value => trivial
  | durable value =>
      obtain ⟨_, untouched, file, found, inside, byte⟩ := kept
      obtain ⟨onDisk, foundNext, insideNext, byteNext⟩ := left name file position found inside untouched
      have foundNext : (Host.powerFailure image).world.files name = some ⟨onDisk, onDisk⟩ := by
        simp [Host.powerFailure, World.started, foundNext]
      exact ⟨⟨_, foundNext, insideNext, byteNext.trans byte⟩, rfl, _, foundNext, insideNext,
        byteNext.trans byte⟩

end Promise

namespace Host

variable {host after : Host} {promise : Promise} {kernel : Kernel} {request : Request}
variable {events : List HostEvent} {label : HostLabel}

theorem turn_cases (stepped : host.turn kernel request = some (after, events)) :
    ∃ replies, IOHandler.turn host.world kernel request = .ok (after.world, replies) ∧
      events = (IOHandler.effects host.world kernel request).map .effect ++
        IOHandler.observed host.world kernel request replies ∧
      after.touched = events.foldl HostEvent.touch host.touched := by
  unfold turn at stepped
  split at stepped
  · cases stepped
  · rename_i reached replies turned
    obtain ⟨rfl, rfl⟩ := Prod.mk.inj (Option.some.inj stepped)
    exact ⟨replies, turned, rfl, rfl⟩

theorem abort_cases (stepped : host.abort kernel request = some (after, events)) :
    ∃ left fault, IOHandler.handle host.world kernel request = .fault left fault ∧
      events = (IOHandler.effectsOfAbort host.world kernel request).map .effect ++ [.restarted] ∧
      after = ⟨World.started left.files left.mqNames,
        events.foldl HostEvent.touch host.touched⟩ := by
  unfold abort at stepped
  split at stepped
  · rename_i left fault faulted
    dsimp only at stepped
    split at stepped
    · obtain ⟨rfl, rfl⟩ := Prod.mk.inj (Option.some.inj stepped)
      exact ⟨left, fault, faulted, rfl, rfl⟩
    · cases stepped
  · cases stepped
  · cases stepped

/-- An FSYNC, of this file or of another. -/
theorem kept_fsync (kept : promise.Kept name position host) {event : HostEvent} {volumeName : Name}
    (told : event = .synced volumeName ∨ event = .notSynced volumeName)
    (files : ∀ file, host.world.files name = some file → ∃ next, after.world.files name = some next ∧
      next.content = file.content ∧ (.synced name ∈ [event] → next.durable = file.content) ∧
      (.synced name ∉ [event] → .notSynced name ∉ [event] → next.durable = file.durable))
    (touched : after.touched = event.touch host.touched) :
    (promise.after name position event).Kept name position after := by
  by_cases same : volumeName = name
  · subst same
    rcases told with rfl | rfl
    · simp only [Promise.after, if_true]
      refine kept.synced (fun file found => ?_) (by simp [touched, HostEvent.touch])
      obtain ⟨next, foundNext, content, durable, _⟩ := files file found
      exact ⟨next, foundNext, content, durable (List.mem_singleton.mpr rfl)⟩
    · simp only [Promise.after, if_true]
      refine kept.doubted fun file found => ?_
      obtain ⟨next, foundNext, content, _⟩ := files file found
      exact ⟨next, foundNext, content⟩
  · have different : name ≠ volumeName := Ne.symm same
    have unchanged : promise.after name position event = promise := by
      rcases told with rfl | rfl <;> simp [Promise.after, same]
    rw [unchanged]
    refine kept.same (fun file found => ?_) ?_
    · obtain ⟨next, foundNext, content, _, durable⟩ := files file found
      refine ⟨next, foundNext, content, durable ?_ ?_⟩
      · rcases told with rfl | rfl <;> simp [different]
      · rcases told with rfl | rfl <;> simp [different]
    · rcases told with rfl | rfl <;> simp [touched, HostEvent.touch, different]

/-- A request keeps what is promised of each byte. -/
theorem kept_turn (kept : promise.Kept name position host) (sound : host.world.Sound)
    (valid : kernel.Valid host.world request)
    (stepped : host.turn kernel request = some (after, events)) :
    (events.foldl (Promise.after name position) promise).Kept name position after := by
  obtain ⟨replies, turned, rfl, touched⟩ := turn_cases stepped
  have spec := IOHandler.turn_spec valid turned
  have files (file : VolumeFile) (found : host.world.files name = some file) :
      ∃ next, after.world.files name = some next ∧
        next.content = (IOHandler.effects host.world kernel request).foldl
          (IOHandler.Effect.apply name) file.content ∧
        (.synced name ∈ IOHandler.observed host.world kernel request replies →
          next.durable = file.content) ∧
        (.synced name ∉ IOHandler.observed host.world kernel request replies →
          .notSynced name ∉ IOHandler.observed host.world kernel request replies →
          next.durable = file.durable) := by
    obtain ⟨next, foundNext, content⟩ := spec.content sound found
    obtain ⟨other, foundOther, durable⟩ := spec.durable sound found
    obtain rfl : next = other := Option.some.inj (foundNext.symm.trans foundOther)
    exact ⟨next, foundNext, content, durable⟩
  rcases IOHandler.effects_length host.world kernel request with none | ⟨effect, one⟩
  · simp only [none, List.map_nil, List.nil_append, List.foldl_nil] at touched files ⊢
    rcases IOHandler.observed_cases spec with unseen | ⟨req, volState, rfl, live, seen⟩ |
      ⟨req, volState, rfl, live, _, seen⟩
    · simp only [unseen, List.foldl_nil] at touched files ⊢
      refine kept.same (fun file found => ?_) (by rw [touched])
      obtain ⟨next, foundNext, content, _, durable⟩ := files file found
      exact ⟨next, foundNext, content, durable (by simp) (by simp)⟩
    · simp only [seen, List.foldl_cons, List.foldl_nil] at touched files ⊢
      refine @kept_fsync name position host after promise kept _ volState.volumeName ?_ files touched
      cases kernel.fsync with
      | ok done => exact Or.inl rfl
      | error errno => exact Or.inr rfl
    · simp only [seen, List.foldl_cons, List.foldl_nil] at touched files ⊢
      refine kept.same (fun file found => ?_) (by simp [touched, HostEvent.touch])
      obtain ⟨next, foundNext, content, _, durable⟩ := files file found
      exact ⟨next, foundNext, content, durable (by simp) (by simp)⟩
  · have unseen : IOHandler.observed host.world kernel request replies = [] :=
      IOHandler.observed_of_effect one
    have member : effect ∈ IOHandler.effects host.world kernel request := by simp [one]
    simp only [one, unseen, List.map_cons, List.map_nil, List.append_nil, List.foldl_cons,
      List.foldl_nil] at touched files ⊢
    refine kept.effect (fun file found => ?_) touched
      fun covers => IOHandler.stored_exists sound member covers
    obtain ⟨next, foundNext, content, _, durable⟩ := files file found
    exact ⟨next, foundNext, content, durable (by simp) (by simp)⟩

theorem kept_abort (kept : promise.Kept name position host) (sound : host.world.Sound)
    (stepped : host.abort kernel request = some (after, events)) :
    (events.foldl (Promise.after name position) promise).Kept name position after := by
  obtain ⟨left, fault, faulted, rfl, rfl⟩ := abort_cases stepped
  have files (file : VolumeFile) (found : host.world.files name = some file) :
      ∃ next, (World.started left.files left.mqNames).files name = some next ∧
        next.content = (IOHandler.effectsOfAbort host.world kernel request).foldl
          (IOHandler.Effect.apply name) file.content ∧ next.durable = file.durable := by
    have abandoned := IOHandler.fault_files sound faulted found
    exact abandoned
  rcases IOHandler.effectsOfAbort_cases host.world kernel request with none | ⟨effect, one, member⟩
  · simp only [none, List.map_nil, List.nil_append, List.foldl_cons, List.foldl_nil] at files ⊢
    exact kept.same files rfl
  · simp only [one, List.map_cons, List.map_nil, List.cons_append, List.nil_append, List.foldl_cons,
      List.foldl_nil] at files ⊢
    exact kept.effect files rfl fun covers => IOHandler.stored_exists sound member covers

theorem kept_step (kept : promise.Kept name position host) (sound : host.world.Sound)
    (permitted : host.Permitted label) (stepped : machine.step host label = some (after, events)) :
    (events.foldl (Promise.after name position) promise).Kept name position after := by
  cases label with
  | turn kernel request => exact kept_turn kept sound permitted.1 stepped
  | abort kernel request => exact kept_abort kept sound stepped
  | kill =>
      obtain ⟨rfl, rfl⟩ := Prod.mk.inj (Option.some.inj stepped)
      exact kept.same (fun file found => ⟨file, found, rfl, rfl⟩) rfl
  | names mqNames =>
      obtain ⟨rfl, rfl⟩ := Prod.mk.inj (Option.some.inj stepped)
      exact kept.same (fun file found => ⟨file, found, rfl, rfl⟩) rfl
  | powerFailure image =>
      obtain ⟨rfl, rfl⟩ := Prod.mk.inj (Option.some.inj stepped)
      exact kept.powerFailure permitted

theorem sound_step (sound : host.world.Sound) (permitted : host.Permitted label)
    (stepped : machine.step host label = some (after, events)) : after.world.Sound := by
  cases label with
  | turn kernel request =>
      obtain ⟨replies, turned, _⟩ := turn_cases stepped
      exact (IOHandler.turn_spec permitted.1 turned).sound sound permitted.1
  | abort kernel request =>
      obtain ⟨left, _, _, _, rfl⟩ := abort_cases stepped
      exact World.started_sound _ _
  | kill =>
      obtain ⟨rfl, _⟩ := Prod.mk.inj (Option.some.inj stepped)
      exact World.started_sound _ _
  | names mqNames =>
      obtain ⟨rfl, _⟩ := Prod.mk.inj (Option.some.inj stepped)
      exact ⟨sound.null, sound.fdOpen, sound.fdDistinct, sound.existsFile⟩
  | powerFailure image =>
      obtain ⟨rfl, _⟩ := Prod.mk.inj (Option.some.inj stepped)
      exact World.started_sound _ _

/-- A READ is answered with the bytes of the file, and nothing else happens then. -/
theorem read_spec (sound : host.world.Sound) (permitted : host.Permitted label)
    (stepped : machine.step host label = some (after, events))
    {offset size : Nat} {data : Nat → UInt8} (told : .read name offset size data ∈ events) :
    events = [.read name offset size data] ∧
      ∀ file, host.world.files name = some file → offset ≤ position → position < offset + size →
        data (position - offset) = file.content.byte position := by
  cases label with
  | abort kernel request =>
      obtain ⟨_, _, _, rfl, _⟩ := abort_cases stepped
      simp at told
  | kill =>
      obtain ⟨_, rfl⟩ := Prod.mk.inj (Option.some.inj stepped)
      simp at told
  | names mqNames =>
      obtain ⟨_, rfl⟩ := Prod.mk.inj (Option.some.inj stepped)
      simp at told
  | powerFailure image =>
      obtain ⟨_, rfl⟩ := Prod.mk.inj (Option.some.inj stepped)
      simp at told
  | turn kernel request =>
      obtain ⟨valid, small⟩ := permitted
      obtain ⟨replies, turned, rfl, _⟩ := turn_cases stepped
      rcases IOHandler.observed_cases (IOHandler.turn_spec valid turned) with
        unseen | ⟨req, volState, rfl, live, seen⟩ | ⟨req, volState, rfl, live, full, seen⟩
      · simp [unseen] at told
      · cases answer : kernel.fsync <;> simp [seen, answer] at told
      · have transferred := transferResult_full (small req rfl)
          (fun count counted => Nat.le_trans (valid.pread req volState count rfl live counted).2
            (Nat.min_le_left _ _)) full
        simp only [seen, IOHandler.effects, List.map_nil, List.nil_append, List.mem_singleton,
          HostEvent.read.injEq] at told ⊢
        obtain ⟨rfl, rfl, rfl, rfl⟩ := told
        refine ⟨rfl, fun file found lower upper => ?_⟩
        have content : host.world.content volState.fd = file.content := by
          simp [World.content, World.volumeFile, sound.fdOpen _ _ live, found]
        simp only [Kernel.readData, transferred, content]
        rw [Region.copy_inside (Nat.zero_le _) (by omega), Nat.sub_zero, Nat.add_sub_of_le lower]

theorem kept_run {initial : Host} (sound : initial.world.Sound)
    (kept : promise.Kept name position initial) {trace : List HostEvent}
    (run : machine.Run Permitted initial trace host) :
    host.world.Sound ∧ (trace.foldl (Promise.after name position) promise).Kept name position host := by
  refine run.invariant (fun trace reached => reached.world.Sound ∧
    (trace.foldl (Promise.after name position) promise).Kept name position reached)
    ⟨sound, kept⟩ ?_
  rintro trace state label after events ⟨sound, kept⟩ permitted stepped
  rw [List.foldl_append]
  exact ⟨sound_step sound permitted stepped, kept_step kept sound permitted stepped⟩

theorem answered_run {initial : Host} (sound : initial.world.Sound)
    (kept : promise.Kept name position initial) {trace before later : List HostEvent}
    (run : machine.Run Permitted initial trace host) {offset size : Nat} {data : Nat → UInt8}
    (split : trace = before ++ .read name offset size data :: later) (lower : offset ≤ position)
    (upper : position < offset + size) {value : UInt8}
    (promised : (before.foldl (Promise.after name position) promise).value = some value) :
    data (position - offset) = value := by
  obtain ⟨earlier, reached, label, next, events, first, rest, past, permitted, stepped, told, rfl⟩ :=
    run.at_event split
  obtain ⟨sound, kept⟩ := kept_run sound kept past
  have here : .read name offset size data ∈ events := by simp [told]
  obtain ⟨alone, answered⟩ := read_spec sound permitted stepped here
  have nothing : first = [] := by
    cases first with
    | nil => rfl
    | cons head tail => simp [alone] at told
  rw [nothing, List.append_nil] at promised
  obtain ⟨file, found, _, byte⟩ := kept.hasByte promised
  exact (answered file found lower upper).trans byte

/-- Whatever happens to the server and to the power, each byte is what has been promised of it, and
every READ is answered with it. -/
theorem promised_run {initial : Host} (sound : initial.world.Sound)
    (kept : promise.Kept name position initial) {trace : List HostEvent}
    (run : machine.Run Permitted initial trace host) :
    (trace.foldl (Promise.after name position) promise).Kept name position host ∧
      ∀ before offset size data later, trace = before ++ .read name offset size data :: later →
        offset ≤ position → position < offset + size → ∀ value,
          (before.foldl (Promise.after name position) promise).value = some value →
            data (position - offset) = value :=
  ⟨(kept_run sound kept run).2, fun _ _ _ _ _ split lower upper _ promised =>
    answered_run sound kept run split lower upper promised⟩

end Host

end Cvbd
