import Cvbd.MessageTotal

/-!
The volume files over runs of a server thread. A file replays the effects of the
turns on it, so a stored byte stays until a later WRITE covers it or an OPEN cuts
the file off in front of it.
-/

namespace Cvbd

namespace IOHandler

/-- The effects among the events of a run. -/
def effectsOf (trace : List TurnEvent) : List Effect :=
  trace.filterMap fun
    | .effect effect => some effect
    | .sent _ _ => none

/-- What an effect does to the content of the file `name`. -/
def Effect.apply (name : Name) (content : File) : Effect → File
  | .stored other offset size data => if other = name then content.pwrite offset data size else content
  | .resized other => if other = name then content.truncate (2 ^ 34) else content

def Effect.covers (name : Name) (position : Nat) : Effect → Bool
  | .stored other offset size _ =>
      decide (other = name ∧ offset ≤ position ∧ position < offset + size)
  | .resized _ => false

/-- The effect cuts the file `name` off in front of the position. -/
def Effect.discards (name : Name) (position : Nat) : Effect → Bool
  | .stored .. => false
  | .resized other => decide (other = name ∧ 2 ^ 34 ≤ position)

variable {world after : World} {kernel : Kernel} {request : Request} {replies : Replies}

theorem updateFile_content {fd : Nat} {name other : Name} {file : VolumeFile}
    (change : VolumeFile → VolumeFile) (fdOpen : world.fds fd = some name)
    (found : world.files other = some file) :
    (world.updateFile fd change).files other =
      some (if name = other then change file else file) := by
  obtain ⟨_, _, _, files⟩ := World.updateFile_spec change fdOpen
  rw [files]
  by_cases same : other = name
  · subst same
    simp [found]
  · simp [same, Ne.symm same, found]

theorem Turn.content (sound : world.Sound) (turned : Turn world kernel request after replies)
    {name : Name} {file : VolumeFile} (found : world.files name = some file) :
    ∃ next, after.files name = some next ∧
      next.content = (effects world kernel request).foldl (Effect.apply name) file.content := by
  cases turned with
  | @skipped _ skipped =>
      refine ⟨file, found, ?_⟩
      cases request with
      | write req =>
          have null : world.volumes req.header.volume = none := by
            rw [show req.header.volume = 0 from skipped]
            exact sound.null
          simp [effects, null]
      | openVolume req =>
          have failed : descriptor kernel = none := skipped
          cases named : req.volumeName with
          | none => simp [effects, named]
          | some volumeName => simp [effects, named, failed]
      | read req => rfl
      | getsize req => rfl
      | fsync req => rfl
      | close req => rfl
      | stop header => rfl
      | unknown header => rfl
  | @write req volState live full =>
      refine ⟨_, updateFile_content _ (sound.fdOpen _ _ live) found, ?_⟩
      cases transferred : kernel.pwrite with
      | ok count =>
          simp only [effects, live, transferred, List.foldl_cons, List.foldl_nil, Effect.apply]
          split <;> simp [Kernel.written, transferred]
      | error errno =>
          simp only [effects, live, transferred, List.foldl_nil]
          split <;> simp [Kernel.written, transferred]
  | read _ _ => exact ⟨file, found, rfl⟩
  | getsize _ => exact ⟨file, found, rfl⟩
  | @synced req volState live _ =>
      refine ⟨_, updateFile_content _ (sound.fdOpen _ _ live) found, ?_⟩
      simp only [effects, List.foldl_nil]
      split <;> rfl
  | @notSynced req volState errno live _ =>
      refine ⟨_, updateFile_content _ (sound.fdOpen _ _ live) found, ?_⟩
      simp only [effects, List.foldl_nil]
      split <;> rfl
  | closed _ => exact ⟨file, found, rfl⟩
  | @opened req volumeName _ mq fd named _ _ obtained resized =>
      have fdOpen : ({ world.openFile volumeName fd with
          volumes := Function.update world.volumes kernel.newVolume
            (some ⟨volumeName, fd, mq⟩) } : World).fds fd = some volumeName := by
        simp [World.openFile]
      have opened : (world.openFile volumeName fd).files name = some file := by
        by_cases same : name = volumeName
        · subst same
          simp [World.openFile, found]
        · rw [World.openFile_files_ne fd same, found]
      refine ⟨_, updateFile_content _ fdOpen opened, ?_⟩
      simp only [effects, named, obtained, resized, List.foldl_cons, List.foldl_nil, Effect.apply]
      split <;> rfl
  | @notResized req volumeName _ _ fd errno named _ _ obtained failed =>
      refine ⟨file, ?_, ?_⟩
      · by_cases same : name = volumeName
        · subst same
          simp [World.openFile, found]
        · exact (World.openFile_files_ne fd same).trans found
      · simp [effects, named, obtained, failed]

/-- Bytes are stored only in files that exist. -/
theorem stored_exists (sound : world.Sound) {name : Name} {position : Nat} {effect : Effect}
    (member : effect ∈ effects world kernel request) (covers : effect.covers name position = true) :
    ∃ file, world.files name = some file := by
  cases request with
  | write req =>
      cases live : world.volumes req.header.volume with
      | none => simp [effects, live] at member
      | some volState =>
          cases transferred : kernel.pwrite with
          | error errno => simp [effects, live, transferred] at member
          | ok count =>
              have stored : effect = .stored volState.volumeName req.offset.toInt.toNat count
                  req.data := by simpa [effects, live, transferred] using member
              subst stored
              simp only [Effect.covers, decide_eq_true_eq] at covers
              obtain ⟨file, found⟩ := sound.existsFile _ _ (sound.fdOpen _ _ live)
              exact ⟨file, by rw [← covers.1]; exact found⟩
  | openVolume req =>
      have resized : ∃ other, effect = .resized other := by
        simp only [effects] at member
        split at member
        · exact ⟨_, List.mem_singleton.mp member⟩
        · simp at member
      obtain ⟨other, rfl⟩ := resized
      simp [Effect.covers] at covers
  | read req => simp [effects] at member
  | getsize req => simp [effects] at member
  | fsync req => simp [effects] at member
  | close req => simp [effects] at member
  | stop header => simp [effects] at member
  | unknown header => simp [effects] at member

/-- An effect that neither covers nor discards a position leaves its byte in place. -/
theorem Effect.apply_byte {name : Name} {position : Nat} {effect : Effect} {content : File}
    (inside : position < content.size) (uncovered : effect.covers name position = false)
    (kept : effect.discards name position = false) :
    (effect.apply name content).byte position = content.byte position ∧
      position < (effect.apply name content).size := by
  cases effect with
  | stored other offset size data =>
      simp only [covers, decide_eq_false_iff_not] at uncovered
      simp only [apply]
      split
      · rename_i same
        constructor
        · exact Region.copy_outside (by
            by_contra within
            exact uncovered ⟨same, by omega, by omega⟩)
        · simp only [File.pwrite]
          split <;> omega
      · exact ⟨rfl, inside⟩
  | resized other =>
      simp only [discards, decide_eq_false_iff_not] at kept
      simp only [apply]
      split
      · rename_i same
        have below : position < 2 ^ 34 := by
          by_contra beyond
          exact kept ⟨same, by omega⟩
        exact ⟨if_pos below, below⟩
      · exact ⟨rfl, inside⟩

theorem effects_length (world : World) (kernel : Kernel) (request : Request) :
    effects world kernel request = [] ∨ ∃ effect, effects world kernel request = [effect] := by
  cases request with
  | write req =>
      simp only [effects]
      split
      · exact Or.inr ⟨_, rfl⟩
      · exact Or.inl rfl
  | openVolume req =>
      simp only [effects]
      split
      · exact Or.inr ⟨_, rfl⟩
      · exact Or.inl rfl
  | read req => exact Or.inl rfl
  | getsize req => exact Or.inl rfl
  | fsync req => exact Or.inl rfl
  | close req => exact Or.inl rfl
  | stop header => exact Or.inl rfl
  | unknown header => exact Or.inl rfl

theorem machine_step {label : Kernel × Request} {events : List TurnEvent}
    (permitted : Permitted world label) (stepped : machine.step world label = some (after, events)) :
    (∃ replies, Turn world label.1 label.2 after replies) ∧
      effectsOf events = effects world label.1 label.2 := by
  obtain ⟨kernel, request⟩ := label
  cases turned : turn world kernel request with
  | error _ => simp [machine, turned] at stepped
  | ok result =>
      obtain ⟨reached, replies⟩ := result
      simp only [machine, turned, Option.some.injEq, Prod.mk.injEq] at stepped
      obtain ⟨rfl, rfl⟩ := stepped
      refine ⟨⟨replies, turn_spec permitted turned⟩, ?_⟩
      simp [effectsOf, List.filterMap_append, List.filterMap_map]

/-- The byte at `position` of the file `name` is `value`. -/
def HasByte (world : World) (name : Name) (position : Nat) (value : UInt8) : Prop :=
  ∃ file, world.files name = some file ∧ position < file.content.size ∧
    file.content.byte position = value

theorem HasByte.turn {name : Name} {position : Nat} {value : UInt8} (sound : world.Sound)
    (turned : Turn world kernel request after replies) (holds : HasByte world name position value)
    (spared : ∀ effect ∈ effects world kernel request,
      effect.covers name position = false ∧ effect.discards name position = false) :
    HasByte after name position value := by
  obtain ⟨file, found, inside, byte⟩ := holds
  obtain ⟨next, foundNext, content⟩ := turned.content sound found
  rcases effects_length world kernel request with none | ⟨effect, one⟩
  · rw [none, List.foldl_nil] at content
    exact ⟨next, foundNext, by rw [content]; exact inside, by rw [content]; exact byte⟩
  · obtain ⟨uncovered, kept⟩ := spared effect (by simp [one])
    obtain ⟨same, still⟩ := Effect.apply_byte inside uncovered kept
    rw [one, List.foldl_cons, List.foldl_nil] at content
    exact ⟨next, foundNext, by rw [content]; exact still, by rw [content, same, byte]⟩

theorem HasByte.stored {name : Name} {offset size : Nat} {data : Nat → UInt8} {position : Nat}
    (sound : world.Sound) (turned : Turn world kernel request after replies)
    (effect : effects world kernel request = [.stored name offset size data])
    (lower : offset ≤ position) (upper : position < offset + size) :
    HasByte after name position (data (position - offset)) := by
  have covers : (Effect.stored name offset size data).covers name position = true := by
    simp [Effect.covers, lower, upper]
  have member : Effect.stored name offset size data ∈ effects world kernel request := by simp [effect]
  obtain ⟨file, found⟩ := stored_exists sound member covers
  obtain ⟨next, foundNext, content⟩ := turned.content sound found
  rw [effect, List.foldl_cons, List.foldl_nil] at content
  simp only [Effect.apply, if_true] at content
  refine ⟨next, foundNext, ?_, ?_⟩
  · rw [content]
    simp only [File.pwrite]
    split <;> omega
  · rw [content]
    exact Region.copy_inside lower upper

variable {initial : World} {trace : List TurnEvent}

/-- A byte stored by a WRITE keeps its value until a later WRITE covers it or, from 2^34 on, the
next OPEN of the volume discards it. -/
theorem stored_kept (sound : initial.Sound) (run : machine.Run Permitted initial trace world)
    {before later : List Effect} {name : Name} {offset size : Nat} {data : Nat → UInt8}
    (split : effectsOf trace = before ++ .stored name offset size data :: later)
    {position : Nat} (lower : offset ≤ position) (upper : position < offset + size)
    (spared : ∀ effect ∈ later,
      effect.covers name position = false ∧ effect.discards name position = false) :
    HasByte world name position (data (position - offset)) := by
  induction run generalizing later with
  | start => simp [effectsOf] at split
  | @next trace world label after events run permitted stepped ih =>
      have kept := sound_run sound run
      obtain ⟨⟨replies, turned⟩, told⟩ := machine_step permitted stepped
      have joined : effectsOf (trace ++ events) = effectsOf trace ++ effectsOf events := by
        simp [effectsOf, List.filterMap_append]
      rw [joined, told] at split
      rcases effects_length world label.1 label.2 with none | ⟨effect, one⟩
      · rw [none, List.append_nil] at split
        exact (ih split spared).turn kept turned (by simp [none])
      · rw [one] at split
        rcases List.eq_nil_or_concat later with rfl | ⟨earlier, last, rfl⟩
        · obtain ⟨_, same⟩ := List.append_inj' split rfl
          exact HasByte.stored kept turned (one.trans same) lower upper
        · rw [List.concat_eq_append] at split spared
          rw [← List.cons_append, ← List.append_assoc] at split
          obtain ⟨same, rest⟩ := List.append_inj' split rfl
          refine (ih same fun other member => spared other (by simp [member])).turn kept turned ?_
          rw [one, rest]
          exact fun other member => spared other (by simpa using Or.inr (List.mem_singleton.mp member))

/-! A WRITE of 512 bytes, and another OPEN of the volume. -/

def sampleStore (offset : Int64) : Kernel × Request :=
  ({ Kernel.transfer File.empty 0 0 with pwrite := .ok 512 },
    .write ⟨⟨false, .reqWrite, 1, 4096, 64⟩, offset, 512, fun _ => 7⟩)

def sampleReopen : Kernel × Request :=
  ({ Kernel.transfer File.empty 0 0 with open1 := .ok 4, newVolume := 8192, ftruncate := .ok () },
    .openVolume sampleOpen)

def sampleStored (offset : Int64) : World :=
  sampleVolume.updateFile 3 fun file =>
    { file with content := file.content.pwrite offset.toInt.toNat (fun _ => 7) 512 }

theorem sampleStore_step (offset : Int64) :
    machine.step sampleVolume (sampleStore offset) = some (sampleStored offset,
      [.effect (.stored [118] offset.toInt.toNat 512 fun _ => 7)]) := rfl

theorem sample_reopened {offset : Int64} (nonneg : 0 ≤ offset.toInt) :
    ∃ trace world, machine.Run Permitted sampleVolume trace world ∧
      effectsOf trace =
        [.stored [118] offset.toInt.toNat 512 fun _ => 7, .resized [118]] ∧
      ∃ file, world.files [118] = some file ∧ file.content.size = 2 ^ 34 := by
  have stores : Permitted sampleVolume (sampleStore offset) := by
    refine ⟨?_, ?_, ?_, ?_, ?_⟩
    · rintro fd ⟨⟩
    · rintro fd ⟨⟩
    · rintro _ ⟨⟩
    · rintro _ _ _ ⟨⟩
    · rintro _ _ ⟨⟩ ⟨⟩
      exact ⟨nonneg, Nat.le_refl 512⟩
  have reopens : Permitted (sampleStored offset) sampleReopen := by
    refine ⟨?_, ?_, ?_, ?_, ?_⟩
    · rintro fd ⟨⟩
      rfl
    · rintro fd ⟨⟩
    · rintro _ _
      exact ⟨(by decide : (8192 : UInt64) ≠ 0), rfl⟩
    · rintro _ _ _ ⟨⟩
    · rintro _ _ ⟨⟩
  have run := Machine.Run.next Machine.Run.start stores (sampleStore_step offset)
  exact ⟨_, _, Machine.Run.next run reopens rfl, rfl, _, rfl, rfl⟩

theorem sample_stored_kept : ∃ trace world, machine.Run Permitted sampleVolume trace world ∧
    .resized [118] ∈ effectsOf trace ∧ HasByte world [118] 5 7 := by
  obtain ⟨trace, world, run, effects, _⟩ := @sample_reopened 0 (by decide)
  refine ⟨trace, world, run, by simp [effects], ?_⟩
  refine @stored_kept world sampleVolume trace sample_sound run [] _ _ _ _ _ effects 5 ?_ ?_ ?_
  · decide
  · decide
  · rintro effect member
    obtain rfl := List.mem_singleton.mp member
    decide

/-- A byte stored behind the volume's size is gone after the next OPEN. -/
theorem reopen_discards :
    ¬∀ trace world before later name offset size data position,
      machine.Run Permitted sampleVolume trace world →
      effectsOf trace = before ++ .stored name offset size data :: later →
      offset ≤ position → position < offset + size →
      (∀ effect ∈ later, effect.covers name position = false) →
      HasByte world name position (data (position - offset)) := by
  intro keeps
  obtain ⟨trace, world, run, effects, file, found, size⟩ :=
    @sample_reopened 17179869184 (by decide)
  obtain ⟨other, otherFound, inside, _⟩ := keeps trace world [] [.resized [118]] [118] _ _ _
    (2 ^ 34) run effects (by decide) (by decide) (by
      rintro effect member
      obtain rfl := List.mem_singleton.mp member
      rfl)
  rw [found] at otherFound
  obtain rfl := Option.some.inj otherFound
  omega

end IOHandler

end Cvbd
