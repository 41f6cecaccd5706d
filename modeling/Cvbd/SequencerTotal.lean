import Cvbd.SequencerChecks

/-!
The whole run of the exchange is one of the sequencer, and the sequencer keeps a
log: what has been served are the first of the requests submitted, the files hold
their effects, and the outboxes their replies.
-/

namespace Cvbd

namespace IOHandler

variable {world after : World} {kernel : Kernel} {request : Request} {replies : Replies}

theorem effects_skipped (sound : world.Sound) (skipped : Skipped kernel request) :
    effects world kernel request = [] := by
  cases request with
  | write req =>
      have null : world.volumes req.header.volume = none := by
        rw [show req.header.volume = 0 from skipped]
        exact sound.null
      simp [effects, null]
  | openVolume req =>
      have failed : descriptor kernel = none := skipped
      cases named : req.volumeName with
      | none => simp [effects, named]
      | some volumeName => simp [effects, named, failed]
  | read req => rfl
  | getsize req => rfl
  | fsync req => rfl
  | close req => rfl
  | stop header => rfl
  | unknown header => rfl

theorem updateFile_missing {fd : Nat} {name : Name} (change : VolumeFile → VolumeFile)
    (missing : world.files name = none) : (world.updateFile fd change).files name = none := by
  cases isOpen : world.fds fd with
  | none => simpa [World.updateFile, isOpen] using missing
  | some other =>
      by_cases same : name = other
      · subst same
        simp [World.updateFile, isOpen, missing]
      · simpa [World.updateFile, isOpen, same] using missing

theorem bytes_missing {name : Name} (missing : world.files name = none) :
    world.bytes name = File.empty := by
  simp [World.bytes, missing]

/-- A file that does not exist is made by an OPEN or left alone. -/
theorem Turn.bytes_created (sound : world.Sound) (turned : Turn world kernel request after replies)
    {name : Name} (missing : world.files name = none) :
    after.bytes name = (effects world kernel request).foldl (Effect.apply name) File.empty := by
  cases turned with
  | skipped skipped => rw [bytes_missing missing, effects_skipped sound skipped, List.foldl_nil]
  | @write req volState live full =>
      have other : volState.volumeName ≠ name := by
        rintro rfl
        obtain ⟨file, found⟩ := sound.existsFile _ _ (sound.fdOpen _ _ live)
        simp [missing] at found
      rw [bytes_missing (updateFile_missing _ missing)]
      cases transferred : kernel.pwrite with
      | ok count => simp [effects, live, transferred, Effect.apply, other]
      | error errno => simp [effects, live, transferred]
  | read _ _ => rw [bytes_missing missing]; rfl
  | getsize _ => rw [bytes_missing missing]; rfl
  | synced _ _ => rw [bytes_missing (updateFile_missing _ missing)]; rfl
  | notSynced _ _ => rw [bytes_missing (updateFile_missing _ missing)]; rfl
  | closed _ => exact bytes_missing missing
  | @opened req volumeName _ mq fd named _ _ obtained resized =>
      simp only [effects, named, obtained, resized, List.foldl_cons, List.foldl_nil, Effect.apply]
      by_cases same : volumeName = name
      · subst same
        simp [World.bytes, World.updateFile, World.openFile, missing]
      · have untouched : (world.openFile volumeName fd).files name = none := by
          rw [World.openFile_files_ne fd (Ne.symm same), missing]
        rw [if_neg same]
        exact bytes_missing (updateFile_missing _ untouched)
  | @notResized req volumeName _ mq fd errno named _ _ obtained failed =>
      simp only [effects, named, obtained, failed, List.foldl_nil]
      by_cases same : volumeName = name
      · subst same
        simp [World.bytes, World.openFile, missing]
      · exact bytes_missing ((World.openFile_files_ne fd (Ne.symm same)).trans missing)

theorem Turn.bytes (sound : world.Sound) (turned : Turn world kernel request after replies)
    (name : Name) :
    after.bytes name =
      (effects world kernel request).foldl (Effect.apply name) (world.bytes name) := by
  cases found : world.files name with
  | some file =>
      obtain ⟨next, foundNext, content⟩ := turned.content sound found
      simpa [World.bytes, found, foundNext] using content
  | none =>
      rw [bytes_missing found]
      exact turned.bytes_created sound found

end IOHandler

namespace SystemEvent

variable {Index Client : Type} {left right : List (SystemEvent Index Client)}

theorem submittedOf_append :
    submittedOf (left ++ right) = submittedOf left ++ submittedOf right := List.filterMap_append

theorem servedOf_append : servedOf (left ++ right) = servedOf left ++ servedOf right :=
  List.filterMap_append

theorem repliesTo_append (mq : Nat) :
    repliesTo mq (left ++ right) = repliesTo mq left ++ repliesTo mq right := List.flatMap_append

theorem takenFrom_append (mq : Nat) :
    takenFrom mq (left ++ right) = takenFrom mq left ++ takenFrom mq right := List.flatMap_append

theorem replay_append (initial : World) (name : Name) :
    replay initial (left ++ right) name =
      (effectsOf right).foldl (IOHandler.Effect.apply name) (replay initial left name) := by
  simp only [replay, effectsOf, List.flatMap_append, List.foldl_append]

end SystemEvent

namespace Sequencer

variable {Client : Type} {sequencer after : Sequencer Client}

open SystemEvent

/-- What the sequencer holds, as far as it can be told from what has happened. -/
structure Log (initial : World) (sequencer : Sequencer Client)
    (trace : List (SystemEvent Unit Client)) : Prop where
  waiting : servedOf trace ++ sequencer.pending = submittedOf trace
  content : ∀ world, sequencer.server = .ok world →
    world.Sound ∧ ∀ name, world.bytes name = replay initial trace name
  replies : ∀ mq, takenFrom mq trace ++ sequencer.outbox mq = repliesTo mq trace

theorem post_answers (outbox : Nat → List (Envelope Client Reply))
    (replies : List (Nat × Envelope Client Reply)) (mq : Nat) :
    post outbox replies mq =
      outbox mq ++ (replies.filter fun reply => reply.1 = mq).map Prod.snd := by
  induction replies generalizing outbox with
  | nil => simp [post]
  | cons reply rest ih =>
      have unfolded : post outbox (reply :: rest) =
          post (Function.update outbox reply.1 (outbox reply.1 ++ [reply.2])) rest := rfl
      rw [unfolded, ih, update_append]
      by_cases same : reply.1 = mq
      · simp [same]
      · simp [same]

/-- A turn serves the oldest request, unless it ends the server. -/
theorem turn_cases {kernel : Kernel} {events : List (SystemEvent Unit Client)}
    (turned : sequencer.turn kernel = some (after, events)) :
    ∃ world request rest, sequencer.server = .ok world ∧ sequencer.pending = request :: rest ∧
      ((∃ fault, after = { sequencer with server := .error fault } ∧ events = []) ∨
        ∃ next replies, IOHandler.turn world kernel request.body = .ok (next, replies) ∧
          after = { sequencer with
            server := .ok next
            pending := rest
            outbox := post sequencer.outbox (replies.map request.answer) } ∧
          events = [.served () request (world.served request.body)
            (IOHandler.effects world kernel request.body) (replies.map request.answer)]) := by
  unfold turn at turned
  split at turned
  · rename_i world request rest server _ pending
    refine ⟨world, request, rest, server, pending, ?_⟩
    split at turned
    · simp at turned
    · split at turned
      · obtain ⟨rfl, rfl⟩ := Prod.mk.inj (Option.some.inj turned)
        exact Or.inl ⟨_, rfl, rfl⟩
      · rename_i next replies result
        obtain ⟨rfl, rfl⟩ := Prod.mk.inj (Option.some.inj turned)
        exact Or.inr ⟨next, replies, result, rfl, rfl⟩
  · simp at turned

theorem stop_cases (stopped : sequencer.stop = some after) :
    ∃ request rest header, sequencer.pending = request :: rest ∧ request.body = .stop header ∧
      after = { sequencer with halted := true, pending := rest } := by
  unfold stop at stopped
  split at stopped
  · rename_i request rest _ _ pending
    split at stopped
    · rename_i header body
      exact ⟨request, rest, header, pending, body, (Option.some.inj stopped).symm⟩
    · simp at stopped
  · simp at stopped

theorem Log.submit {initial : World} {trace : List (SystemEvent Unit Client)}
    (log : sequencer.Log initial trace) (request : Envelope Client Request) :
    ({ sequencer with pending := sequencer.pending ++ [request] } : Sequencer Client).Log initial
      (trace ++ [.submitted () request]) where
  waiting := by
    rw [servedOf_append, submittedOf_append, ← log.waiting]
    simp [servedOf, submittedOf]
  content := by
    intro world server
    simpa [replay_append, effectsOf] using log.content world server
  replies := by
    intro mq
    simpa [takenFrom_append, repliesTo_append, takenFrom, repliesTo] using log.replies mq

theorem Log.take {initial : World} {trace : List (SystemEvent Unit Client)}
    (log : sequencer.Log initial trace) {mq : Nat} {reply : Envelope Client Reply}
    (took : sequencer.take mq = some (reply, after)) :
    after.Log initial (trace ++ [.taken mq reply]) := by
  unfold Sequencer.take at took
  split at took
  · simp at took
  · rename_i first rest outbox
    obtain ⟨rfl, rfl⟩ := Prod.mk.inj (Option.some.inj took)
    refine ⟨?_, ?_, ?_⟩
    · rw [servedOf_append, submittedOf_append]
      simpa [servedOf, submittedOf] using log.waiting
    · intro world server
      simpa [replay_append, effectsOf] using log.content world server
    · intro other
      rw [takenFrom_append, repliesTo_append]
      by_cases same : other = mq
      · subst same
        have replies := log.replies other
        rw [outbox] at replies
        simpa [takenFrom, repliesTo] using replies
      · simpa [takenFrom, repliesTo, same, Ne.symm same] using log.replies other

theorem Log.rename {initial : World} {trace : List (SystemEvent Unit Client)}
    (log : sequencer.Log initial trace) (name : Name) (queue : Option Nat) :
    ({ sequencer with
      server := sequencer.server.map (·.setQueue name queue) } : Sequencer Client).Log initial
        trace where
  waiting := log.waiting
  content := by
    intro world server
    cases running : sequencer.server with
    | error fault => simp [running, Except.map] at server
    | ok old =>
        obtain rfl : old.setQueue name queue = world := by
          simpa [running, Except.map] using server
        obtain ⟨sound, bytes⟩ := log.content old running
        exact ⟨⟨sound.null, sound.fdOpen, sound.fdDistinct, sound.existsFile⟩, bytes⟩
  replies := log.replies

theorem Log.turn {initial : World} {trace events : List (SystemEvent Unit Client)}
    (log : sequencer.Log initial trace) {kernel : Kernel}
    (lawful : sequencer.Lawful (.turn kernel))
    (turned : sequencer.turn kernel = some (after, events)) :
    after.Log initial (trace ++ events) := by
  obtain ⟨world, request, rest, server, pending, outcome⟩ := turn_cases turned
  rcases outcome with ⟨fault, rfl, rfl⟩ | ⟨next, replies, result, rfl, rfl⟩
  · rw [List.append_nil]
    exact ⟨log.waiting, by simp, log.replies⟩
  · have valid := lawful world request server (by simp [pending])
    have turn := IOHandler.turn_spec valid result
    obtain ⟨sound, bytes⟩ := log.content world server
    refine ⟨?_, ?_, ?_⟩
    · rw [servedOf_append, submittedOf_append]
      simpa [servedOf, submittedOf, pending] using log.waiting
    · intro reached equal
      obtain rfl := Except.ok.inj equal
      refine ⟨turn.sound sound valid, fun name => ?_⟩
      rw [turn.bytes sound name, replay_append, bytes name]
      simp [effectsOf]
    · intro mq
      dsimp only
      rw [takenFrom_append, repliesTo_append, post_answers, ← log.replies mq]
      simp [takenFrom, repliesTo]

/-- Where nobody submits a stop message, every step keeps the log. -/
theorem Log.step {initial : World} {trace events : List (SystemEvent Unit Client)}
    (log : sequencer.Log initial trace) {label : SequencerLabel Client}
    (lawful : sequencer.Lawful label)
    (noStop : ∀ request ∈ submittedOf (trace ++ events), ∀ header, request.body ≠ .stop header)
    (stepped : machine.step sequencer label = some (after, events)) :
    after.Log initial (trace ++ events) := by
  cases label with
  | submit request =>
      obtain ⟨rfl, rfl⟩ := Prod.mk.inj (Option.some.inj stepped)
      exact log.submit request
  | take mq =>
      obtain ⟨⟨reply, rest⟩, took, equal⟩ := Option.map_eq_some_iff.mp stepped
      obtain ⟨rfl, rfl⟩ := Prod.mk.inj equal
      exact log.take took
  | rename name queue =>
      obtain ⟨rfl, rfl⟩ := Prod.mk.inj (Option.some.inj stepped)
      rw [List.append_nil]
      exact log.rename name queue
  | stop =>
      obtain ⟨stopped, halts, equal⟩ := Option.map_eq_some_iff.mp stepped
      obtain ⟨request, rest, header, pending, body, _⟩ := stop_cases halts
      have submitted : request ∈ submittedOf (trace ++ events) := by
        rw [submittedOf_append, ← log.waiting, pending]
        simp
      exact (noStop request submitted header body).elim
  | turn kernel => exact log.turn lawful stepped

theorem log_run {initial : Sequencer Client} {world : World} (server : initial.server = .ok world)
    (sound : world.Sound) (nothing : initial.pending = []) (empty : ∀ mq, initial.outbox mq = [])
    {trace : List (SystemEvent Unit Client)} (run : machine.Run Lawful initial trace sequencer)
    (noStop : ∀ request ∈ submittedOf trace, ∀ header, request.body ≠ .stop header) :
    sequencer.Log world trace := by
  induction run with
  | start =>
      refine ⟨by simp [nothing, servedOf, submittedOf], ?_, by simp [empty, takenFrom, repliesTo]⟩
      intro other running
      obtain rfl := Except.ok.inj (server.symm.trans running)
      exact ⟨sound, fun name => rfl⟩
  | next run lawful stepped ih =>
      refine (ih fun request member => noStop request ?_).step lawful noStop stepped
      rw [submittedOf_append]
      exact List.mem_append_left _ member

/-- The turn that has served a request, with the log of the moment. -/
structure Served (initial : World) (before : List (SystemEvent Unit Client))
    (request : Envelope Client Request) (volume : Option Name) (effects : List IOHandler.Effect)
    (replies : List (Nat × Envelope Client Reply)) (world : World) (kernel : Kernel) : Prop where
  order : servedOf before ++ [request] <+: submittedOf before
  valid : kernel.Valid world request.body
  sound : world.Sound
  bytes : ∀ name, world.bytes name = replay initial before name
  volume_eq : volume = world.served request.body
  effects_eq : effects = IOHandler.effects world kernel request.body
  turn : ∃ after answers, IOHandler.Turn world kernel request.body after answers ∧
    replies = answers.map request.answer

theorem served_run {initial : Sequencer Client} {world : World} (server : initial.server = .ok world)
    (sound : world.Sound) (nothing : initial.pending = []) (empty : ∀ mq, initial.outbox mq = [])
    {trace : List (SystemEvent Unit Client)} (run : machine.Run Lawful initial trace sequencer)
    (noStop : ∀ request ∈ submittedOf trace, ∀ header, request.body ≠ .stop header)
    {before later : List (SystemEvent Unit Client)} {index : Unit}
    {request : Envelope Client Request} {volume : Option Name} {effects : List IOHandler.Effect}
    {replies : List (Nat × Envelope Client Reply)}
    (split : trace = before ++ .served index request volume effects replies :: later) :
    ∃ reached kernel, Served world before request volume effects replies reached kernel := by
  obtain ⟨earlier, reached, label, next, events, first, rest, runs, lawful, stepped, emitted, rfl⟩ :=
    run.at_event split
  have log : reached.Log world earlier := by
    refine log_run server sound nothing empty runs fun request member => noStop request ?_
    rw [split, submittedOf_append, submittedOf_append]
    exact List.mem_append_left _ (List.mem_append_left _ member)
  cases label with
  | submit other =>
      obtain ⟨_, rfl⟩ := Prod.mk.inj (Option.some.inj stepped)
      cases first with
      | nil => simp at emitted
      | cons head tail => simp at emitted
  | take mq =>
      obtain ⟨_, _, equal⟩ := Option.map_eq_some_iff.mp stepped
      obtain ⟨_, rfl⟩ := Prod.mk.inj equal
      cases first with
      | nil => simp at emitted
      | cons head tail => simp at emitted
  | rename name queue =>
      obtain ⟨_, rfl⟩ := Prod.mk.inj (Option.some.inj stepped)
      simp at emitted
  | stop =>
      obtain ⟨_, _, equal⟩ := Option.map_eq_some_iff.mp stepped
      obtain ⟨_, rfl⟩ := Prod.mk.inj equal
      simp at emitted
  | turn kernel =>
      obtain ⟨current, oldest, queued, running, pending, outcome⟩ := turn_cases stepped
      rcases outcome with ⟨fault, _, rfl⟩ | ⟨after, answers, result, _, rfl⟩
      · simp at emitted
      · cases first with
        | cons head tail => simp at emitted
        | nil =>
            simp only [List.nil_append, List.cons.injEq, SystemEvent.served.injEq] at emitted
            obtain ⟨⟨_, rfl, rfl, rfl, rfl⟩, _⟩ := emitted
            have valid := lawful current oldest running (by simp [pending])
            obtain ⟨sound, bytes⟩ := log.content current running
            refine ⟨current, kernel, ⟨?_, valid, sound, by simpa using bytes, rfl, rfl, after, answers,
              IOHandler.turn_spec valid result, rfl⟩⟩
            rw [List.append_nil, ← log.waiting, pending]
            exact ⟨queued, by simp⟩

theorem Served.read {initial world : World} {before : List (SystemEvent Unit Client)}
    {request : Envelope Client Request} {name : Name} {effects : List IOHandler.Effect} {mq : Nat}
    {reply : Envelope Client Reply} {kernel : Kernel} {req : ReadRequest}
    (served : Served initial before request (some name) effects [(mq, reply)] world kernel)
    (body : request.body = .read req) (small : req.sizeInBytes.toNat ≤ maxDataSize) :
    ∃ answer, reply = ⟨request.sender, request.call, .read answer⟩ ∧ answer.header = req.header ∧
      answer.sizeInBytes = req.sizeInBytes ∧ ∀ position, position < req.sizeInBytes.toNat →
        answer.data position = (replay initial before name).byte (req.offset.toInt.toNat + position) := by
  obtain ⟨after, answers, turn, replies⟩ := served.turn
  have valid := served.valid
  have volume := served.volume_eq
  rw [body] at turn valid volume
  cases turn with
  | skipped skipped => exact skipped.elim
  | @read _ volState live full =>
      obtain ⟨rfl, rfl⟩ : mq = volState.replyMq ∧ reply = ⟨request.sender, request.call,
          .read ⟨req.header, req.sizeInBytes,
            kernel.readData (world.content volState.fd) req.offset.toInt.toNat⟩⟩ := by
        simpa [Envelope.answer] using replies
      refine ⟨_, rfl, rfl, rfl, fun position below => ?_⟩
      have transferred := transferResult_full small (fun count answered =>
        Nat.le_trans (valid.pread req _ count rfl live answered).2 (Nat.min_le_left _ _)) full
      obtain rfl : name = volState.volumeName := by simpa [World.served, live, Request.header] using volume
      have content : world.content volState.fd = world.bytes volState.volumeName := by
        obtain ⟨file, found⟩ := served.sound.existsFile _ _ (served.sound.fdOpen _ _ live)
        rw [World.content_eq (served.sound.fdOpen _ _ live) found]
        simp [World.bytes, found]
      simp only [Kernel.readData, transferred, content, served.bytes]
      exact Region.copy_prefix below

theorem Served.write {initial world : World} {before : List (SystemEvent Unit Client)}
    {request : Envelope Client Request} {name : Name} {effects : List IOHandler.Effect}
    {replies : List (Nat × Envelope Client Reply)} {kernel : Kernel} {req : WriteRequest}
    (served : Served initial before request (some name) effects replies world kernel)
    (body : request.body = .write req) (small : req.sizeInBytes.toNat ≤ maxDataSize) :
    effects = [.stored name req.offset.toInt.toNat req.sizeInBytes.toNat req.data] ∧
      replies = [] := by
  obtain ⟨after, answers, turn, replied⟩ := served.turn
  have valid := served.valid
  have volume := served.volume_eq
  have effect := served.effects_eq
  rw [body] at turn valid volume effect
  cases turn with
  | skipped skipped =>
      have null : world.volumes req.header.volume = none := by
        rw [show req.header.volume = 0 from skipped]
        exact served.sound.null
      simp [World.served, Request.header, null] at volume
  | @write _ volState live full =>
      have transferred := transferResult_full small
        (fun count answered => (valid.pwrite req count rfl answered).2) full
      obtain rfl : name = volState.volumeName := by
        simpa [World.served, live, Request.header] using volume
      refine ⟨?_, by simpa using replied⟩
      rw [effect]
      simp [IOHandler.effects, live, transferred]

/-- Only a READ is answered with a READ reply. -/
theorem Served.of_readReply {initial world : World} {before : List (SystemEvent Unit Client)}
    {request : Envelope Client Request} {volume : Option Name} {effects : List IOHandler.Effect}
    {replies : List (Nat × Envelope Client Reply)} {kernel : Kernel} {mq : Nat} {sender : Client}
    {call : Nat} {answer : ReadReply}
    (served : Served initial before request volume effects replies world kernel)
    (member : (mq, ⟨sender, call, .read answer⟩) ∈ replies) :
    ∃ req name, request = ⟨sender, call, .read req⟩ ∧ volume = some name ∧
      replies = [(mq, ⟨sender, call, .read answer⟩)] ∧ answer.sizeInBytes = req.sizeInBytes := by
  obtain ⟨after, answers, turn, rfl⟩ := served.turn
  have volume_eq := served.volume_eq
  obtain ⟨own, number, body⟩ := request
  simp only at turn volume_eq
  cases turn with
  | @read req volState live full =>
      simp only [Envelope.answer, List.map_cons, List.map_nil, List.mem_singleton, Prod.mk.injEq,
        Envelope.mk.injEq, Reply.read.injEq] at member
      obtain ⟨rfl, rfl, rfl, rfl⟩ := member
      exact ⟨req, volState.volumeName, rfl, by simpa [World.served, live, Request.header] using volume_eq,
        rfl, rfl⟩
  | skipped => simp at member
  | write => simp at member
  | getsize => simp [Envelope.answer] at member
  | synced => simp [Envelope.answer] at member
  | notSynced => simp [Envelope.answer] at member
  | closed => simp at member
  | opened => simp [Envelope.answer] at member
  | notResized => simp [Envelope.answer] at member

/-- A reply that is taken has been given before. -/
theorem taken_run {initial : Sequencer Client} {world : World} (server : initial.server = .ok world)
    (sound : world.Sound) (nothing : initial.pending = []) (empty : ∀ mq, initial.outbox mq = [])
    {trace : List (SystemEvent Unit Client)} (run : machine.Run Lawful initial trace sequencer)
    (noStop : ∀ request ∈ submittedOf trace, ∀ header, request.body ≠ .stop header)
    {before later : List (SystemEvent Unit Client)} {mq : Nat} {reply : Envelope Client Reply}
    (split : trace = before ++ .taken mq reply :: later) : reply ∈ repliesTo mq before := by
  obtain ⟨earlier, reached, label, next, events, first, rest, runs, lawful, stepped, emitted, rfl⟩ :=
    run.at_event split
  have log : reached.Log world earlier := by
    refine log_run server sound nothing empty runs fun request member => noStop request ?_
    rw [split, submittedOf_append, submittedOf_append]
    exact List.mem_append_left _ (List.mem_append_left _ member)
  cases label with
  | submit other =>
      obtain ⟨_, rfl⟩ := Prod.mk.inj (Option.some.inj stepped)
      cases first with
      | nil => simp at emitted
      | cons head tail => simp at emitted
  | take queue =>
      obtain ⟨⟨oldest, taken⟩, takes, equal⟩ := Option.map_eq_some_iff.mp stepped
      obtain ⟨_, rfl⟩ := Prod.mk.inj equal
      cases first with
      | cons head tail => simp at emitted
      | nil =>
          simp only [List.nil_append, List.cons.injEq, SystemEvent.taken.injEq] at emitted
          obtain ⟨⟨rfl, rfl⟩, _⟩ := emitted
          have replies := log.replies queue
          unfold Sequencer.take at takes
          split at takes
          · simp at takes
          · rename_i head tail outbox
            obtain ⟨rfl, _⟩ := Prod.mk.inj (Option.some.inj takes)
            rw [List.append_nil, ← replies, outbox]
            simp
  | rename name queue =>
      obtain ⟨_, rfl⟩ := Prod.mk.inj (Option.some.inj stepped)
      simp at emitted
  | stop =>
      obtain ⟨_, _, equal⟩ := Option.map_eq_some_iff.mp stepped
      obtain ⟨_, rfl⟩ := Prod.mk.inj equal
      simp at emitted
  | turn kernel =>
      obtain ⟨current, oldest, queued, running, pending, outcome⟩ := turn_cases stepped
      rcases outcome with ⟨fault, _, rfl⟩ | ⟨after, answers, result, _, rfl⟩
      · simp at emitted
      · cases first with
        | nil => simp at emitted
        | cons head tail => simp at emitted

end Sequencer

namespace Exchange

variable {Client : Type} {initial exchange : Exchange Unit Client}
variable {trace : List (SystemEvent Unit Client)}

theorem Steady.simulated (steady : initial.Steady)
    (run : system.Run Lawful initial trace exchange) :
    Sequencer.machine.Run Sequencer.Lawful initial.sequencer trace exchange.sequencer := by
  have stays := (run.strengthen Steady steady
    fun _ _ _ _ steady _ stepped => steady.step stepped).1
  have simulated : Sequencer.machine.Run Sequencer.Lawful initial.sequencer
      (trace.flatMap fun event => [event]) exchange.sequencer := by
    refine Machine.Run.simulate sequencer _ ?_ stays
    intro exchange label after events permitted stepped
    have matched := follows permitted.2 permitted.1 stepped
    simpa [Follows] using matched
  simpa using simulated

/-- With one request queue, the system of clients and server thread behaves like the sequencer. -/
theorem sequential_run (idle : initial.thread () = .idle)
    (run : system.Run Lawful initial trace exchange) :
    Sequencer.machine.Run Sequencer.Lawful initial.sequencer trace exchange.sequencer :=
  (Steady.of_idle idle).simulated run

theorem Fresh.start (fresh : initial.Fresh) :
    initial.sequencer.server = .ok initial.world ∧ initial.sequencer.pending = [] ∧
      ∀ mq, initial.sequencer.outbox mq = [] := by
  refine ⟨?_, ?_, ?_⟩
  · simp [sequencer, fresh.running, fresh.idle, Thread.doomed, World.settle_none]
  · simp [sequencer, fresh.idle, fresh.noRequests, Thread.current]
  · simp [sequencer, fresh.idle, fresh.noReplies, Thread.leaving]

theorem queue_bounded (start : (initial.requestMq ()).length ≤ maxQueueSize)
    (run : system.Run Lawful initial trace exchange) :
    (exchange.requestMq ()).length ≤ maxQueueSize := by
  refine run.invariant (fun _ exchange => (exchange.requestMq ()).length ≤ maxQueueSize) start ?_
  intro _ exchange label after events bounded _ stepped
  cases label with
  | submit index request =>
      obtain ⟨pushed, push, equal⟩ := Option.map_eq_some_iff.mp stepped
      obtain rfl := congrArg Prod.fst equal
      obtain ⟨room, rfl⟩ := pushRequest_spec push
      simpa using Nat.succ_le_of_lt room
  | take mq =>
      obtain ⟨⟨_, popped⟩, pop, equal⟩ := Option.map_eq_some_iff.mp stepped
      obtain rfl := congrArg Prod.fst equal
      obtain ⟨_, _, rfl⟩ := popReply_spec pop
      exact bounded
  | rename name queue =>
      obtain ⟨rfl, _⟩ := Prod.mk.inj (Option.some.inj stepped)
      exact bounded
  | server label =>
      obtain ⟨moved, move, equal⟩ := Option.map_eq_some_iff.mp stepped
      obtain rfl := congrArg Prod.fst equal
      cases (serverStep_move move).2 with
      | received idle queue notStop =>
          rw [queue] at bounded
          simpa [setThread] using Nat.le_of_succ_le bounded
      | stopped idle queue stop =>
          rw [queue] at bounded
          simpa [setThread] using Nat.le_of_succ_le bounded
      | done => exact bounded
      | replied => exact bounded
      | aborted => exact bounded
      | sent => exact bounded
      | closed => exact bounded
      | closedNull => exact bounded
      | closedDead => exact bounded

open SystemEvent in
/-- Any number of clients that share one request queue, on any volumes, see linearizable storage: a
request takes effect as if at the moment of its submission. -/
theorem linear_run (fresh : initial.Fresh) (run : system.Run Lawful initial trace exchange)
    (noStop : ∀ request ∈ submittedOf trace, ∀ header, request.body ≠ .stop header) :
    Linear initial.world trace := by
  obtain ⟨server, nothing, empty⟩ := fresh.start
  have sequential := (Steady.of_idle fresh.idle).simulated run
  have log := Sequencer.log_run server fresh.sound nothing empty sequential noStop
  refine ⟨⟨_, log.waiting⟩, ?_, fun mq => ⟨_, log.replies mq⟩, ?_, ?_⟩
  · have bounded := queue_bounded (by simp [fresh.noRequests]) run
    have current : (exchange.thread ()).current.length ≤ 1 := by
      cases exchange.thread () <;> simp [Thread.current]
    rw [← log.waiting]
    simp only [sequencer, List.length_append]
    omega
  · intro before index request name effects mq reply after req split body small
    obtain ⟨_, _, served⟩ := Sequencer.served_run server fresh.sound nothing empty sequential noStop
      split
    exact ⟨served.order, served.read body small⟩
  · intro before index request name effects replies after req split body small
    obtain ⟨_, _, served⟩ := Sequencer.served_run server fresh.sound nothing empty sequential noStop
      split
    exact ⟨served.order, served.write body small⟩

end Exchange

end Cvbd
