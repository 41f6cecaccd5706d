import Cvbd.RoutingTotal

/-! Runs of two clients on a server with one queue. -/

namespace Cvbd

namespace Session

variable {Client : Type} [DecidableEq Client]

/-- A name leads to a queue that a client of the session has made. -/
structure NamesMade (session : Session Client) : Prop where
  made : ∀ name mq, session.exchange.world.mqNames name = some mq →
    ∃ client, session.mq client = some mq
  unmade : ∀ client, session.stage client = .outside ∨ session.stage client = .removed →
    session.mq client = none

variable {setting : Setting Client} {session after : Session Client} {client : Client}

omit [DecidableEq Client] in
theorem NamesMade.mono (named : session.NamesMade) (mq : after.mq = session.mq)
    (mqNames : ∀ name queue, after.exchange.world.mqNames name = some queue →
      session.exchange.world.mqNames name = some queue)
    (unmade : ∀ client, after.stage client = .outside ∨ after.stage client = .removed →
      session.stage client = .outside ∨ session.stage client = .removed) : after.NamesMade where
  made := by
    rw [mq]
    exact fun name queue found => named.made name queue (mqNames name queue found)
  unmade := by
    rw [mq]
    exact fun client early => named.unmade client (unmade client early)

theorem NamesMade.setStage (named : session.NamesMade) {stage : Stage}
    (early : stage = .outside ∨ stage = .removed →
      session.stage client = .outside ∨ session.stage client = .removed) :
    (session.setStage client stage).NamesMade := by
  refine named.mono rfl (fun _ _ found => found) fun other unmade => ?_
  by_cases same : other = client
  · subst same
    exact early (by simpa [Session.setStage] using unmade)
  · simpa [Session.setStage, same] using unmade

omit [DecidableEq Client] in
theorem NamesMade.forget (named : session.NamesMade) (name : Name) :
    (session.setQueue name none).NamesMade := by
  refine named.mono rfl (fun other queue found => ?_) fun _ early => early
  by_cases same : other = name
  · simp [setQueue, World.setQueue, same] at found
  · simpa [setQueue, World.setQueue, same] using found

theorem NamesMade.makeQueue (named : session.NamesMade) {mq : Nat}
    (removed : session.stage client = .removed) : (session.makeQueue client mq).NamesMade where
  made := by
    intro name queue found
    by_cases same : name = (session.shared client).volumeName
    · refine ⟨client, ?_⟩
      have equal : mq = queue := by
        simpa [Session.makeQueue, setQueue, World.setQueue, same] using found
      simp [Session.makeQueue, equal]
    · obtain ⟨other, own⟩ := named.made name queue
        (by simpa [Session.makeQueue, setQueue, World.setQueue, same] using found)
      have different : other ≠ client := by
        rintro rfl
        simp [named.unmade other (Or.inr removed)] at own
      exact ⟨other, by simpa [Session.makeQueue, different] using own⟩
  unmade := by
    intro other early
    by_cases same : other = client
    · subst same
      simp [Session.makeQueue] at early
    · simpa [Session.makeQueue, same] using
        named.unmade other (by simpa [Session.makeQueue, same] using early)

theorem NamesMade.post (named : session.NamesMade) {sent : Request × SharedMemClient}
    {stage : Stage} (late : stage ≠ .outside ∧ stage ≠ .removed)
    (posted : session.post setting client sent stage = some after) : after.NamesMade := by
  obtain ⟨exchange, pushed, rfl⟩ := Option.map_eq_some_iff.mp posted
  obtain ⟨_, rfl⟩ := Exchange.pushRequest_spec pushed
  refine named.mono rfl (fun _ _ found => found) fun other unmade => ?_
  by_cases same : other = client
  · subst same
    simp [late] at unmade
  · simpa [same] using unmade

theorem NamesMade.receive (named : session.NamesMade)
    (stepped : session.receive setting client = some after) : after.NamesMade := by
  unfold Session.receive at stepped
  split at stepped
  · simp at stepped
  · split at stepped
    · simp at stepped
    · rename_i popped
      obtain ⟨outcome, took, rfl⟩ := Option.map_eq_some_iff.mp stepped
      obtain ⟨_, _, rfl⟩ := Exchange.popReply_spec popped
      refine named.mono rfl (fun _ _ found => found) fun other unmade => ?_
      by_cases same : other = client
      · subst same
        simp only [Function.update_self] at unmade
        rcases (received_stage took).2 with kept | ⟨outside, removed, _⟩
        · rwa [kept] at unmade
        · exact (unmade.elim outside removed).elim
      · simpa [same] using unmade

theorem NamesMade.step (named : session.NamesMade) {label : SessionLabel Client}
    (stepped : session.step setting label = some after) : after.NamesMade := by
  cases label with
  | remove client =>
      obtain ⟨outside, rfl | rfl⟩ := remove_cases stepped
      · exact named.setStage fun _ => Or.inl outside
      · exact (named.forget _).setStage fun _ => Or.inl outside
  | create client queue =>
      obtain ⟨removed, ⟨mq, _, _, rfl⟩ | rfl⟩ := create_cases stepped
      · exact named.makeQueue removed
      · exact named.setStage fun _ => Or.inr removed
  | sendOpen client => exact named.post (by simp) (sendOpen_cases stepped).2
  | call client call =>
      obtain ⟨_, _, rfl | ⟨sent, _, posted⟩⟩ := call_cases stepped
      · exact named.setStage (by simp)
      · refine named.post ?_ posted
        unfold afterCall
        split <;> simp
  | sendClose client => exact named.post (by simp) (sendClose_cases stepped).2
  | receive client => exact named.receive stepped
  | destroy client =>
      obtain ⟨_, rfl⟩ := destroy_cases stepped
      exact (named.forget _).setStage (by simp)
  | server label =>
      obtain ⟨exchange, _, move, rfl⟩ := serve_move stepped
      refine named.mono rfl (fun name queue found => ?_) fun _ early => early
      rwa [← move.mqNames]

/-! What a schedule of two clients has to pass; its requests neither read nor write. -/

def freeFd (world : World) : Except Errno Nat → Bool
  | .ok fd => (world.fds fd).isNone
  | .error _ => true

def allows (world : World) (kernel : Kernel) (request : Request) : Bool :=
  freeFd world kernel.open1 && freeFd world kernel.open2 &&
    match request with
    | .openVolume _ => kernel.newVolume != 0 && (world.volumes kernel.newVolume).isNone
    | .read _ | .write _ => false
    | _ => true

theorem allows_sound {world : World} {kernel : Kernel} {request : Request}
    (passes : allows world kernel request = true) : kernel.Valid world request := by
  have free {answer : Except Errno Nat} (passes : freeFd world answer = true) (fd : Nat)
      (opened : answer = .ok fd) : world.fds fd = none := by
    simpa [opened, freeFd] using passes
  simp only [allows, Bool.and_eq_true] at passes
  obtain ⟨⟨first, second⟩, made⟩ := passes
  refine ⟨free first, free second, ?_, ?_, ?_⟩
  · rintro req rfl
    simpa using made
  · rintro req volState count rfl
    simp at made
  · rintro req count rfl
    simp at made

/-- The kernel's answers are allowed, and a new queue is nobody's. -/
def valid (session : Session Bool) : SessionLabel Bool → Bool
  | .server (.handle index kernel) =>
      match session.exchange.thread index with
      | .hand request => allows session.exchange.world kernel request.body
      | _ => true
  | .create _ (some mq) => session.mq false != some mq && session.mq true != some mq
  | _ => true

theorem valid_sound {session : Session Bool} {label : SessionLabel Bool} (named : session.NamesMade)
    (passes : valid session label = true) : session.Valid label := by
  cases label with
  | server label =>
      cases label with
      | handle index kernel =>
          intro request hand
          simp only [valid, hand] at passes
          exact allows_sound passes
      | receive index => trivial
      | send index => trivial
      | close index => trivial
  | create client queue =>
      cases queue with
      | none => trivial
      | some mq =>
          have fresh : ∀ other, session.mq other ≠ some mq := by
            simp only [valid, Bool.and_eq_true, bne_iff_ne] at passes
            intro other
            cases other with
            | false => exact passes.1
            | true => exact passes.2
          refine ⟨fun name found => ?_, fresh⟩
          obtain ⟨other, own⟩ := named.made name mq found
          exact fresh other own
  | remove client => trivial
  | sendOpen client => trivial
  | call client call => trivial
  | sendClose client => trivial
  | receive client => trivial
  | destroy client => trivial

/-- The client takes no other client's open reply. -/
def delivers (session : Session Bool) : SessionLabel Bool → Bool
  | .receive client =>
      match session.mq client with
      | none => true
      | some mq =>
          match session.exchange.replyMq mq with
          | [] => true
          | envelope :: _ => envelope.sender == client
  | _ => true

theorem delivers_sound {session : Session Bool} {label : SessionLabel Bool}
    (passes : delivers session label = true) : session.Delivered label := by
  cases label with
  | receive client =>
      intro mq envelope rest reply own queue _
      simpa [delivers, own, queue] using passes
  | remove client => trivial
  | create client queue => trivial
  | sendOpen client => trivial
  | call client call => trivial
  | sendClose client => trivial
  | destroy client => trivial
  | server label => trivial

/-- Two clients, with the same bytes in their request buffers. -/
def sampleSetting (names : Bool → Name) (buffer : Bytes) : Setting Bool where
  queues := 1
  kind := fun _ => .sync
  allocated := fun client => ⟨names client, 0, 0, buffer⟩

def sampleStart (setting : Setting Bool) : Session Bool :=
  start setting (fun _ => none) (fun _ => none)

theorem sampleStart_named (setting : Setting Bool) : (sampleStart setting).NamesMade where
  made := by simp [sampleStart, start, World.started]
  unmade := fun _ _ => rfl

theorem sample_exec (setting : Setting Bool)
    (allowed : Session Bool → SessionLabel Bool → Prop)
    (check : Session Bool → SessionLabel Bool → Bool)
    (sound : ∀ session label, session.NamesMade → check session label = true →
      allowed session label)
    (labels : List (SessionLabel Bool)) (test : Session Bool → Bool)
    (executed : ((machine setting).exec check (sampleStart setting) labels).any
      (fun outcome => test outcome.1) = true) :
    ∃ trace session, (machine setting).Run allowed (sampleStart setting) trace session ∧
      test session = true :=
  Machine.Run.of_exec_invariant (machine setting) (sampleStart setting) NamesMade
    (sampleStart_named setting) check sound
    (fun _ _ _ _ named _ stepped => named.step (machine_step stepped)) labels
    (fun _ session => test session) executed

/-- Both clients have the same volume name, and the request buffers are cleared. -/
def sameName : Setting Bool := sampleSetting (fun _ => [118]) fun _ => 0

/-- The first client opens and closes its volume; the second one gets the same address and the
same descriptor, and asks for the size. -/
def sampleReuse : List (SessionLabel Bool) :=
  let kernel := IOHandler.sampleKernel (.error enoent) (.ok 3)
  let closing := IOHandler.sampleKernel (.error enoent) (.error enoent)
  [.remove false, .create false (some 0), .sendOpen false, .server (.receive 0),
    .server (.handle 0 kernel), .server (.send 0), .receive false, .sendClose false,
    .remove true, .create true (some 1), .sendOpen true, .server (.receive 0),
    .server (.handle 0 closing), .server (.receive 0), .server (.handle 0 kernel),
    .server (.send 0), .receive true, .call true .getsize, .server (.receive 0)]

/-- The second client's request is in hand, and the first one's `VolumeState` is deleted. -/
def reused (session : Session Bool) : Bool :=
  match session.exchange.thread 0 with
  | .hand request => request.sender && request.body.header.volume == 4096 &&
      session.deleted false == 1
  | _ => false

end Session

end Cvbd
