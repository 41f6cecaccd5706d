import Cvbd.DiskChecks

/-!
Every machine sees a disk of its own: whatever the other machines and the server
threads do, the calls of one machine have the results that a plain disk gives,
in the order in which they are made.
-/

namespace Cvbd

variable {Index Client : Type}

/-! One machine beside its own exchange. -/

namespace SyncCall

variable {call : SyncCall} {endpoint : Endpoint Unit} {target : File} {initial : Bytes}
variable {fileSize : Nat} {sync : SyncState}

/-- After a call nothing but WRITEs is on its way, and they complete what it has written. -/
theorem Inv.ready {ret : Int32} (inv : call.Inv endpoint target initial fileSize sync)
    (returned : sync.pc = .returned ret) :
    sync.Ready endpoint ∧ sync.backlogged endpoint = call.fileAfter target initial call.length ∧
      sync.memory = call.memoryAfter target initial call.length ∧ ret = 0 := by
  have holds := inv.pc
  rw [returned] at holds
  obtain ⟨zero, writes, quiet, memory, effect⟩ := holds
  refine ⟨⟨inv.wired, inv.running, inv.volume, inv.mq, ?_, quiet⟩, effect, memory, zero⟩
  rw [inv.size]
  exact writes

end SyncCall

namespace SyncState

variable {endpoint : Endpoint Unit} {sync : SyncState}

/-- A machine between two calls is one that has just read nothing. -/
theorem Ready.idle (ready : sync.Ready endpoint) :
    (cvbdRead 0 0 0).Inv endpoint (sync.backlogged endpoint) sync.memory
      (sync.service endpoint).file.content.size { sync with pc := .returned 0 } where
  wired := ready.wired
  running := ready.running
  volume := ready.volume
  mq := ready.mq
  size := rfl
  pending := by simp
  pc := by
    have none : (cvbdRead 0 0 0).length = 0 := by decide
    refine ⟨rfl, ready.backlog, ready.quiet, ?_, ?_⟩
    · rw [none, SyncCall.memoryAfter_zero]
    · rw [none, SyncCall.fileAfter_zero]
      rfl

/-- The server works on the backlog. -/
theorem Ready.serverStep {label : ServerLabel Unit} {exchange : Exchange Unit Unit}
    (ready : sync.Ready endpoint) (permitted : sync.Permitted (.server label))
    (stepped : sync.exchange.serverStep label = some exchange) :
    ({ sync with exchange } : SyncState).Ready endpoint ∧
      ({ sync with exchange } : SyncState).backlogged endpoint = sync.backlogged endpoint := by
  have none : (cvbdRead 0 0 0).length = 0 := by decide
  have first : (cvbdRead 0 0 0).offset = 0 := by decide
  have fits : (cvbdRead 0 0 0).offset + (cvbdRead 0 0 0).length ≤
      (sync.backlogged endpoint).size := by
    rw [none, first]
    exact Nat.zero_le _
  obtain ⟨after, backlogged, _⟩ := (ready.idle.serverStep fits permitted stepped).ready rfl
  rw [none, SyncCall.fileAfter_zero] at backlogged
  exact ⟨{ after with }, backlogged⟩

/-- The disk that a machine sees: the call that is being carried out is some way through, and
between two calls the file lacks the WRITEs on their way. -/
def Follows (sync : SyncState) (endpoint : Endpoint Unit) (call : SyncCall) (plain : PlainDisk) :
    Prop :=
  match plain.busy with
  | none => (∃ ret, sync.pc = .returned ret) ∧ sync.Ready endpoint ∧
      sync.backlogged endpoint = plain.content
  | some (asked, memory) => asked = call ∧ (∀ ret, sync.pc ≠ .returned ret) ∧
      isRequestAligned call.sectorNum call.nbSectors = true ∧
      SectorsInside call.sectorNum call.nbSectors plain.content.size ∧
      call.Inv endpoint plain.content memory plain.content.size sync

variable {call : SyncCall} {plain : PlainDisk}

theorem Follows.running (follows : sync.Follows endpoint call plain) :
    sync.exchange.fault = none := by
  unfold Follows at follows
  split at follows
  · exact follows.2.1.running
  · exact follows.2.2.2.2.running

/-- Outside of the driver only the WRITEs on their way are missing in the file. -/
theorem Follows.outside {ret : Int32} (follows : sync.Follows endpoint call plain)
    (returned : sync.pc = .returned ret) :
    plain.busy = none ∧ sync.Ready endpoint ∧ sync.backlogged endpoint = plain.content := by
  unfold Follows at follows
  split at follows
  · rename_i idle
    exact ⟨idle, follows.2⟩
  · exact (follows.2.1 ret returned).elim

theorem Follows.inside (follows : sync.Follows endpoint call plain)
    (unfinished : ∀ ret, sync.pc ≠ .returned ret) : ∃ memory, plain.busy = some (call, memory) ∧
      isRequestAligned call.sectorNum call.nbSectors = true ∧
      SectorsInside call.sectorNum call.nbSectors plain.content.size ∧
      call.Inv endpoint plain.content memory plain.content.size sync := by
  unfold Follows at follows
  split at follows
  · obtain ⟨ret, returned⟩ := follows.1
    exact (unfinished ret returned).elim
  · rename_i asked memory busy
    obtain ⟨rfl, _, rest⟩ := follows
    exact ⟨memory, busy, rest⟩

theorem Follows.serverStep {label : ServerLabel Unit} {exchange : Exchange Unit Unit}
    (follows : sync.Follows endpoint call plain) (permitted : sync.Permitted (.server label))
    (stepped : sync.exchange.serverStep label = some exchange) :
    ({ sync with exchange } : SyncState).Follows endpoint call plain := by
  unfold Follows at follows ⊢
  split at follows
  · obtain ⟨outside, ready, content⟩ := follows
    obtain ⟨after, same⟩ := ready.serverStep permitted stepped
    exact ⟨outside, after, same.trans content⟩
  · obtain ⟨rfl, unfinished, aligned, inside, inv⟩ := follows
    exact ⟨rfl, unfinished, aligned, inside, inv.serverStep inside.total permitted stepped⟩

end SyncState

namespace PlainDisk

/-- A run of the disk that nobody disturbs. -/
def Plays (disk : PlainDisk) (events : List DiskEvent) (after : PlainDisk) : Prop :=
  machine.Run (fun _ _ => True) disk events after

theorem plays_nothing (disk : PlainDisk) : disk.Plays [] disk := Machine.Run.start

theorem plays_enter (content : File) (call : SyncCall) (memory : Bytes) :
    Plays ⟨content, none⟩ [.entered call memory] ⟨content, some (call, memory)⟩ := by
  have stepped : machine.step ⟨content, none⟩ (.enter call memory) =
      some (⟨content, some (call, memory)⟩, [.entered call memory]) := rfl
  exact Machine.Run.next Machine.Run.start trivial stepped

theorem plays_finish (content : File) (call : SyncCall) (memory : Bytes) :
    Plays ⟨content, some (call, memory)⟩
      [.returned (carryOut content call memory).2.1 (carryOut content call memory).2.2]
      ⟨(carryOut content call memory).1, none⟩ := by
  have stepped : machine.step ⟨content, some (call, memory)⟩ .finish =
      some (⟨(carryOut content call memory).1, none⟩,
        [.returned (carryOut content call memory).2.1 (carryOut content call memory).2.2]) := rfl
  exact Machine.Run.next Machine.Run.start trivial stepped

end PlainDisk

namespace Disk

variable {disk : Disk} {exchange : Exchange Unit Unit} {mq : Nat}

/-- The loop body is that of the single machine, whatever is queued. -/
theorem iterate_over (disk : Disk) (exchange : Exchange Unit Unit) (mq : Nat)
    (copy : NonAlignedCopy) :
    disk.call.iterate (disk.toSync exchange mq) copy = (disk.iterate copy).toSync exchange mq := by
  unfold Disk.iterate SyncCall.iterate toSync
  dsimp only
  split
  · split
    · split
      · cases disk.client.sendWrite _ _ _ <;> rfl
      · cases disk.client.sendRead _ _ <;> rfl
    · rfl
  · rfl

variable {endpoint : Endpoint Unit} {plain : PlainDisk}

/-- The driver is entered, and refuses the call at once if it is not aligned. -/
theorem follows_enter {ret : Int32} {call : SyncCall} {memory : Bytes}
    (follows : (disk.toSync exchange mq).Follows endpoint disk.call plain)
    (returned : disk.pc = .returned ret)
    (permitted : isRequestAligned call.sectorNum call.nbSectors = true →
      SectorsInside call.sectorNum call.nbSectors (exchange.service endpoint ()).file.content.size) :
    let entered := { disk with memory, call, pc := call.start }
    ∃ next, plain.Plays (.entered call memory :: entered.finished) next ∧
      (entered.toSync exchange mq).Follows endpoint call next := by
  intro entered
  obtain ⟨content, busy⟩ := plain
  obtain ⟨idle, ready, backlogged⟩ := follows.outside returned
  obtain rfl : busy = none := idle
  have backlogged : (disk.toSync exchange mq).backlogged endpoint = content := backlogged
  have ready : ({ disk with memory } : Disk).toSync exchange mq |>.Ready endpoint := { ready with }
  by_cases aligned : isRequestAligned call.sectorNum call.nbSectors = true
  · have inside := permitted aligned
    have size : content.size = (exchange.service endpoint ()).file.content.size := by
      rw [← backlogged]
      exact File.applyAll_size ready.backlog
    have inv := ready.inv call aligned inside
    have start : call.start = .looping (nonAlignedCopyInit (byteOffset call.sectorNum)
        (byteSize call.nbSectors).toInt64 msgqMaxSize) := by
      simp [SyncCall.start, aligned]
    refine ⟨⟨content, some (call, memory)⟩, ?_, rfl, ?_, aligned, by rwa [size], ?_⟩
    · have quiet : entered.finished = [] := by simp [entered, finished, start]
      rw [quiet]
      exact PlainDisk.plays_enter content call memory
    · simp [entered, toSync, start]
    · rw [size, ← backlogged]
      exact inv
  · have start : call.start = .returned einval.negative := by
      simp [SyncCall.start, aligned]
    have refused : PlainDisk.carryOut content call memory = (content, einval.negative, memory) := by
      simp [PlainDisk.carryOut, aligned]
    refine ⟨⟨content, none⟩, ?_, ⟨einval.negative, by simp [entered, toSync, start]⟩, { ready with },
      backlogged⟩
    have ends : entered.finished = [.returned einval.negative memory] := by
      simp [entered, finished, start]
    have finish := PlainDisk.plays_finish content call memory
    rw [refused] at finish
    rw [ends]
    exact (PlainDisk.plays_enter content call memory).trans finish

theorem follows_clientStep {sync : SyncState}
    (follows : sync.Follows endpoint disk.call plain)
    (stepped : disk.call.clientStep sync = some (disk.toSync exchange mq)) :
    ∃ next, plain.Plays disk.finished next ∧
      (disk.toSync exchange mq).Follows endpoint disk.call next := by
  have unfinished : ∀ ret, sync.pc ≠ .returned ret := by
    intro ret returned
    simp [SyncCall.clientStep, returned] at stepped
  obtain ⟨memory, busy, aligned, inside, inv⟩ := follows.inside unfinished
  obtain ⟨content, _⟩ := plain
  obtain rfl := busy
  have kept := inv.clientStep inside stepped
  by_cases returned : ∃ ret, disk.pc = .returned ret
  · obtain ⟨ret, returned⟩ := returned
    obtain ⟨ready, backlogged, memory_eq, zero⟩ := kept.ready returned
    have carried : PlainDisk.carryOut content disk.call memory =
        (disk.call.fileAfter content memory disk.call.length, 0, disk.memory) := by
      have memory_eq : disk.memory = _ := memory_eq
      rw [PlainDisk.carryOut, if_pos aligned, ← memory_eq]
    have finish := PlainDisk.plays_finish content disk.call memory
    rw [carried] at finish
    refine ⟨⟨disk.call.fileAfter content memory disk.call.length, none⟩, ?_, ⟨ret, returned⟩, ready,
      backlogged⟩
    simpa [finished, returned, zero] using finish
  · have going : ∀ ret, disk.pc ≠ .returned ret := fun ret equal => returned ⟨ret, equal⟩
    refine ⟨⟨content, some (disk.call, memory)⟩, ?_, rfl, going, aligned, inside, kept⟩
    have quiet : disk.finished = [] := by
      unfold finished
      split
      · rename_i ret equal
        exact (going ret equal).elim
      all_goals rfl
    rw [quiet]
    exact PlainDisk.plays_nothing _

end Disk

namespace DisksState

variable [DecidableEq Index] [DecidableEq Client]
variable {endpoints : Client → Endpoint Index} {state after : DisksState Index Client}
variable {events : List (Client × DiskEvent)} {client : Client}

/-- The driver of one machine beside its own exchange. -/
def alone (endpoints : Client → Endpoint Index) (state : DisksState Index Client)
    (client : Client) : SyncState :=
  (state.disks client).toSync (state.exchange.alone (endpoints client) client) (endpoints client).mq

def Follows (endpoints : Client → Endpoint Index) (state : DisksState Index Client)
    (client : Client) (plain : PlainDisk) : Prop :=
  (state.alone endpoints client).Follows (endpoints client).single (state.disks client).call plain

structure Inv (endpoints : Client → Endpoint Index) (state : DisksState Index Client) : Prop where
  wired : state.exchange.Wired endpoints
  running : state.exchange.fault = none
  follows : ∀ client, ∃ plain, state.Follows endpoints client plain

/-! What each machine sees of a step. -/

theorem visible_own (client : Client) (events : List DiskEvent) :
    (events.map (client, ·)).flatMap (visible client) = events := by
  induction events with
  | nil => rfl
  | cons event rest ih => simp [visible, ih]

theorem visible_other {other : Client} (different : other ≠ client) (events : List DiskEvent) :
    (events.map (client, ·)).flatMap (visible other) = [] := by
  induction events with
  | nil => rfl
  | cons event rest ih => simp [visible, ih, Ne.symm different]

omit [DecidableEq Index] in
/-- A machine moves on, with a step of the exchange that the others do not see. -/
theorem alone_moved (endpoints : Client → Endpoint Index) (state : DisksState Index Client)
    (exchange : Exchange Index Client) (disk : Disk)
    (unseen : ∀ other, other ≠ client →
      exchange.alone (endpoints other) other = state.exchange.alone (endpoints other) other) :
    let moved := { state with exchange }.setDisk client disk
    moved.alone endpoints client =
        disk.toSync (exchange.alone (endpoints client) client) (endpoints client).mq ∧
      ∀ other, other ≠ client → moved.alone endpoints other = state.alone endpoints other ∧
        moved.disks other = state.disks other := by
  refine ⟨by simp [alone, setDisk], fun other different => ?_⟩
  simp [alone, setDisk, different, unseen other different]

/-- A step of a machine inside of the driver is a step of the single machine, and its call ends
where that one's does. -/
theorem clientStep_alone (wired : state.exchange.Wired endpoints)
    (stepped : state.clientStep endpoints client = some (after, events)) :
    (state.disks client).call.clientStep (state.alone endpoints client) =
        some (after.alone endpoints client) ∧
      (after.disks client).call = (state.disks client).call ∧
      events = (after.disks client).finished.map (client, ·) ∧
      ∀ other, other ≠ client → after.alone endpoints other = state.alone endpoints other ∧
        after.disks other = state.disks other := by
  cases pc : (state.disks client).pc with
  | looping copy =>
      simp only [clientStep, pc, Option.some.injEq, Prod.mk.injEq] at stepped
      obtain ⟨rfl, rfl⟩ := stepped
      obtain ⟨own, others⟩ := alone_moved endpoints state state.exchange
        ((state.disks client).iterate copy) fun _ _ => rfl
      refine ⟨?_, by simp [setDisk, Disk.iterate], by simp [setDisk], others⟩
      rw [own, ← Disk.iterate_over]
      simp only [SyncCall.clientStep, alone, Disk.toSync, pc]
  | sending request copy reply =>
      simp only [clientStep, pc] at stepped
      split at stepped
      · rename_i exchange pushed
        simp only [Option.some.injEq, Prod.mk.injEq] at stepped
        obtain ⟨rfl, rfl⟩ := stepped
        obtain ⟨pushed_alone, unseen⟩ :=
          Exchange.pushRequest_alone endpoints ⟨client, 0, request⟩ pushed
        obtain ⟨own, others⟩ := alone_moved endpoints state exchange
          { state.disks client with pc := .looping copy } unseen
        refine ⟨?_, by simp [setDisk], by simp [setDisk, Disk.finished], others⟩
        rw [own]
        simp only [SyncCall.clientStep, alone, Disk.toSync, pc]
        rw [show (⟨(), 0, request⟩ : Envelope Unit Request) =
          (⟨client, 0, request⟩ : Envelope Client Request).unnamed from rfl, pushed_alone]
      · rename_i exchange message size pushed
        simp only [Option.some.injEq, Prod.mk.injEq] at stepped
        obtain ⟨rfl, rfl⟩ := stepped
        obtain ⟨pushed_alone, unseen⟩ :=
          Exchange.pushRequest_alone endpoints ⟨client, 0, request⟩ pushed
        obtain ⟨own, others⟩ := alone_moved endpoints state exchange
          { state.disks client with pc := .receiving copy message size } unseen
        refine ⟨?_, by simp [setDisk], by simp [setDisk, Disk.finished], others⟩
        rw [own]
        simp only [SyncCall.clientStep, alone, Disk.toSync, pc]
        rw [show (⟨(), 0, request⟩ : Envelope Unit Request) =
          (⟨client, 0, request⟩ : Envelope Client Request).unnamed from rfl, pushed_alone]
      · simp at stepped
  | receiving copy message size =>
      simp only [clientStep, pc] at stepped
      split at stepped
      · rename_i reply exchange popped
        obtain ⟨popped_alone, unseen⟩ := Exchange.popReply_alone wired popped
        split at stepped
        · rename_i data accepted
          simp only [Option.some.injEq, Prod.mk.injEq] at stepped
          obtain ⟨rfl, rfl⟩ := stepped
          obtain ⟨own, others⟩ := alone_moved endpoints state exchange { state.disks client with
            memory := Region.copy (state.disks client).memory message data size.toNat
            pc := .looping copy } unseen
          refine ⟨?_, by simp [setDisk], by simp [setDisk, Disk.finished], others⟩
          rw [own]
          simp only [SyncCall.clientStep, alone, Disk.toSync, pc, popped_alone, Envelope.unnamed,
            accepted]
        · rename_i refused
          simp only [Option.some.injEq, Prod.mk.injEq] at stepped
          obtain ⟨rfl, rfl⟩ := stepped
          obtain ⟨own, others⟩ := alone_moved endpoints state exchange
            { state.disks client with pc := .aborted } unseen
          refine ⟨?_, by simp [setDisk], by simp [setDisk, Disk.finished], others⟩
          rw [own]
          simp only [SyncCall.clientStep, alone, Disk.toSync, pc, popped_alone, Envelope.unnamed,
            refused]
      · simp at stepped
  | returned ret => simp [clientStep, pc] at stepped
  | aborted => simp [clientStep, pc] at stepped

omit [DecidableEq Index] in
theorem follows_same {plain : PlainDisk} (follows : state.Follows endpoints client plain)
    (same : after.alone endpoints client = state.alone endpoints client)
    (disks : after.disks client = state.disks client) : after.Follows endpoints client plain := by
  unfold Follows
  rw [same, disks]
  exact follows

theorem Inv.clientStep_wired (inv : state.Inv endpoints)
    (stepped : state.clientStep endpoints client = some (after, events)) :
    after.exchange.Wired endpoints := by
  cases pc : (state.disks client).pc with
  | looping copy =>
      simp only [clientStep, pc, Option.some.injEq, Prod.mk.injEq] at stepped
      obtain ⟨rfl, _⟩ := stepped
      exact inv.wired
  | sending request copy reply =>
      obtain ⟨plain, follows⟩ := inv.follows client
      obtain ⟨_, _, _, _, own⟩ := follows.inside (by simp [alone, Disk.toSync, pc])
      obtain ⟨volume, io, _⟩ := own.pending request copy reply pc
      have belongs : Belongs endpoints (endpoints client).index
          (⟨client, 0, request⟩ : Envelope Client Request) := ⟨rfl, volume, io⟩
      simp only [clientStep, pc] at stepped
      split at stepped
      · rename_i exchange pushed
        simp only [Option.some.injEq, Prod.mk.injEq] at stepped
        obtain ⟨rfl, _⟩ := stepped
        exact inv.wired.pushRequest belongs pushed
      · rename_i exchange message size pushed
        simp only [Option.some.injEq, Prod.mk.injEq] at stepped
        obtain ⟨rfl, _⟩ := stepped
        exact inv.wired.pushRequest belongs pushed
      · simp at stepped
  | receiving copy message size =>
      simp only [clientStep, pc] at stepped
      split at stepped
      · rename_i reply exchange popped
        have wired := inv.wired.popReply popped
        split at stepped <;>
          (simp only [Option.some.injEq, Prod.mk.injEq] at stepped
           obtain ⟨rfl, _⟩ := stepped
           exact wired)
      · simp at stepped
  | returned ret => simp [clientStep, pc] at stepped
  | aborted => simp [clientStep, pc] at stepped

/-- One step, as every machine sees it. -/
structure Seen (endpoints : Client → Endpoint Index) (state after : DisksState Index Client)
    (events : List (Client × DiskEvent)) : Prop where
  wired : after.exchange.Wired endpoints
  running : after.exchange.fault = none
  plays : ∀ client plain, state.Follows endpoints client plain → ∃ next,
    plain.Plays (events.flatMap (visible client)) next ∧ after.Follows endpoints client next

omit [DecidableEq Index] in
/-- It is enough to look at the machine that moves. -/
theorem seen_of_mover {own : List DiskEvent} (wired : after.exchange.Wired endpoints)
    (running : after.exchange.fault = none)
    (mover : ∀ plain, state.Follows endpoints client plain → ∃ next,
      plain.Plays own next ∧ after.Follows endpoints client next)
    (others : ∀ other, other ≠ client → after.alone endpoints other = state.alone endpoints other ∧
      after.disks other = state.disks other) :
    Seen endpoints state after (own.map (client, ·)) where
  wired := wired
  running := running
  plays := by
    intro other plain follows
    by_cases same : other = client
    · subst same
      rw [visible_own]
      exact mover plain follows
    · obtain ⟨alone_eq, disks_eq⟩ := others other same
      rw [visible_other same]
      exact ⟨plain, plain.plays_nothing, follows_same follows alone_eq disks_eq⟩

omit [DecidableEq Index] in
theorem Inv.enter_seen (inv : state.Inv endpoints) {call : SyncCall} {memory : Bytes}
    (permitted : state.Permitted endpoints (.enter client call memory))
    (stepped : state.enterStep client call memory = some (after, events)) :
    Seen endpoints state after events := by
  unfold enterStep at stepped
  cases pc : (state.disks client).pc with
  | returned ret =>
      simp only [pc, Option.some.injEq, Prod.mk.injEq] at stepped
      obtain ⟨rfl, rfl⟩ := stepped
      obtain ⟨own, others⟩ := alone_moved endpoints state state.exchange
        { state.disks client with memory, call, pc := call.start } fun _ _ => rfl
      have one (event : DiskEvent) (rest : List DiskEvent) :
          (client, event) :: rest.map (client, ·) = (event :: rest).map (client, ·) := rfl
      rw [one]
      refine seen_of_mover inv.wired inv.running ?_ others
      intro plain follows
      have permitted : isRequestAligned call.sectorNum call.nbSectors = true →
          SectorsInside call.sectorNum call.nbSectors
            ((state.exchange.alone (endpoints client) client).service
              (endpoints client).single ()).file.content.size := by
        rw [Exchange.alone_file]
        exact permitted
      obtain ⟨next, plays, kept⟩ := Disk.follows_enter follows pc permitted
      refine ⟨next, plays, ?_⟩
      unfold Follows
      rw [own]
      simpa [setDisk] using kept
  | looping copy => simp [pc] at stepped
  | sending request copy reply => simp [pc] at stepped
  | receiving copy message size => simp [pc] at stepped
  | aborted => simp [pc] at stepped

theorem Inv.client_seen (inv : state.Inv endpoints)
    (stepped : state.clientStep endpoints client = some (after, events)) :
    Seen endpoints state after events := by
  obtain ⟨own, call, rfl, others⟩ := clientStep_alone inv.wired stepped
  have mover (plain : PlainDisk) (follows : state.Follows endpoints client plain) : ∃ next,
      plain.Plays (after.disks client).finished next ∧ after.Follows endpoints client next := by
    unfold Follows at follows ⊢
    rw [← call] at own follows
    exact Disk.follows_clientStep follows own
  obtain ⟨plain, follows⟩ := inv.follows client
  obtain ⟨_, _, kept⟩ := mover plain follows
  exact seen_of_mover (inv.clientStep_wired stepped) kept.running mover others

theorem Inv.server_seen (inv : state.Inv endpoints) {label : ServerLabel Index}
    {exchange : Exchange Index Client} (permitted : state.Permitted endpoints (.server label))
    (stepped : state.exchange.serverStep label = some exchange) :
    Seen endpoints state { state with exchange } [] := by
  obtain ⟨mover, ⟨own, valid, full, moved⟩, others⟩ :=
    Exchange.serverStep_alone inv.wired permitted.1 permitted.2 stepped
  have follows (plain : PlainDisk) (follows : state.Follows endpoints mover plain) : ∃ next,
      plain.Plays [] next ∧
        ({ state with exchange } : DisksState Index Client).Follows endpoints mover next :=
    ⟨plain, plain.plays_nothing, SyncState.Follows.serverStep follows ⟨valid, full⟩ moved⟩
  obtain ⟨plain, before⟩ := inv.follows mover
  obtain ⟨_, _, kept⟩ := follows plain before
  have running : exchange.fault = none := kept.running
  refine seen_of_mover (inv.wired.serverStep stepped) running follows ?_
  intro other different
  have unseen := others other different (by rw [running, inv.running])
  exact ⟨by simp [alone, unseen], rfl⟩

theorem Inv.seen (inv : state.Inv endpoints) {label : DisksLabel Index Client}
    (permitted : state.Permitted endpoints label)
    (stepped : (machine endpoints).step state label = some (after, events)) :
    Seen endpoints state after events := by
  cases label with
  | enter client call memory => exact inv.enter_seen permitted stepped
  | client client => exact inv.client_seen stepped
  | server label =>
      simp only [machine, Option.map_eq_some_iff, Prod.mk.injEq] at stepped
      obtain ⟨exchange, stepped, rfl, rfl⟩ := stepped
      exact inv.server_seen permitted stepped

omit [DecidableEq Index] in
theorem Inv.step (inv : state.Inv endpoints) (seen : Seen endpoints state after events) :
    after.Inv endpoints where
  wired := seen.wired
  running := seen.running
  follows := by
    intro client
    obtain ⟨plain, follows⟩ := inv.follows client
    obtain ⟨next, _, kept⟩ := seen.plays client plain follows
    exact ⟨next, kept⟩

/-! Whole runs. -/

/-- All volumes are open and no call has been made yet. -/
structure Started (endpoints : Client → Endpoint Index) (state : DisksState Index Client) : Prop where
  wired : state.exchange.Wired endpoints
  running : state.exchange.fault = none
  volume : ∀ client, (state.disks client).client.volume = (endpoints client).volume
  outside : ∀ client, ∃ ret, (state.disks client).pc = .returned ret
  noRequests : ∀ client, state.exchange.requestMq (endpoints client).index = []
  idle : ∀ client, state.exchange.thread (endpoints client).index = .idle
  noReplies : ∀ client, state.exchange.replyMq (endpoints client).mq = []

/-- The bytes of a machine's volume. -/
def content (endpoints : Client → Endpoint Index) (state : DisksState Index Client)
    (client : Client) : File :=
  (state.exchange.service (endpoints client) client).file.content

omit [DecidableEq Index] in
theorem alone_backlogged
    (none : (state.exchange.service (endpoints client) client).requests = []) :
    (state.alone endpoints client).backlogged (endpoints client).single =
      state.content endpoints client := by
  have quiet := Exchange.alone_requests state.exchange (endpoints client) client
  rw [none, List.map_nil] at quiet
  show File.applyAll _ ((state.exchange.alone (endpoints client) client).service
    (endpoints client).single ()).requests = _
  rw [quiet, File.applyAll_nil]
  exact congrArg VolumeFile.content (Exchange.alone_file state.exchange (endpoints client) client)

omit [DecidableEq Index] in
theorem Started.follows (started : state.Started endpoints) (client : Client) :
    state.Follows endpoints client ⟨state.content endpoints client, none⟩ := by
  have none : (state.exchange.service (endpoints client) client).requests = [] := by
    simp [Exchange.service, started.noRequests, started.idle]
  have silent : (state.exchange.service (endpoints client) client).replies = [] := by
    simp [Exchange.service, started.noReplies, started.idle]
  have quiet := Exchange.alone_requests state.exchange (endpoints client) client
  have replies := Exchange.alone_replies state.exchange (endpoints client) client
  rw [none, List.map_nil] at quiet
  rw [silent, List.map_nil] at replies
  refine ⟨started.outside client, ⟨Exchange.wired_alone started.wired client, started.running,
    started.volume client, rfl, ?_, replies⟩, alone_backlogged none⟩
  show ∀ request ∈ ((state.exchange.alone (endpoints client) client).service
    (endpoints client).single ()).requests, _
  simp [quiet]

omit [DecidableEq Index] in
theorem Started.inv (started : state.Started endpoints) : state.Inv endpoints where
  wired := started.wired
  running := started.running
  follows := fun client => ⟨_, started.follows client⟩

variable {initial : DisksState Index Client} {trace : List (Client × DiskEvent)}

theorem inv_run (started : initial.Started endpoints)
    (run : (machine endpoints).Run (Permitted endpoints) initial trace state) :
    state.Inv endpoints := by
  refine run.invariant (fun _ state => state.Inv endpoints) started.inv ?_
  exact fun _ _ _ _ _ inv permitted stepped => inv.step (inv.seen permitted stepped)

theorem follows_run (started : initial.Started endpoints)
    (run : (machine endpoints).Run (Permitted endpoints) initial trace state) (client : Client) :
    ∃ disk, PlainDisk.Plays ⟨initial.content endpoints client, none⟩
        (trace.flatMap (visible client)) disk ∧
      state.Inv endpoints ∧ state.Follows endpoints client disk := by
  refine run.refine
    (fun state disk => state.Inv endpoints ∧ state.Follows endpoints client disk)
    (visible client) ⟨started.inv, started.follows client⟩ ?_
  rintro state disk label after events ⟨inv, follows⟩ permitted stepped
  have seen := inv.seen permitted stepped
  obtain ⟨next, plays, kept⟩ := seen.plays client disk follows
  exact ⟨next, plays, inv.step seen, kept⟩

/-- Each machine has a disk of its own: its calls and their results, in the order in which they
occur, are a run of a plain disk, whatever the schedule. No assert fails, and what the disk holds
after a call is in the file as soon as the server has handled the machine's messages. -/
theorem plain_run (started : initial.Started endpoints)
    (run : (machine endpoints).Run (Permitted endpoints) initial trace state) (client : Client) :
    ∃ disk, PlainDisk.machine.Run (fun _ _ => True) ⟨initial.content endpoints client, none⟩
        (trace.flatMap (visible client)) disk ∧
      state.exchange.fault = none ∧ (state.disks client).pc ≠ .aborted ∧
      ∀ ret, (state.disks client).pc = .returned ret → disk.busy = none ∧
        ((state.exchange.service (endpoints client) client).requests = [] →
          state.content endpoints client = disk.content) := by
  obtain ⟨disk, plays, inv, follows⟩ := follows_run started run client
  refine ⟨disk, plays, inv.running, ?_, ?_⟩
  · intro aborted
    obtain ⟨_, _, _, _, own⟩ := follows.inside (by simp [alone, Disk.toSync, aborted])
    have holds := own.pc
    simp [alone, Disk.toSync, aborted, SyncCall.PcInv] at holds
  · intro ret returned
    obtain ⟨idle, ready, backlogged⟩ := follows.outside returned
    exact ⟨idle, fun handled => (alone_backlogged handled).symm.trans backlogged⟩

end DisksState

end Cvbd
