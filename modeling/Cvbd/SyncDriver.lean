import Cvbd.SyncTotal

/-!
Total correctness of `cvbd_read` and `cvbd_write` under every interleaving with
the server: no schedule gets stuck or runs forever, no assert fires, and the
chunks reassemble to one transfer over the file with the backlog applied.
-/

namespace Cvbd

/-- An idle client with an open volume: only earlier WRITEs inside the file are on their way. -/
structure SyncState.Ready (state : SyncState) (endpoint : Endpoint Unit) : Prop where
  wired : state.exchange.Wired fun _ => endpoint
  running : state.exchange.fault = none
  volume : state.client.volume = endpoint.volume
  mq : state.mq = endpoint.mq
  backlog : ∀ request ∈ (state.service endpoint).requests,
    request.body.IsWriteInside (state.service endpoint).file.content.size
  quiet : (state.service endpoint).replies = []

/-- The state in which the driver function has been entered. -/
def SyncState.enter (state : SyncState) (call : SyncCall) : SyncState :=
  { state with pc := call.start }

/-- The file as it will be once the WRITEs on their way have been handled. -/
def SyncState.backlogged (state : SyncState) (endpoint : Endpoint Unit) : File :=
  (state.service endpoint).file.content.applyAll (state.service endpoint).requests

theorem File.applyAll_size {content : File} {requests : List (Envelope Unit Request)}
    (inside : ∀ request ∈ requests, request.body.IsWriteInside content.size) :
    (content.applyAll requests).size = content.size := by
  induction requests generalizing content with
  | nil => rfl
  | cons request rest ih =>
      obtain ⟨req, _, fits⟩ := inside request (by simp)
      have same := Request.apply_size fits
      rw [File.applyAll_cons, ih ?_, same]
      intro queued member
      rw [same]
      exact inside queued (by simp [member])

theorem SyncState.Ready.fits {state : SyncState} {endpoint : Endpoint Unit} (call : SyncCall)
    (ready : state.Ready endpoint)
    (inside : SectorsInside call.sectorNum call.nbSectors
      (state.service endpoint).file.content.size) :
    call.offset + call.length ≤ (state.backlogged endpoint).size := by
  rw [SyncState.backlogged, File.applyAll_size ready.backlog]
  exact inside.total

theorem SyncState.Ready.inv {state : SyncState} {endpoint : Endpoint Unit} (call : SyncCall)
    (ready : state.Ready endpoint)
    (aligned : isRequestAligned call.sectorNum call.nbSectors = true)
    (inside : SectorsInside call.sectorNum call.nbSectors
      (state.service endpoint).file.content.size) :
    call.Inv endpoint (state.backlogged endpoint) state.memory
      (state.service endpoint).file.content.size (state.enter call) := by
  have start : call.start = .looping (nonAlignedCopyInit (byteOffset call.sectorNum)
      (byteSize call.nbSectors).toInt64 msgqMaxSize) := by
    simp [SyncCall.start, aligned]
  obtain ⟨progress, none⟩ := SyncCall.progress_init inside
  refine ⟨ready.wired, ready.running, ready.volume, ready.mq, rfl, ?_, ?_⟩
  · simp [SyncState.enter, start]
  · simp only [SyncState.enter, start, SyncCall.PcInv, none, SyncCall.memoryAfter_zero,
      SyncCall.fileAfter_zero]
    exact ⟨progress, ready.backlog, ready.quiet, trivial, rfl⟩

theorem SyncState.Ready.runInv {state : SyncState} {endpoint : Endpoint Unit} (call : SyncCall)
    (ready : state.Ready endpoint)
    (aligned : isRequestAligned call.sectorNum call.nbSectors = true)
    (inside : SectorsInside call.sectorNum call.nbSectors
      (state.service endpoint).file.content.size)
    {trace : List Empty} {after : SyncState}
    (run : call.machine.Run SyncState.Permitted (state.enter call) trace after) :
    call.Inv endpoint (state.backlogged endpoint) state.memory
      (state.service endpoint).file.content.size after := by
  have fits := ready.fits call inside
  refine run.invariant (fun _ current => call.Inv endpoint
    (state.backlogged endpoint) state.memory (state.service endpoint).file.content.size current)
    (ready.inv call aligned inside) ?_
  intro _ current label next events kept permitted stepped
  exact (kept.step inside fits permitted stepped).1

theorem SyncState.Ready.settles {state : SyncState} {endpoint : Endpoint Unit} (call : SyncCall)
    (ready : state.Ready endpoint)
    (aligned : isRequestAligned call.sectorNum call.nbSectors = true)
    (inside : SectorsInside call.sectorNum call.nbSectors
      (state.service endpoint).file.content.size) :
    call.machine.Settles SyncState.Permitted (fun after => after.pc = .returned 0 ∧
      (after.service endpoint).requests = [] ∧ (after.service endpoint).replies = [] ∧
      after.exchange.fault = none ∧
      after.memory = call.memoryAfter (state.backlogged endpoint) state.memory call.length ∧
      (after.service endpoint).file.content =
        call.fileAfter (state.backlogged endpoint) state.memory call.length)
      (state.enter call) := by
  have fits := ready.fits call inside
  have inv := ready.inv call aligned inside
  have outcome (after : SyncState) (kept : call.Inv endpoint (state.backlogged endpoint)
      state.memory (state.service endpoint).file.content.size after)
      (finished : after.pc = .returned 0 ∧ (after.service endpoint).requests = []) :
      (after.service endpoint).replies = [] ∧ after.exchange.fault = none ∧
      after.memory = call.memoryAfter (state.backlogged endpoint) state.memory call.length ∧
      (after.service endpoint).file.content =
        call.fileAfter (state.backlogged endpoint) state.memory call.length := by
    have holds := kept.pc
    rw [finished.1] at holds
    obtain ⟨_, _, quiet, memory_eq, effect⟩ := holds
    rw [finished.2, File.applyAll_nil] at effect
    exact ⟨quiet, kept.running, memory_eq, effect⟩
  refine Machine.Settles.of_measure (call.Inv endpoint (state.backlogged endpoint) state.memory
    (state.service endpoint).file.content.size) call.measure ?_ ?_ inv
  · intro current kept unfinished
    exact kept.enabled fun finished => unfinished ⟨finished.1, finished.2, outcome _ kept finished⟩
  · intro current label after events kept _ permitted stepped
    exact kept.step inside fits permitted stepped

/-! The outcome byte by byte. -/

theorem SyncCall.byte_fileAfter_write (sectorNum : Int64) (nbSectors : Int32) (buffer : Nat)
    {size : Nat} (inside : SectorsInside sectorNum nbSectors size) (target : File) (memory : Bytes)
    (index : Nat) :
    let call := cvbdWrite sectorNum nbSectors buffer
    (call.fileAfter target memory call.length).byte index =
      if sectorNum.toInt * 512 ≤ index ∧ index < (sectorNum.toInt + nbSectors.toInt) * 512 then
        memory (buffer + (index - sectorNum.toInt.toNat * 512))
      else target.byte index := by
  intro call
  obtain ⟨sectorNonneg, nbNonneg, _, _⟩ := inside
  simp only [call, cvbdWrite, fileAfter, if_true, File.pwrite, offset, length]
  by_cases within : sectorNum.toInt * 512 ≤ index ∧
      index < (sectorNum.toInt + nbSectors.toInt) * 512
  · rw [Region.copy_inside (by omega) (by omega), if_pos within]
  · rw [Region.copy_outside (by omega), if_neg within]

theorem SyncCall.memoryAfter_read (sectorNum : Int64) (nbSectors : Int32) (buffer : Nat)
    (target : File) (memory : Bytes) (index : Nat) :
    let call := cvbdRead sectorNum nbSectors buffer
    call.memoryAfter target memory call.length index =
      if buffer ≤ index ∧ index < buffer + nbSectors.toInt.toNat * 512 then
        target.byte (sectorNum.toInt.toNat * 512 + (index - buffer))
      else memory index := by
  intro call
  simp only [call, cvbdRead, memoryAfter, Bool.false_eq_true, if_false, offset, length,
    Region.copy]

/-- Chunked I/O is one plain transfer over the file with the backlog applied: `cvbd_write` puts
the caller's buffer in its place and changes nothing else, `cvbd_read` fills the caller's buffer
and changes nothing else, both return 0, and on the way there no assert fires and each chunk is
nonempty and fits into one message. -/
theorem SyncState.Ready.plainTransfer {state : SyncState} {endpoint : Endpoint Unit}
    (ready : state.Ready endpoint) (sectorNum : Int64) (nbSectors : Int32) (buffer : Nat)
    (aligned : isRequestAligned sectorNum nbSectors = true)
    (inside : SectorsInside sectorNum nbSectors (state.service endpoint).file.content.size) :
    let earlier := state.backlogged endpoint
    let write := cvbdWrite sectorNum nbSectors buffer
    let read := cvbdRead sectorNum nbSectors buffer
    write.machine.Settles SyncState.Permitted (fun after =>
        after.pc = .returned 0 ∧ (after.service endpoint).requests = [] ∧
        (after.service endpoint).file.content.size = earlier.size ∧
        (∀ index, (after.service endpoint).file.content.byte index =
          if sectorNum.toInt * 512 ≤ index ∧
              index < (sectorNum.toInt + nbSectors.toInt) * 512 then
            state.memory (buffer + (index - sectorNum.toInt.toNat * 512))
          else earlier.byte index) ∧
        after.memory = state.memory) (state.enter write) ∧
      read.machine.Settles SyncState.Permitted (fun after =>
        after.pc = .returned 0 ∧ (after.service endpoint).requests = [] ∧
        (after.service endpoint).file.content = earlier ∧
        ∀ index, after.memory index =
          if buffer ≤ index ∧ index < buffer + nbSectors.toInt.toNat * 512 then
            earlier.byte (sectorNum.toInt.toNat * 512 + (index - buffer))
          else state.memory index) (state.enter read) ∧
      ∀ call, call = write ∨ call = read → ∀ trace after,
        call.machine.Run SyncState.Permitted (state.enter call) trace after →
          after.pc ≠ .aborted ∧ after.exchange.fault = none ∧
          (∀ ret, after.pc = .returned ret → ret = 0) ∧
          ∀ request copy reply, after.pc = .sending request copy reply →
            0 < request.transferSize ∧ request.transferSize ≤ maxDataSize := by
  intro earlier write read
  refine ⟨?_, ?_, ?_⟩
  · refine (ready.settles write aligned inside).mono ?_
    rintro after ⟨returned, handled, _, _, memory_eq, content_eq⟩
    refine ⟨returned, handled, ?_, ?_, memory_eq⟩
    · have fits : sectorNum.toInt.toNat * 512 + nbSectors.toInt.toNat * 512 ≤ earlier.size := by
        rw [show earlier.size = _ from File.applyAll_size ready.backlog]
        exact inside.total
      rw [content_eq]
      exact File.pwrite_size_inside _ fits
    · intro index
      rw [content_eq]
      exact SyncCall.byte_fileAfter_write sectorNum nbSectors buffer inside _ _ _
  · refine (ready.settles read aligned inside).mono ?_
    rintro after ⟨returned, handled, _, _, memory_eq, content_eq⟩
    refine ⟨returned, handled, content_eq, ?_⟩
    intro index
    rw [memory_eq]
    exact SyncCall.memoryAfter_read sectorNum nbSectors buffer _ _ _
  · rintro call which trace after run
    have args : isRequestAligned call.sectorNum call.nbSectors = true ∧
        SectorsInside call.sectorNum call.nbSectors
          (state.service endpoint).file.content.size := by
      rcases which with rfl | rfl <;> exact ⟨aligned, inside⟩
    have inv := ready.runInv call args.1 args.2 run
    have holds := inv.pc
    refine ⟨?_, inv.running, ?_, ?_⟩
    · intro aborted
      rw [aborted] at holds
      exact holds
    · intro ret returned
      rw [returned] at holds
      exact holds.1
    · intro request copy reply sending
      exact (inv.pending _ _ _ sending).2.2

/-! A client of a volume of two blocks, with one WRITE of the second block on its way. -/

def SyncState.sample (fileSize : Nat) (backlog : List (Envelope Unit Request)) : SyncState where
  exchange := .sample fileSize backlog
  client := ⟨[118], 4096, 1, fun _ => 0⟩
  mq := 0
  memory := fun _ => 3
  pc := .returned 0

def SyncState.sampleWrite : Envelope Unit Request :=
  ⟨(), 0, .write ⟨⟨false, .reqWrite, 1, 4096, 0⟩, 4096, 4096, fun _ => 2⟩⟩

theorem SyncState.sample_service (fileSize : Nat) (backlog : List (Envelope Unit Request)) :
    (sample fileSize backlog).service .sample =
      ⟨backlog, [], ⟨File.filled fileSize 1, File.filled fileSize 1⟩, true⟩ :=
  Exchange.sample_service fileSize backlog

theorem SyncState.sample_ready (fileSize : Nat) (backlog : List (Envelope Unit Request))
    (volume : ∀ request ∈ backlog, request.body.header.volume = 4096)
    (writes : ∀ request ∈ backlog, request.body.IsWriteInside fileSize) :
    (sample fileSize backlog).Ready .sample where
  wired := Exchange.sample_wired fileSize backlog fun request member => by
    obtain ⟨req, body, _⟩ := writes request member
    exact ⟨volume request member, by rw [body]; rfl⟩
  running := rfl
  volume := rfl
  mq := rfl
  backlog := by
    rw [sample_service]
    exact writes
  quiet := by rw [sample_service]

/-- A read behind the queued WRITE finds its bytes, and a write of the other block leaves them. -/
theorem SyncState.sample_plainTransfer :
    let state := sample 8192 [sampleWrite]
    (cvbdWrite 0 8 100).machine.Settles SyncState.Permitted (fun after =>
        after.pc = .returned 0 ∧
        (after.service .sample).file.content.byte 0 = 3 ∧
        (after.service .sample).file.content.byte 5000 = 2)
        (state.enter (cvbdWrite 0 8 100)) ∧
      (cvbdRead 8 8 100).machine.Settles SyncState.Permitted (fun after =>
        after.pc = .returned 0 ∧ after.memory 100 = 2 ∧ after.memory 99 = 3)
        (state.enter (cvbdRead 8 8 100)) := by
  intro state
  have ready : state.Ready .sample := by
    refine sample_ready _ _ (by simp [sampleWrite, Request.header]) ?_
    rintro request member
    obtain rfl := List.mem_singleton.mp member
    exact ⟨_, rfl, by decide, by decide⟩
  have size : (state.service .sample).file.content.size = 8192 := by
    rw [sample_service]
    rfl
  have earlier : (state.backlogged .sample).byte 5000 = 2 ∧
      (state.backlogged .sample).byte 4096 = 2 := by
    simp only [state, SyncState.backlogged, sample_service]
    decide
  constructor
  · have outcome := ready.plainTransfer 0 8 100 (by decide)
      ⟨by decide, by decide, by rw [size]; decide, by rw [size]; decide⟩
    refine outcome.1.mono ?_
    rintro after ⟨returned, _, _, bytes, _⟩
    refine ⟨returned, ?_, ?_⟩
    · rw [bytes, if_pos (by decide)]
      rfl
    · rw [bytes, if_neg (by decide)]
      exact earlier.1
  · have outcome := ready.plainTransfer 8 8 100 (by decide)
      ⟨by decide, by decide, by rw [size]; decide, by rw [size]; decide⟩
    refine outcome.2.1.mono ?_
    rintro after ⟨returned, _, _, bytes⟩
    refine ⟨returned, ?_, ?_⟩
    · rw [bytes, if_pos (by decide)]
      exact earlier.2
    · rw [bytes, if_neg (by decide)]
      rfl

end Cvbd
