import Cvbd.AgreementCore
import Cvbd.AsyncRanged

/-!
The outcome of one transfer on each path, whatever the schedule: the chunk loop
leaves one flat transfer behind, and so does a coroutine whose size fits into
one message, except where positions of its vector share an address.
-/

namespace Cvbd

/-! The bytes of a flat buffer and of a vector. -/

theorem flatBytes_congr {memory other : Bytes} {base otherBase count : Nat}
    (same : ∀ index, index < count → memory (base + index) = other (otherBase + index)) :
    flatBytes memory base count = flatBytes other otherBase count := by
  refine List.map_congr_left fun index member => same index ?_
  simpa using member

theorem flatBytes_getElem {memory : Bytes} {base count index : Nat} (below : index < count) :
    (flatBytes memory base count)[index]? = some (memory (base + index)) := by
  simp [flatBytes, below]

/-- Every address of a list has a last position. -/
theorem exists_last {addresses : List Nat} {address : Nat} (member : address ∈ addresses) :
    ∃ last, addresses[last]? = some address ∧ address ∉ addresses.drop (last + 1) := by
  induction addresses with
  | nil => simp at member
  | cons first rest ih =>
      by_cases later : address ∈ rest
      · obtain ⟨last, found, none⟩ := ih later
        exact ⟨last + 1, by simpa using found, by simpa using none⟩
      · refine ⟨0, ?_, by simpa using later⟩
        rcases List.mem_cons.mp member with rfl | again
        · rfl
        · exact (later again).elim

/-- A filled vector reads back as the data exactly if no address was to hold two different bytes. -/
theorem Qiov.Holds.gather_iff {iov : Qiov} {memory data : Bytes}
    (holds : iov.Holds memory data iov.total) :
    iov.gather memory = flatBytes data 0 iov.total ↔ iov.Consistent data := by
  have below {position address : Nat} (found : iov.addresses[position]? = some address) :
      position < iov.total := (List.getElem?_eq_some_iff.mp found).1
  constructor
  · intro equal
    have here {position address : Nat} (found : iov.addresses[position]? = some address) :
        memory address = data position := by
      have entry : (iov.gather memory)[position]? = some (memory address) := by
        simp [Qiov.gather, found]
      rw [equal, flatBytes_getElem (below found), Nat.zero_add] at entry
      exact (Option.some.inj entry).symm
    intro left right address foundLeft foundRight
    rw [← here foundLeft, here foundRight]
  · intro consistent
    refine List.ext_getElem? fun position => ?_
    cases found : iov.addresses[position]? with
    | none =>
        have behind : iov.total ≤ position := List.getElem?_eq_none_iff.mp found
        simp [Qiov.gather, found, flatBytes, behind]
    | some address =>
        obtain ⟨last, lookup, none⟩ := exists_last (List.mem_of_getElem? found)
        have byte : memory address = data position := by
          rw [holds last address (below lookup) lookup none]
          exact consistent last position address lookup found
        rw [flatBytes_getElem (below found)]
        simp [Qiov.gather, found, byte]

theorem Qiov.consistent_of_nodup {iov : Qiov} (nodup : iov.addresses.Nodup) (data : Bytes) :
    iov.Consistent data := by
  intro left right address foundLeft foundRight
  obtain ⟨leftInside, equalLeft⟩ := List.getElem?_eq_some_iff.mp foundLeft
  obtain ⟨rightInside, equalRight⟩ := List.getElem?_eq_some_iff.mp foundRight
  have same : left = right :=
    (List.Nodup.getElem_inj_iff nodup).mp (equalLeft.trans equalRight.symm)
  rw [same]

/-! The chunk loop. -/

section Sync

variable {sync : SyncState} {syncEnd : Endpoint Unit} {async : AsyncState Unit Unit}
variable {asyncEnd : Endpoint Unit} {write : Bool} {sectorNum : Int64} {nbSectors : Int32}
variable {buffer : Nat} {qiov : Qiov}

/-- What the chunk loop leaves behind. -/
def SyncState.outcome (state : SyncState) (endpoint : Endpoint Unit) (write : Bool)
    (sectorNum : Int64) (nbSectors : Int32) (buffer : Nat) : TransferOutcome :=
  let content := (state.service endpoint).file.content
  let offset := sectorNum.toInt.toNat * 512
  let length := nbSectors.toInt.toNat * 512
  if write then
    ⟨0, flatBytes state.memory buffer length,
      content.pwrite offset (fun index => state.memory (buffer + index)) length⟩
  else ⟨0, flatBytes content.byte offset length, content⟩

theorem cvbdTransfer_fields (write : Bool) (sectorNum : Int64) (nbSectors : Int32) (buffer : Nat) :
    let call := cvbdTransfer write sectorNum nbSectors buffer
    call.write = write ∧ call.sectorNum = sectorNum ∧ call.nbSectors = nbSectors ∧
      call.buffer = buffer := by
  cases write <;> exact ⟨rfl, rfl, rfl, rfl⟩

theorem flatBytes_memoryAfter (write : Bool) (sectorNum : Int64) (nbSectors : Int32)
    (buffer : Nat) (content : File) (memory : Bytes) :
    let call := cvbdTransfer write sectorNum nbSectors buffer
    let length := nbSectors.toInt.toNat * 512
    flatBytes (call.memoryAfter content memory call.length) buffer length =
      if write then flatBytes memory buffer length
      else flatBytes content.byte (sectorNum.toInt.toNat * 512) length := by
  cases write with
  | true => rfl
  | false =>
      refine flatBytes_congr fun index below => ?_
      simp only [cvbdTransfer, cvbdRead, SyncCall.memoryAfter, SyncCall.length, SyncCall.offset,
        Bool.false_eq_true, if_false]
      rw [Region.copy_add _ _ _ _ _ below]

theorem SyncState.outcome_eq {state after : SyncState} {endpoint : Endpoint Unit}
    (memory : after.memory = (cvbdTransfer write sectorNum nbSectors buffer).memoryAfter
      (state.service endpoint).file.content state.memory
      (cvbdTransfer write sectorNum nbSectors buffer).length)
    (content : (after.service endpoint).file.content =
      (cvbdTransfer write sectorNum nbSectors buffer).fileAfter
        (state.service endpoint).file.content state.memory
        (cvbdTransfer write sectorNum nbSectors buffer).length) :
    state.outcome endpoint write sectorNum nbSectors buffer =
      ⟨0, flatBytes after.memory buffer (nbSectors.toInt.toNat * 512),
        (after.service endpoint).file.content⟩ := by
  rw [memory, content, flatBytes_memoryAfter]
  cases write <;> rfl

theorem SameTransfer.sync_inside
    (same : SameTransfer sync syncEnd async asyncEnd write sectorNum nbSectors buffer qiov) :
    let call := cvbdTransfer write sectorNum nbSectors buffer
    isRequestAligned call.sectorNum call.nbSectors = true ∧
      SectorsInside call.sectorNum call.nbSectors (sync.service syncEnd).file.content.size ∧
      sync.backlogged syncEnd = (sync.service syncEnd).file.content := by
  obtain ⟨_, sector, number, _⟩ := cvbdTransfer_fields write sectorNum nbSectors buffer
  simp only [sector, number]
  exact ⟨same.aligned, same.inside, by rw [SyncState.backlogged, same.idle, File.applyAll_nil]⟩

/-- The synchronous path completes with one flat transfer. -/
theorem SameTransfer.sync_completes
    (same : SameTransfer sync syncEnd async asyncEnd write sectorNum nbSectors buffer qiov) :
    sync.Completes syncEnd (cvbdTransfer write sectorNum nbSectors buffer)
      (sync.outcome syncEnd write sectorNum nbSectors buffer) := by
  obtain ⟨aligned, inside, content⟩ := same.sync_inside
  refine (same.ready.settles _ aligned inside).mono ?_
  rintro after ⟨returned, handled, _, _, memory_eq, content_eq⟩
  rw [content] at memory_eq content_eq
  have outcome := SyncState.outcome_eq memory_eq content_eq
  obtain ⟨_, _, number, base⟩ := cvbdTransfer_fields write sectorNum nbSectors buffer
  simp only [outcome, SyncCall.length, number, base]
  exact ⟨returned, handled, trivial, trivial⟩

/-- It completes with nothing else. -/
theorem SameTransfer.sync_unique
    (same : SameTransfer sync syncEnd async asyncEnd write sectorNum nbSectors buffer qiov)
    {outcome : TransferOutcome}
    (completes : sync.Completes syncEnd (cvbdTransfer write sectorNum nbSectors buffer) outcome) :
    outcome = sync.outcome syncEnd write sectorNum nbSectors buffer := by
  obtain ⟨aligned, inside, content⟩ := same.sync_inside
  obtain ⟨_, last, run, returned, handled, bytes, file⟩ :=
    completes.reached Machine.Run.start
  have holds := (same.ready.runInv _ aligned inside run).pc
  rw [returned, content] at holds
  obtain ⟨ret, _, _, memory_eq, effect⟩ := holds
  rw [handled, File.applyAll_nil] at effect
  obtain ⟨_, _, number, base⟩ := cvbdTransfer_fields write sectorNum nbSectors buffer
  simp only [SyncCall.length, number, base] at bytes
  rw [SyncState.outcome_eq memory_eq effect, bytes, file, ← ret]

end Sync

end Cvbd
