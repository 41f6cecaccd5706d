import Cvbd.AgreementTotal

/-!
Where the two block drivers agree: on every transfer that fits into one message,
provided that a read is not asked for two different bytes at one address. A
longer transfer is cut into messages by the synchronous driver and ends the
asynchronous one.
-/

namespace Cvbd

variable {sync : SyncState} {syncEnd : Endpoint Unit} {async : AsyncState Unit Unit}
variable {asyncEnd : Endpoint Unit} {write : Bool} {sectorNum : Int64} {nbSectors : Int32}
variable {buffer : Nat} {qiov : Qiov} {address : UInt64} {fresh : Acb}

theorem cvbdCoTransfer_fields (write : Bool) (sectorNum : Int64) (nbSectors : Int32)
    (qiov : Qiov) :
    let what := cvbdCoTransfer write sectorNum nbSectors qiov
    what.isWrite = write ∧ what.aligned = isRequestAligned sectorNum nbSectors ∧
      what.size = byteSize nbSectors ∧ what ≠ .flush := by
  cases write <;> simp [cvbdCoTransfer, CoCall.isWrite, CoCall.aligned, CoCall.size]

/-- The assert on the size in `send_readv` and `send_writev`. -/
theorem AsyncClient.enter_large (client : AsyncClient) (address : UInt64) (fresh : Acb)
    (write : Bool) {sectorNum : Int64} {nbSectors : Int32} (qiov : Qiov)
    (aligned : isRequestAligned sectorNum nbSectors = true)
    (large : maxDataSize < (byteSize nbSectors).toNat) :
    (client.enter address fresh (cvbdCoTransfer write sectorNum nbSectors qiov)).1 =
      { client with fault := some .assertion } := by
  have refused : ¬(byteSize nbSectors).toNat ≤ maxDataSize := by omega
  cases write with
  | true =>
      obtain ⟨gathered, gathered_eq, _⟩ :=
        iovToBuf_spec qiov client.oldData (byteSize nbSectors).toNat client.memory
      simp [cvbdCoTransfer, AsyncClient.enter, AsyncClient.cvbdCoRw, aligned, gathered_eq,
        SharedMemClient.sendWritev, refused, AsyncClient.enterSend]
  | false =>
      simp [cvbdCoTransfer, AsyncClient.enter, AsyncClient.cvbdCoRw, aligned,
        SharedMemClient.sendReadv, refused, AsyncClient.enterSend]

namespace SameTransfer

/-- A call too long for one message ends its client, and nothing is left to do. -/
theorem async_stuck
    (same : SameTransfer sync syncEnd async asyncEnd write sectorNum nbSectors buffer qiov)
    (large : maxDataSize < nbSectors.toInt.toNat * 512) (outcome : TransferOutcome) :
    ¬async.Completes asyncEnd (cvbdCoTransfer write sectorNum nbSectors qiov) address fresh qiov
      outcome := by
  have size := same.inside.byteSize
  have entered := (async.clients ()).enter_large address fresh write qiov same.aligned
    (by omega : maxDataSize < (byteSize nbSectors).toNat)
  have start := same.started.clients ()
  have requests := same.started.requests ()
  have replies := same.started.replies ()
  simp only [AsyncState.view, Exchange.service, List.append_eq_nil_iff] at requests replies
  have queue : async.exchange.requestMq () = [] := by simpa using requests.2
  have idle : async.exchange.thread () = .idle := by
    cases thread : async.exchange.thread () with
    | idle => rfl
    | hand request => simp [thread, Thread.requestsOf] at requests
    | sending mq reply closing => simp [thread, Thread.repliesOf] at replies
    | closing volume => exact (same.started.wired.notClosing _ _ thread).elim
    | stopped => exact (same.started.wired.notStopped _ thread).elim
  intro completes
  cases completes with
  | done reached =>
      obtain ⟨_, ⟨coroutine, found, _⟩, _⟩ := reached
      simp [AsyncState.enter, entered, start.coroutines] at found
  | step enabled _ =>
      obtain ⟨label, after, events, _, stepped⟩ := enabled
      cases label with
      | client client label =>
          cases label with
          | send =>
              simp [AsyncState.machine, AsyncState.clientStep, AsyncState.enter, entered,
                AsyncClient.takeSend] at stepped
          | receive =>
              simp [AsyncState.machine, AsyncState.clientStep, AsyncState.enter,
                Exchange.popReply, replies.1] at stepped
          | inside label =>
              simp [AsyncState.machine, AsyncState.clientStep, AsyncState.enter, entered,
                AsyncClient.localStep] at stepped
      | server label =>
          cases label with
          | receive index =>
              simp [AsyncState.machine, AsyncState.enter, Exchange.serverStep,
                same.started.running, Exchange.receiveStep, idle, queue] at stepped
          | handle index kernel =>
              simp [AsyncState.machine, AsyncState.enter, Exchange.serverStep,
                same.started.running, Exchange.handleStep, idle] at stepped
          | send index =>
              simp [AsyncState.machine, AsyncState.enter, Exchange.serverStep,
                same.started.running, Exchange.sendStep, idle] at stepped
          | close index =>
              simp [AsyncState.machine, AsyncState.enter, Exchange.serverStep,
                same.started.running, Exchange.closeStep, idle] at stepped

/-- The bytes a read asks for. -/
def asked (sync : SyncState) (syncEnd : Endpoint Unit) (sectorNum : Int64) : Bytes :=
  fun index => (sync.service syncEnd).file.content.byte (sectorNum.toInt.toNat * 512 + index)

theorem outcome {state : AsyncState Unit Unit} {coroutine : Coroutine} {ret : Int32}
    (same : SameTransfer sync syncEnd async asyncEnd write sectorNum nbSectors buffer qiov)
    (onTheWay : AsyncState.OnTheWay asyncEnd async
      (cvbdCoTransfer write sectorNum nbSectors qiov) state)
    (served : (state.view (fun _ => asyncEnd) ()).service.requests = [])
    (found : (state.clients ()).coroutines 0 = some coroutine)
    (returned : coroutine.pc = .returned ret) :
    let expected := sync.outcome syncEnd write sectorNum nbSectors buffer
    ret = expected.ret ∧ state.content (fun _ => asyncEnd) () = expected.content ∧
      (qiov.gather (state.clients ()).memory = expected.bytes ↔
        (write = false → qiov.Consistent (asked sync syncEnd sectorNum))) := by
  intro expected
  obtain ⟨trace, following⟩ := onTheWay
  obtain ⟨isWrite, aligned, _, transfer⟩ := cvbdCoTransfer_fields write sectorNum nbSectors qiov
  have offset := same.inside.byteOffset
  have size := same.inside.byteSize
  have alive : (state.view (fun _ => asyncEnd) ()).service.alive = true := by
    simp [AsyncState.view, Exchange.service, following.ranged.running]
  obtain ⟨success, content⟩ := following.followed.finished alive served
    (aligned.trans same.aligned) transfer found returned
  have single := following.followed.single
  cases write with
  | true =>
      refine ⟨success, content.trans ?_, ?_⟩
      · have aligned := same.aligned
        simp only [Coroutine.apply, cvbdCoTransfer, aligned, if_true, offset, Int.toNat_natCast,
          size, same.content]
        refine File.pwrite_congr _ _ fun index below => ?_
        have bytes := congrArg (fun list : List UInt8 => list[index]?) (same.data rfl)
        have inside : index < qiov.addresses.length := by
          rw [← same.total] at below
          exact below
        simp only [flatBytes_getElem below, Qiov.gather, List.getElem?_map,
          List.getElem?_eq_getElem inside, Option.map_some, Option.some.injEq] at bytes
        simp only [CoCall.data, Qiov.flatten, List.getElem?_eq_getElem inside]
        exact bytes.symm
      · have untouched : (state.clients ()).memory = (async.clients ()).memory :=
          single.untouched isWrite
        simp only [untouched, Bool.true_eq_false, false_implies, iff_true]
        exact (same.data rfl).symm
  | false =>
      refine ⟨success, content.trans same.content, ?_⟩
      have holds := single.filled coroutine sectorNum nbSectors qiov ret found rfl returned
      rw [size, ← same.total] at holds
      have filled : qiov.Holds (state.clients ()).memory (asked sync syncEnd sectorNum)
          qiov.total := by
        refine Qiov.Holds.mono holds fun position _ => ?_
        simp only [asked, offset, Int.toNat_natCast, same.content]
      have bytes : expected.bytes = flatBytes (asked sync syncEnd sectorNum) 0 qiov.total := by
        rw [same.total]
        refine flatBytes_congr fun index below => ?_
        rw [asked, Nat.zero_add]
      rw [bytes, filled.gather_iff]
      simp

theorem onTheWay
    (same : SameTransfer sync syncEnd async asyncEnd write sectorNum nbSectors buffer qiov)
    (fresh : Acb) (small : nbSectors.toInt.toNat * 512 ≤ maxDataSize) (nonzero : address ≠ 0)
    (free : (async.clients ()).heap address = none) :
    AsyncState.OnTheWay asyncEnd async (cvbdCoTransfer write sectorNum nbSectors qiov)
      (async.enter (cvbdCoTransfer write sectorNum nbSectors qiov) address fresh) := by
  obtain ⟨_, aligned, size, _⟩ := cvbdCoTransfer_fields write sectorNum nbSectors qiov
  refine same.started.onTheWay nonzero free ⟨aligned.trans same.aligned, ?_⟩ ?_
  · rw [size, same.inside.byteSize]
    exact small
  · rw [same.content]
    cases write <;> exact same.inside

/-- The drivers agree on a transfer, that is, on every schedule both complete it with one outcome
(return value, bytes and file), exactly if it fits into one message and, for a read, no address of
the vector is to hold two different bytes of the volume. -/
theorem agree_iff
    (same : SameTransfer sync syncEnd async asyncEnd write sectorNum nbSectors buffer qiov)
    (fresh : Acb) (nonzero : address ≠ 0) (free : (async.clients ()).heap address = none) :
    (∃ outcome,
      sync.Completes syncEnd (cvbdTransfer write sectorNum nbSectors buffer) outcome ∧
      async.Completes asyncEnd (cvbdCoTransfer write sectorNum nbSectors qiov) address fresh qiov
        outcome) ↔
      nbSectors.toInt.toNat * 512 ≤ maxDataSize ∧
        (write = false → qiov.Consistent (asked sync syncEnd sectorNum)) := by
  constructor
  · rintro ⟨outcome, syncCompletes, asyncCompletes⟩
    obtain rfl := same.sync_unique syncCompletes
    have small : nbSectors.toInt.toNat * 512 ≤ maxDataSize := by
      by_contra large
      exact same.async_stuck (by omega) _ asyncCompletes
    refine ⟨small, ?_⟩
    obtain ⟨_, last, run, finished, ⟨coroutine, found, returned⟩, bytes, _⟩ :=
      asyncCompletes.reached Machine.Run.start
    have onTheWay := run.invariant (fun _ state => AsyncState.OnTheWay asyncEnd async _ state)
      (same.onTheWay fresh small nonzero free)
      fun _ _ _ _ _ kept permitted stepped => kept.step permitted stepped
    exact (same.outcome onTheWay (finished.served ()) found returned).2.2.mp bytes
  · rintro ⟨small, consistent⟩
    refine ⟨_, same.sync_completes, ?_⟩
    have entered := same.onTheWay fresh small nonzero free
    obtain ⟨_, following⟩ := id entered
    have settles := (following.inv.settles following.sound).strengthen
      (AsyncState.OnTheWay asyncEnd async _)
      (fun _ _ _ _ kept permitted stepped => kept.step permitted stepped) entered
    refine settles.mono ?_
    rintro after ⟨ends, onTheWay⟩
    obtain ⟨_, following⟩ := id onTheWay
    have finished := ends.resolve_left (not_not.mpr following.ranged.running)
    obtain ⟨coroutine, found, _⟩ := following.followed.single.call
    have isReturned := finished.returned () 0 coroutine found
    cases pc : coroutine.pc with
    | returned ret =>
        obtain ⟨ret_eq, content, bytes⟩ :=
          same.outcome onTheWay (finished.served ()) found pc
        exact ⟨finished, ⟨coroutine, found, by rw [pc, ret_eq]⟩, bytes.mpr consistent, content⟩
    | sending request => simp [pc, CoPc.isReturned] at isReturned
    | callback => simp [pc, CoPc.isReturned] at isReturned
    | yielding => simp [pc, CoPc.isReturned] at isReturned
    | yielded => simp [pc, CoPc.isReturned] at isReturned
    | entered => simp [pc, CoPc.isReturned] at isReturned

end SameTransfer

/-! Transfers between volumes full of ones and memories full of threes. -/

def AsyncState.sampleOf (fileSize : Nat) : AsyncState Unit Unit :=
  { AsyncState.sample with exchange := .sample fileSize [] }

theorem AsyncState.sampleOf_started (fileSize : Nat) :
    (sampleOf fileSize).Started fun _ => .sample where
  wired := Exchange.sample_wired fileSize [] (by simp)
  running := rfl
  clients := sample_started.clients
  requests := fun _ => by rw [view, sampleOf, Exchange.sample_service]
  replies := fun _ => by rw [view, sampleOf, Exchange.sample_service]

theorem SameTransfer.sample {fileSize : Nat} (write : Bool) {nbSectors : Int32} {qiov : Qiov}
    (aligned : isRequestAligned 0 nbSectors = true) (inside : SectorsInside 0 nbSectors fileSize)
    (total : qiov.total = nbSectors.toInt.toNat * 512) :
    SameTransfer (.sample fileSize []) .sample (.sampleOf fileSize) .sample write 0 nbSectors 100
      qiov where
  ready := SyncState.sample_ready fileSize [] (by simp) (by simp)
  idle := by rw [SyncState.sample_service]
  started := AsyncState.sampleOf_started fileSize
  content := by
    rw [AsyncState.content, AsyncState.view, AsyncState.sampleOf, Exchange.sample_service,
      SyncState.sample_service]
  aligned := aligned
  inside := by
    rw [SyncState.sample_service]
    exact inside
  total := total
  data := by
    intro _
    have length : qiov.addresses.length = nbSectors.toInt.toNat * 512 := total
    simp [flatBytes, Qiov.gather, SyncState.sample, AsyncState.sampleOf, AsyncState.sample,
      List.map_const', length]

/-- A read of one block into two segments. -/
theorem SameTransfer.sample_agree : ∃ outcome,
    (SyncState.sample 8192 []).Completes .sample (cvbdRead 0 8 100) outcome ∧
      (AsyncState.sampleOf 8192).Completes .sample
        (.readv 0 8 [⟨5000, 1000⟩, ⟨100, 3096⟩]) 64 ⟨0, 0, 0, none, false, false⟩
        [⟨5000, 1000⟩, ⟨100, 3096⟩] outcome := by
  have same : SameTransfer (.sample 8192 []) .sample (.sampleOf 8192) .sample false 0 8 100
      [⟨5000, 1000⟩, ⟨100, 3096⟩] :=
    .sample false (by decide) ⟨by decide, by decide, by decide, by decide⟩ (by simp [Qiov.total])
  refine (same.agree_iff _ (by decide) rfl).mpr ⟨by decide, fun _ => ?_⟩
  refine Qiov.consistent_of_nodup ?_ _
  simp only [Qiov.addresses_cons, Qiov.addresses_nil, List.append_nil]
  refine List.nodup_append.mpr ⟨List.nodup_range', List.nodup_range', ?_⟩
  intro left inFirst right inSecond
  simp only [List.mem_range'_1] at inFirst inSecond
  omega

/-- A write of 1032 sectors is carried out in two messages on the one path, and ends the client in
`send_writev` on the other. -/
theorem SameTransfer.long_disagree :
    ∃ (sync : SyncState) (async : AsyncState Unit Unit) (qiov : Qiov),
      SameTransfer sync .sample async .sample true 0 1032 100 qiov ∧
      (async.clients ()).heap 64 = none ∧ qiov.addresses.Nodup ∧
      sync.Completes .sample (cvbdWrite 0 1032 100) (sync.outcome .sample true 0 1032 100) ∧
      ∀ fresh outcome, ¬async.Completes .sample (.writev 0 1032 qiov) 64 fresh qiov outcome := by
  have same : SameTransfer (.sample 528384 []) .sample (.sampleOf 528384) .sample true 0 1032 100
      [⟨100, 528384⟩] :=
    .sample true (by decide) ⟨by decide, by decide, by decide, by decide⟩ (by simp [Qiov.total])
  refine ⟨_, _, _, same, rfl, ?_, same.sync_completes, fun fresh outcome => ?_⟩
  · simp [List.nodup_range']
  · exact same.async_stuck (by decide) outcome

end Cvbd
