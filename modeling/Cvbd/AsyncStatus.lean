import Cvbd.AsyncInv

/-!
The status of a call. It is encoded twice, in the argument of the callback and
in `acb->ret`, by the reply thread or by `send_writev`, and decoded by
`cvbd_finish_aio`; the coroutine returns what is left in `acb->ret`.
-/

namespace Cvbd

/-- What completes a call: the reply the reply thread has received, or the send of a write. -/
inductive Completion
  | read (reply : ReadReply)
  | fsync (reply : FsyncReply)
  | write

namespace Completion

/-- The status a call with `acb->size = size` owes its caller for this completion. -/
def Honest (size : UInt64) (ret : Int32) : Completion → Prop
  | .read reply => (ret = 0 ↔ reply.sizeInBytes = size) ∧ (reply.sizeInBytes ≠ size → ret < 0) ∧
      (reply.sizeInBytes < size → ret = eio.negative)
  | .fsync reply => (ret = 0 ↔ reply.err = 0) ∧ (reply.err ≠ 0 → ret = reply.err)
  | .write => ret = 0

/-- A read has been answered in full, and a flush with no positive error. -/
def Whole (size : UInt64) : Completion → Prop
  | .read reply => reply.sizeInBytes = size
  | .fsync reply => reply.err ≤ 0
  | .write => True

/-- The steps from the completion to the return of the call. -/
def labels (address : UInt64) : Completion → List LocalLabel
  | .read _ | .fsync _ => [.copy, .finish, .bottomHalf address, .resume]
  | .write => [.callback, .yield, .bottomHalf address, .resume]

/-- What the steps tell about the call that returns `ret`. -/
def events (call : Nat) (ret : Int32) : Completion → List CallEvent
  | .read _ | .fsync _ => [.entered call, .returned call ret]
  | .write => [.yielded call, .entered call, .returned call ret]

end Completion

namespace AsyncClient

/-- A sequence of local steps and the events it emits. -/
def locally : AsyncClient → List LocalLabel → Option (AsyncClient × List CallEvent)
  | client, [] => some (client, [])
  | client, label :: labels =>
      match client.localStep label with
      | none => none
      | some (after, events) =>
          match locally after labels with
          | none => none
          | some (last, rest) => some (last, events ++ rest)

/-- The call `call` waits with its control block at `address`, and its completion is next. -/
inductive Due (client : AsyncClient) (call : Nat) (address : UInt64) (acb : Acb) : Completion → Prop
  | read {tag reply qiov what data} (idle : client.current = none)
      (hand : client.replyThread = .hand tag (.read reply)) (going : reply.header.stop = false)
      (type : reply.header.type = .reqRead) (names : reply.header.acb = address)
      (nonzero : address ≠ 0) (vector : acb.qiov = some qiov)
      (waits : client.coroutines call = some ⟨what, data, address, .yielded⟩) :
      Due client call address acb (.read reply)
  | fsync {tag reply what data} (idle : client.current = none)
      (hand : client.replyThread = .hand tag (.fsync reply)) (going : reply.header.stop = false)
      (type : reply.header.type = .reqFsync) (names : reply.header.acb = address)
      (nonzero : address ≠ 0) (size : acb.size = 0)
      (waits : client.coroutines call = some ⟨what, data, address, .yielded⟩) :
      Due client call address acb (.fsync reply)
  | write {what data} (executes : client.current = some call)
      (sent : client.coroutines call = some ⟨what, data, address, .callback⟩) :
      Due client call address acb .write

variable {client : AsyncClient} {call : Nat} {address : UInt64} {acb : Acb}

theorem locally_cons {after last : AsyncClient} {label : LocalLabel} {labels : List LocalLabel}
    {events rest : List CallEvent} (stepped : client.localStep label = some (after, events))
    (continues : after.locally labels = some (last, rest)) :
    client.locally (label :: labels) = some (last, events ++ rest) := by
  simp [locally, stepped, continues]

theorem bottomHalf_returns {what : CoCall} {data : Bytes} (fault : client.fault = none)
    (idle : client.current = none) (live : client.heap address = some acb)
    (caller : acb.coroutine = call) (scheduled : address ∈ client.bhs)
    (waits : client.coroutines call = some ⟨what, data, address, .yielded⟩) :
    ∃ after, client.locally [.bottomHalf address, .resume] =
        some (after, [.entered call, .returned call acb.ret.toInt32]) ∧
      after.heap address = none ∧ after.memory = client.memory := by
  subst caller
  let entered := { (client.setAcb address (some { acb with bh := false })).setCoroutine
      acb.coroutine ⟨what, data, address, .entered⟩ with
    bhs := client.bhs.erase address
    current := some acb.coroutine }
  have wakes : client.localStep (.bottomHalf address) =
      some (entered, [.entered acb.coroutine]) := by
    simp [localStep, fault, idle, scheduled, completeAio, live, waits, entered, setAcb, setCoroutine]
  have returns : entered.locally [.resume] =
      some ((entered.resume acb.coroutine ⟨what, data, address, .entered⟩).1,
        [.returned acb.coroutine acb.ret.toInt32]) := by
    simp [locally, localStep, entered, fault, running, setAcb, setCoroutine, resume]
  refine ⟨_, locally_cons wakes returns, ?_, ?_⟩
  · simp [entered, resume, setAcb, setCoroutine]
  · simp [entered, resume, setAcb, setCoroutine]

theorem finish_returns {what : CoCall} {data : Bytes} {ret : Int32} (fault : client.fault = none)
    (idle : client.current = none) (finishing : client.replyThread = .finishing address ret)
    (live : client.heap address = some acb) (caller : acb.coroutine = call)
    (callback : acb.callback = true)
    (waits : client.coroutines call = some ⟨what, data, address, .yielded⟩) :
    ∃ after, client.locally [.finish, .bottomHalf address, .resume] =
        some (after, [.entered call, .returned call (cvbdFinishAio ret acb).ret.toInt32]) ∧
      after.heap address = none ∧ after.memory = client.memory := by
  have stepped : client.localStep .finish =
      some ({ client.finishAio address ret acb with replyThread := .idle }, []) := by
    simp [localStep, fault, finishing, finish, live, callback]
  obtain ⟨after, returns, freed⟩ := @bottomHalf_returns
    { client.finishAio address ret acb with replyThread := .idle } call address
    (cvbdFinishAio ret acb) what data fault idle (by simp [finishAio, setAcb])
    ((PrivateState.cvbdFinishAio_fields ret acb).1.trans caller) (by simp [finishAio]) waits
  exact ⟨after, locally_cons stepped returns, freed⟩

end AsyncClient

namespace Completion

theorem read_honest_iff {size : UInt64} {reply : ReadReply} :
    (Completion.read reply).Honest size 0 ↔ (Completion.read reply).Whole size := by
  constructor
  · intro honest
    exact honest.1.mp rfl
  · intro whole
    refine ⟨⟨fun _ => whole, fun _ => rfl⟩, fun different => absurd whole different, ?_⟩
    intro shorter
    rw [show reply.sizeInBytes = size from whole] at shorter
    exact absurd shorter (UInt64.lt_irrefl size)

/-- A flush returns the error of the reply, except that a positive one becomes `-EIO`. -/
theorem fsync_status {err : Int32} {acb : Acb} (size : acb.size = 0) :
    (cvbdFinishAio err { acb with ret := err.toInt64 }).ret.toInt32 =
      if err ≤ 0 then err else eio.negative := by
  unfold cvbdFinishAio
  by_cases success : err = 0 ∨ err.toInt64.toUInt64 = acb.size
  · have zero : err = 0 := by
      rcases success with zero | same
      · exact zero
      · rw [size] at same
        have widened : err.toInt64 = 0 := by simpa using congrArg UInt64.toInt64 same
        simpa using congrArg Int64.toInt32 widened
    simp [zero]
  · rw [if_neg success]
    by_cases negative : err < 0
    · simp [negative, Int32.le_of_lt negative]
    · have positive : ¬err ≤ 0 := by
        intro nonpos
        rw [not_or] at success
        exact success.1 (Int32.le_antisymm nonpos (Int32.not_lt.mp negative))
      simp [negative, positive]

theorem fsync_honest_iff {size : UInt64} {reply : FsyncReply} :
    (Completion.fsync reply).Honest size (if reply.err ≤ 0 then reply.err else eio.negative) ↔
      (Completion.fsync reply).Whole size := by
  simp only [Honest, Whole]
  by_cases nonpos : reply.err ≤ 0
  · simp [nonpos]
  · simp only [nonpos, if_false, iff_false]
    rintro ⟨_, carries⟩
    have nonzero : reply.err ≠ 0 := by
      intro zero
      exact nonpos (by rw [zero]; decide)
    rw [← carries nonzero] at nonpos
    exact nonpos (by decide)

end Completion

variable {client : AsyncClient} {call : Nat} {address : UInt64} {acb : Acb}

/-- A completed call returns and frees its control block; its status is honest exactly if a read
was answered in full and a flush with no positive error. What a read was sent is in its vector. -/
theorem AsyncClient.Due.honest_iff {completion : Completion}
    (due : client.Due call address acb completion) (fault : client.fault = none)
    (live : client.heap address = some acb) (caller : acb.coroutine = call)
    (callback : acb.callback = true) :
    ∃ after ret, client.locally (completion.labels address) =
        some (after, completion.events call ret) ∧ after.heap address = none ∧
      (completion.Honest acb.size ret ↔ completion.Whole acb.size) ∧
      ∀ reply qiov, completion = .read reply → acb.qiov = some qiov →
        qiov.Holds after.memory reply.data reply.sizeInBytes.toNat := by
  cases due with
  | @read tag reply qiov what data idle hand going type names nonzero vector waits =>
      obtain ⟨memory, copied, holds, _⟩ :=
        iovFromBuf_spec qiov reply.data reply.sizeInBytes.toNat client.memory
      let filled := { client.setAcb address (some { acb with ret := reply.sizeInBytes.toInt64 }) with
        memory
        replyThread := .finishing address 0 }
      have stepped : client.localStep .copy = some (filled, []) := by
        simp [localStep, fault, hand, handleCoReply, Reply.header, going, type, names, nonzero, live,
          vector, copied, filled]
      have filledLive : filled.heap address =
          some { acb with ret := reply.sizeInBytes.toInt64 } := by simp [filled, setAcb]
      obtain ⟨after, returns, freed, same⟩ :=
        @finish_returns filled call address _ what data 0 fault idle rfl filledLive caller callback waits
      refine ⟨after, 0, locally_cons stepped returns, freed, Completion.read_honest_iff, ?_⟩
      rintro _ _ ⟨⟩ found
      rw [vector] at found
      obtain rfl := Option.some.inj found
      rw [same]
      exact holds
  | @fsync tag reply what data idle hand going type names nonzero size waits =>
      let stored := { client.setAcb address (some { acb with ret := reply.err.toInt64 }) with
        replyThread := .finishing address reply.err }
      have stepped : client.localStep .copy = some (stored, []) := by
        simp [localStep, fault, hand, handleCoReply, Reply.header, going, type, names, nonzero, live,
          stored]
      have storedLive : stored.heap address = some { acb with ret := reply.err.toInt64 } := by
        simp [stored, setAcb]
      obtain ⟨after, returns, freed, _⟩ :=
        @finish_returns stored call address _ what data reply.err fault idle rfl storedLive caller callback waits
      rw [Completion.fsync_status size] at returns
      exact ⟨after, _, locally_cons stepped returns, freed, Completion.fsync_honest_iff,
        by rintro _ _ ⟨⟩⟩
  | @write what data executes sent =>
      let completed := (client.finishAio address 0 { acb with ret := acb.size.toInt64 }).setCoroutine
        call ⟨what, data, address, .yielding⟩
      have called : client.localStep .callback = some (completed, []) := by
        simp [localStep, fault, running, executes, sent, writeCallback, live, callback, completed]
      let waiting := { completed.setCoroutine call ⟨what, data, address, .yielded⟩ with
        current := none }
      have yields : completed.localStep .yield = some (waiting, [.yielded call]) := by
        simp [localStep, fault, running, executes, completed, waiting, finishAio, setCoroutine,
          setAcb]
      have finished : waiting.heap address =
          some (cvbdFinishAio 0 { acb with ret := acb.size.toInt64 }) := by
        simp [waiting, completed, setCoroutine, finishAio, setAcb]
      obtain ⟨after, returns, freed, _⟩ := @bottomHalf_returns waiting call address _ what data fault
        rfl finished caller (by simp [waiting, completed, setCoroutine, finishAio])
        (by simp [waiting, setCoroutine])
      refine ⟨after, 0, locally_cons called (locally_cons yields returns), freed, ?_, by rintro _ _ ⟨⟩⟩
      exact ⟨fun _ => trivial, fun _ => rfl⟩

/-! A read of 4096 bytes answered with `sizeInBytes`. -/

def ReadReply.sample (sizeInBytes : UInt64) : ReadReply :=
  ⟨⟨false, .reqRead, 1, 4096, 64⟩, sizeInBytes, fun _ => 7⟩

def AsyncClient.sampleAnswered (sizeInBytes : UInt64) : AsyncClient where
  shared := ⟨[118], 4096, 1, fun _ => 0⟩
  memory := fun _ => 0
  heap := Function.update (fun _ => none) 64 (some ⟨4096, 0, 0, some [⟨100, 4096⟩], true, false⟩)
  coroutines := Function.update (fun _ => none) 0
    (some ⟨.readv 0 8 [⟨100, 4096⟩], fun _ => 0, 64, .yielded⟩)
  next := 1
  current := none
  bhs := []
  replyThread := .hand 0 (.read (.sample sizeInBytes))
  fault := none

theorem AsyncClient.sample_due (sizeInBytes : UInt64) :
    (sampleAnswered sizeInBytes).Due 0 64 ⟨4096, 0, 0, some [⟨100, 4096⟩], true, false⟩
      (.read (.sample sizeInBytes)) :=
  .read rfl rfl rfl rfl rfl (by decide) rfl rfl

theorem AsyncClient.sample_honest_iff :
    ∃ after ret, (sampleAnswered 4096).locally [.copy, .finish, .bottomHalf 64, .resume] =
        some (after, [.entered 0, .returned 0 ret]) ∧ ret = 0 ∧ after.heap 64 = none := by
  obtain ⟨after, ret, returns, freed, honest, _⟩ :=
    (sample_due 4096).honest_iff rfl rfl rfl rfl
  exact ⟨after, ret, returns, (honest.mpr rfl).1.mpr rfl, freed⟩

/-- 512 of 4096 bytes are reported as success. -/
theorem AsyncClient.shortRead_notHonest :
    ¬∃ after ret, (sampleAnswered 512).locally ((Completion.read (.sample 512)).labels 64) =
        some (after, (Completion.read (.sample 512)).events 0 ret) ∧
      (Completion.read (.sample 512)).Honest 4096 ret := by
  rintro ⟨after, ret, returns, honest⟩
  have success : ((sampleAnswered 512).locally
      ((Completion.read (.sample 512)).labels 64)).map Prod.snd =
        some [.entered 0, .returned 0 0] := rfl
  rw [returns] at success
  obtain rfl : ret = 0 := by
    simpa [Completion.events] using success
  have full := honest.1.mp rfl
  simp [ReadReply.sample] at full

end Cvbd
