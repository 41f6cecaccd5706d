import Cvbd.Client
import Cvbd.MatchingChecks
import Cvbd.PlainReadCore

/-! What the two receivers find in the reply object, and what the reply thread does with it. -/

namespace Cvbd

namespace Wire

open LittleEndian

theorem viewReadSize_readReply (old serverOld : Bytes) (reply : ReadReply) :
    viewReadSize (receive old (replyMessage serverOld (.read reply))) = reply.sizeInBytes := by
  have inside : 32 + 8 ≤ readreplySize := Nat.le_add_right 40 maxDataSize
  simp only [viewReadSize, receive, replyMessage]
  rw [load_overlay inside, load_copy_disjoint (by omega), load_store _ _ (uint64_fits _)]
  simp

theorem viewReadData_readReply (old serverOld : Bytes) {reply : ReadReply} {index : Nat}
    (small : reply.sizeInBytes.toNat ≤ maxDataSize) (below : index < reply.sizeInBytes.toNat) :
    viewReadData (receive old (replyMessage serverOld (.read reply))) index = reply.data index := by
  have inside : 40 + index < readreplySize := by
    unfold readreplySize
    omega
  simp only [viewReadData]
  rw [receive_inside old _ inside]
  exact Region.copy_add _ _ _ _ _ below

theorem viewFsyncErr_fsyncReply (old serverOld : Bytes) (reply : FsyncReply) :
    viewFsyncErr (receive old (replyMessage serverOld (.fsync reply))) = reply.err := by
  have fits : reply.err.toUInt32.toNat < 256 ^ 4 := reply.err.toUInt32.toNat_lt
  simp only [viewFsyncErr, receive, replyMessage]
  rw [load_overlay (by decide), load_store _ _ fits]
  simp [UInt32.toInt32]

/-- A message that ends before the data leaves them alone. -/
theorem viewReadData_short (old : Bytes) {message : Message} (short : message.size ≤ 40)
    (index : Nat) : viewReadData (receive old message) index = viewReadData old index := by
  simp only [viewReadData, receive]
  exact Region.copy_outside (by omega)

end Wire

namespace PlainRead

variable {heap : UInt64 → Option Acb} {sent got reply : Reply}

theorem seenAs_receive (old serverOld : Bytes) (completes : Completes heap reply) :
    SeenAs reply (Wire.viewReply reply.header
      (Wire.receive old (Wire.replyMessage serverOld reply))) := by
  obtain ⟨_, fits⟩ := completes
  cases reply with
  | read reply =>
      obtain ⟨type, _, small, _⟩ := fits
      simp only [Reply.header, Wire.viewReply, type]
      exact ⟨rfl, Wire.viewReadSize_readReply old serverOld reply,
        fun index below => Wire.viewReadData_readReply old serverOld small below⟩
  | fsync reply =>
      simp only [Reply.header, Wire.viewReply, fits.1]
      exact ⟨rfl, Wire.viewFsyncErr_fsyncReply old serverOld reply⟩
  | getsize reply =>
      simp only [Reply.header, Wire.viewReply, fits]
      rfl
  | openVolume reply =>
      simp only [Reply.header, Wire.viewReply, fits]
      rfl

/-- What is seen can be completed as what was sent. -/
theorem Completes.seenAs (completes : Completes heap sent) (seen : SeenAs sent got) :
    Completes heap got ∧ got.header = sent.header := by
  cases sent <;> cases got <;> simp_all [Completes, SeenAs, Reply.header]

end PlainRead

/-- Control blocks stay live, with their vectors and callbacks. -/
def HeapKept (old new : UInt64 → Option Acb) : Prop :=
  ∀ address acb, old address = some acb → ∃ kept, new address = some kept ∧
    kept.callback = acb.callback ∧ kept.qiov = acb.qiov

namespace HeapKept

variable {old new : UInt64 → Option Acb}

theorem refl (heap : UInt64 → Option Acb) : HeapKept heap heap :=
  fun _ acb found => ⟨acb, found, rfl, rfl⟩

theorem update {address : UInt64} {acb other : Acb} (found : old address = some acb)
    (callback : other.callback = acb.callback) (qiov : other.qiov = acb.qiov) :
    HeapKept old (Function.update old address (some other)) := by
  intro target block lookup
  by_cases same : target = address
  · subst same
    rw [found] at lookup
    obtain rfl := Option.some.inj lookup
    exact ⟨other, by simp, callback, qiov⟩
  · exact ⟨block, by simpa [same] using lookup, rfl, rfl⟩

theorem completes (kept : HeapKept old new) {reply : Reply}
    (completes : PlainRead.Completes old reply) : PlainRead.Completes new reply := by
  obtain ⟨stop, fits⟩ := completes
  refine ⟨stop, ?_⟩
  cases reply with
  | read reply =>
      obtain ⟨type, nonzero, small, acb, found, callback, qiov⟩ := fits
      obtain ⟨block, lookup, sameCallback, sameQiov⟩ := kept _ acb found
      exact ⟨type, nonzero, small, block, lookup, by rw [sameCallback, callback],
        by rw [sameQiov]; exact qiov⟩
  | fsync reply =>
      obtain ⟨type, nonzero, acb, found, callback⟩ := fits
      obtain ⟨block, lookup, sameCallback, _⟩ := kept _ acb found
      exact ⟨type, nonzero, block, lookup, by rw [sameCallback, callback]⟩
  | getsize reply => exact fits
  | openVolume reply => exact fits

end HeapKept

namespace AsyncClient

variable {client : AsyncClient} {reply : Reply}

theorem handleCoReply_completes (completes : PlainRead.Completes client.heap reply) :
    (client.handleCoReply reply).fault = client.fault ∧
      HeapKept client.heap (client.handleCoReply reply).heap ∧
      PlainRead.ThreadLive (client.handleCoReply reply) ∧
      (client.handleCoReply reply).replyThread.pending = reply.callbacks := by
  obtain ⟨stop, fits⟩ := completes
  cases reply with
  | read reply =>
      obtain ⟨type, nonzero, _, acb, found, callback, qiov⟩ := fits
      obtain ⟨iov, vector⟩ := Option.ne_none_iff_exists'.mp qiov
      obtain ⟨memory, copied, _⟩ :=
        iovFromBuf_spec iov reply.data reply.sizeInBytes.toNat client.memory
      simp only [Reply.header] at stop
      simp only [handleCoReply, Reply.header, stop, Bool.false_eq_true, if_false, type, nonzero,
        found, vector, copied]
      refine ⟨rfl, HeapKept.update found rfl vector.symm, ?_, ?_⟩
      · exact Or.inr ⟨_, _, _, rfl, Function.update_self .., callback⟩
      · simp [ReplyThread.pending, Reply.callbacks, Reply.header, type]
  | fsync reply =>
      obtain ⟨type, nonzero, acb, found, callback⟩ := fits
      simp only [Reply.header] at stop
      simp only [handleCoReply, Reply.header, stop, Bool.false_eq_true, if_false, type, nonzero,
        found]
      refine ⟨rfl, HeapKept.update found rfl rfl, ?_, ?_⟩
      · exact Or.inr ⟨_, _, _, rfl, Function.update_self .., callback⟩
      · simp [ReplyThread.pending, Reply.callbacks, Reply.header, type]
  | getsize reply =>
      simp only [Reply.header] at stop
      simp only [handleCoReply, Reply.header, stop, Bool.false_eq_true, if_false, fits]
      refine ⟨trivial, HeapKept.refl _, Or.inl rfl, ?_⟩
      simp [ReplyThread.pending, Reply.callbacks, Reply.header, fits]
  | openVolume reply =>
      simp only [Reply.header] at stop
      simp only [handleCoReply, Reply.header, stop, Bool.false_eq_true, if_false, fits]
      refine ⟨trivial, HeapKept.refl _, Or.inl rfl, ?_⟩
      simp [ReplyThread.pending, Reply.callbacks, Reply.header, fits]

theorem finish_completes {address : UInt64} {acb : Acb} (ret : Int32)
    (found : client.heap address = some acb) (callback : acb.callback = true) :
    (client.finish address ret).fault = client.fault ∧
      HeapKept client.heap (client.finish address ret).heap ∧
      (client.finish address ret).replyThread = .idle := by
  simp only [finish, found, callback, if_true]
  refine ⟨rfl, HeapKept.update found ?_ ?_, trivial⟩
  · unfold cvbdFinishAio
    split
    · rfl
    · split <;> rfl
  · unfold cvbdFinishAio
    split
    · rfl
    · split <;> rfl

end AsyncClient

theorem RepliesTo.answeredBy {request : Request} {reply : Reply} (replies : RepliesTo request reply) :
    request.AnsweredBy reply := by
  obtain ⟨world, kernel, after, mq, closing, handled⟩ := replies
  have handling := IOHandler.handle_spec world kernel request
  rw [handled] at handling
  exact handling.answers

/-- A READ is answered with a reply of the same header and size. -/
theorem RepliesTo.read {req : ReadRequest} {reply : Reply} (replies : RepliesTo (.read req) reply) :
    ∃ answer : ReadReply, reply = .read answer ∧ answer.header = req.header ∧
      answer.sizeInBytes = req.sizeInBytes := by
  have answers := replies.answeredBy
  cases reply with
  | read answer => exact ⟨answer, rfl, answers⟩
  | openVolume answer => exact answers.elim
  | getsize answer => exact answers.elim
  | fsync answer => exact answers.elim

theorem RepliesTo.fsync {req : HeaderRequest} {reply : Reply}
    (replies : RepliesTo (.fsync req) reply) :
    ∃ answer : FsyncReply, reply = .fsync answer ∧ answer.header = req.header := by
  have answers := replies.answeredBy
  cases reply with
  | fsync answer => exact ⟨answer, rfl, answers⟩
  | read answer => exact answers.elim
  | openVolume answer => exact answers.elim
  | getsize answer => exact answers.elim

end Cvbd
