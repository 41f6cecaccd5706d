import Cvbd.WireFidelity

/-!
Byte layout of the replies. `handle_requests` fills one `Reply` object for all
requests, and a client receives every reply into one object of its own; the
members of the union overlay each other there.
-/

namespace Cvbd

namespace Wire

open LittleEndian

/-- What a handler stores in the server's reply object `old`, and how much of it is sent. The
fsync handler sends `getsizereply_size` bytes. -/
def replyMessage (old : Bytes) : Reply → Message
  | .read reply =>
      ⟨Region.copy (store (storeHeader old reply.header) 32 8 reply.sizeInBytes.toNat) 40 reply.data
        reply.sizeInBytes.toNat, readreplySize⟩
  | .openVolume reply =>
      ⟨store (store (storeHeader old reply.header) 32 8 reply.volume.toNat) 40 4
        reply.err.toUInt32.toNat, openreplySize⟩
  | .getsize reply =>
      ⟨store (storeHeader old reply.header) 32 8 reply.sizeInBytes.toUInt64.toNat, getsizereplySize⟩
  | .fsync reply =>
      ⟨store (storeHeader old reply.header) 32 4 reply.err.toUInt32.toNat, getsizereplySize⟩

/-! The fields a client reads from its reply object. `OpenReply::volume`,
`GetSizeReply::size_in_bytes` and `ReadReply::size_in_bytes` are the same eight bytes. -/

def viewVolume (bytes : Bytes) : UInt64 := UInt64.ofNat (load bytes 32 8)
def viewOpenErr (bytes : Bytes) : Int32 := (UInt32.ofNat (load bytes 40 4)).toInt32
def viewGetsize (bytes : Bytes) : Int64 := (UInt64.ofNat (load bytes 32 8)).toInt64

theorem replyMessage_long (old : Bytes) (reply : Reply) :
    headerSize ≤ (replyMessage old reply).size := by
  cases reply with
  | read reply => exact Nat.le_trans (by decide : 32 ≤ 40) (Nat.le_add_right 40 maxDataSize)
  | openVolume reply => exact (by decide : 32 ≤ 48)
  | getsize reply => exact (by decide : 32 ≤ 40)
  | fsync reply => exact (by decide : 32 ≤ 40)

theorem viewHeader_reply (old serverOld : Bytes) (reply : Reply) :
    viewHeader (receive old (replyMessage serverOld reply)) = reply.header := by
  rw [viewHeader_receive old (replyMessage_long serverOld reply)]
  cases reply with
  | read reply =>
      simp only [replyMessage, store]
      rw [viewHeader_copy _ _ (by decide), viewHeader_copy _ _ (by decide), viewHeader_storeHeader]
      rfl
  | openVolume reply =>
      simp only [replyMessage, store]
      rw [viewHeader_copy _ _ (by decide), viewHeader_copy _ _ (by decide), viewHeader_storeHeader]
      rfl
  | getsize reply =>
      simp only [replyMessage, store]
      rw [viewHeader_copy _ _ (by decide), viewHeader_storeHeader]
      rfl
  | fsync reply =>
      simp only [replyMessage, store]
      rw [viewHeader_copy _ _ (by decide), viewHeader_storeHeader]
      rfl

theorem viewVolume_openReply (old serverOld : Bytes) (reply : OpenReply) :
    viewVolume (receive old (replyMessage serverOld (.openVolume reply))) = reply.volume := by
  simp only [viewVolume, receive, replyMessage]
  rw [load_overlay (by decide), load_store_disjoint (by omega), load_store _ _ (uint64_fits _)]
  simp

theorem viewOpenErr_openReply (old serverOld : Bytes) (reply : OpenReply) :
    viewOpenErr (receive old (replyMessage serverOld (.openVolume reply))) = reply.err := by
  have fits : reply.err.toUInt32.toNat < 256 ^ 4 := reply.err.toUInt32.toNat_lt
  simp only [viewOpenErr, receive, replyMessage]
  rw [load_overlay (by decide), load_store _ _ fits]
  simp [UInt32.toInt32]

theorem viewGetsize_getsizeReply (old serverOld : Bytes) (reply : GetSizeReply) :
    viewGetsize (receive old (replyMessage serverOld (.getsize reply))) = reply.sizeInBytes := by
  simp only [viewGetsize, receive, replyMessage]
  rw [load_overlay (by decide), load_store _ _ (uint64_fits _)]
  simp [UInt64.toInt64]

end Wire

end Cvbd
