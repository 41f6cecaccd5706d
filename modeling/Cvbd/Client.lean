import Cvbd.ClientCore
import Cvbd.WireFidelity

/-! What the server will find in the messages of a client, whatever its request buffer held. -/

namespace Cvbd

namespace Wire

theorem receive_self (message : Message) : receive message.bytes message = message.bytes := by
  funext index
  by_cases inside : index < message.size
  · exact receive_inside _ _ inside
  · exact Region.copy_outside (by omega)

end Wire

namespace SharedMemClient

open Wire

variable (client : SharedMemClient)

theorem post_readMessage (volume acb : UInt64) (offset : Int64) (sizeInBytes : UInt64) :
    (client.post fun old id => readMessage old id volume acb offset sizeInBytes).1 =
      .read ⟨⟨false, .reqRead, client.id + 1, volume, acb⟩, offset, sizeInBytes⟩ := by
  simp only [post]
  rw [← receive_self, viewRequest_readMessage]

theorem post_writeMessage (volume acb : UInt64) (offset : Int64) (sizeInBytes : UInt64)
    (data : Bytes) (fits : sizeInBytes.toNat ≤ maxDataSize) :
    ∃ received,
      (client.post fun old id => writeMessage old id volume acb offset sizeInBytes data).1 =
        .write ⟨⟨false, .reqWrite, client.id + 1, volume, acb⟩, offset, sizeInBytes, received⟩ ∧
      ∀ index, index < sizeInBytes.toNat → received index = data index := by
  simp only [post]
  rw [← receive_self]
  exact viewRequest_writeMessage _ _ _ _ _ _ _ _ fits

theorem post_headerMessage (type : RequestType) (volume acb : UInt64) :
    viewHeader (client.post fun old id => headerMessage old type id volume acb).2.requestMsg =
      ⟨false, type, client.id + 1, volume, acb⟩ := by
  simp only [post]
  rw [← receive_self, viewHeader_headerMessage]

theorem sendClose_request : client.sendClose.1 =
    .close ⟨⟨false, .reqClose, client.id + 1, client.volume, 0⟩⟩ := by
  have header := client.post_headerMessage .reqClose client.volume 0
  simp only [post] at header
  simp [sendClose, post, viewRequest, header]

theorem sendGetsize_request : client.sendGetsize.1 =
    .getsize ⟨⟨false, .reqGetsize, client.id + 1, client.volume, 0⟩⟩ := by
  have header := client.post_headerMessage .reqGetsize client.volume 0
  simp only [post] at header
  simp [sendGetsize, post, viewRequest, header]

theorem sendFsync_request (acb : UInt64) : (client.sendFsync acb).1 =
    .fsync ⟨⟨false, .reqFsync, client.id + 1, client.volume, acb⟩⟩ := by
  have header := client.post_headerMessage .reqFsync client.volume acb
  simp only [post] at header
  simp [sendFsync, post, viewRequest, header]

theorem sendOpen_request : client.sendOpen.1 =
    .openVolume ⟨⟨false, .reqOpen, client.id + 1, client.volume, 0⟩,
      viewVolumeName client.sendOpen.2.requestMsg,
      viewReplyMqName client.sendOpen.2.requestMsg⟩ := by
  simp only [sendOpen, post]
  conv_lhs => rw [← receive_self, receive_openMessage, receive_self]

end SharedMemClient

end Cvbd
