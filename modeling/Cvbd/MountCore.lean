import Cvbd.DiskCore
import Cvbd.DrainCore

/-!
From the OPEN protocol to the disks: which file a client's volume is, and where
the client is connected once its volume is open.
-/

namespace Cvbd

/-- The byte behind the place of the volume name in the request buffer is zero already. -/
def SharedMemClient.Whole (client : SharedMemClient) : Prop :=
  client.requestMsg (Wire.volumeNameStart + client.volumeName.length) = 0

namespace Session

variable {Client : Type} [DecidableEq Client]

/-- The volume name in an OPEN arrives as well. -/
def NamesVolume (session : Session Client) : SessionLabel Client → Prop
  | .sendOpen client => (session.shared client).Whole
  | _ => True

/-- Clients get the files of their own names. -/
structure Mounts (setting : Setting Client) (session : Session Client) : Prop where
  asked : ∀ client req, .openVolume req ∈ session.requests setting client →
    req.volumeName = some (setting.volumeName client)
  volumes : ∀ client volume volState, session.exchange.world.volumes volume = some volState →
    session.exchange.owner volume = some client →
    volState.volumeName = setting.volumeName client

/-- Where a client that has opened its volume is connected. -/
def endpoint (setting : Setting Client) (session : Session Client) (client : Client) :
    Endpoint Nat where
  index := setting.index client
  volume := (session.shared client).volume
  name := setting.volumeName client
  fd := ((session.exchange.world.volumes (session.shared client).volume).map VolumeState.fd).getD 0
  mq := (session.mq client).getD 0

/-- The drivers over the clients of the session; none has been called yet. -/
def disks (session : Session Client) (memory : Client → Bytes) : DisksState Nat Client where
  exchange := session.exchange
  disks := fun client => ⟨session.shared client, memory client, cvbdRead 0 0 0, .returned 0⟩

/-- The bytes of the file of that name. -/
def fileContent (session : Session Client) (name : Name) : File :=
  ((session.exchange.world.files name).map VolumeFile.content).getD File.empty

end Session

end Cvbd
