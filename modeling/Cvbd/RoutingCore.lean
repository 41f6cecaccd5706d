import Cvbd.SessionTotal

/-!
Where the replies of the server go. The server attaches the reply queue by its
name when it handles an OPEN, so between the creation of the queue and that
moment the name must stay.
-/

namespace Cvbd

/-- The byte behind the place of the reply-queue name in the request buffer is zero already. -/
def SharedMemClient.Terminated (client : SharedMemClient) : Prop :=
  client.requestMsg (Wire.replyMqNameStart + client.volumeName.length) = 0

namespace Session

variable {Client : Type} [DecidableEq Client]

/-- The client has made its reply queue, and the server has not yet handled its OPEN. -/
def AwaitsAttach (setting : Setting Client) (session : Session Client) (client : Client) : Prop :=
  session.stage client = .made ∨
    ∃ envelope ∈ session.exchange.inFlight (setting.index client) client, ∃ req,
      envelope.body = .openVolume req

/-- The name in an OPEN arrives. -/
def Terminates (session : Session Client) : SessionLabel Client → Prop
  | .sendOpen client => (session.shared client).Terminated ∧
      ∃ name : FileName, (session.shared client).volumeName = name.bytes
  | _ => True

/-- No client removes a name that another client's OPEN still needs. -/
def Undisturbed (setting : Setting Client) (session : Session Client) : SessionLabel Client → Prop
  | .remove client | .destroy client => ∀ other, other ≠ client →
      setting.volumeName other = setting.volumeName client → ¬session.AwaitsAttach setting other
  | _ => True

/-- Replies go to the clients that asked. -/
structure Routed (session : Session Client) : Prop where
  attach : ∀ index request req, session.exchange.thread index = .hand request →
    request.body = .openVolume req → ∃ name mq, req.replyMqName = some name ∧
      session.exchange.world.mqNames name = some mq ∧ session.mq request.sender = some mq
  noThrow : session.exchange.fault ≠ some .exception
  sending : ∀ index mq envelope closing,
    session.exchange.thread index = .sending mq envelope closing →
    session.mq envelope.sender = some mq
  replied : ∀ mq envelope, envelope ∈ session.exchange.replyMq mq →
    session.mq envelope.sender = some mq
  own : ∀ left right mq, session.mq left = some mq → session.mq right = some mq → left = right

end Session

end Cvbd
