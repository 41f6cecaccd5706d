import Cvbd.RoutingTotal

/-!
Which reply a synchronous client takes. It never looks at `id_` but takes the
next reply in its queue, so that one must answer the request it waits on.
-/

namespace Cvbd

/-- The request whose reply the client waits for. -/
def Stage.waitsFor : Stage → Option Request
  | .opening request | .waiting request => some request
  | _ => none

structure Setting.Synchronous {Client : Type} (setting : Setting Client) : Prop where
  kind : ∀ client, setting.kind client = .sync
  distinct : ∀ left right, setting.volumeName left = setting.volumeName right → left = right

/-- The POSIX calls of a handler succeed, `pread` in full where the range lies inside the file. -/
def Kernel.Succeeds (kernel : Kernel) (world : World) : Request → Prop
  | .openVolume _ => IOHandler.descriptor kernel ≠ none
  | .write req => kernel.pwrite = .ok req.sizeInBytes.toNat
  | .read req => ∀ volState, world.volumes req.header.volume = some volState →
      Inside (world.content volState.fd) req.offset req.sizeInBytes →
      kernel.pread = .ok req.sizeInBytes.toNat
  | _ => True

/-- The READ lies inside the length that OPEN gives a volume, or inside the file as it has grown. -/
def World.InRange (world : World) : Request → Prop
  | .read req => 0 ≤ req.offset.toInt ∧
      (req.offset.toInt.toNat + req.sizeInBytes.toNat ≤ 2 ^ 34 ∨
        ∀ volState, world.volumes req.header.volume = some volState →
          Inside (world.content volState.fd) req.offset req.sizeInBytes)
  | _ => True

namespace Session

variable {Client : Type} [DecidableEq Client]

/-- Reads are in range, and the kernel answers as POSIX allows and without failures. -/
def Regular (session : Session Client) (label : SessionLabel Client) : Prop :=
  session.Valid label ∧
    match label with
    | .server (.handle index kernel) => ∀ request, session.exchange.thread index = .hand request →
        kernel.Succeeds session.exchange.world request.body ∧
          session.exchange.world.InRange request.body
    | _ => True

/-- The request is queued or in hand, or its reply is on the way to the client's own queue or in
it. -/
def Underway (setting : Setting Client) (session : Session Client) (client : Client)
    (request : Request) : Prop :=
  (∃ envelope ∈ session.exchange.inFlight (setting.index client) client,
    envelope.body = request) ∨
  ∃ mq reply, session.mq client = some mq ∧ request.AnsweredBy reply.body ∧
    (reply ∈ session.exchange.replyMq mq ∨ ∃ closing,
      session.exchange.thread (setting.index client) = .sending mq reply closing)

/-- Every reply is the one its client waits for. -/
structure Matched (setting : Setting Client) (session : Session Client) : Prop where
  alive : session.exchange.fault = none
  asserts : ∀ client, session.stage client ≠ .mismatched
  matching : ∀ client mq reply, session.mq client = some mq →
    reply ∈ session.exchange.replyMq mq → reply.sender = client ∧
      ∃ request, (session.stage client).waitsFor = some request ∧
        reply.body.header.id = request.header.id ∧ reply.body.header.type = request.header.type
  single : ∀ client mq, session.mq client = some mq → (session.exchange.replyMq mq).length ≤ 1
  unblocked : ∀ index mq reply closing,
    session.exchange.thread index = .sending mq reply closing →
    (session.exchange.replyMq mq).length < maxQueueSize
  underway : ∀ client request, (session.stage client).waitsFor = some request →
    session.Underway setting client request

end Session

end Cvbd
