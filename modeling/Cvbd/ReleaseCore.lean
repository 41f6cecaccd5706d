import Cvbd.SequencerCore
import Cvbd.SessionTotal

/-!
What clients leave behind on the server. A client that has been refused, has
closed its volume or is destroyed keeps nothing there, as soon as the server has
worked off what was sent to it.
-/

namespace Cvbd

/-- A client at this stage may have an open volume, or an open reply to come. -/
def Stage.keeps : Stage → Bool
  | .opening _ | .opened | .waiting _ | .aborted | .mismatched => true
  | .outside | .removed | .made | .refused | .closed | .destroyed | .failed => false

/-- The client sends nothing any more. -/
def Stage.leaves : Stage → Bool
  | .refused | .closed | .destroyed => true
  | .outside | .removed | .made | .opening _ | .opened | .waiting _ | .failed | .aborted
  | .mismatched => false

namespace Session

variable {Client : Type} [DecidableEq Client]

/-- The server has worked off the clients' requests. -/
structure Quiet (setting : Setting Client) (session : Session Client) : Prop where
  noRequests : ∀ client, session.exchange.requestMq (setting.index client) = []
  idle : ∀ client, session.exchange.thread (setting.index client) = .idle

/-- Every descriptor is that of a `VolumeState`, and every `VolumeState` that of a client that
keeps its volume. -/
structure Accounted (session : Session Client) : Prop where
  descriptors : ∀ fd name, session.exchange.world.fds fd = some name →
    ∃ volume volState, session.exchange.world.volumes volume = some volState ∧ volState.fd = fd ∧
      volState.volumeName = name
  volumes : ∀ volume volState, session.exchange.world.volumes volume = some volState →
    ∃ client, session.exchange.owner volume = some client ∧
      (session.stage client).keeps = true

/-- The account of a client that leaves: it never asked, its OPEN was refused, or its CLOSE is on
its way or has been handled. -/
def Settled (setting : Setting Client) (session : Session Client) (client : Client) : Prop :=
  (session.answers client = [] ∧
      ∀ envelope ∈ session.exchange.inFlight (setting.index client) client, ∀ req,
        envelope.body ≠ .openVolume req) ∨
    ∃ reply, session.answers client = [reply] ∧ (reply.err ≠ 0 ∨
      (∃ envelope ∈ session.exchange.inFlight (setting.index client) client, ∃ req,
        envelope.body = .close req) ∨ 1 ≤ session.deleted client)

/-- A refused `VolumeState` is about to be deleted, and clients leave with settled accounts. -/
structure Releasing (setting : Setting Client) (session : Session Client) : Prop where
  owned : ∀ volume volState, session.exchange.world.volumes volume = some volState →
    ∃ client, session.exchange.owner volume = some client
  refused : ∀ client reply, reply ∈ session.answers client → reply.err ≠ 0 →
    session.Holds client reply.volume →
    (session.exchange.thread (setting.index client)).doomed = some reply.volume
  settled : ∀ client, (session.stage client).leaves = true → session.Settled setting client

end Session

end Cvbd
