import Cvbd.Lib.Machine
import Cvbd.SessionCore

/-!
How clients and server find each other: the names of the message queues, the
constructor and the destructor of `SharedMemServer`, and those of any number of
`SharedMemClient` objects. `message_queue::remove` drops a name and leaves the
queue to those that have it open, `create_only` throws if the name is taken, and
`open_only` throws if it is not.
-/

namespace Cvbd

def vdRequestMqNameFormat : Name := "##equest_mq_".toList.map Char.toUInt8

/-- `str << i << vd_request_mq_name_format`. -/
def requestMqName (index : Nat) : Name :=
  (Nat.toDigits 10 index).map Char.toUInt8 ++ vdRequestMqNameFormat

/-- Who has made a queue; `leftover` is one of an earlier server or client. -/
inductive Mq (Client : Type)
  | leftover (number : Nat)
  | request (index : Nat)
  | reply (client : Client)

/-- The statement of `SharedMemServer` or `~SharedMemServer` that comes next. -/
inductive ServerPc
  | removing (index : Nat)
  | creating (index : Nat)
  | up
  | dropping (index : Nat)
  | down
  | failed

/-- Where a client stands. `refused` and `clashed` are constructors that `open_only` and
`create_only` have ended, `failed` is one that has thrown for want of something else, and
`threadless` one whose reply thread could not be started. -/
inductive ClientPc (Client : Type)
  | outside
  | removed
  | attached (mq : Mq Client)
  | created (mq : Mq Client)
  | constructed (mq : Mq Client)
  | destroyed
  | refused
  | clashed
  | failed
  | threadless
  | aborted

/-- The reply queue of the client stands under its name. -/
def ClientPc.named {Client : Type} : ClientPc Client → Bool
  | .created _ | .constructed _ | .threadless => true
  | .outside | .removed | .attached _ | .destroyed | .refused | .clashed | .failed | .aborted => false

structure Rendezvous (Client : Type) where
  names : Name → Option (Mq Client)
  server : ServerPc
  clients : Client → ClientPc Client

inductive RendezvousLabel (Client : Type)
  | server
  | remove (client : Client)
  | attach (client : Client)
  | create (client : Client)
  | start (client : Client)
  | fail (client : Client)
  | destroy (client : Client)

inductive RendezvousEvent (Client : Type)
  | up
  | shutdown
  | attached (client : Client) (mq : Mq Client)
  | refused (client : Client)

namespace Rendezvous

variable {Client : Type} [DecidableEq Client]

/-- Before the constructor of the server; the names are those of queues that others have left. -/
def start (leftovers : Name → Option Nat) : Rendezvous Client where
  names := fun name => (leftovers name).map .leftover
  server := .removing 0
  clients := fun _ => .outside

def setName (state : Rendezvous Client) (name : Name) (mq : Option (Mq Client)) :
    Rendezvous Client :=
  { state with names := Function.update state.names name mq }

def setClient (state : Rendezvous Client) (client : Client) (pc : ClientPc Client) :
    Rendezvous Client :=
  { state with clients := Function.update state.clients client pc }

/-- The constructor of the server makes the request queues one after another, the destructor
removes their names in the same order. -/
def serverStep (setting : Setting Client) (state : Rendezvous Client) :
    Option (Rendezvous Client × List (RendezvousEvent Client)) :=
  match state.server with
  | .removing index =>
      if index < setting.queues then
        some ({ state.setName (requestMqName index) none with server := .creating index }, [])
      else some ({ state with server := .up }, [.up])
  | .creating index =>
      match state.names (requestMqName index) with
      | none => some ({ state.setName (requestMqName index) (some (.request index)) with
          server := .removing (index + 1) }, [])
      | some _ => some ({ state with server := .failed }, [])
  | .up => some ({ state with server := .dropping 0 }, [.shutdown])
  | .dropping index =>
      if index < setting.queues then
        some ({ state.setName (requestMqName index) none with server := .dropping (index + 1) }, [])
      else some ({ state with server := .down }, [])
  | .down | .failed => none

/-- The assert of the constructor, and the removal of an old reply queue. -/
def remove (setting : Setting Client) (state : Rendezvous Client) (client : Client) :
    Option (Rendezvous Client) :=
  match state.clients client with
  | .outside =>
      if setting.volumeName client = [] then some (state.setClient client .aborted)
      else some ((state.setName (setting.volumeName client) none).setClient client .removed)
  | _ => none

/-- `request_mq_.reset(new message_queue(open_only, ..))`. -/
def openRequestMq (setting : Setting Client) (state : Rendezvous Client) (client : Client) :
    Option (Rendezvous Client × List (RendezvousEvent Client)) :=
  match state.clients client with
  | .removed =>
      match state.names (requestMqName (setting.index client)) with
      | some mq => some (state.setClient client (.attached mq), [.attached client mq])
      | none => some (state.setClient client .refused, [.refused client])
  | _ => none

/-- `reply_mq_.reset(new message_queue(create_only, ..))`, which ends the synchronous constructor. -/
def createReplyMq (setting : Setting Client) (state : Rendezvous Client) (client : Client) :
    Option (Rendezvous Client) :=
  match state.clients client with
  | .attached mq =>
      match state.names (setting.volumeName client) with
      | none => some ((state.setName (setting.volumeName client) (some (.reply client))).setClient
          client (match setting.kind client with
            | .sync => .constructed mq
            | .async => .created mq))
      | some _ => some (state.setClient client .clashed)
  | _ => none

/-- The reply thread of an asynchronous client runs. -/
def startThread (state : Rendezvous Client) (client : Client) : Option (Rendezvous Client) :=
  match state.clients client with
  | .created mq => some (state.setClient client (.constructed mq))
  | _ => none

/-- The constructor throws for want of memory, descriptors or threads. -/
def fail (state : Rendezvous Client) (client : Client) : Option (Rendezvous Client) :=
  match state.clients client with
  | .removed | .attached _ => some (state.setClient client .failed)
  | .created _ => some (state.setClient client .threadless)
  | _ => none

def destroy (setting : Setting Client) (state : Rendezvous Client) (client : Client) :
    Option (Rendezvous Client) :=
  match state.clients client with
  | .constructed _ =>
      some ((state.setName (setting.volumeName client) none).setClient client .destroyed)
  | _ => none

def machine (setting : Setting Client) :
    Machine (Rendezvous Client) (RendezvousLabel Client) (RendezvousEvent Client) where
  step state label :=
    match label with
    | .server => state.serverStep setting
    | .remove client => (state.remove setting client).map (·, [])
    | .attach client => state.openRequestMq setting client
    | .create client => (state.createReplyMq setting client).map (·, [])
    | .start client => (state.startThread client).map (·, [])
    | .fail client => (state.fail client).map (·, [])
    | .destroy client => (state.destroy setting client).map (·, [])

/-- No volume is named like a request queue, and no two clients' volumes are named alike. -/
structure Apart (setting : Setting Client) : Prop where
  queues : ∀ client index, index < setting.queues →
    setting.volumeName client ≠ requestMqName index
  distinct : ∀ left right, setting.volumeName left = setting.volumeName right → left = right

/-- The server has got all its queues, every client whose constructor opens a request queue while
the server is up gets the server's own, and no name outlives those who have made it. -/
structure Established (setting : Setting Client) (leftovers : Name → Option Nat)
    (trace : List (RendezvousEvent Client)) (state : Rendezvous Client) : Prop where
  constructed : state.server ≠ .failed
  unclashed : ∀ client, state.clients client ≠ .clashed
  attached : ∀ before client mq after, trace = before ++ .attached client mq :: after →
    .up ∈ before → mq = .request (setting.index client)
  refused : ∀ before client after, trace = before ++ .refused client :: after →
    .up ∈ before → .shutdown ∈ before
  named : ∀ client, (state.clients client).named = true →
    state.names (setting.volumeName client) = some (.reply client)
  cleared : state.server = .down → (∀ client, (state.clients client).named = false) →
    ∀ name mq, state.names name = some mq →
      ∃ number, leftovers name = some number ∧ mq = .leftover number

end Rendezvous

end Cvbd
