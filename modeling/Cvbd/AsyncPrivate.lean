import Cvbd.AsyncCore
import Cvbd.Lib.Ledger

/-!
One asynchronous client and its private service. The other clients and the
server threads appear only as the serving of this client's oldest request and
as the abort of the server.
-/

namespace Cvbd

structure PrivateState (Client : Type) where
  client : AsyncClient
  service : Service Client

inductive PrivateLabel
  | client (label : ClientLabel)
  | serve (kernel : Kernel)
  | crash

namespace PrivateState

variable {Client : Type}

def clientStep (self : Client) (state : PrivateState Client) :
    ClientLabel → Option (PrivateState Client × List CallEvent)
  | .send =>
      match state.client.takeSend with
      | some (call, request, client) => some (⟨client, { state.service with
          requests := state.service.requests ++ [⟨self, call, request⟩] }⟩,
          [.submitted call request])
      | none => none
  | .receive =>
      match state.service.replies with
      | reply :: rest =>
          match state.client.takeReply reply.call reply.body with
          | some client => some (⟨client, { state.service with replies := rest }⟩, [])
          | none => none
      | [] => none
  | .inside label =>
      match state.client.localStep label with
      | some (client, events) => some ({ state with client }, events)
      | none => none

def serveStep (state : PrivateState Client) (kernel : Kernel) :
    Option (PrivateState Client × List CallEvent) :=
  match state.service.requests, state.service.serve kernel with
  | request :: _, some service => some ({ state with service },
      [.served request.call request.body kernel service.file])
  | _, _ => none

def machine (self : Client) : Machine (PrivateState Client) PrivateLabel CallEvent where
  step state label :=
    match label with
    | .client label => state.clientStep self label
    | .serve kernel => state.serveStep kernel
    | .crash => some ({ state with service := { state.service with alive := false } }, [])

end PrivateState

/-- What POSIX promises of a transfer of a request on a file. -/
structure Kernel.Honest (kernel : Kernel) (content : File) (request : Request) : Prop where
  pread : ∀ req count, request = .read req → kernel.pread = .ok count → 0 ≤ req.offset.toInt ∧
    count ≤ content.available req.offset.toInt.toNat req.sizeInBytes.toNat
  pwrite : ∀ req count, request = .write req → kernel.pwrite = .ok count →
    0 ≤ req.offset.toInt ∧ count ≤ req.sizeInBytes.toNat

def PrivateState.Valid {Client : Type} (state : PrivateState Client) : PrivateLabel → Prop
  | .client (.inside label) => label.Valid state.client
  | .client _ => True
  | .serve kernel => ∀ request rest, state.service.requests = request :: rest →
      kernel.Honest state.service.file.content request.body
  | .crash => True

/-! Calls and their requests. -/

namespace CoCall

def size : CoCall → UInt64
  | .readv _ nbSectors _ => byteSize nbSectors
  | .writev _ nbSectors _ => byteSize nbSectors
  | .flush => 0

def qiov : CoCall → Option Qiov
  | .readv _ _ qiov => some qiov
  | .writev _ _ qiov => some qiov
  | .flush => none

def isWrite : CoCall → Bool
  | .writev .. => true
  | .readv .. | .flush => false

def aligned : CoCall → Bool
  | .readv sectorNum nbSectors _ => isRequestAligned sectorNum nbSectors
  | .writev sectorNum nbSectors _ => isRequestAligned sectorNum nbSectors
  | .flush => true

/-- The call passes the alignment check and fits into one message. -/
def Accepted (what : CoCall) : Prop := what.aligned = true ∧ what.size.toNat ≤ maxDataSize

end CoCall

/-- The call fits into one message. -/
def LocalLabel.Fits : LocalLabel → Prop
  | .call what _ _ => what.size.toNat ≤ maxDataSize
  | _ => True

def ClientLabel.Fits : ClientLabel → Prop
  | .send | .receive => True
  | .inside label => label.Fits

namespace CoCall

/-- The request a call puts into the queue; a write carries what its vector held. -/
def Asks (data : Bytes) (volume acb : UInt64) : CoCall → Request → Prop
  | .readv sectorNum nbSectors _, request => ∃ id, request =
      .read ⟨⟨false, .reqRead, id, volume, acb⟩, byteOffset sectorNum, byteSize nbSectors⟩
  | .writev sectorNum nbSectors _, request => ∃ id sent, request =
      .write ⟨⟨false, .reqWrite, id, volume, acb⟩, byteOffset sectorNum, byteSize nbSectors, sent⟩ ∧
      ∀ position, position < (byteSize nbSectors).toNat → sent position = data position
  | .flush, request => ∃ id, request = .fsync ⟨⟨false, .reqFsync, id, volume, acb⟩⟩

variable {data : Bytes} {volume acb : UInt64} {what : CoCall} {request : Request}

theorem Asks.header (asks : what.Asks data volume acb request) :
    request.header.volume = volume ∧ request.header.acb = acb := by
  cases what with
  | readv sectorNum nbSectors qiov =>
      obtain ⟨id, rfl⟩ := asks
      exact ⟨rfl, rfl⟩
  | writev sectorNum nbSectors qiov =>
      obtain ⟨id, sent, rfl, _⟩ := asks
      exact ⟨rfl, rfl⟩
  | flush =>
      obtain ⟨id, rfl⟩ := asks
      exact ⟨rfl, rfl⟩

theorem Asks.isIo (asks : what.Asks data volume acb request) : request.isIo = true := by
  cases what with
  | readv sectorNum nbSectors qiov =>
      obtain ⟨id, rfl⟩ := asks
      rfl
  | writev sectorNum nbSectors qiov =>
      obtain ⟨id, sent, rfl, _⟩ := asks
      rfl
  | flush =>
      obtain ⟨id, rfl⟩ := asks
      rfl

theorem Asks.answered (asks : what.Asks data volume acb request) :
    request.answered = !what.isWrite := by
  cases what with
  | readv sectorNum nbSectors qiov =>
      obtain ⟨id, rfl⟩ := asks
      rfl
  | writev sectorNum nbSectors qiov =>
      obtain ⟨id, sent, rfl, _⟩ := asks
      rfl
  | flush =>
      obtain ⟨id, rfl⟩ := asks
      rfl

/-- The reply a call waits for. -/
def Expects : CoCall → Reply → Prop
  | .readv _ nbSectors _, .read reply =>
      reply.header.stop = false ∧ reply.header.type = .reqRead ∧
        reply.sizeInBytes = byteSize nbSectors
  | .flush, .fsync reply => reply.header.stop = false ∧ reply.header.type = .reqFsync
  | _, _ => False

end CoCall

namespace CoPc

/-- The event loop is executing the coroutine. -/
def isRunning : CoPc → Bool
  | .sending _ | .callback | .yielding | .entered => true
  | .yielded | .returned _ => false

/-- The request has been submitted, for a write also completed, and the coroutine not entered. -/
def isOutstanding : CoPc → Bool
  | .yielding | .yielded => true
  | .sending _ | .callback | .entered | .returned _ => false

def isReturned : CoPc → Bool
  | .returned _ => true
  | .sending _ | .callback | .yielding | .yielded | .entered => false

end CoPc

/-! The places in which the control block of an outstanding call can be. -/

def ReplyThread.holds (acb : UInt64) : ReplyThread → Nat
  | .hand _ reply => if reply.header.acb = acb then 1 else 0
  | .finishing address _ => if address = acb then 1 else 0
  | .idle | .stopped => 0

/-- Requests that will be answered with a reply carrying the address. -/
def Service.asked {Client : Type} (requests : List (Envelope Client Request)) (acb : UInt64) : Nat :=
  requests.countP fun request => request.body.answered && request.body.header.acb == acb

def Service.answers {Client : Type} (replies : List (Envelope Client Reply)) (acb : UInt64) : Nat :=
  replies.countP fun reply => reply.body.header.acb == acb

def PrivateState.places {Client : Type} (state : PrivateState Client) (acb : UInt64) : Nat :=
  Service.asked state.service.requests acb + Service.answers state.service.replies acb +
    state.client.replyThread.holds acb + state.client.bhs.count acb

/-- The call `call` is outstanding with its control block at `acb`. -/
def AsyncClient.Owns (client : AsyncClient) (acb : UInt64) (call : Nat) : Prop :=
  ∃ coroutine, client.coroutines call = some coroutine ∧ coroutine.acb = acb ∧
    coroutine.pc.isOutstanding = true

end Cvbd
