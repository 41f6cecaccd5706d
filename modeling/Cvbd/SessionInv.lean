import Cvbd.Client
import Cvbd.ExchangeMoves
import Cvbd.SessionCore

/-!
The account of one client: its requests that are still in flight, the answers to
its OPEN, and the `VolumeState` objects held for it. The phase says how far the
server has got with them. All clients' accounts together, and what the server
threads are about to delete, form the invariant.
-/

namespace Cvbd

structure Account where
  stage : Stage
  volume : UInt64
  requests : List Request
  answers : List OpenReply
  deleted : Nat
  held : UInt64 → Prop

namespace Account

inductive Phase
  | unopened
  | asked
  | answered (reply : OpenReply)
  | inUse (reply : OpenReply)
  | closing (reply : OpenReply)
  | closed (reply : OpenReply)

/-- Exactly this `VolumeState` is held, and none has been deleted. -/
def With (account : Account) (volume : UInt64) : Prop :=
  (∀ other, account.held other ↔ other = volume) ∧ account.deleted = 0

def Without (account : Account) (deleted : Nat) : Prop :=
  (∀ volume, ¬account.held volume) ∧ account.deleted = deleted

/-- An I/O request on the volume. -/
def OnVolume (volume : UInt64) (request : Request) : Prop :=
  request.isIo = true ∧ request.header.volume = volume

/-- A failed OPEN has been answered before its `VolumeState` is deleted. -/
def At (account : Account) : Phase → Prop
  | .unopened => account.requests = [] ∧ account.answers = [] ∧ account.Without 0
  | .asked => (∃ req, account.requests = [.openVolume req]) ∧ account.answers = [] ∧
      account.Without 0
  | .answered reply => account.requests = [] ∧ account.answers = [reply] ∧
      (account.With reply.volume ∨ reply.err ≠ 0 ∧ account.Without 1)
  | .inUse reply => account.answers = [reply] ∧ reply.err = 0 ∧ account.volume = reply.volume ∧
      account.With reply.volume ∧ ∀ request ∈ account.requests, OnVolume reply.volume request
  | .closing reply => account.answers = [reply] ∧ reply.err = 0 ∧ account.With reply.volume ∧
      ∃ earlier req, account.requests = earlier ++ [.close req] ∧
        req.header.volume = reply.volume ∧ ∀ request ∈ earlier, OnVolume reply.volume request
  | .closed reply => account.requests = [] ∧ account.answers = [reply] ∧ reply.err = 0 ∧
      account.Without 1

end Account

def Stage.admits : Stage → Account.Phase → Bool
  | .outside, .unopened | .removed, .unopened | .made, .unopened | .failed, .unopened => true
  | .opening _, .unopened | .opening _, .asked | .opening _, .answered _ => true
  | .refused, .answered _ => true
  | .opened, .inUse _ | .waiting _, .inUse _ => true
  | .closed, .closing _ | .closed, .closed _ => true
  | .destroyed, _ | .aborted, _ | .mismatched, _ => true
  | _, _ => false

def Account.Standing (account : Account) : Prop :=
  ∃ phase, account.stage.admits phase = true ∧ account.At phase

namespace Account

variable {account : Account} {phase : Phase} {request : Request} {rest : List Request}

/-! What the oldest request can be, and what is left when it has been handled. -/

/-- A request that uses a `VolumeState` uses the one held for its client. -/
theorem At.uses (place : account.At phase) (member : request ∈ account.requests)
    (uses : request.usesVolume = true) :
    ∃ reply, account.answers = [reply] ∧ reply.err = 0 ∧ account.With reply.volume ∧
      request.header.volume = reply.volume := by
  cases phase with
  | unopened => simp [place.1] at member
  | asked =>
      obtain ⟨⟨req, queue⟩, _⟩ := place
      obtain rfl : request = .openVolume req := by simpa [queue] using member
      simp [Request.usesVolume] at uses
  | answered reply => simp [place.1] at member
  | inUse reply =>
      obtain ⟨answers, success, _, held, requests⟩ := place
      exact ⟨reply, answers, success, held, (requests request member).2⟩
  | closing reply =>
      obtain ⟨answers, success, held, earlier, req, queue, volume, requests⟩ := place
      refine ⟨reply, answers, success, held, ?_⟩
      rw [queue, List.mem_append, List.mem_singleton] at member
      rcases member with old | rfl
      · exact (requests request old).2
      · exact volume
  | closed reply => simp [place.1] at member

/-- No other requests are about. -/
theorem At.kind (place : account.At phase) (member : request ∈ account.requests) :
    request.usesVolume = true ∨ ∃ req, request = .openVolume req := by
  cases phase with
  | unopened => simp [place.1] at member
  | asked =>
      obtain ⟨⟨req, queue⟩, _⟩ := place
      exact Or.inr ⟨req, by simpa [queue] using member⟩
  | answered reply => simp [place.1] at member
  | inUse reply => exact Or.inl (Request.usesVolume_of_isIo (place.2.2.2.2 _ member).1)
  | closing reply =>
      obtain ⟨_, _, _, earlier, req, queue, _, requests⟩ := place
      rw [queue, List.mem_append, List.mem_singleton] at member
      rcases member with old | rfl
      · exact Or.inl (Request.usesVolume_of_isIo (requests _ old).1)
      · exact Or.inl rfl
  | closed reply => simp [place.1] at member

theorem At.popIo (place : account.At phase) (queue : account.requests = request :: rest)
    (io : request.isIo = true) : ({ account with requests := rest }).At phase := by
  cases phase with
  | unopened => simp [place.1] at queue
  | asked =>
      obtain ⟨⟨req, single⟩, _⟩ := place
      obtain ⟨rfl, _⟩ : Request.openVolume req = request ∧ [] = rest := by
        simpa [single] using queue
      simp [Request.isIo] at io
  | answered reply => simp [place.1] at queue
  | inUse reply =>
      obtain ⟨answers, success, volume, held, requests⟩ := place
      refine ⟨answers, success, volume, held, fun later member => requests later ?_⟩
      rw [queue]
      exact List.mem_cons_of_mem _ member
  | closing reply =>
      obtain ⟨answers, success, held, earlier, req, split, volume, requests⟩ := place
      rw [queue] at split
      cases earlier with
      | nil =>
          obtain ⟨rfl, _⟩ := List.cons.inj split
          simp [Request.isIo] at io
      | cons first earlier =>
          obtain ⟨rfl, remaining⟩ := List.cons.inj split
          exact ⟨answers, success, held, earlier, req, remaining, volume,
            fun later member => requests later (List.mem_cons_of_mem _ member)⟩
  | closed reply => simp [place.1] at queue

/-- An OPEN is alone. -/
theorem At.popOpen {req : OpenRequest} (place : account.At phase)
    (queue : account.requests = .openVolume req :: rest) :
    phase = .asked ∧ rest = [] ∧ account.answers = [] ∧ account.Without 0 := by
  have notIo : ¬(Request.openVolume req).isIo = true := by simp [Request.isIo]
  cases phase with
  | unopened => simp [place.1] at queue
  | asked =>
      obtain ⟨⟨other, single⟩, answers, without⟩ := place
      obtain ⟨_, rfl⟩ : other = req ∧ [] = rest := by simpa [single] using queue
      exact ⟨rfl, rfl, answers, without⟩
  | answered reply => simp [place.1] at queue
  | inUse reply =>
      have requests := place.2.2.2.2
      exact (notIo (requests _ (by simp [queue])).1).elim
  | closing reply =>
      obtain ⟨_, _, _, earlier, close, split, _, requests⟩ := place
      rw [queue] at split
      cases earlier with
      | nil => simp at split
      | cons first earlier =>
          obtain ⟨rfl, _⟩ := List.cons.inj split
          exact (notIo (requests _ (by simp)).1).elim
  | closed reply => simp [place.1] at queue

/-- A CLOSE is the last request. -/
theorem At.popClose {req : HeaderRequest} (place : account.At phase)
    (queue : account.requests = .close req :: rest) :
    ∃ reply, phase = .closing reply ∧ rest = [] ∧ account.answers = [reply] ∧ reply.err = 0 ∧
      account.With reply.volume ∧ req.header.volume = reply.volume := by
  have notIo : ¬(Request.close req).isIo = true := by simp [Request.isIo]
  cases phase with
  | unopened => simp [place.1] at queue
  | asked =>
      obtain ⟨⟨other, single⟩, _⟩ := place
      simp [single] at queue
  | answered reply => simp [place.1] at queue
  | inUse reply =>
      have requests := place.2.2.2.2
      exact (notIo (requests _ (by simp [queue])).1).elim
  | closing reply =>
      obtain ⟨answers, success, held, earlier, close, split, volume, requests⟩ := place
      rw [queue] at split
      cases earlier with
      | nil =>
          obtain ⟨rfl, rfl⟩ : req = close ∧ rest = [] := by simpa using split
          exact ⟨reply, rfl, rfl, answers, success, held, volume⟩
      | cons first earlier =>
          obtain ⟨rfl, _⟩ := List.cons.inj split
          exact (notIo (requests _ (by simp)).1).elim
  | closed reply => simp [place.1] at queue

/-! The phases follow one another without the client. -/

theorem admits_unopened {stage : Stage} (admits : stage.admits .asked = true) :
    stage.admits .unopened = true := by
  cases stage <;> simp_all [Stage.admits]

theorem admits_answered {stage : Stage} (admits : stage.admits .asked = true) (reply : OpenReply) :
    stage.admits (.answered reply) = true := by
  cases stage <;> simp_all [Stage.admits]

theorem admits_closed {stage : Stage} {reply : OpenReply}
    (admits : stage.admits (.closing reply) = true) : stage.admits (.closed reply) = true := by
  cases stage <;> simp_all [Stage.admits]

end Account

namespace Session

variable {Client : Type} [DecidableEq Client]

def account (setting : Setting Client) (session : Session Client) (client : Client) : Account where
  stage := session.stage client
  volume := (session.shared client).volume
  requests := (session.exchange.inFlight (setting.index client) client).map Envelope.body
  answers := session.answers client
  deleted := session.deleted client
  held := session.Holds client

/-- The server thread is about to delete the `VolumeState` of an OPEN that it has refused. -/
def Doomed (setting : Setting Client) (session : Session Client) (index : Nat) (volume : UInt64) :
    Prop :=
  ∃ client reply, setting.index client = index ∧ reply ∈ session.answers client ∧
    reply.volume = volume ∧ reply.err ≠ 0 ∧ session.Holds client volume

/-- What a server thread is occupied with is in order. -/
def ThreadOk (setting : Setting Client) (session : Session Client) (index : Nat) :
    Thread Client → Prop
  | .hand request => index = setting.index request.sender
  | .sending _ envelope closing => index = setting.index envelope.sender ∧
      (∀ reply, envelope.body = .openVolume reply → reply ∈ session.answers envelope.sender) ∧
        ∀ volume, closing = some volume → session.Doomed setting index volume
  | .closing volume => session.Doomed setting index volume
  | .idle | .stopped => True

structure Inv (setting : Setting Client) (session : Session Client) : Prop where
  sound : session.exchange.world.Sound
  descriptors : session.exchange.fault = none → ∀ fd name,
    session.exchange.world.fds fd = some name →
    ∃ volume volState, session.exchange.world.volumes volume = some volState ∧ volState.fd = fd
  faults : session.exchange.fault ≠ some .nullVolume ∧ session.exchange.fault ≠ some .deadVolume
  queued : ∀ index request, request ∈ session.exchange.requestMq index →
    index = setting.index request.sender
  threads : ∀ index, session.ThreadOk setting index (session.exchange.thread index)
  replied : ∀ mq envelope reply, envelope ∈ session.exchange.replyMq mq →
    envelope.body = .openVolume reply → reply ∈ session.answers envelope.sender
  standing : ∀ client, (session.account setting client).Standing

variable {setting : Setting Client} {session : Session Client}

omit [DecidableEq Client] in
theorem Holds.unique {left right : Client} {volume : UInt64} (first : session.Holds left volume)
    (second : session.Holds right volume) : left = right := by
  have same := first.2.symm.trans second.2
  exact Option.some.inj same

omit [DecidableEq Client] in
theorem Holds.notNull {client : Client} {volume : UInt64}
    (held : session.Holds client volume) (sound : session.exchange.world.Sound) : volume ≠ 0 := by
  rintro rfl
  obtain ⟨⟨volState, live⟩, _⟩ := held
  simp [sound.null] at live

omit [DecidableEq Client] in
theorem Holds.notDead {client : Client} {volume : UInt64}
    (held : session.Holds client volume) (sound : session.exchange.world.Sound) :
    ¬(volume = 0 ∨ session.exchange.world.volumes volume = none) := by
  rintro (null | gone)
  · exact held.notNull sound null
  · obtain ⟨⟨volState, live⟩, _⟩ := held
    simp [gone] at live

omit [DecidableEq Client] in
/-- Two threads never delete the same `VolumeState`. -/
theorem Doomed.unique {left right : Nat} {volume : UInt64} (first : session.Doomed setting left volume)
    (second : session.Doomed setting right volume) : left = right := by
  obtain ⟨client, _, rfl, _, _, _, held⟩ := first
  obtain ⟨other, _, rfl, _, _, _, otherHeld⟩ := second
  rw [held.unique otherHeld]

omit [DecidableEq Client] in
theorem ThreadOk.mono {after : Session Client} {index : Nat} {thread : Thread Client}
    (ok : session.ThreadOk setting index thread)
    (answers : ∀ client reply, reply ∈ session.answers client → reply ∈ after.answers client)
    (doomed : ∀ volume, session.Doomed setting index volume → after.Doomed setting index volume) :
    after.ThreadOk setting index thread := by
  cases thread with
  | idle => trivial
  | hand request => exact ok
  | sending mq envelope closing =>
      exact ⟨ok.1, fun reply body => answers _ _ (ok.2.1 reply body),
        fun volume equal => doomed volume (ok.2.2 volume equal)⟩
  | closing volume => exact doomed volume ok
  | stopped => trivial

theorem Inv.inHand (inv : session.Inv setting) {index : Nat} {request : Envelope Client Request}
    (hand : session.exchange.thread index = .hand request) :
    index = setting.index request.sender := by
  have ok := inv.threads index
  rw [hand] at ok
  exact ok

theorem Inv.hand_oldest (inv : session.Inv setting) {index : Nat}
    {request : Envelope Client Request} (hand : session.exchange.thread index = .hand request) :
    ∃ rest, (session.account setting request.sender).requests = request.body :: rest := by
  have place := inv.inHand hand
  subst place
  exact ⟨_, by simp [account, Exchange.inFlight, hand, Thread.requestsOf]; rfl⟩

theorem Inv.uses (inv : session.Inv setting) {index : Nat} {request : Envelope Client Request}
    (hand : session.exchange.thread index = .hand request) (uses : request.body.usesVolume = true) :
    ∃ reply, session.answers request.sender = [reply] ∧ reply.err = 0 ∧
      (session.account setting request.sender).With reply.volume ∧
      request.body.header.volume = reply.volume := by
  obtain ⟨phase, _, place⟩ := inv.standing request.sender
  obtain ⟨rest, queue⟩ := inv.hand_oldest hand
  exact place.uses (by simp [queue]) uses

/-- Clients send no stop message. -/
theorem Inv.noStop (inv : session.Inv setting) {index : Nat} {request : Envelope Client Request}
    {rest : List (Envelope Client Request)} {header : Header}
    (queue : session.exchange.requestMq index = request :: rest) : request.body ≠ .stop header := by
  intro stop
  obtain ⟨phase, _, place⟩ := inv.standing request.sender
  have queued : request ∈ session.exchange.requestMq index := by simp [queue]
  have member : request.body ∈ (session.account setting request.sender).requests := by
    refine List.mem_map_of_mem ?_
    rw [← inv.queued index request queued]
    exact Exchange.mem_inFlight_queued queued
  rcases place.kind member with uses | ⟨req, opens⟩
  · simp [stop, Request.usesVolume] at uses
  · simp [stop] at opens

/-- The `VolumeState` that a thread is about to delete is there. -/
theorem Inv.closing (inv : session.Inv setting) {index : Nat} {volume : UInt64}
    (closing : session.exchange.thread index = .closing volume) :
    ¬(volume = 0 ∨ session.exchange.world.volumes volume = none) := by
  have doomed := inv.threads index
  rw [closing] at doomed
  obtain ⟨_, _, _, _, _, _, holds⟩ := doomed
  exact holds.notDead inv.sound

end Session

end Cvbd
