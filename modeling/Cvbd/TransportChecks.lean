import Cvbd.ExchangeMoves
import Cvbd.PlainReadChecks
import Cvbd.TransportCore

/-!
What a message carries does not depend on the object it is received into. A
request is read alike by every server thread, as far as the memory behind the
object agrees, and a reply is read alike by every client.
-/

namespace Cvbd

/-- The header has the type of its structure, and a READ asks for no more than a message holds. -/
def Request.Proper : Request → Prop
  | .read req => req.header.type = .reqRead ∧ req.sizeInBytes.toNat ≤ maxDataSize
  | .openVolume req => req.header.type = .reqOpen
  | .getsize req => req.header.type = .reqGetsize
  | .fsync req => req.header.type = .reqFsync
  | .stop _ | .write _ | .close _ | .unknown _ => True

def Reply.Proper : Reply → Prop
  | .read reply => reply.header.type = .reqRead ∧ reply.sizeInBytes.toNat ≤ maxDataSize
  | .openVolume reply => reply.header.type = .reqOpen
  | .getsize reply => reply.header.type = .reqGetsize
  | .fsync reply => reply.header.type = .reqFsync

theorem Request.Proper.answeredBy {request : Request} {reply : Reply} (proper : request.Proper)
    (answers : request.AnsweredBy reply) : reply.Proper := by
  cases request <;> cases reply <;> simp_all [Request.Proper, Reply.Proper, AnsweredBy]

namespace Wire

/-! Requests. -/

/-- The object of a server thread, behind which lies `memory`. -/
def Backed (memory old : Bytes) : Prop :=
  ∀ position, requestSize ≤ position → old position = memory position

/-- Every server thread with `memory` behind its object reads this request. -/
structure Carries (memory : Bytes) (message : Message) (request : Request) : Prop where
  short : message.size ≤ requestSize
  reads : ∀ old, Backed memory old → viewRequest (receive old message) = request
  proper : request.Proper

theorem Backed.receive {memory old : Bytes} {message : Message} (backed : Backed memory old)
    (short : message.size ≤ requestSize) : Backed memory (receive old message) := by
  intro position beyond
  rw [Wire.receive, Region.copy_outside (by omega)]
  exact backed position beyond

/-- A message of full size leaves nothing of the older one. -/
theorem receive_full {memory left right : Bytes} {message : Message} (full : message.size = requestSize)
    (backedLeft : Backed memory left) (backedRight : Backed memory right) :
    receive left message = receive right message := by
  funext position
  by_cases inside : position < requestSize
  · rw [receive_inside _ _ (by omega), receive_inside _ _ (by omega)]
  · have beyond : requestSize ≤ position := by omega
    rw [backedLeft.receive (Nat.le_of_eq full) position beyond,
      backedRight.receive (Nat.le_of_eq full) position beyond]

theorem viewHeader_stop_iff (bytes : Bytes) :
    (viewHeader bytes).stop = true ↔ ∃ header, viewRequest bytes = .stop header := by
  unfold viewRequest
  simp only
  split
  · simp_all
  · split <;> simp_all

theorem stopMessage_carries (memory static : Bytes) :
    Carries memory (stopMessage static) (.stop stopHeader) where
  short := Nat.le_refl _
  reads := by
    intro old _
    have long : headerSize ≤ (stopMessage static).size := by
      show 32 ≤ 48 + 4096 * 128
      omega
    simp only [viewRequest]
    rw [viewHeader_receive _ long]
    simp [stopMessage, stopHeader]
  proper := trivial

theorem Sent.message_short (sent : Sent) (old : Bytes) (id volume acb : UInt64) :
    (sent.message old id volume acb).size ≤ requestSize := by
  cases sent with
  | openVolume volumeName replyMqName => exact (by decide : openrequestSize ≤ requestSize)
  | read offset sizeInBytes => exact (by decide : readrequestSize ≤ requestSize)
  | write offset sizeInBytes data fits => exact Nat.le_refl _
  | close => exact (by decide : headerSize ≤ requestSize)
  | getsize => exact (by decide : headerSize ≤ requestSize)
  | fsync => exact (by decide : headerSize ≤ requestSize)

theorem Sent.Sendable.named {sent : Sent} {old : Bytes} (sendable : sent.Sendable old) :
    sent.NamesCompleted old := by
  cases sent with
  | read offset sizeInBytes => trivial
  | openVolume volumeName replyMqName => exact sendable
  | write offset sizeInBytes data fits => exact sendable
  | close => exact sendable
  | getsize => exact sendable
  | fsync => exact sendable

/-- Two requests read from one message, whose arguments both of them are, differ in the data behind
the size of a WRITE at most. -/
theorem Sent.ReadBack.unique {sent : Sent} {id volume acb : UInt64} {left right : Request}
    (notWrite : ∀ offset sizeInBytes data fits, sent ≠ .write offset sizeInBytes data fits)
    (readLeft : sent.ReadBack id volume acb left) (readRight : sent.ReadBack id volume acb right) :
    left = right := by
  cases sent with
  | write offset sizeInBytes data fits => exact (notWrite _ _ _ _ rfl).elim
  | openVolume volumeName replyMqName => exact readLeft.trans readRight.symm
  | read offset sizeInBytes => exact readLeft.trans readRight.symm
  | close => exact readLeft.trans readRight.symm
  | getsize => exact readLeft.trans readRight.symm
  | fsync => exact readLeft.trans readRight.symm

theorem Sent.ReadBack.proper {sent : Sent} {old : Bytes} {id volume acb : UInt64} {request : Request}
    (sendable : sent.Sendable old) (readBack : sent.ReadBack id volume acb request) :
    request.Proper := by
  cases sent with
  | openVolume volumeName replyMqName =>
      obtain rfl := readBack
      rfl
  | read offset sizeInBytes =>
      obtain rfl := readBack
      exact ⟨rfl, sendable⟩
  | write offset sizeInBytes data fits =>
      obtain ⟨_, rfl, _⟩ := readBack
      trivial
  | close =>
      obtain rfl := readBack
      trivial
  | getsize =>
      obtain rfl := readBack
      rfl
  | fsync =>
      obtain rfl := readBack
      rfl

/-- A message carries the arguments of its `send_*` function. -/
theorem Sent.Sendable.carries {sent : Sent} {old : Bytes} (sendable : sent.Sendable old)
    (memory : Bytes) (id volume acb : UInt64) :
    ∃ request, sent.ReadBack id volume acb request ∧
      Carries memory (sent.message old id volume acb) request := by
  have readBack (serverOld : Bytes) := (sent.readBack_iff old serverOld id volume acb).mpr
    sendable.named
  refine ⟨_, readBack memory, sent.message_short old id volume acb, ?_,
    (readBack memory).proper sendable⟩
  intro serverOld backed
  by_cases full : (sent.message old id volume acb).size = requestSize
  · rw [receive_full full backed fun _ _ => rfl]
  · refine Sent.ReadBack.unique ?_ (readBack serverOld) (readBack memory)
    rintro offset sizeInBytes data fits rfl
    exact full rfl

/-! Replies. -/

/-- The message was made of the reply, over whatever the reply object of the thread held. -/
def Delivers (message : Message) (reply : Reply) : Prop :=
  (∃ old, message = replyMessage old reply) ∧ reply.Proper

/-- A client reads the reply, whatever its reply object held. -/
theorem Delivers.readAs {message : Message} {reply : Reply} (delivers : Delivers message reply)
    (old : Bytes) :
    reply.ReadAs (viewReply (viewHeader (receive old message)) (receive old message)) := by
  obtain ⟨⟨serverOld, rfl⟩, proper⟩ := delivers
  rw [viewHeader_reply]
  cases reply with
  | read reply =>
      obtain ⟨header, sizeInBytes, data⟩ := reply
      obtain ⟨type, small⟩ := proper
      have type : header.type = .reqRead := type
      simp only [viewReply, Reply.header, type]
      rw [viewReadSize_readReply]
      exact .read small fun position below => viewReadData_readReply old serverOld small below
  | openVolume reply =>
      have type : reply.header.type = .reqOpen := proper
      simp only [viewReply, Reply.header, type]
      rw [viewVolume_openReply, viewOpenErr_openReply]
      exact .openVolume reply
  | getsize reply =>
      have type : reply.header.type = .reqGetsize := proper
      simp only [viewReply, Reply.header, type]
      rw [viewGetsize_getsizeReply]
      exact .getsize reply
  | fsync reply =>
      have type : reply.header.type = .reqFsync := proper
      simp only [viewReply, Reply.header, type]
      rw [viewFsyncErr_fsyncReply]
      exact .fsync reply

end Wire

/-! An exchange and its messages as bytes. -/

/-- A thread has in its objects what the exchange says it has in hand. -/
inductive TransportStage.Related {Client : Type} (requestMsg : Bytes) :
    TransportStage Client → Thread Client → Prop
  | idle : Related requestMsg .idle .idle
  | hand {sender call} (proper : (Wire.viewRequest requestMsg).Proper)
      (notStop : ∀ header, Wire.viewRequest requestMsg ≠ .stop header) :
      Related requestMsg (.hand sender call) (.hand ⟨sender, call, Wire.viewRequest requestMsg⟩)
  | sending {mq message reply closing} (delivers : message.Related Wire.Delivers reply) :
      Related requestMsg (.sending mq message closing) (.sending mq reply closing)
  | closing {volume} : Related requestMsg (.closing volume) (.closing volume)
  | stopped : Related requestMsg .stopped .stopped

theorem TransportStage.Related.received {Client : Type} {memory requestMsg : Bytes}
    {message : Envelope Client Message} {request : Envelope Client Request}
    (carries : message.Related (Wire.Carries memory) request)
    (reads : Wire.viewRequest requestMsg = request.body)
    (notStop : ∀ header, request.body ≠ .stop header) :
    TransportStage.Related requestMsg (.hand message.sender message.call) (.hand request) := by
  obtain ⟨sender, call, body⟩ := request
  have sender_eq : message.sender = sender := carries.sender
  have call_eq : message.call = call := carries.call
  have reads : Wire.viewRequest requestMsg = body := reads
  subst reads
  rw [sender_eq, call_eq]
  exact .hand carries.body.proper notStop

structure TransportThread.Related {Client : Type} (memory : Bytes)
    (thread : TransportThread Client) (other : Thread Client) : Prop where
  backed : Wire.Backed memory thread.requestMsg
  stage : thread.stage.Related thread.requestMsg other

/-- `memory` is what lies behind the request objects of the server threads. -/
structure Transport.Related {Index Client : Type} (memory : Index → Bytes)
    (transport : Transport Index Client) (exchange : Exchange Index Client) : Prop where
  world : exchange.world = transport.world
  fault : exchange.fault = transport.fault
  requests : ∀ index, List.Forall₂ (Envelope.Related (Wire.Carries (memory index)))
    (transport.requestMq index) (exchange.requestMq index)
  threads : ∀ index, (transport.thread index).Related (memory index) (exchange.thread index)
  replies : ∀ mq, List.Forall₂ (Envelope.Related Wire.Delivers) (transport.replyMq mq)
    (exchange.replyMq mq)

/-- Two families that are related everywhere stay so when both change at one place. -/
theorem related_update {Key Left Right : Type} [DecidableEq Key]
    {related : Key → Left → Right → Prop} {left : Key → Left} {right : Key → Right} {key : Key}
    {newLeft : Left} {newRight : Right} (everywhere : ∀ key, related key (left key) (right key))
    (here : related key newLeft newRight) (other : Key) :
    related other (Function.update left key newLeft other)
      (Function.update right key newRight other) := by
  by_cases same : other = key
  · subst same
    simpa using here
  · simpa [same] using everywhere other

theorem Transport.Started.related {Index Client : Type} {transport : Transport Index Client}
    (started : transport.Started) :
    transport.Related (fun index => (transport.thread index).requestMsg) transport.exchange where
  world := rfl
  fault := rfl
  requests := by
    intro index
    rw [started.noRequests]
    exact List.Forall₂.nil
  threads := by
    intro index
    refine ⟨fun _ _ => rfl, ?_⟩
    rw [started.idle]
    exact .idle
  replies := by
    intro mq
    rw [started.noReplies]
    exact List.Forall₂.nil

end Cvbd
