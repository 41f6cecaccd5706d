import Cvbd.TransportTotal

/-!
What clients find in their reply objects, with one request queue: the bytes of a
READ are those of the file after the requests that were sent before it, whoever
sent them and whatever the objects held.
-/

namespace Cvbd

/-- One element in the middle, and its image. -/
theorem forall₂_split {Left Right : Type} {related : Left → Right → Prop} {before after : List Left}
    {element : Left} {image : List Right}
    (matched : List.Forall₂ related (before ++ element :: after) image) :
    ∃ first other rest, image = first ++ other :: rest ∧ List.Forall₂ related before first ∧
      related element other ∧ List.Forall₂ related after rest := by
  induction before generalizing image with
  | nil =>
      cases matched with
      | cons head tail => exact ⟨[], _, _, rfl, List.Forall₂.nil, head, tail⟩
  | cons head before ih =>
      cases matched with
      | cons here tail =>
          obtain ⟨first, other, rest, rfl, matchedFirst, related, matchedRest⟩ := ih tail
          exact ⟨_ :: first, other, rest, rfl, List.Forall₂.cons here matchedFirst, related, matchedRest⟩

namespace TransportEvent

variable {Index Client : Type} {trace : List (TransportEvent Index Client)}
variable {messages : List (SystemEvent Index Client)}

theorem servedOf_eq (matched : List.Forall₂ Means trace messages) :
    servedOf trace = SystemEvent.servedOf messages := by
  induction matched with
  | nil => rfl
  | cons here _ ih =>
      cases here with
      | sent => exact ih
      | halted => exact ih
      | served => simpa [servedOf, SystemEvent.servedOf] using ih
      | received => exact ih

theorem effectsOf_eq (matched : List.Forall₂ Means trace messages) :
    effectsOf trace = SystemEvent.effectsOf messages := by
  induction matched with
  | nil => rfl
  | cons here _ ih =>
      cases here with
      | sent => simpa [effectsOf, SystemEvent.effectsOf] using ih
      | halted => simpa [effectsOf, SystemEvent.effectsOf] using ih
      | served => simpa [effectsOf, SystemEvent.effectsOf] using ih
      | received => simpa [effectsOf, SystemEvent.effectsOf] using ih

theorem replay_eq (matched : List.Forall₂ Means trace messages) (initial : World) (name : Name) :
    replay initial trace name = SystemEvent.replay initial messages name := by
  simp only [replay, SystemEvent.replay, effectsOf_eq matched]

/-- What was submitted are the requests that were sent, if no thread was told to stop. -/
theorem sentOf_related (matched : List.Forall₂ Means trace messages)
    (noHalt : ∀ event ∈ trace, event.isHalt = false) :
    List.Forall₂ (Envelope.Related SendCall.ReadBack) (sentOf trace)
      (SystemEvent.submittedOf messages) := by
  induction matched with
  | nil => exact List.Forall₂.nil
  | cons here _ ih =>
      have later := ih fun event member => noHalt event (List.mem_cons_of_mem _ member)
      cases here with
      | sent readBack => exact List.Forall₂.cons ⟨rfl, rfl, readBack⟩ later
      | halted => simpa [isHalt] using noHalt _ List.mem_cons_self
      | served => exact later
      | received => exact later

end TransportEvent

theorem SendCall.ReadBack.notStop {args : SendCall} {request : Request}
    (readBack : args.ReadBack request) (header : Header) : request ≠ .stop header := by
  obtain ⟨id, volume, acb, sent⟩ := args
  rintro rfl
  cases sent with
  | write => simp [ReadBack, Wire.Sent.ReadBack] at readBack
  | openVolume => simp [ReadBack, Wire.Sent.ReadBack] at readBack
  | read => simp [ReadBack, Wire.Sent.ReadBack] at readBack
  | close => simp [ReadBack, Wire.Sent.ReadBack] at readBack
  | getsize => simp [ReadBack, Wire.Sent.ReadBack] at readBack
  | fsync => simp [ReadBack, Wire.Sent.ReadBack] at readBack

/-- No WRITE is sent with more data than a message holds. -/
theorem SendCall.ReadBack.fits {args : SendCall} {req : WriteRequest}
    (readBack : args.ReadBack (.write req)) : req.sizeInBytes.toNat ≤ maxDataSize := by
  obtain ⟨id, volume, acb, sent⟩ := args
  cases sent with
  | write offset sizeInBytes data fits =>
      obtain ⟨_, equal, _⟩ := readBack
      obtain rfl := Request.write.inj equal
      exact fits
  | openVolume => simp [ReadBack, Wire.Sent.ReadBack] at readBack
  | read => simp [ReadBack, Wire.Sent.ReadBack] at readBack
  | close => simp [ReadBack, Wire.Sent.ReadBack] at readBack
  | getsize => simp [ReadBack, Wire.Sent.ReadBack] at readBack
  | fsync => simp [ReadBack, Wire.Sent.ReadBack] at readBack

theorem SystemEvent.of_repliesTo {Index Client : Type} {trace : List (SystemEvent Index Client)}
    {mq : Nat} {reply : Envelope Client Reply} (member : reply ∈ repliesTo mq trace) :
    ∃ before index request volume effects replies after,
      trace = before ++ .served index request volume effects replies :: after ∧
        (mq, reply) ∈ replies := by
  obtain ⟨event, inside, given⟩ := List.mem_flatMap.mp member
  obtain ⟨before, after, rfl⟩ := List.append_of_mem inside
  cases event with
  | submitted => simp at given
  | taken => simp at given
  | served index request volume effects replies =>
      simp only [List.mem_map, List.mem_filter, decide_eq_true_eq] at given
      obtain ⟨⟨queue, message⟩, ⟨listed, rfl⟩, rfl⟩ := given
      exact ⟨before, index, request, volume, effects, replies, after, rfl, listed⟩

namespace Transport

variable {Client : Type} [DecidableEq Client] {initial transport : Transport Unit Client}
variable {trace : List (TransportEvent Unit Client)}

omit [DecidableEq Client] in
theorem exchange_fresh (running : initial.fault = none) (sound : initial.world.Sound) :
    initial.exchange.Fresh where
  idle := rfl
  running := running
  noRequests := rfl
  noReplies := fun _ => rfl
  sound := sound

end Transport

end Cvbd
