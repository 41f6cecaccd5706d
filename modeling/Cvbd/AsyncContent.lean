import Cvbd.AsyncInv

/-!
The file behind an asynchronous client: whatever is still in the queue, the file
with the queued requests applied is the initial file with all calls made so far
applied in the order they were made.
-/

namespace Cvbd

variable {Client : Type}

/-- The effect of a call on the file: a write puts what its vector held into its place, and a
misaligned call does nothing. -/
def Coroutine.apply (coroutine : Coroutine) (content : File) : File :=
  match coroutine.call with
  | .writev sectorNum nbSectors _ =>
      if isRequestAligned sectorNum nbSectors then
        content.pwrite (byteOffset sectorNum).toInt.toNat coroutine.data (byteSize nbSectors).toNat
      else content
  | .readv .. | .flush => content

/-- The file with the calls before `call` applied, in the order of the calls. -/
def AsyncClient.contentBefore (client : AsyncClient) (initial : File) : Nat → File
  | 0 => initial
  | call + 1 =>
      match client.coroutines call with
      | some coroutine => coroutine.apply (client.contentBefore initial call)
      | none => client.contentBefore initial call

namespace AsyncClient

variable {client after : AsyncClient} {initial : File}

theorem contentBefore_congr {call : Nat}
    (same : ∀ other, other < call → (after.coroutines other).map (fun c => (c.call, c.data)) =
      (client.coroutines other).map fun c => (c.call, c.data)) :
    after.contentBefore initial call = client.contentBefore initial call := by
  induction call with
  | zero => rfl
  | succ call ih =>
      have here := same call (by omega)
      have before := ih fun other below => same other (by omega)
      simp only [contentBefore, before]
      cases found : client.coroutines call with
      | none =>
          simp only [found, Option.map_none, Option.map_eq_none_iff] at here
          simp [here]
      | some coroutine =>
          simp only [found, Option.map_some, Option.map_eq_some_iff, Prod.mk.injEq] at here
          obtain ⟨new, lookup, call_eq, data_eq⟩ := here
          simp [lookup, Coroutine.apply, call_eq, data_eq]

theorem contentBefore_succ {call : Nat} {coroutine : Coroutine}
    (found : client.coroutines call = some coroutine) :
    client.contentBefore initial (call + 1) =
      coroutine.apply (client.contentBefore initial call) := by
  simp [contentBefore, found]

/-- The effects of the calls do not depend on how far they have got. -/
theorem contentBefore_update {call : Nat} (old : Coroutine) {pc : CoPc}
    (table : after.coroutines = Function.update client.coroutines call (some { old with pc }))
    (found : client.coroutines call = some old) (bound : Nat) :
    after.contentBefore initial bound = client.contentBefore initial bound := by
  refine contentBefore_congr fun other _ => ?_
  rw [table]
  by_cases same : other = call
  · subst same
    simp [found]
  · simp [same]

theorem contentBefore_new {new : Coroutine}
    (table : after.coroutines = Function.update client.coroutines client.next (some new))
    {bound : Nat} (old : bound ≤ client.next) :
    after.contentBefore initial bound = client.contentBefore initial bound := by
  refine contentBefore_congr fun other below => ?_
  rw [table, Function.update_of_ne (by omega)]

end AsyncClient

theorem CoCall.Asks.apply {coroutine : Coroutine} {volume acb : UInt64} {request : Request}
    (asks : coroutine.call.Asks coroutine.data volume acb request)
    (accepted : coroutine.call.Accepted) (content : File) :
    request.apply content = coroutine.apply content := by
  obtain ⟨what, data, address, pc⟩ := coroutine
  cases what with
  | readv sectorNum nbSectors qiov =>
      obtain ⟨id, rfl⟩ := asks
      rfl
  | writev sectorNum nbSectors qiov =>
      obtain ⟨id, sent, rfl, same⟩ := asks
      have aligned : isRequestAligned sectorNum nbSectors = true := accepted.1
      simp only [Request.apply, Coroutine.apply, aligned, if_true]
      exact File.pwrite_congr _ _ same
  | flush =>
      obtain ⟨id, rfl⟩ := asks
      rfl

/-- A request whose serving has not aborted the server has had its effect. -/
theorem Serves.content {kernel : Kernel} {service served : Service Client}
    {request : Envelope Client Request} {rest : List (Envelope Client Request)} {what : CoCall}
    (serves : Serves kernel service request rest what served) (alive : served.alive = true)
    (small : what.size.toNat ≤ maxDataSize)
    (honest : kernel.Honest service.file.content request.body) :
    served.requests = rest ∧
      served.file.content = request.body.apply service.file.content := by
  cases serves with
  | read body type passed => exact ⟨rfl, by rw [body]; rfl⟩
  | flush body type made => exact ⟨rfl, by rw [body]; rfl⟩
  | write body passed =>
      refine ⟨rfl, ?_⟩
      have full := transferResult_full small
        (fun count transferred => (honest.pwrite _ count body transferred).2) passed
      simp only [Service.stored, body, Request.apply, Kernel.written, full, CoCall.size]
  | abort transfers => simp at alive

/-- The content is the initial file with every call applied that has been submitted or refused. -/
structure AsyncClient.Tracks (client : AsyncClient) (initial content : File) : Prop where
  sending : ∀ call coroutine request, client.coroutines call = some coroutine →
    coroutine.pc = .sending request → content = client.contentBefore initial call
  settled : (∀ call coroutine request, client.coroutines call = some coroutine →
    coroutine.pc ≠ .sending request) → content = client.contentBefore initial client.next

namespace AsyncClient

variable {client after : AsyncClient} {initial content : File}

theorem Tracks.of_table (tracks : client.Tracks initial content) (next : after.next = client.next)
    (effects : ∀ bound, after.contentBefore initial bound = client.contentBefore initial bound)
    (same : ∀ call request, (∃ coroutine, after.coroutines call = some coroutine ∧
        coroutine.pc = .sending request) ↔
      ∃ coroutine, client.coroutines call = some coroutine ∧
        coroutine.pc = .sending request) : after.Tracks initial content where
  sending := by
    intro call coroutine request found sending
    obtain ⟨old, lookup, was⟩ := (same call request).mp ⟨coroutine, found, sending⟩
    rw [effects]
    exact tracks.sending call old request lookup was
  settled := by
    intro quiet
    rw [effects, next]
    refine tracks.settled fun call coroutine request found sending => ?_
    obtain ⟨new, lookup, is⟩ := (same call request).mpr ⟨coroutine, found, sending⟩
    exact quiet call new request lookup is

theorem Tracks.keep (tracks : client.Tracks initial content)
    (coroutines : after.coroutines = client.coroutines) (next : after.next = client.next) :
    after.Tracks initial content := by
  refine tracks.of_table next (fun bound => ?_) (fun call request => by rw [coroutines])
  exact contentBefore_congr fun other _ => by rw [coroutines]

theorem Tracks.advance {call : Nat} {pc : CoPc} (tracks : client.Tracks initial content)
    (old : Coroutine) (next : after.next = client.next)
    (table : after.coroutines = Function.update client.coroutines call (some { old with pc }))
    (found : client.coroutines call = some old) (notSending : ∀ request, old.pc ≠ .sending request)
    (notBecomes : ∀ request, pc ≠ .sending request) : after.Tracks initial content := by
  refine tracks.of_table next (contentBefore_update old table found) (fun other request => ?_)
  rw [table]
  by_cases same : other = call
  · subst same
    simp [found, notSending, notBecomes]
  · simp [same]

end AsyncClient

namespace PrivateState

variable {self : Client} {volume : UInt64} {state after : PrivateState Client}
variable {initial content : File} {label : PrivateLabel} {events : List CallEvent}

theorem Inv.sending_unique {call other : Nat} {coroutine found : Coroutine} {request sent : Request}
    (inv : state.Inv volume) (lookup : state.client.coroutines call = some coroutine)
    (sending : coroutine.pc = .sending request)
    (lookupOther : state.client.coroutines other = some found)
    (sendingOther : found.pc = .sending sent) : other = call := by
  have here := inv.last call coroutine request lookup sending
  have there := inv.last other found sent lookupOther sendingOther
  omega

theorem Inv.quiet (inv : state.Inv volume) (idle : state.client.current = none) (call : Nat)
    (coroutine : Coroutine) (request : Request)
    (found : state.client.coroutines call = some coroutine) : coroutine.pc ≠ .sending request := by
  intro sending
  have running := inv.running call coroutine found
  simp [sending, CoPc.isRunning, idle] at running

theorem Inv.tracks_send {call : Nat} {what : CoCall} {data : Bytes} {acb : UInt64}
    {request : Request} {pc : CoPc} (inv : state.Inv volume)
    (tracks : state.client.Tracks initial content)
    (found : state.client.coroutines call = some ⟨what, data, acb, .sending request⟩)
    (notBecomes : ∀ request, pc ≠ .sending request) :
    (state.client.setCoroutine call ⟨what, data, acb, pc⟩).Tracks initial
      (request.apply content) where
  sending := by
    intro other coroutine sent lookup sending
    refine absurd sending ?_
    simp only [AsyncClient.setCoroutine] at lookup
    by_cases same : other = call
    · subst same
      simp only [Function.update_self, Option.some.injEq] at lookup
      subst lookup
      exact notBecomes sent
    · rw [Function.update_of_ne same] at lookup
      exact fun sending => same (inv.sending_unique found rfl lookup sending)
  settled := by
    intro _
    have last := inv.last call _ request found rfl
    have accepted := inv.accepted call _ found rfl
    have same : (state.client.setCoroutine call ⟨what, data, acb, pc⟩).contentBefore initial
        state.client.next = state.client.contentBefore initial state.client.next :=
      AsyncClient.contentBefore_update ⟨what, data, acb, .sending request⟩ rfl found _
    show request.apply content =
      (state.client.setCoroutine call ⟨what, data, acb, pc⟩).contentBefore initial state.client.next
    rw [same, ← last, AsyncClient.contentBefore_succ found,
      ← (inv.sends call _ request found rfl).apply accepted,
      ← tracks.sending call _ request found rfl]

/-- A new coroutine has no effect before its message is in the queue. -/
theorem Inv.tracks_newCall {new : Coroutine} {client : AsyncClient} (inv : state.Inv volume)
    (tracks : state.client.Tracks initial content) (idle : state.client.current = none)
    (table : client.coroutines =
      Function.update state.client.coroutines state.client.next (some new))
    (next : client.next = state.client.next + 1)
    (pc : (∃ request, new.pc = .sending request) ∨
      new.call.aligned = false ∧ new.pc.isReturned = true) : client.Tracks initial content where
  sending := by
    intro call coroutine request found sending
    rw [table] at found
    by_cases same : call = state.client.next
    · subst same
      rw [AsyncClient.contentBefore_new table (by omega)]
      exact tracks.settled (inv.quiet idle)
    · rw [Function.update_of_ne same] at found
      exact (inv.quiet idle call coroutine request found sending).elim
  settled := by
    intro none
    rcases pc with ⟨request, sending⟩ | ⟨misaligned, _⟩
    · exact (none state.client.next new request (by simp [table]) sending).elim
    · have lookup : client.coroutines state.client.next = some new := by simp [table]
      have nothing (content : File) : new.apply content = content := by
        unfold Coroutine.apply
        cases call : new.call with
        | writev sectorNum nbSectors qiov =>
            simp only [call, CoCall.aligned] at misaligned
            simp [misaligned]
        | readv sectorNum nbSectors qiov => rfl
        | flush => rfl
      rw [next, AsyncClient.contentBefore_succ lookup, nothing,
        AsyncClient.contentBefore_new table (by omega)]
      exact tracks.settled (inv.quiet idle)

theorem Inv.tracks_step (inv : state.Inv volume) (tracks : state.client.Tracks initial content)
    (effect : Effect self volume state label after events) (notSend : label ≠ .client .send) :
    after.client.Tracks initial content := by
  cases effect with
  | abort large => exact tracks.keep rfl rfl
  | refuse idle free misaligned =>
      exact inv.tracks_newCall tracks idle rfl rfl (Or.inr ⟨misaligned, rfl⟩)
  | enter idle nonzero free accepted volume_eq asks filled =>
      exact inv.tracks_newCall tracks idle rfl rfl (Or.inl ⟨_, rfl⟩)
  | send executing found asks => exact (notSend rfl).elim
  | callback executing found write live =>
      exact tracks.advance ⟨_, _, _, .callback⟩ rfl rfl found (by simp) (by simp)
  | yield executing found =>
      exact tracks.advance ⟨_, _, _, .yielding⟩ rfl rfl found (by simp) (by simp)
  | bottomHalf idle scheduled live found =>
      exact tracks.advance ⟨_, _, _, .yielded⟩ rfl rfl found (by simp) (by simp)
  | resume executing found live =>
      exact tracks.advance ⟨_, _, _, .entered⟩ rfl rfl found (by simp) (by simp)
  | receive idle queue => exact tracks.keep rfl rfl
  | copyRead held found outstanding size live copied => exact tracks.keep rfl rfl
  | copyFsync held found outstanding live => exact tracks.keep rfl rfl
  | finish held live found own outstanding => exact tracks.keep rfl rfl
  | guest => exact tracks.keep rfl rfl
  | serve alive queue served => exact tracks
  | crash => exact tracks

theorem Inv.keeps_call (inv : state.Inv volume)
    (effect : Effect self volume state label after events) {call : Nat} {coroutine : Coroutine}
    (found : state.client.coroutines call = some coroutine) :
    ∃ kept, after.client.coroutines call = some kept ∧ kept.call = coroutine.call ∧
      kept.data = coroutine.data := by
  have known : call < state.client.next := (inv.known call).mp (by simp [found])
  have moved {other : Nat} {old : Coroutine} (pc : CoPc)
      (lookup : state.client.coroutines other = some old) :
      ∃ kept, Function.update state.client.coroutines other (some { old with pc }) call =
        some kept ∧ kept.call = coroutine.call ∧ kept.data = coroutine.data := by
    by_cases same : call = other
    · subst same
      rw [found] at lookup
      obtain rfl := Option.some.inj lookup
      exact ⟨_, Function.update_self .., rfl, rfl⟩
    · exact ⟨coroutine, by rw [Function.update_of_ne same]; exact found, rfl, rfl⟩
  have added (new : Coroutine) : ∃ kept,
      Function.update state.client.coroutines state.client.next (some new) call = some kept ∧
        kept.call = coroutine.call ∧ kept.data = coroutine.data :=
    ⟨coroutine, by rw [Function.update_of_ne (by omega)]; exact found, rfl, rfl⟩
  cases effect with
  | refuse idle free misaligned => exact added _
  | enter idle nonzero free accepted volume_eq asks filled => exact added _
  | send executing lookup asks => exact moved _ lookup
  | callback executing lookup write live => exact moved _ lookup
  | yield executing lookup => exact moved _ lookup
  | bottomHalf idle scheduled live lookup => exact moved _ lookup
  | resume executing lookup live => exact moved _ lookup
  | abort large => exact ⟨coroutine, found, rfl, rfl⟩
  | receive idle queue => exact ⟨coroutine, found, rfl, rfl⟩
  | copyRead held lookup outstanding size live copied => exact ⟨coroutine, found, rfl, rfl⟩
  | copyFsync held lookup outstanding live => exact ⟨coroutine, found, rfl, rfl⟩
  | finish held live lookup own outstanding => exact ⟨coroutine, found, rfl, rfl⟩
  | guest => exact ⟨coroutine, found, rfl, rfl⟩
  | serve alive queue served => exact ⟨coroutine, found, rfl, rfl⟩
  | crash => exact ⟨coroutine, found, rfl, rfl⟩

/-- No step changes the effects of the calls made so far. -/
theorem Inv.contentBefore_step (inv : state.Inv volume)
    (effect : Effect self volume state label after events) {bound : Nat}
    (old : bound ≤ state.client.next) :
    after.client.contentBefore initial bound = state.client.contentBefore initial bound := by
  refine AsyncClient.contentBefore_congr fun other below => ?_
  obtain ⟨coroutine, found⟩ := Option.isSome_iff_exists.mp ((inv.known other).mpr (by omega))
  obtain ⟨kept, lookup, call_eq, data_eq⟩ := inv.keeps_call effect found
  simp [found, lookup, call_eq, data_eq]

/-- The file, the queue and the calls fit together, as long as the server runs. -/
structure Stored (initial : File) (state : PrivateState Client) : Prop where
  pending : ∀ before request rest, state.service.alive = true →
    state.service.requests = before ++ request :: rest →
    state.service.file.content.applyAll before = state.client.contentBefore initial request.call
  tracks : state.service.alive = true →
    state.client.Tracks initial (state.service.file.content.applyAll state.service.requests)

theorem Stored.keep (stored : state.Stored initial) (inv : state.Inv volume)
    (effect : Effect self volume state label after events) (notSend : label ≠ .client .send)
    (service : after.service.requests = state.service.requests ∧
      after.service.file = state.service.file ∧
      (after.service.alive = true → state.service.alive = true)) : after.Stored initial where
  pending := by
    intro before request rest alive queue
    rw [service.1] at queue
    obtain ⟨coroutine, found, _⟩ := inv.requests request (by simp [queue])
    have known := (inv.known request.call).mp (by simp [found])
    rw [service.2.1, inv.contentBefore_step effect (by omega)]
    exact stored.pending before request rest (service.2.2 alive) queue
  tracks := by
    intro alive
    rw [service.1, service.2.1]
    exact inv.tracks_step (stored.tracks (service.2.2 alive)) effect notSend

theorem Stored.send {call : Nat} {what : CoCall} {data : Bytes} {acb : UInt64} {request : Request}
    {pc : CoPc} (stored : state.Stored initial) (inv : state.Inv volume)
    (found : state.client.coroutines call = some ⟨what, data, acb, .sending request⟩)
    (notBecomes : ∀ request, pc ≠ .sending request) :
    (⟨state.client.setCoroutine call ⟨what, data, acb, pc⟩,
      { state.service with requests := state.service.requests ++ [⟨self, call, request⟩] }⟩ :
      PrivateState Client).Stored initial := by
  have content (bound : Nat) :
      (state.client.setCoroutine call ⟨what, data, acb, pc⟩).contentBefore initial bound =
        state.client.contentBefore initial bound :=
    AsyncClient.contentBefore_update ⟨what, data, acb, .sending request⟩ rfl found bound
  refine ⟨?_, fun alive => ?_⟩
  · intro before queued rest alive queue
    rw [content]
    rcases List.eq_nil_or_concat rest with rfl | ⟨inner, last, rfl⟩
    · -- The message just sent: all earlier ones are before it.
      obtain ⟨rfl, same⟩ := List.append_inj' queue rfl
      obtain rfl := (List.cons.inj same).1
      exact (stored.tracks alive).sending call _ request found rfl
    · rw [List.concat_eq_append, ← List.cons_append, ← List.append_assoc] at queue
      exact stored.pending before queued inner alive (List.append_inj' queue rfl).1
  · simp only [File.applyAll_append, File.applyAll_cons, File.applyAll_nil]
    exact inv.tracks_send (stored.tracks alive) found notBecomes

theorem Stored.serve {request : Envelope Client Request} {rest : List (Envelope Client Request)}
    {kernel : Kernel} {service : Service Client} (stored : state.Stored initial)
    (inv : state.Inv volume) (running : state.service.alive = true)
    (queue : state.service.requests = request :: rest)
    (honest : kernel.Honest state.service.file.content request.body)
    (served : state.service.serve kernel = some service) :
    ({ state with service } : PrivateState Client).Stored initial := by
  obtain ⟨coroutine, found, accepted, asks, _⟩ := inv.requests request (by simp [queue])
  have effect (alive : service.alive = true) :
      service.requests = rest ∧ ∀ queued : List (Envelope Client Request),
        service.file.content.applyAll queued =
          state.service.file.content.applyAll (request :: queued) := by
    obtain ⟨requests, content⟩ := (asks.serves queue served).content alive accepted.2 honest
    exact ⟨requests, fun queued => by rw [content, File.applyAll_cons]⟩
  refine ⟨?_, ?_⟩
  · intro before queued others alive split
    obtain ⟨requests, content⟩ := effect alive
    simp only at split ⊢
    rw [requests] at split
    rw [content]
    exact stored.pending (request :: before) queued others running (by rw [queue, split]; rfl)
  · intro alive
    obtain ⟨requests, content⟩ := effect alive
    simp only
    rw [requests, content, ← queue]
    exact stored.tracks running

theorem Stored.step (stored : state.Stored initial) (inv : state.Inv volume)
    (valid : state.Valid label) (effect : Effect self volume state label after events) :
    after.Stored initial := by
  have keep := stored.keep inv effect
  cases effect with
  | send executing found asks =>
      refine stored.send inv found fun request => ?_
      split <;> simp
  | serve alive queue served => exact stored.serve inv alive queue (valid _ _ queue) served
  | crash => exact keep (by simp) ⟨rfl, rfl, by simp⟩
  | abort large => exact keep (by simp) ⟨rfl, rfl, id⟩
  | refuse idle free misaligned => exact keep (by simp) ⟨rfl, rfl, id⟩
  | enter idle nonzero free accepted volume_eq asks filled => exact keep (by simp) ⟨rfl, rfl, id⟩
  | callback executing found write live => exact keep (by simp) ⟨rfl, rfl, id⟩
  | yield executing found => exact keep (by simp) ⟨rfl, rfl, id⟩
  | bottomHalf idle scheduled live found => exact keep (by simp) ⟨rfl, rfl, id⟩
  | resume executing found live => exact keep (by simp) ⟨rfl, rfl, id⟩
  | receive idle queue => exact keep (by simp) ⟨rfl, rfl, id⟩
  | copyRead held found outstanding size live copied => exact keep (by simp) ⟨rfl, rfl, id⟩
  | copyFsync held found outstanding live => exact keep (by simp) ⟨rfl, rfl, id⟩
  | finish held live found own outstanding => exact keep (by simp) ⟨rfl, rfl, id⟩
  | guest => exact keep (by simp) ⟨rfl, rfl, id⟩

end PrivateState

end Cvbd
