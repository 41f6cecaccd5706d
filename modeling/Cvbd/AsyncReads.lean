import Cvbd.AsyncContent
import Cvbd.AsyncProject

/-!
What a read delivers: the reply on its way, and later the caller's vector, holds
the bytes of the file with exactly the calls made before the read applied.
-/

namespace Cvbd

variable {Client : Type}

/-- The bytes a read at `sectorNum` is to see: those of the file before the call. -/
def AsyncClient.expected (client : AsyncClient) (initial : File) (call : Nat) (sectorNum : Int64) :
    Bytes :=
  fun index => (client.contentBefore initial call).byte
    ((byteOffset sectorNum).toInt.toNat + index)

/-- The reply to a read carries the bytes the read is to see. -/
def AsyncClient.Carries (client : AsyncClient) (initial : File) (call : Nat) : Reply → Prop
  | .read reply => ∀ coroutine sectorNum nbSectors qiov,
      client.coroutines call = some coroutine → coroutine.call = .readv sectorNum nbSectors qiov →
      ∀ index, index < reply.sizeInBytes.toNat →
        reply.data index = client.expected initial call sectorNum index
  | .openVolume _ | .getsize _ | .fsync _ => True

/-- The data of the coroutine's read has been copied into its vector. -/
def AsyncClient.Copied (client : AsyncClient) (coroutine : Coroutine) : Prop :=
  coroutine.pc.isOutstanding = true ∧ (coroutine.acb ∈ client.bhs ∨
    ∃ ret, client.replyThread = .finishing coroutine.acb ret) ∨ coroutine.pc = .entered

/-- The vector of a read does not meet the vectors of the reads that have not returned. -/
def AsyncClient.Apart (client : AsyncClient) (qiov : Qiov) : Prop :=
  ∀ call coroutine sectorNum nbSectors other, client.coroutines call = some coroutine →
    coroutine.pc.isReturned = false → coroutine.call = .readv sectorNum nbSectors other →
    ∀ address ∈ qiov.addresses, address ∉ other.addresses

/-- What the caller promises: reads use vectors that do not meet those of outstanding reads, and
nobody else writes to the vector of an outstanding read. -/
def LocalLabel.Respects (client : AsyncClient) : LocalLabel → Prop
  | .call (.readv _ _ qiov) _ _ => client.Apart qiov
  | .guest memory => ∀ call coroutine sectorNum nbSectors qiov,
      client.coroutines call = some coroutine → coroutine.pc.isReturned = false →
      coroutine.call = .readv sectorNum nbSectors qiov →
      ∀ address ∈ qiov.addresses, memory address = client.memory address
  | _ => True

namespace PrivateState

def Respects (state : PrivateState Client) : PrivateLabel → Prop
  | .client (.inside label) => label.Respects state.client
  | _ => True

structure Delivers (initial : File) (state : PrivateState Client) : Prop where
  replies : ∀ reply ∈ state.service.replies,
    state.client.Carries initial reply.call reply.body
  hand : ∀ call reply, state.client.replyThread = .hand call reply →
    state.client.Carries initial call reply
  copied : ∀ call coroutine sectorNum nbSectors qiov,
    state.client.coroutines call = some coroutine →
    coroutine.call = .readv sectorNum nbSectors qiov → state.client.Copied coroutine →
    qiov.Holds state.client.memory (state.client.expected initial call sectorNum)
      (byteSize nbSectors).toNat
  apart : ∀ call coroutine sectorNum nbSectors qiov other found sectorNum' nbSectors' qiov',
    call ≠ other →
    state.client.coroutines call = some coroutine → coroutine.pc.isReturned = false →
    coroutine.call = .readv sectorNum nbSectors qiov →
    state.client.coroutines other = some found → found.pc.isReturned = false →
    found.call = .readv sectorNum' nbSectors' qiov' →
    ∀ address ∈ qiov.addresses, address ∉ qiov'.addresses

variable {self : Client} {volume : UInt64} {state after : PrivateState Client} {initial : File}
variable {label : PrivateLabel} {events : List CallEvent}

/-- A step that starts no coroutine. Each copied read either had been copied before, and its vector
is untouched, or is filled by this step. -/
theorem Delivers.transfer (delivers : state.Delivers initial)
    (content : ∀ bound,
      after.client.contentBefore initial bound = state.client.contentBefore initial bound)
    (origin : ∀ call coroutine, after.client.coroutines call = some coroutine →
      ∃ old, state.client.coroutines call = some old ∧ old.call = coroutine.call ∧
        (coroutine.pc.isReturned = false → old.pc.isReturned = false))
    (replies : ∀ reply ∈ after.service.replies,
      state.client.Carries initial reply.call reply.body)
    (hand : ∀ call reply, after.client.replyThread = .hand call reply →
      state.client.Carries initial call reply)
    (copied : ∀ call coroutine sectorNum nbSectors qiov,
      after.client.coroutines call = some coroutine →
      coroutine.call = .readv sectorNum nbSectors qiov → after.client.Copied coroutine →
      qiov.Holds after.client.memory (state.client.expected initial call sectorNum)
        (byteSize nbSectors).toNat) : after.Delivers initial := by
  have expected (call : Nat) (sectorNum : Int64) : after.client.expected initial call sectorNum =
      state.client.expected initial call sectorNum := by
    unfold AsyncClient.expected
    rw [content]
  have carries {call : Nat} {reply : Reply} (old : state.client.Carries initial call reply) :
      after.client.Carries initial call reply := by
    cases reply with
    | read reply =>
        intro coroutine sectorNum nbSectors qiov found call_eq index below
        obtain ⟨was, lookup, same, _⟩ := origin call coroutine found
        rw [expected]
        exact old was sectorNum nbSectors qiov lookup (same.trans call_eq) index below
    | openVolume reply => trivial
    | getsize reply => trivial
    | fsync reply => trivial
  refine ⟨fun reply member => carries (replies reply member),
    fun call reply held => carries (hand call reply held), ?_, ?_⟩
  · intro call coroutine sectorNum nbSectors qiov found call_eq done
    rw [expected]
    exact copied call coroutine sectorNum nbSectors qiov found call_eq done
  · intro call coroutine sectorNum nbSectors qiov other found sectorNum' nbSectors' qiov' different
      lookup unfinished call_eq lookupOther unfinishedOther callOther
    obtain ⟨old, oldLookup, same, oldUnfinished⟩ := origin call coroutine lookup
    obtain ⟨was, wasLookup, sameOther, wasUnfinished⟩ := origin other found lookupOther
    exact delivers.apart call old sectorNum nbSectors qiov other was sectorNum' nbSectors' qiov'
      different oldLookup (oldUnfinished unfinished) (same.trans call_eq) wasLookup
      (wasUnfinished unfinishedOther) (sameOther.trans callOther)

theorem Delivers.keep (delivers : state.Delivers initial)
    (coroutines : after.client.coroutines = state.client.coroutines)
    (replies : ∀ reply ∈ after.service.replies,
      state.client.Carries initial reply.call reply.body)
    (hand : ∀ call reply, after.client.replyThread = .hand call reply →
      state.client.Carries initial call reply)
    (copied : ∀ call coroutine sectorNum nbSectors qiov,
      state.client.coroutines call = some coroutine →
      coroutine.call = .readv sectorNum nbSectors qiov → after.client.Copied coroutine →
      qiov.Holds after.client.memory (state.client.expected initial call sectorNum)
        (byteSize nbSectors).toNat) : after.Delivers initial := by
  refine delivers.transfer (fun bound => ?_) ?_ replies hand ?_
  · exact AsyncClient.contentBefore_congr fun other _ => by rw [coroutines]
  · rw [coroutines]
    exact fun call coroutine found => ⟨coroutine, found, rfl, id⟩
  · rw [coroutines]
    exact copied

theorem Delivers.advance {call : Nat} {pc : CoPc} (delivers : state.Delivers initial)
    (old : Coroutine) (found : state.client.coroutines call = some old)
    (table : after.client.coroutines =
      Function.update state.client.coroutines call (some { old with pc }))
    (unfinished : old.pc.isReturned = false)
    (replies : after.service.replies = state.service.replies)
    (thread : after.client.replyThread = state.client.replyThread)
    (memory : after.client.memory = state.client.memory)
    (own : old.call.isWrite = false → after.client.Copied { old with pc } →
      state.client.Copied old)
    (others : ∀ other coroutine, other ≠ call → state.client.coroutines other = some coroutine →
      coroutine.pc.isOutstanding = true →
      coroutine.acb ∈ after.client.bhs → coroutine.acb ∈ state.client.bhs) :
    after.Delivers initial := by
  refine delivers.transfer (AsyncClient.contentBefore_update _ table found) ?_ ?_ ?_ ?_
  · rw [table]
    exact forall_update _ (fun other coroutine _ lookup => ⟨coroutine, lookup, rfl, id⟩)
      ⟨old, found, rfl, fun _ => unfinished⟩
  · rw [replies]
    exact delivers.replies
  · rw [thread]
    exact delivers.hand
  · rw [table, memory]
    intro other coroutine sectorNum nbSectors qiov lookup call_eq done
    by_cases same : other = call
    · subst same
      simp only [Function.update_self, Option.some.injEq] at lookup
      subst lookup
      exact delivers.copied other old sectorNum nbSectors qiov found call_eq
        (own (by rw [show old.call = _ from call_eq]; rfl) done)
    · rw [Function.update_of_ne same] at lookup
      refine delivers.copied other coroutine sectorNum nbSectors qiov lookup call_eq ?_
      rcases done with ⟨outstanding, scheduled | finishing⟩ | entered
      · exact Or.inl ⟨outstanding, Or.inl (others other coroutine same lookup outstanding scheduled)⟩
      · rw [thread] at finishing
        exact Or.inl ⟨outstanding, Or.inr finishing⟩
      · exact Or.inr entered

/-- A new coroutine has copied nothing, and its vector is apart from those of other reads. -/
theorem Delivers.newCall {new : Coroutine} (delivers : state.Delivers initial)
    (inv : state.Inv volume) (service : after.service = state.service)
    (table : after.client.coroutines =
      Function.update state.client.coroutines state.client.next (some new))
    (same : after.client.replyThread = state.client.replyThread ∧
      after.client.memory = state.client.memory ∧ after.client.bhs = state.client.bhs)
    (notCopied : new.pc.isOutstanding = false ∧ new.pc ≠ .entered)
    (apart : ∀ sectorNum nbSectors qiov, new.pc.isReturned = false →
      new.call = .readv sectorNum nbSectors qiov → state.client.Apart qiov) :
    after.Delivers initial := by
  have below {call : Nat} {coroutine : Coroutine}
      (found : state.client.coroutines call = some coroutine) : call < state.client.next :=
    (inv.known call).mp (by simp [found])
  have oldLookup {call : Nat} {coroutine : Coroutine} (before : call < state.client.next)
      (found : after.client.coroutines call = some coroutine) :
      state.client.coroutines call = some coroutine := by
    rwa [table, Function.update_of_ne (by omega)] at found
  have expected {call : Nat} (before : call < state.client.next) (sectorNum : Int64) :
      after.client.expected initial call sectorNum =
        state.client.expected initial call sectorNum := by
    unfold AsyncClient.expected
    rw [AsyncClient.contentBefore_new table (by omega)]
  have carries {call : Nat} {reply : Reply} (before : call < state.client.next)
      (old : state.client.Carries initial call reply) :
      after.client.Carries initial call reply := by
    cases reply with
    | read reply =>
        intro coroutine sectorNum nbSectors qiov found call_eq index inside
        rw [expected before]
        exact old coroutine sectorNum nbSectors qiov (oldLookup before found) call_eq index inside
    | openVolume reply => trivial
    | getsize reply => trivial
    | fsync reply => trivial
  refine ⟨?_, ?_, ?_, ?_⟩
  · intro reply member
    rw [service] at member
    obtain ⟨_, found, _⟩ := inv.replies reply member
    exact carries (below found) (delivers.replies reply member)
  · intro call reply held
    rw [same.1] at held
    obtain ⟨_, found, _⟩ := inv.hand call reply held
    exact carries (below found) (delivers.hand call reply held)
  · rw [table]
    intro call coroutine sectorNum nbSectors qiov found call_eq done
    by_cases isNew : call = state.client.next
    · subst isNew
      simp only [Function.update_self, Option.some.injEq] at found
      subst found
      rcases done with ⟨outstanding, _⟩ | entered
      · simp [notCopied.1] at outstanding
      · exact (notCopied.2 entered).elim
    · rw [Function.update_of_ne isNew] at found
      rw [expected (below found), same.2.1]
      refine delivers.copied call coroutine sectorNum nbSectors qiov found call_eq ?_
      simpa only [AsyncClient.Copied, same.1, same.2.2] using done
  · rw [table]
    intro call coroutine sectorNum nbSectors qiov other found sectorNum' nbSectors' qiov' different
      lookup unfinished call_eq lookupOther unfinishedOther callOther
    by_cases isNew : call = state.client.next
    · subst isNew
      simp only [Function.update_self, Option.some.injEq] at lookup
      subst lookup
      rw [Function.update_of_ne (Ne.symm different)] at lookupOther
      exact apart sectorNum nbSectors qiov unfinished call_eq other found sectorNum' nbSectors'
        qiov' lookupOther unfinishedOther callOther
    · rw [Function.update_of_ne isNew] at lookup
      by_cases otherNew : other = state.client.next
      · subst otherNew
        simp only [Function.update_self, Option.some.injEq] at lookupOther
        subst lookupOther
        intro address member memberOther
        exact apart sectorNum' nbSectors' qiov' unfinishedOther callOther call coroutine sectorNum
          nbSectors qiov lookup unfinished call_eq address memberOther member
      · rw [Function.update_of_ne otherNew] at lookupOther
        exact delivers.apart call coroutine sectorNum nbSectors qiov other found sectorNum'
          nbSectors' qiov' different lookup unfinished call_eq lookupOther unfinishedOther callOther

theorem Delivers.serve {request : Envelope Client Request} {rest : List (Envelope Client Request)}
    {kernel : Kernel} {service : Service Client} (delivers : state.Delivers initial)
    (inv : state.Inv volume) (stored : state.Stored initial) (running : state.service.alive = true)
    (queue : state.service.requests = request :: rest)
    (honest : kernel.Honest state.service.file.content request.body)
    (served : state.service.serve kernel = some service) :
    ({ state with service } : PrivateState Client).Delivers initial := by
  obtain ⟨⟨what, data, address, pc⟩, found, accepted, asks, _⟩ :=
    inv.requests request (by simp [queue])
  -- Everything before this request has been applied, and nothing else.
  have content : state.service.file.content = state.client.contentBefore initial request.call :=
    stored.pending [] request rest running queue
  have serves := asks.serves queue served
  simp only at serves accepted
  refine delivers.keep rfl (fun reply member => ?_) delivers.hand delivers.copied
  cases serves with
  | @read header sectorNum nbSectors qiov body type passed =>
      simp only [Service.answered, List.mem_append, List.mem_singleton] at member
      rcases member with old | rfl
      · exact delivers.replies reply old
      · intro coroutine sectorNum' nbSectors' qiov' lookup call_eq index below
        rw [found] at lookup
        obtain rfl := Option.some.inj lookup
        obtain ⟨rfl, rfl, rfl⟩ := CoCall.readv.inj call_eq
        rw [body] at honest
        simp only
        rw [Kernel.readData_full accepted.2 honest passed below, content]
        rfl
  | write body passed => exact delivers.replies reply member
  | flush body type made =>
      simp only [Service.answered, List.mem_append, List.mem_singleton] at member
      rcases member with old | rfl
      · exact delivers.replies reply old
      · trivial
  | abort transfers => exact delivers.replies reply member

theorem Delivers.copyRead {call : Nat} {sectorNum : Int64} {nbSectors : Int32} {qiov : Qiov}
    {data : Bytes} {pc : CoPc} {acb : Acb} {memory : Bytes} {reply : ReadReply}
    (delivers : state.Delivers initial) (inv : state.Inv volume)
    (held : state.client.replyThread = .hand call (.read reply))
    (found : state.client.coroutines call =
      some ⟨.readv sectorNum nbSectors qiov, data, reply.header.acb, pc⟩)
    (outstanding : pc.isOutstanding = true) (size : reply.sizeInBytes = byteSize nbSectors)
    (copied : iovFromBuf qiov 0 reply.data reply.sizeInBytes.toNat state.client.memory =
      some memory) :
    ({ state with client := { state.client.setAcb reply.header.acb
        (some { acb with ret := reply.sizeInBytes.toInt64 }) with
      memory
      replyThread := .finishing reply.header.acb 0 } } : PrivateState Client).Delivers initial := by
  have live := inv.live_outstanding found outstanding
  obtain ⟨filled, filled_eq, holds, elsewhere⟩ :=
    iovFromBuf_spec qiov reply.data reply.sizeInBytes.toNat state.client.memory
  obtain rfl : filled = memory := Option.some.inj (filled_eq.symm.trans copied)
  refine delivers.keep rfl delivers.replies (by simp) ?_
  intro other coroutine sector nb vector lookup call_eq done
  by_cases same : other = call
  · subst same
    rw [found] at lookup
    obtain rfl := Option.some.inj lookup
    obtain ⟨rfl, rfl, rfl⟩ := CoCall.readv.inj call_eq
    rw [size] at holds
    refine holds.mono fun position below => ?_
    exact (delivers.hand other (.read reply) held _ sectorNum nbSectors qiov found rfl position
      (by rw [size]; exact below)).symm
  · have unfinished : coroutine.pc.isReturned = false := by
      rcases done with ⟨active, _⟩ | entered
      · cases pc : coroutine.pc <;> simp_all [CoPc.isOutstanding, CoPc.isReturned]
      · simp [entered, CoPc.isReturned]
    have finished : pc.isReturned = false := by
      cases pc <;> simp_all [CoPc.isOutstanding, CoPc.isReturned]
    have before : state.client.Copied coroutine := by
      rcases done with ⟨active, scheduled | ⟨ret, finishing⟩⟩ | entered
      · exact Or.inl ⟨active, Or.inl scheduled⟩
      · simp only [ReplyThread.finishing.injEq] at finishing
        exact (live.acb_ne (inv.live_outstanding lookup active) same finishing.1.symm).elim
      · exact Or.inr entered
    refine (delivers.copied other coroutine sector nb vector lookup call_eq before).congr ?_
    intro address member
    refine elsewhere address ?_
    exact delivers.apart other coroutine sector nb vector call _ sectorNum nbSectors qiov same lookup
      unfinished call_eq found finished rfl address member

theorem Delivers.thread {address : UInt64} {call : Nat} {coroutine : Coroutine}
    {after : AsyncClient} (delivers : state.Delivers initial) (inv : state.Inv volume)
    (found : state.client.coroutines call = some coroutine) (own : coroutine.acb = address)
    (outstanding : coroutine.pc.isOutstanding = true)
    (same : after.coroutines = state.client.coroutines ∧ after.memory = state.client.memory)
    (notHand : ∀ call reply, after.replyThread ≠ .hand call reply)
    (moved : ∀ acb, acb ≠ address →
      (acb ∈ after.bhs ∨ ∃ ret, after.replyThread = .finishing acb ret) → acb ∈ state.client.bhs)
    (before : coroutine.call.isWrite = false → (∃ sectorNum nbSectors qiov,
      coroutine.call = .readv sectorNum nbSectors qiov) → state.client.Copied coroutine) :
    ({ state with client := after } : PrivateState Client).Delivers initial := by
  have live := inv.live_outstanding found outstanding
  refine delivers.keep same.1 delivers.replies (fun call reply held => (notHand call reply held).elim) ?_
  intro other found' sectorNum nbSectors qiov lookup call_eq done
  simp only [same.2]
  refine delivers.copied other found' sectorNum nbSectors qiov lookup call_eq ?_
  by_cases isOwn : other = call
  · subst isOwn
    rw [found] at lookup
    obtain rfl := Option.some.inj lookup
    exact before (by rw [call_eq]; rfl) ⟨_, _, _, call_eq⟩
  · rcases done with ⟨active, place⟩ | entered
    · have apart := live.acb_ne (inv.live_outstanding lookup active) isOwn
      rw [own] at apart
      exact Or.inl ⟨active, Or.inl (moved _ apart place)⟩
    · exact Or.inr entered

theorem Delivers.step (delivers : state.Delivers initial) (inv : state.Inv volume)
    (stored : state.Stored initial) (valid : state.Valid label) (respects : state.Respects label)
    (effect : Effect self volume state label after events) : after.Delivers initial := by
  cases effect with
  | abort large =>
      exact delivers.keep rfl delivers.replies delivers.hand delivers.copied
  | refuse idle free misaligned =>
      exact delivers.newCall inv rfl rfl ⟨rfl, rfl, rfl⟩
        ⟨rfl, by simp [AsyncClient.newCoroutine]⟩
        (by simp [AsyncClient.newCoroutine, CoPc.isReturned])
  | enter idle nonzero free accepted volume_eq asks filled =>
      refine delivers.newCall inv rfl rfl ⟨rfl, rfl, rfl⟩
        ⟨rfl, by simp [AsyncClient.newCoroutine]⟩ ?_
      intro sectorNum nbSectors qiov _ call_eq
      obtain rfl : _ = CoCall.readv sectorNum nbSectors qiov := call_eq
      exact respects
  | send executing found asks =>
      obtain ⟨notScheduled, notFinishing⟩ := inv.not_copied found rfl rfl
      refine delivers.advance _ found rfl rfl rfl rfl rfl ?_ fun _ _ _ _ _ member => member
      rintro read (⟨_, scheduled | ⟨ret, finishing⟩⟩ | entered)
      · exact (notScheduled scheduled).elim
      · exact (notFinishing ret finishing).elim
      · exfalso
        simp only at entered
        split at entered <;> simp at entered
  | callback executing found write live =>
      have owner := inv.live _ _ found rfl
      refine delivers.advance ⟨_, _, _, .callback⟩ found rfl rfl rfl rfl rfl ?_ ?_
      · intro read
        simp [write] at read
      · intro other coroutine different lookup outstanding member
        have apart := owner.acb_ne (inv.live_outstanding lookup outstanding) different
        simpa [AsyncClient.finishAio, apart] using member
  | yield executing found =>
      refine delivers.advance ⟨_, _, _, .yielding⟩ found rfl rfl rfl rfl rfl ?_
        fun _ _ _ _ _ member => member
      rintro _ (⟨_, place⟩ | entered)
      · exact Or.inl ⟨rfl, place⟩
      · simp at entered
  | bottomHalf idle scheduled live found =>
      refine delivers.advance ⟨_, _, _, .yielded⟩ found rfl rfl rfl rfl rfl ?_
        fun _ _ _ _ _ member => List.mem_of_mem_erase member
      exact fun _ _ => Or.inl ⟨rfl, Or.inl scheduled⟩
  | resume executing found live =>
      refine delivers.advance ⟨_, _, _, .entered⟩ found rfl rfl rfl rfl rfl ?_
        fun _ _ _ _ _ member => member
      exact fun _ _ => Or.inr rfl
  | receive idle queue =>
      refine delivers.keep rfl ?_ ?_ ?_
      · intro other member
        exact delivers.replies other (by rw [queue]; exact List.mem_cons_of_mem _ member)
      · rintro call reply ⟨⟩
        exact delivers.replies _ (by simp [queue])
      · intro call coroutine sectorNum nbSectors qiov found call_eq done
        refine delivers.copied call coroutine sectorNum nbSectors qiov found call_eq ?_
        simpa [AsyncClient.Copied, idle] using done
  | copyRead held found outstanding size live copied =>
      exact delivers.copyRead inv held found outstanding size copied
  | copyFsync held found outstanding live =>
      refine delivers.thread inv found rfl outstanding ⟨rfl, rfl⟩ (by simp) ?_ ?_
      · rintro acb different (member | ⟨ret, finishing⟩)
        · exact member
        · simp only [ReplyThread.finishing.injEq] at finishing
          exact (different finishing.1.symm).elim
      · rintro _ ⟨_, _, _, call_eq⟩
        simp at call_eq
  | finish held live found own outstanding =>
      refine delivers.thread inv found own outstanding ⟨rfl, rfl⟩ (by simp) ?_ ?_
      · rintro acb different (member | ⟨ret, finishing⟩)
        · simpa [AsyncClient.finishAio, different] using member
        · simp at finishing
      · intro _ _
        exact Or.inl ⟨outstanding, Or.inr ⟨_, by rw [own]; exact held⟩⟩
  | guest =>
      refine delivers.keep rfl delivers.replies delivers.hand ?_
      intro call coroutine sectorNum nbSectors qiov found call_eq done
      refine (delivers.copied call coroutine sectorNum nbSectors qiov found call_eq done).congr ?_
      refine respects call coroutine sectorNum nbSectors qiov found ?_ call_eq
      rcases done with ⟨active, _⟩ | entered
      · cases pc : coroutine.pc <;> simp_all [CoPc.isOutstanding, CoPc.isReturned]
      · simp [entered, CoPc.isReturned]
  | serve alive queue served =>
      exact delivers.serve inv stored alive queue (valid _ _ queue) served
  | crash => exact delivers.keep rfl delivers.replies delivers.hand delivers.copied

end PrivateState

end Cvbd
