import Cvbd.RendezvousCore

/-!
What the names of the queues stand for, at every moment of a run. The request
queues follow the position of the server, the reply queues those of the clients.
-/

namespace Cvbd

/-! The name of a request queue tells its number. -/

theorem toUInt8_digit {digit : Char} (isDigit : digit.isDigit = true) :
    Char.ofNat digit.toUInt8.toNat = digit := by
  have small : digit.toNat < 256 := by
    simp only [Char.isDigit, Bool.and_eq_true, decide_eq_true_eq] at isDigit
    have upper : digit.val.toNat ≤ 57 := isDigit.2
    exact Nat.lt_of_le_of_lt upper (by decide)
  have kept : digit.toUInt8.toNat = digit.toNat := by
    rw [Char.toUInt8, UInt32.toNat_toUInt8]
    exact Nat.mod_eq_of_lt small
  rw [kept, Char.ofNat_toNat]

theorem requestMqName_injective : Function.Injective requestMqName := by
  intro left right equal
  have digits : (Nat.toDigits 10 left).map Char.toUInt8 =
      (Nat.toDigits 10 right).map Char.toUInt8 := List.append_cancel_right equal
  have decoded (index : Nat) : ((Nat.toDigits 10 index).map Char.toUInt8).map
      (fun byte => Char.ofNat byte.toNat) = Nat.toDigits 10 index := by
    rw [List.map_map]
    refine (List.map_congr_left fun digit member => ?_).trans (List.map_id _)
    exact toUInt8_digit (Nat.isDigit_of_mem_toDigits (by decide) (by decide) member)
  have parsed := congrArg (fun text => Nat.ofDigitChars 10
    (text.map fun byte => Char.ofNat byte.toNat) 0) digits
  simpa only [decoded, Nat.ofDigitChars_ten_toDigits] using parsed

theorem requestMqName_ne_nil (index : Nat) : requestMqName index ≠ [] := by
  simp [requestMqName, Nat.toDigits_ne_nil]

theorem queueNum_lt {queues : Nat} (some : 0 < queues) (few : queues < 2 ^ 64) (name : Name) :
    queueNum queues name < queues := by
  unfold queueNum
  split
  · exact some
  · rw [UInt64.toNat_mod, UInt64.toNat_ofNat_of_lt' few]
    exact Nat.mod_lt _ some

/-- The request queues that have their names. -/
def ServerPc.made (queues : Nat) : ServerPc → Nat → Bool
  | .removing next, index | .creating next, index => index < next
  | .up, index => index < queues
  | .dropping next, index => next ≤ index && index < queues
  | .down, _ | .failed, _ => false

/-- The request queues whose names are no leftovers any more. -/
def ServerPc.settled (queues : Nat) : ServerPc → Nat → Bool
  | .removing next, index => index < next
  | .creating next, index => index ≤ next
  | .up, index | .dropping _, index | .down, index => index < queues
  | .failed, _ => false

/-- The destructor has begun. -/
def ServerPc.stopping : ServerPc → Bool
  | .dropping _ | .down => true
  | .removing _ | .creating _ | .up | .failed => false

namespace Rendezvous

variable {Client : Type} [DecidableEq Client] {setting : Setting Client}
variable {state after : Rendezvous Client} {leftovers : Name → Option Nat}

/-- A constructor that has removed the name of its reply queue and not yet made a new one. -/
def ClientAwaits (state : Rendezvous Client) (client : Client) : Prop :=
  state.clients client = .removed ∨ ∃ mq, state.clients client = .attached mq

structure Inv (setting : Setting Client) (leftovers : Name → Option Nat)
    (state : Rendezvous Client) : Prop where
  running : state.server ≠ .failed
  bounded : ∀ next, state.server = .creating next → next < setting.queues
  reached : ∀ next, state.server = .removing next → next ≤ setting.queues
  requests : ∀ index, state.server.settled setting.queues index = true →
    state.names (requestMqName index) =
      if state.server.made setting.queues index then some (.request index) else none
  unclashed : ∀ client, state.clients client ≠ .clashed
  vacant : ∀ client, state.ClientAwaits client → state.names (setting.volumeName client) = none
  named : ∀ client, (state.clients client).named = true →
    state.names (setting.volumeName client) = some (.reply client)
  request : ∀ name index, state.names name = some (.request index) →
    name = requestMqName index ∧ index < setting.queues
  reply : ∀ name client, state.names name = some (.reply client) →
    name = setting.volumeName client ∧ (state.clients client).named = true
  leftover : ∀ name number, state.names name = some (.leftover number) →
    leftovers name = some number

omit [DecidableEq Client] in
theorem start_inv : (start leftovers : Rendezvous Client).Inv setting leftovers where
  running := by simp [start]
  bounded := by simp [start]
  reached := by simp [start]
  requests := by simp [start, ServerPc.settled]
  unclashed := by simp [start]
  vacant := by simp [start, ClientAwaits]
  named := by simp [start, ClientPc.named]
  request := by simp [start]
  reply := by simp [start]
  leftover := by simp [start]

omit [DecidableEq Client] in
theorem Inv.settled_lt (inv : state.Inv setting leftovers) {index : Nat}
    (settled : state.server.settled setting.queues index = true) : index < setting.queues := by
  cases pc : state.server with
  | removing next =>
      have below : index < next := by simpa [pc, ServerPc.settled] using settled
      have := inv.reached next pc
      omega
  | creating next =>
      have below : index ≤ next := by simpa [pc, ServerPc.settled] using settled
      have := inv.bounded next pc
      omega
  | up => simpa [pc, ServerPc.settled] using settled
  | dropping next => simpa [pc, ServerPc.settled] using settled
  | down => simpa [pc, ServerPc.settled] using settled
  | failed => simp [pc, ServerPc.settled] at settled

/-! The server's steps touch the names of request queues only. -/

omit [DecidableEq Client] in
/-- A request queue gets or loses its name, while the clients' names stay. -/
theorem Inv.setRequest (inv : state.Inv setting leftovers) (apart : Apart setting) {index : Nat}
    (small : index < setting.queues) {mq : Option (Mq Client)} {server : ServerPc} (running : server ≠ .failed)
    (bounded : ∀ next, server = .creating next → next < setting.queues)
    (reached : ∀ next, server = .removing next → next ≤ setting.queues)
    (own : mq = none ∨ mq = some (.request index))
    (here : server.settled setting.queues index = true →
      mq = if server.made setting.queues index then some (.request index) else none)
    (others : ∀ other, other ≠ index → server.settled setting.queues other = true →
      state.server.settled setting.queues other = true ∧
        server.made setting.queues other = state.server.made setting.queues other) :
    ({ state.setName (requestMqName index) mq with server } : Rendezvous Client).Inv setting
      leftovers := by
  have elsewhere (client : Client) :
      Function.update state.names (requestMqName index) mq (setting.volumeName client) =
        state.names (setting.volumeName client) :=
    Function.update_of_ne (apart.queues client index small) ..
  have old {name : Name} {found : Mq Client}
      (lookup : Function.update state.names (requestMqName index) mq name = some found) :
      state.names name = some found ∨ name = requestMqName index ∧ mq = some found := by
    by_cases same : name = requestMqName index
    · subst same
      rw [Function.update_self] at lookup
      exact Or.inr ⟨rfl, lookup⟩
    · rw [Function.update_of_ne same] at lookup
      exact Or.inl lookup
  refine ⟨running, bounded, reached, ?_, inv.unclashed, ?_, ?_, ?_, ?_, ?_⟩
  · intro other settled
    show Function.update state.names (requestMqName index) mq (requestMqName other) = _
    by_cases same : other = index
    · subst same
      rw [Function.update_self]
      exact here settled
    · rw [Function.update_of_ne (requestMqName_injective.ne same), (others other same settled).2]
      exact inv.requests other (others other same settled).1
  · intro client awaits
    exact (elsewhere client).trans (inv.vacant client awaits)
  · intro client named
    exact (elsewhere client).trans (inv.named client named)
  · intro name number lookup
    rcases old lookup with old | ⟨rfl, found⟩
    · exact inv.request name number old
    · rcases own with none | own
      · simp [none] at found
      · obtain rfl : index = number := by simpa [own] using found
        exact ⟨rfl, small⟩
  · intro name client lookup
    rcases old lookup with old | ⟨rfl, found⟩
    · exact inv.reply name client old
    · rcases own with none | own
      · simp [none] at found
      · simp [own] at found
  · intro name number lookup
    rcases old lookup with old | ⟨rfl, found⟩
    · exact inv.leftover name number old
    · rcases own with none | own
      · simp [none] at found
      · simp [own] at found

omit [DecidableEq Client] in
/-- The server goes on without touching a name. -/
theorem Inv.setServer (inv : state.Inv setting leftovers) {server : ServerPc}
    (running : server ≠ .failed)
    (bounded : ∀ next, server = .creating next → next < setting.queues)
    (reached : ∀ next, server = .removing next → next ≤ setting.queues)
    (kept : ∀ index, server.settled setting.queues index = true →
      state.server.settled setting.queues index = true ∧
        server.made setting.queues index = state.server.made setting.queues index) :
    ({ state with server } : Rendezvous Client).Inv setting leftovers where
  running := running
  bounded := bounded
  reached := reached
  requests := by
    intro index settled
    show state.names (requestMqName index) = _
    rw [(kept index settled).2]
    exact inv.requests index (kept index settled).1
  unclashed := inv.unclashed
  vacant := inv.vacant
  named := inv.named
  request := inv.request
  reply := inv.reply
  leftover := inv.leftover

omit [DecidableEq Client] in
theorem Inv.serverStep (inv : state.Inv setting leftovers) (apart : Apart setting)
    {events : List (RendezvousEvent Client)}
    (stepped : state.serverStep setting = some (after, events)) : after.Inv setting leftovers := by
  unfold Rendezvous.serverStep at stepped
  cases pc : state.server with
  | removing next =>
      simp only [pc] at stepped
      split at stepped
      · rename_i more
        obtain ⟨rfl, _⟩ := Prod.mk.inj (Option.some.inj stepped)
        refine inv.setRequest apart more (by simp) (by simpa using more) (by simp) (Or.inl rfl) ?_ ?_
        · simp [ServerPc.made]
        · intro other different settled
          simp only [ServerPc.settled, pc, decide_eq_true_eq] at settled ⊢
          exact ⟨by omega, rfl⟩
      · rename_i all
        obtain ⟨rfl, _⟩ := Prod.mk.inj (Option.some.inj stepped)
        have same : next = setting.queues := Nat.le_antisymm (inv.reached next pc) (by omega)
        refine inv.setServer (by simp) (by simp) (by simp) ?_
        intro index settled
        simpa [ServerPc.settled, ServerPc.made, pc, same] using settled
  | creating next =>
      simp only [pc] at stepped
      have free := inv.requests next (by simp [pc, ServerPc.settled])
      rw [if_neg (by simp [pc, ServerPc.made])] at free
      rw [free] at stepped
      obtain ⟨rfl, _⟩ := Prod.mk.inj (Option.some.inj stepped)
      have small := inv.bounded next pc
      refine inv.setRequest apart small (by simp) (by simp)
        (by simpa using Nat.succ_le_of_lt small) (Or.inr rfl) ?_ ?_
      · simp [ServerPc.made]
      · intro other different settled
        simp only [ServerPc.settled, ServerPc.made, pc, decide_eq_true_eq, decide_eq_decide] at settled ⊢
        exact ⟨by omega, by omega⟩
  | up =>
      simp only [pc] at stepped
      obtain ⟨rfl, _⟩ := Prod.mk.inj (Option.some.inj stepped)
      refine inv.setServer (by simp) (by simp) (by simp) ?_
      intro index settled
      simpa [ServerPc.settled, ServerPc.made, pc] using settled
  | dropping next =>
      simp only [pc] at stepped
      split at stepped
      · rename_i more
        obtain ⟨rfl, _⟩ := Prod.mk.inj (Option.some.inj stepped)
        refine inv.setRequest apart more (by simp) (by simp) (by simp) (Or.inl rfl) ?_ ?_
        · simp [ServerPc.made]
        · intro other different settled
          simp only [ServerPc.settled, ServerPc.made, pc] at settled ⊢
          refine ⟨settled, ?_⟩
          congr 1
          simp only [decide_eq_decide]
          omega
      · rename_i all
        obtain ⟨rfl, _⟩ := Prod.mk.inj (Option.some.inj stepped)
        refine inv.setServer (by simp) (by simp) (by simp) ?_
        intro index settled
        simp only [ServerPc.settled, ServerPc.made, pc, decide_eq_true_eq] at settled ⊢
        exact ⟨settled, by simp; omega⟩
  | down => simp [pc] at stepped
  | failed => simp [pc] at stepped

/-! The clients' steps touch the names of their own volumes only. -/

/-- A client's name gets another queue, or none. -/
theorem Inv.setClient (inv : state.Inv setting leftovers) (apart : Apart setting) {client : Client}
    {mq : Option (Mq Client)} {pc : ClientPc Client} (unclashed : pc ≠ .clashed)
    (vacant : pc = .removed ∨ (∃ mq, pc = .attached mq) → mq = none)
    (named : pc.named = true → mq = some (.reply client))
    (own : mq = state.names (setting.volumeName client) ∧
        (pc.named = false → (state.clients client).named = false) ∨
      mq = none ∨ mq = some (.reply client) ∧ pc.named = true) :
    ((state.setName (setting.volumeName client) mq).setClient client pc).Inv setting leftovers := by
  have pcs (other : Client) (different : other ≠ client) :
      Function.update state.clients client pc other = state.clients other :=
    Function.update_of_ne different ..
  have names (other : Client) (different : other ≠ client) :
      Function.update state.names (setting.volumeName client) mq (setting.volumeName other) =
        state.names (setting.volumeName other) :=
    Function.update_of_ne (fun same => different (apart.distinct _ _ same)) ..
  have old {name : Name} {found : Mq Client}
      (lookup : Function.update state.names (setting.volumeName client) mq name = some found) :
      (name ≠ setting.volumeName client ∨ mq = state.names (setting.volumeName client) ∧
          (pc.named = false → (state.clients client).named = false)) ∧
        state.names name = some found ∨
      name = setting.volumeName client ∧ found = .reply client ∧ pc.named = true := by
    by_cases same : name = setting.volumeName client
    · subst same
      rw [Function.update_self] at lookup
      rcases own with kept | gone | ⟨made, named⟩
      · exact Or.inl ⟨Or.inr kept, kept.1.symm.trans lookup⟩
      · simp [gone] at lookup
      · exact Or.inr ⟨rfl, (Option.some.inj (made.symm.trans lookup)).symm, named⟩
    · rw [Function.update_of_ne same] at lookup
      exact Or.inl ⟨Or.inl same, lookup⟩
  refine ⟨inv.running, inv.bounded, inv.reached, ?_, ?_, ?_, ?_, ?_, ?_, ?_⟩
  · intro index settled
    refine Eq.trans ?_ (inv.requests index settled)
    exact Function.update_of_ne (apart.queues client index (inv.settled_lt settled)).symm ..
  · intro other
    by_cases same : other = client
    · subst same
      simpa [Rendezvous.setClient] using unclashed
    · simpa [Rendezvous.setClient, setName, pcs other same] using inv.unclashed other
  · intro other awaits
    by_cases same : other = client
    · subst same
      simpa [Rendezvous.setClient, setName] using
        vacant (by simpa [ClientAwaits, Rendezvous.setClient] using awaits)
    · refine (names other same).trans (inv.vacant other ?_)
      simpa [ClientAwaits, Rendezvous.setClient, setName, pcs other same] using awaits
  · intro other isNamed
    by_cases same : other = client
    · subst same
      simpa [Rendezvous.setClient, setName] using
        named (by simpa [Rendezvous.setClient] using isNamed)
    · refine (names other same).trans (inv.named other ?_)
      simpa [Rendezvous.setClient, setName, pcs other same] using isNamed
  · intro name index lookup
    rcases old lookup with ⟨_, old⟩ | ⟨_, other, _⟩
    · exact inv.request name index old
    · simp at other
  · intro name other lookup
    rcases old lookup with ⟨kept, old⟩ | ⟨rfl, other, isNamed⟩
    · obtain ⟨rfl, isNamed⟩ := inv.reply name other old
      refine ⟨rfl, ?_⟩
      show (Function.update state.clients client pc other).named = true
      by_cases same : other = client
      · subst same
        rw [Function.update_self]
        rcases kept with different | ⟨_, loses⟩
        · exact (different rfl).elim
        · by_contra lost
          simp [loses (by simpa using lost)] at isNamed
      · rwa [pcs other same]
    · obtain rfl := Mq.reply.inj other
      exact ⟨rfl, by simpa [Rendezvous.setClient] using isNamed⟩
  · intro name number lookup
    rcases old lookup with ⟨_, old⟩ | ⟨_, other, _⟩
    · exact inv.leftover name number old
    · simp at other

omit [DecidableEq Client] in
theorem setName_self (state : Rendezvous Client) (name : Name) :
    state.setName name (state.names name) = state := by
  simp [setName]

/-- A client goes on without touching its name. -/
theorem Inv.move (inv : state.Inv setting leftovers) (apart : Apart setting) {client : Client}
    {pc : ClientPc Client} (unclashed : pc ≠ .clashed)
    (vacant : pc = .removed ∨ (∃ mq, pc = .attached mq) → state.ClientAwaits client)
    (named : pc.named = (state.clients client).named) :
    (state.setClient client pc).Inv setting leftovers := by
  rw [← state.setName_self (setting.volumeName client)]
  refine inv.setClient apart unclashed (fun awaits => inv.vacant client (vacant awaits)) ?_
    (Or.inl ⟨rfl, fun lost => named.symm.trans lost⟩)
  intro isNamed
  exact inv.named client (named.symm.trans isNamed)

theorem Inv.remove (inv : state.Inv setting leftovers) (apart : Apart setting) {client : Client}
    (stepped : state.remove setting client = some after) : after.Inv setting leftovers := by
  unfold Rendezvous.remove at stepped
  split at stepped
  · rename_i outside
    split at stepped
    · obtain rfl := Option.some.inj stepped
      exact inv.move apart (by simp) (by simp) (by simp [outside, ClientPc.named])
    · obtain rfl := Option.some.inj stepped
      exact inv.setClient apart (by simp) (by simp) (by simp [ClientPc.named]) (Or.inr (Or.inl rfl))
  · simp at stepped

theorem Inv.openRequestMq (inv : state.Inv setting leftovers) (apart : Apart setting)
    {client : Client} {events : List (RendezvousEvent Client)}
    (stepped : state.openRequestMq setting client = some (after, events)) :
    after.Inv setting leftovers := by
  unfold Rendezvous.openRequestMq at stepped
  split at stepped
  · rename_i removed
    split at stepped
    · obtain ⟨rfl, _⟩ := Prod.mk.inj (Option.some.inj stepped)
      exact inv.move apart (by simp) (fun _ => Or.inl removed) (by simp [removed, ClientPc.named])
    · obtain ⟨rfl, _⟩ := Prod.mk.inj (Option.some.inj stepped)
      exact inv.move apart (by simp) (by simp) (by simp [removed, ClientPc.named])
  · simp at stepped

theorem Inv.createReplyMq (inv : state.Inv setting leftovers) (apart : Apart setting)
    {client : Client} (stepped : state.createReplyMq setting client = some after) :
    after.Inv setting leftovers := by
  unfold Rendezvous.createReplyMq at stepped
  split at stepped
  · rename_i mq attached
    rw [inv.vacant client (Or.inr ⟨mq, attached⟩)] at stepped
    obtain rfl := Option.some.inj stepped
    cases setting.kind client with
    | sync => exact inv.setClient apart (by simp) (by simp) (fun _ => rfl) (Or.inr (Or.inr ⟨rfl, rfl⟩))
    | async => exact inv.setClient apart (by simp) (by simp) (fun _ => rfl) (Or.inr (Or.inr ⟨rfl, rfl⟩))
  · simp at stepped

theorem Inv.startThread (inv : state.Inv setting leftovers) (apart : Apart setting)
    {client : Client} (stepped : state.startThread client = some after) :
    after.Inv setting leftovers := by
  unfold Rendezvous.startThread at stepped
  split at stepped
  · rename_i mq created
    obtain rfl := Option.some.inj stepped
    exact inv.move apart (by simp) (by simp) (by simp [created, ClientPc.named])
  · simp at stepped

theorem Inv.fail (inv : state.Inv setting leftovers) (apart : Apart setting) {client : Client}
    (stepped : state.fail client = some after) : after.Inv setting leftovers := by
  unfold Rendezvous.fail at stepped
  split at stepped
  · rename_i removed
    obtain rfl := Option.some.inj stepped
    exact inv.move apart (by simp) (by simp) (by simp [removed, ClientPc.named])
  · rename_i mq attached
    obtain rfl := Option.some.inj stepped
    exact inv.move apart (by simp) (by simp) (by simp [attached, ClientPc.named])
  · rename_i mq created
    obtain rfl := Option.some.inj stepped
    exact inv.move apart (by simp) (by simp) (by simp [created, ClientPc.named])
  · simp at stepped

theorem Inv.destroy (inv : state.Inv setting leftovers) (apart : Apart setting) {client : Client}
    (stepped : state.destroy setting client = some after) : after.Inv setting leftovers := by
  unfold Rendezvous.destroy at stepped
  split at stepped
  · obtain rfl := Option.some.inj stepped
    exact inv.setClient apart (by simp) (by simp) (by simp [ClientPc.named]) (Or.inr (Or.inl rfl))
  · simp at stepped

/-! Every step, and every run. -/

theorem Inv.step (inv : state.Inv setting leftovers) (apart : Apart setting)
    {label : RendezvousLabel Client} {events : List (RendezvousEvent Client)}
    (stepped : (machine setting).step state label = some (after, events)) :
    after.Inv setting leftovers := by
  have silent {moved : Option (Rendezvous Client)}
      (equal : moved.map (·, ([] : List (RendezvousEvent Client))) = some (after, events)) :
      moved = some after := by
    obtain ⟨next, found, pair⟩ := Option.map_eq_some_iff.mp equal
    rw [found, (Prod.mk.inj pair).1]
  cases label with
  | server => exact inv.serverStep apart stepped
  | remove client => exact inv.remove apart (silent stepped)
  | attach client => exact inv.openRequestMq apart stepped
  | create client => exact inv.createReplyMq apart (silent stepped)
  | start client => exact inv.startThread apart (silent stepped)
  | fail client => exact inv.fail apart (silent stepped)
  | destroy client => exact inv.destroy apart (silent stepped)

variable {trace : List (RendezvousEvent Client)}

theorem inv_run (apart : Apart setting)
    (run : (machine setting).Run (fun _ _ => True) (start leftovers) trace state) :
    state.Inv setting leftovers :=
  run.invariant (fun _ state => state.Inv setting leftovers) start_inv
    fun _ _ _ _ _ inv _ stepped => inv.step apart stepped

omit [DecidableEq Client] in
/-- The server tells nothing of clients. -/
theorem serverStep_tells {events : List (RendezvousEvent Client)}
    (stepped : state.serverStep setting = some (after, events)) :
    ∀ event ∈ events, event = .up ∨ event = .shutdown := by
  unfold Rendezvous.serverStep at stepped
  split at stepped
  · split at stepped
    · obtain ⟨_, rfl⟩ := Prod.mk.inj (Option.some.inj stepped)
      simp
    · obtain ⟨_, rfl⟩ := Prod.mk.inj (Option.some.inj stepped)
      simp
  · split at stepped
    · obtain ⟨_, rfl⟩ := Prod.mk.inj (Option.some.inj stepped)
      simp
    · obtain ⟨_, rfl⟩ := Prod.mk.inj (Option.some.inj stepped)
      simp
  · obtain ⟨_, rfl⟩ := Prod.mk.inj (Option.some.inj stepped)
    simp
  · split at stepped
    · obtain ⟨_, rfl⟩ := Prod.mk.inj (Option.some.inj stepped)
      simp
    · obtain ⟨_, rfl⟩ := Prod.mk.inj (Option.some.inj stepped)
      simp
  · simp at stepped
  · simp at stepped

/-- What a step of a client does to the names and tells of the request queue. -/
theorem client_step {label : RendezvousLabel Client} {events : List (RendezvousEvent Client)}
    (stepped : (machine setting).step state label = some (after, events)) (own : label ≠ .server) :
    ∃ client mq pc, after = (state.setName (setting.volumeName client) mq).setClient client pc ∧
      (mq = none ∨ mq = state.names (setting.volumeName client) ∨
        ∃ found, state.clients client = .attached found) ∧
      (∀ found, pc = .attached found →
        state.names (requestMqName (setting.index client)) = some found) ∧
      (events = [] ∨
        (∃ found, state.names (requestMqName (setting.index client)) = some found ∧
          events = [.attached client found]) ∨
        state.names (requestMqName (setting.index client)) = none ∧ events = [.refused client]) := by
  have kept (client : Client) (pc : ClientPc Client) : state.setClient client pc =
      (state.setName (setting.volumeName client)
        (state.names (setting.volumeName client))).setClient client pc := by
    rw [setName_self]
  cases label with
  | server => exact (own rfl).elim
  | remove client =>
      obtain ⟨next, moved, equal⟩ := Option.map_eq_some_iff.mp stepped
      obtain ⟨rfl, rfl⟩ := Prod.mk.inj equal
      simp only [Rendezvous.remove] at moved
      split at moved
      · split at moved
        · obtain rfl := Option.some.inj moved
          exact ⟨client, _, _, kept .., Or.inr (Or.inl rfl), by simp, Or.inl rfl⟩
        · obtain rfl := Option.some.inj moved
          exact ⟨client, _, _, rfl, Or.inl rfl, by simp, Or.inl rfl⟩
      · simp at moved
  | attach client =>
      simp only [machine, Rendezvous.openRequestMq] at stepped
      split at stepped
      · split at stepped
        · rename_i found present
          obtain ⟨rfl, rfl⟩ := Prod.mk.inj (Option.some.inj stepped)
          refine ⟨client, _, _, kept .., Or.inr (Or.inl rfl), ?_, Or.inr (Or.inl ⟨found, present, rfl⟩)⟩
          rintro _ ⟨⟩
          exact present
        · rename_i missing
          obtain ⟨rfl, rfl⟩ := Prod.mk.inj (Option.some.inj stepped)
          exact ⟨client, _, _, kept .., Or.inr (Or.inl rfl), by simp, Or.inr (Or.inr ⟨missing, rfl⟩)⟩
      · simp at stepped
  | create client =>
      obtain ⟨next, moved, equal⟩ := Option.map_eq_some_iff.mp stepped
      obtain ⟨rfl, rfl⟩ := Prod.mk.inj equal
      simp only [Rendezvous.createReplyMq] at moved
      split at moved
      · rename_i found attached
        split at moved
        · obtain rfl := Option.some.inj moved
          refine ⟨client, _, _, rfl, Or.inr (Or.inr ⟨found, attached⟩), ?_, Or.inl rfl⟩
          cases setting.kind client <;> simp
        · obtain rfl := Option.some.inj moved
          exact ⟨client, _, _, kept .., Or.inr (Or.inl rfl), by simp, Or.inl rfl⟩
      · simp at moved
  | start client =>
      obtain ⟨next, moved, equal⟩ := Option.map_eq_some_iff.mp stepped
      obtain ⟨rfl, rfl⟩ := Prod.mk.inj equal
      simp only [Rendezvous.startThread] at moved
      split at moved
      · obtain rfl := Option.some.inj moved
        exact ⟨client, _, _, kept .., Or.inr (Or.inl rfl), by simp, Or.inl rfl⟩
      · simp at moved
  | fail client =>
      obtain ⟨next, moved, equal⟩ := Option.map_eq_some_iff.mp stepped
      obtain ⟨rfl, rfl⟩ := Prod.mk.inj equal
      simp only [Rendezvous.fail] at moved
      split at moved
      · obtain rfl := Option.some.inj moved
        exact ⟨client, _, _, kept .., Or.inr (Or.inl rfl), by simp, Or.inl rfl⟩
      · obtain rfl := Option.some.inj moved
        exact ⟨client, _, _, kept .., Or.inr (Or.inl rfl), by simp, Or.inl rfl⟩
      · obtain rfl := Option.some.inj moved
        exact ⟨client, _, _, kept .., Or.inr (Or.inl rfl), by simp, Or.inl rfl⟩
      · simp at moved
  | destroy client =>
      obtain ⟨next, moved, equal⟩ := Option.map_eq_some_iff.mp stepped
      obtain ⟨rfl, rfl⟩ := Prod.mk.inj equal
      simp only [Rendezvous.destroy] at moved
      split at moved
      · obtain rfl := Option.some.inj moved
        exact ⟨client, _, _, rfl, Or.inl rfl, by simp, Or.inl rfl⟩
      · simp at moved

/-- The server has been made, and has been told to stop if it is not up. -/
def Stands (trace : List (RendezvousEvent Client)) (state : Rendezvous Client) : Prop :=
  .up ∈ trace → state.server = .up ∨ .shutdown ∈ trace ∧ state.server.stopping = true

theorem Stands.step (stands : Stands trace state) {label : RendezvousLabel Client}
    {events : List (RendezvousEvent Client)}
    (stepped : (machine setting).step state label = some (after, events)) :
    Stands (trace ++ events) after := by
  by_cases client : label = .server
  · subst client
    have stepped : state.serverStep setting = some (after, events) := stepped
    unfold Rendezvous.serverStep at stepped
    cases pc : state.server with
    | removing next =>
        have before : .up ∉ trace := fun up => by
          simpa [pc, ServerPc.stopping] using stands up
        simp only [pc] at stepped
        split at stepped
        · obtain ⟨rfl, rfl⟩ := Prod.mk.inj (Option.some.inj stepped)
          exact fun up => (before (by simpa using up)).elim
        · obtain ⟨rfl, rfl⟩ := Prod.mk.inj (Option.some.inj stepped)
          exact fun _ => Or.inl rfl
    | creating next =>
        have before : .up ∉ trace := fun up => by
          simpa [pc, ServerPc.stopping] using stands up
        simp only [pc] at stepped
        split at stepped
        · obtain ⟨rfl, rfl⟩ := Prod.mk.inj (Option.some.inj stepped)
          exact fun up => (before (by simpa using up)).elim
        · obtain ⟨rfl, rfl⟩ := Prod.mk.inj (Option.some.inj stepped)
          exact fun up => (before (by simpa using up)).elim
    | up =>
        simp only [pc] at stepped
        obtain ⟨rfl, rfl⟩ := Prod.mk.inj (Option.some.inj stepped)
        exact fun _ => Or.inr ⟨by simp, rfl⟩
    | dropping next =>
        have told (up : .up ∈ trace) : .shutdown ∈ trace := by
          simpa [pc, ServerPc.stopping] using stands up
        simp only [pc] at stepped
        split at stepped
        · obtain ⟨rfl, rfl⟩ := Prod.mk.inj (Option.some.inj stepped)
          exact fun up => Or.inr ⟨by simpa using told (by simpa using up), rfl⟩
        · obtain ⟨rfl, rfl⟩ := Prod.mk.inj (Option.some.inj stepped)
          exact fun up => Or.inr ⟨by simpa using told (by simpa using up), rfl⟩
    | down => simp [pc] at stepped
    | failed => simp [pc] at stepped
  · obtain ⟨client, mq, pc, rfl, _, _, told⟩ := client_step stepped client
    intro up
    have before : .up ∈ trace := by
      rcases List.mem_append.mp up with before | now
      · exact before
      · rcases told with rfl | ⟨_, _, rfl⟩ | ⟨_, rfl⟩ <;> simp at now
    rcases stands before with up | ⟨told, stopping⟩
    · exact Or.inl up
    · exact Or.inr ⟨List.mem_append_left _ told, stopping⟩

theorem stands_run
    (run : (machine setting).Run (fun _ _ => True) (start leftovers) trace state) :
    Stands trace state :=
  run.invariant Stands (by simp [Stands]) fun _ _ _ _ _ stands _ stepped => stands.step stepped

omit [DecidableEq Client] in
/-- The request queue that a client finds, from the start of the server to its end. -/
theorem Inv.found (inv : state.Inv setting leftovers) (stands : Stands trace state)
    (serves : 0 < setting.queues) (few : setting.queues < 2 ^ 64) (up : .up ∈ trace)
    (client : Client) :
    (∀ mq, state.names (requestMqName (setting.index client)) = some mq →
      mq = .request (setting.index client)) ∧
    (state.names (requestMqName (setting.index client)) = none → .shutdown ∈ trace) := by
  have small : setting.index client < setting.queues := queueNum_lt serves few _
  have standing := stands up
  have settled : state.server.settled setting.queues (setting.index client) = true := by
    rcases standing with up | ⟨_, stopping⟩
    · simp [up, ServerPc.settled, small]
    · revert stopping
      cases state.server <;> simp [ServerPc.stopping, ServerPc.settled, small]
  have stood := inv.requests _ settled
  refine ⟨?_, ?_⟩
  · intro mq found
    rw [found] at stood
    split at stood
    · exact Option.some.inj stood
    · simp at stood
  · intro missing
    rcases standing with up | ⟨told, _⟩
    · rw [missing] at stood
      simp [up, ServerPc.made, small] at stood
    · exact told

/-- The name of the only request queue is gone, and nobody is about to put it back. -/
structure LockedOut (setting : Setting Client) (state : Rendezvous Client) : Prop where
  gone : state.names (requestMqName 0) = none
  server : state.server = .up ∨ state.server.stopping = true
  nobody : ∀ client mq, setting.volumeName client = requestMqName 0 →
    state.clients client ≠ .attached mq

omit [DecidableEq Client] in
theorem index_single (single : setting.queues = 1) (client : Client) :
    setting.index client = 0 := by
  have below : setting.index client < setting.queues :=
    queueNum_lt (by simp [single]) (by simp [single]) _
  omega

theorem LockedOut.step (locked : state.LockedOut setting) (single : setting.queues = 1)
    {label : RendezvousLabel Client} {events : List (RendezvousEvent Client)}
    (stepped : (machine setting).step state label = some (after, events)) :
    after.LockedOut setting ∧ ∀ client mq, .attached client mq ∉ events := by
  by_cases server : label = .server
  · subst server
    have stepped : state.serverStep setting = some (after, events) := stepped
    refine ⟨?_, fun client mq member => by
      rcases serverStep_tells stepped _ member with equal | equal <;> simp at equal⟩
    rcases locked.server with up | stopping
    · simp only [Rendezvous.serverStep, up] at stepped
      obtain ⟨rfl, _⟩ := Prod.mk.inj (Option.some.inj stepped)
      exact ⟨locked.gone, Or.inr rfl, locked.nobody⟩
    · unfold Rendezvous.serverStep at stepped
      cases pc : state.server with
      | dropping next =>
          simp only [pc] at stepped
          split at stepped
          · obtain ⟨rfl, _⟩ := Prod.mk.inj (Option.some.inj stepped)
            refine ⟨?_, Or.inr rfl, locked.nobody⟩
            by_cases same : requestMqName 0 = requestMqName next
            · simp [setName, same]
            · simpa [setName, same] using locked.gone
          · obtain ⟨rfl, _⟩ := Prod.mk.inj (Option.some.inj stepped)
            exact ⟨locked.gone, Or.inr rfl, locked.nobody⟩
      | down => simp [pc] at stepped
      | removing next => simp [pc, ServerPc.stopping] at stopping
      | creating next => simp [pc, ServerPc.stopping] at stopping
      | up => simp [pc, ServerPc.stopping] at stopping
      | failed => simp [pc, ServerPc.stopping] at stopping
  · obtain ⟨client, mq, pc, rfl, named, attaches, told⟩ := client_step stepped server
    rw [index_single single client, locked.gone] at attaches told
    refine ⟨⟨?_, locked.server, ?_⟩, ?_⟩
    · show Function.update state.names (setting.volumeName client) mq (requestMqName 0) = none
      by_cases own : setting.volumeName client = requestMqName 0
      · rcases named with none | kept | ⟨found, attached⟩
        · simp [own, none]
        · rw [kept, Function.update_eq_self]
          exact locked.gone
        · exact (locked.nobody client found own attached).elim
      · rw [Function.update_of_ne (Ne.symm own)]
        exact locked.gone
    · intro other found own attached
      have attached : Function.update state.clients client pc other = .attached found := attached
      by_cases same : other = client
      · subst same
        rw [Function.update_self] at attached
        simpa using attaches found attached
      · rw [Function.update_of_ne same] at attached
        exact locked.nobody other found own attached
    · intro other found member
      rcases told with rfl | ⟨_, none, _⟩ | ⟨_, rfl⟩
      · simp at member
      · simp at none
      · simp at member

/-- Once the constructor of a client whose volume is named like the only request queue has removed
its name, no client finds the server again. -/
theorem lockedOut_run (single : setting.queues = 1) {client : Client}
    (named : setting.volumeName client = requestMqName 0)
    (run : (machine setting).Run (fun _ _ => True) (start leftovers) trace state) (up : .up ∈ trace)
    (alone : ∀ other mq, setting.volumeName other = requestMqName 0 →
      state.clients other ≠ .attached mq)
    (removes : state.remove setting client = some after) {rest : List (RendezvousEvent Client)}
    {last : Rendezvous Client} (later : (machine setting).Run (fun _ _ => True) after rest last) :
    (∀ other mq, .attached other mq ∉ rest) ∧ ∀ other, last.clients other = .removed →
      last.openRequestMq setting other = some (last.setClient other .refused, [.refused other]) := by
  have locked : after.LockedOut setting := by
    unfold Rendezvous.remove at removes
    split at removes
    · rw [if_neg (by rw [named]; exact requestMqName_ne_nil 0)] at removes
      obtain rfl := Option.some.inj removes
      refine ⟨by simp [Rendezvous.setClient, setName, named], ?_, ?_⟩
      · rcases stands_run run up with up | ⟨_, stopping⟩
        · exact Or.inl up
        · exact Or.inr stopping
      · intro other mq own attached
        by_cases same : other = client
        · simp [Rendezvous.setClient, same] at attached
        · exact alone other mq own (by simpa [Rendezvous.setClient, setName, same] using attached)
    · simp at removes
  have stays := later.invariant
    (fun rest state => state.LockedOut setting ∧ ∀ client mq, .attached client mq ∉ rest)
    ⟨locked, by simp⟩ fun rest state label after events held _ stepped => by
      obtain ⟨locked, silent⟩ := held.1.step single stepped
      refine ⟨locked, fun client mq member => ?_⟩
      rcases List.mem_append.mp member with before | now
      · exact held.2 client mq before
      · exact silent client mq now
  refine ⟨stays.2, fun other removed => ?_⟩
  simp [Rendezvous.openRequestMq, removed, index_single single other, stays.1.gone]

end Rendezvous

end Cvbd
