import Cvbd.AsyncPrivate

/-! What a step of an asynchronous client can do, said once. -/

namespace Cvbd

namespace AsyncClient

variable {client after : AsyncClient}

theorem running_eq_some {call : Nat} {coroutine : Coroutine}
    (running : client.running = some (call, coroutine)) :
    client.current = some call ∧ client.coroutines call = some coroutine := by
  unfold AsyncClient.running at running
  cases current : client.current with
  | none => simp [current] at running
  | some executing =>
      simp only [current, Option.bind_some, Option.map_eq_some_iff, Prod.mk.injEq] at running
      obtain ⟨found, lookup, rfl, rfl⟩ := running
      exact ⟨rfl, lookup⟩

theorem takeSend_spec {call : Nat} {request : Request}
    (taken : client.takeSend = some (call, request, after)) :
    ∃ what data acb, client.current = some call ∧
      client.coroutines call = some ⟨what, data, acb, .sending request⟩ ∧
      after = client.setCoroutine call
        ⟨what, data, acb, if what.isWrite = true then .callback else .yielding⟩ := by
  unfold AsyncClient.takeSend at taken
  split at taken
  · simp at taken
  split at taken
  · rename_i running
    obtain ⟨executing, found⟩ := running_eq_some running
    simp only [Option.some.injEq, Prod.mk.injEq] at taken
    obtain ⟨rfl, rfl, rfl⟩ := taken
    exact ⟨_, _, _, executing, found, rfl⟩
  · rename_i what data acb sent notWrite running
    obtain ⟨executing, found⟩ := running_eq_some running
    simp only [Option.some.injEq, Prod.mk.injEq] at taken
    obtain ⟨rfl, rfl, rfl⟩ := taken
    refine ⟨what, data, acb, executing, found, ?_⟩
    cases what with
    | writev sectorNum nbSectors qiov => exact (notWrite sectorNum nbSectors qiov rfl).elim
    | readv sectorNum nbSectors qiov => rfl
    | flush => rfl
  · simp at taken

theorem takeReply_spec {call : Nat} {reply : Reply}
    (taken : client.takeReply call reply = some after) :
    client.replyThread = .idle ∧ after = { client with replyThread := .hand call reply } := by
  unfold AsyncClient.takeReply at taken
  split at taken
  · simp at taken
  split at taken
  · rename_i idle
    exact ⟨idle, (Option.some.inj taken).symm⟩
  · simp at taken

/-- The steps inside a client that has not ended. -/
inductive LocalMove (client : AsyncClient) :
    LocalLabel → AsyncClient → List CallEvent → Prop
  | call {what address fresh} (idle : client.current = none) :
      LocalMove client (.call what address fresh) (client.enter address fresh what).1
        (client.enter address fresh what).2
  | flushSendFails {call data acb request}
      (running : client.running = some (call, ⟨.flush, data, acb, .sending request⟩)) :
      LocalMove client .sendFails (client.setCoroutine call ⟨.flush, data, acb, .yielding⟩) []
  | sendFails {call what data acb request} (notFlush : what ≠ .flush)
      (running : client.running = some (call, ⟨what, data, acb, .sending request⟩)) :
      LocalMove client .sendFails { client with fault := some .assertion } []
  | callback {call what data acb}
      (running : client.running = some (call, ⟨what, data, acb, .callback⟩)) :
      LocalMove client .callback (client.writeCallback call ⟨what, data, acb, .callback⟩) []
  | yield {call what data acb}
      (running : client.running = some (call, ⟨what, data, acb, .yielding⟩)) :
      LocalMove client .yield
        { client.setCoroutine call ⟨what, data, acb, .yielded⟩ with current := none }
        [.yielded call]
  | bottomHalf {acb} (idle : client.current = none) (scheduled : acb ∈ client.bhs) :
      LocalMove client (.bottomHalf acb)
        (({ client with bhs := client.bhs.erase acb } : AsyncClient).completeAio acb).1
        (({ client with bhs := client.bhs.erase acb } : AsyncClient).completeAio acb).2
  | resume {call what data acb}
      (running : client.running = some (call, ⟨what, data, acb, .entered⟩)) :
      LocalMove client .resume (client.resume call ⟨what, data, acb, .entered⟩).1
        (client.resume call ⟨what, data, acb, .entered⟩).2
  | copy {call reply} (hand : client.replyThread = .hand call reply) :
      LocalMove client .copy (client.handleCoReply reply) []
  | finish {acb ret} (finishing : client.replyThread = .finishing acb ret) :
      LocalMove client .finish (client.finish acb ret) []
  | guest {memory} : LocalMove client (.guest memory) { client with memory } []

theorem localStep_cases {label : LocalLabel} {events : List CallEvent}
    (stepped : client.localStep label = some (after, events)) :
    client.LocalMove label after events := by
  unfold localStep at stepped
  split at stepped
  · simp at stepped
  cases label with
  | call what address fresh =>
      simp only at stepped
      split at stepped
      · rename_i idle
        obtain ⟨rfl, rfl⟩ := Prod.mk.inj (Option.some.inj stepped)
        exact .call idle
      · simp at stepped
  | sendFails =>
      simp only at stepped
      split at stepped
      · rename_i running
        obtain ⟨rfl, rfl⟩ := Prod.mk.inj (Option.some.inj stepped)
        exact .flushSendFails running
      · rename_i call what data acb request notFlush running
        obtain ⟨rfl, rfl⟩ := Prod.mk.inj (Option.some.inj stepped)
        exact .sendFails notFlush running
      · simp at stepped
  | callback =>
      simp only at stepped
      split at stepped
      · rename_i running
        obtain ⟨rfl, rfl⟩ := Prod.mk.inj (Option.some.inj stepped)
        exact .callback running
      · simp at stepped
  | yield =>
      simp only at stepped
      split at stepped
      · rename_i running
        obtain ⟨rfl, rfl⟩ := Prod.mk.inj (Option.some.inj stepped)
        exact .yield running
      · simp at stepped
  | bottomHalf address =>
      simp only at stepped
      split at stepped
      · rename_i idle
        split at stepped
        · rename_i scheduled
          obtain ⟨rfl, rfl⟩ := Prod.ext_iff.mp (Option.some.inj stepped)
          exact .bottomHalf idle scheduled
        · simp at stepped
      · simp at stepped
  | resume =>
      simp only at stepped
      split at stepped
      · rename_i running
        obtain ⟨rfl, rfl⟩ := Prod.ext_iff.mp (Option.some.inj stepped)
        exact .resume running
      · simp at stepped
  | copy =>
      simp only at stepped
      split at stepped
      · rename_i hand
        obtain ⟨rfl, rfl⟩ := Prod.mk.inj (Option.some.inj stepped)
        exact .copy hand
      · simp at stepped
  | finish =>
      simp only at stepped
      split at stepped
      · rename_i finishing
        obtain ⟨rfl, rfl⟩ := Prod.mk.inj (Option.some.inj stepped)
        exact .finish finishing
      · simp at stepped
  | guest memory =>
      obtain ⟨rfl, rfl⟩ := Prod.mk.inj (Option.some.inj stepped)
      exact .guest

end AsyncClient

namespace AsyncState

variable {Index Client : Type} [DecidableEq Index] [DecidableEq Client]
variable {endpoints : Client → Endpoint Index} {state after : AsyncState Index Client}

/-- The steps of one client. -/
inductive ClientMove (endpoints : Client → Endpoint Index) (state : AsyncState Index Client)
    (client : Client) : ClientLabel → AsyncState Index Client → List (Event Client) → Prop
  | sent {call request next exchange}
      (taken : (state.clients client).takeSend = some (call, request, next))
      (pushed : state.exchange.pushRequest (endpoints client).index ⟨client, call, request⟩ =
        some exchange) :
      ClientMove endpoints state client .send
        ⟨exchange, Function.update state.clients client next⟩ [⟨client, .submitted call request⟩]
  | received {reply exchange next}
      (popped : state.exchange.popReply (endpoints client).mq = some (reply, exchange))
      (taken : (state.clients client).takeReply reply.call reply.body = some next) :
      ClientMove endpoints state client .receive
        ⟨exchange, Function.update state.clients client next⟩ []
  | inside {label next own}
      (stepped : (state.clients client).localStep label = some (next, own)) :
      ClientMove endpoints state client (.inside label)
        { state with clients := Function.update state.clients client next }
        (own.map (⟨client, ·⟩))

theorem clientStep_cases {client : Client} {label : ClientLabel} {events : List (Event Client)}
    (stepped : state.clientStep endpoints client label = some (after, events)) :
    state.ClientMove endpoints client label after events := by
  cases label with
  | send =>
      simp only [clientStep] at stepped
      split at stepped
      · rename_i taken
        split at stepped
        · rename_i pushed
          obtain ⟨rfl, rfl⟩ := Prod.mk.inj (Option.some.inj stepped)
          exact .sent taken pushed
        · simp at stepped
      · simp at stepped
  | receive =>
      simp only [clientStep] at stepped
      split at stepped
      · rename_i popped
        split at stepped
        · rename_i taken
          obtain ⟨rfl, rfl⟩ := Prod.mk.inj (Option.some.inj stepped)
          exact .received popped taken
        · simp at stepped
      · simp at stepped
  | inside label =>
      simp only [clientStep] at stepped
      split at stepped
      · rename_i own
        obtain ⟨rfl, rfl⟩ := Prod.mk.inj (Option.some.inj stepped)
        exact .inside own
      · simp at stepped

theorem machine_cases {label : AsyncLabel Index Client} {events : List (Event Client)}
    (stepped : (machine endpoints).step state label = some (after, events)) :
    (∃ client own, label = .client client own ∧
        state.clientStep endpoints client own = some (after, events)) ∨
      ∃ own exchange, label = .server own ∧ state.exchange.serverStep own = some exchange ∧
        after = { state with exchange } ∧
        events = servedEvents endpoints state.exchange exchange own := by
  cases label with
  | client client own => exact Or.inl ⟨client, own, rfl, stepped⟩
  | server own =>
      simp only [machine] at stepped
      split at stepped
      · rename_i exchange served
        obtain ⟨rfl, rfl⟩ := Prod.mk.inj (Option.some.inj stepped)
        exact Or.inr ⟨own, exchange, rfl, served, rfl, rfl⟩
      · simp at stepped

end AsyncState

end Cvbd
