import Cvbd.OutageCore
import Cvbd.RecoveryTotal

/-!
A flush that has returned 0, and what becomes of its data: whenever the server
ends afterwards, and whatever befalls the host, the next READ finds it.
-/

namespace Cvbd

variable {name : Name} {position : Nat}

/-! One request. -/

theorem CallEvent.hosted_silent {event : CallEvent} (silent : event.isServed = false) (name : Name) :
    event.hosted name = [] := by
  cases event with
  | served call request kernel file => simp [CallEvent.isServed] at silent
  | submitted call request => rfl
  | yielded call => rfl
  | entered call => rfl
  | returned call ret => rfl

theorem CallEvent.spares_silent {event : CallEvent} (silent : event.isServed = false)
    (position : Nat) : event.Spares position := by
  cases event with
  | served call request kernel file => simp [CallEvent.isServed] at silent
  | submitted call request => trivial
  | yielded call => trivial
  | entered call => trivial
  | returned call ret => trivial

/-- A request that is handled for one file leaves the others alone. -/
theorem CallEvent.hosted_other {file : Name} (different : file ≠ name) (event : CallEvent)
    (touched : Name → Nat → Bool) :
    (event.hosted file).foldl HostEvent.touch touched name position = touched name position := by
  cases event with
  | served call request kernel volumeFile =>
      cases request with
      | write req =>
          cases transferred : kernel.pwrite <;>
            simp [hosted, transferred, HostEvent.touch, IOHandler.Effect.covers,
              IOHandler.Effect.discards, different]
      | fsync req =>
          cases made : kernel.fsync <;>
            simp [hosted, made, HostEvent.touch, Ne.symm different]
      | read req => rfl
      | openVolume req => rfl
      | close req => rfl
      | getsize req => rfl
      | stop header => rfl
      | unknown header => rfl
  | submitted call request => rfl
  | yielded call => rfl
  | entered call => rfl
  | returned call ret => rfl

/-- A byte that is on disk stays there when a request spares it. -/
theorem Promise.Kept.served {host after : Host} {value : UInt8} {file : VolumeFile}
    {call : Nat} {request : Request} {kernel : Kernel} {told : VolumeFile}
    (kept : (Promise.durable value).Kept name position host)
    (found : host.world.files name = some file)
    (files : after.world.files name = some (file.serve kernel request).file)
    (touched : after.touched = ((CallEvent.served call request kernel told).hosted name).foldl
      HostEvent.touch host.touched)
    (io : request.isIo = true) (honest : kernel.Honest file.content request)
    (spares : (CallEvent.served call request kernel told).Spares position) :
    (Promise.durable value).Kept name position after := by
  have next {changed : VolumeFile} (equal : (file.serve kernel request).file = changed)
      (isFile : VolumeFile) (isFound : host.world.files name = some isFile) :
      isFile = file ∧ after.world.files name = some changed := by
    obtain rfl := Option.some.inj (found.symm.trans isFound)
    exact ⟨rfl, by rw [files, equal]⟩
  cases request with
  | write req =>
      have stored : (file.serve kernel (.write req)).file =
          { file with content := kernel.written file.content req.offset.toInt.toNat req.data } := by
        simp only [VolumeFile.serve]
        split <;> rfl
      cases transferred : kernel.pwrite with
      | error errno =>
          simp only [CallEvent.hosted, transferred, List.foldl_nil] at touched
          refine kept.same (fun isFile isFound => ?_) (by rw [touched])
          obtain ⟨rfl, there⟩ := next stored isFile isFound
          exact ⟨_, there, by simp [Kernel.written, transferred], rfl⟩
      | ok count =>
          simp only [CallEvent.hosted, transferred, List.foldl_cons, List.foldl_nil] at touched
          have small := (honest.pwrite req count rfl transferred).2
          have uncovered : (IOHandler.Effect.stored name req.offset.toInt.toNat count
              req.data).covers name position = false := by
            simp only [CallEvent.Spares] at spares
            simp only [IOHandler.Effect.covers, decide_eq_false_iff_not]
            omega
          have spared := @Promise.after_spared name position (.durable value) _ uncovered rfl
          rw [← spared]
          refine kept.effect (fun isFile isFound => ?_) touched fun _ => ⟨file, found⟩
          obtain ⟨rfl, there⟩ := next stored isFile isFound
          exact ⟨_, there, by simp [Kernel.written, transferred, IOHandler.Effect.apply], rfl⟩
  | fsync req =>
      have made : kernel.fsync = .ok () := spares
      simp only [CallEvent.hosted, made, List.foldl_cons, List.foldl_nil] at touched
      refine kept.synced (fun isFile isFound => ?_) (by simp [touched, HostEvent.touch])
      obtain ⟨rfl, there⟩ := next (by simp only [VolumeFile.serve, made]; rfl) isFile isFound
      exact ⟨_, there, rfl, rfl⟩
  | read req =>
      refine kept.same (fun isFile isFound => ?_) (by rw [touched]; rfl)
      obtain ⟨rfl, there⟩ := next
        (by simp only [VolumeFile.serve]; split <;> rfl) isFile isFound
      exact ⟨_, there, rfl, rfl⟩
  | getsize req =>
      refine kept.same (fun isFile isFound => ?_) (by rw [touched]; rfl)
      obtain ⟨rfl, there⟩ := next rfl isFile isFound
      exact ⟨_, there, rfl, rfl⟩
  | openVolume req => simp [Request.isIo] at io
  | close req => simp [Request.isIo] at io
  | stop header => simp [Request.isIo] at io
  | unknown header => simp [Request.isIo] at io

/-! The requests of one client. -/

namespace PrivateState

variable {Client : Type} {self : Client} {volume : UInt64} {state after : PrivateState Client}
variable {trace : List CallEvent} {label : PrivateLabel} {events : List CallEvent}

/-- The request of a flush is an FSYNC, and one that has succeeded leaves the file on disk as it
is. -/
def Synchronized (trace : List CallEvent) (state : PrivateState Client) : Prop :=
  ∀ call request kernel file, .served call request kernel file ∈ trace →
    ∃ coroutine, state.client.coroutines call = some coroutine ∧ (coroutine.call = .flush →
      (∃ req, request = .fsync req) ∧ (kernel.fsync = .ok () → file.durable = file.content))

/-- Only the server serves. -/
theorem Effect.notServed {own : ClientLabel}
    (effect : Effect self volume state (.client own) after events) :
    ∀ event ∈ events, event.isServed = false := by
  cases effect <;> simp [CallEvent.isServed]

theorem Synchronized.step (synchronized : Synchronized trace state) (inv : state.Inv volume)
    (effect : Effect self volume state label after events) :
    Synchronized (trace ++ events) after := by
  intro call request kernel file member
  rcases List.mem_append.mp member with before | now
  · obtain ⟨coroutine, found, flush⟩ := synchronized call request kernel file before
    obtain ⟨kept, lookup, call_eq, _⟩ := inv.keeps_call effect found
    exact ⟨kept, lookup, by rw [call_eq]; exact flush⟩
  · cases label with
    | client own =>
        have silent := effect.notServed _ now
        simp [CallEvent.isServed] at silent
    | crash =>
        cases effect
        simp at now
    | serve kernel =>
        cases effect with
        | @serve first rest _ service alive queue served =>
            obtain ⟨rfl, rfl, rfl, rfl⟩ := CallEvent.served.inj (List.mem_singleton.mp now)
            obtain ⟨⟨what, data, address, pc⟩, found, _, asks, _⟩ :=
              inv.requests first (by simp [queue])
            have serves := asks.serves queue served
            refine ⟨_, found, ?_⟩
            rintro rfl
            cases serves with
            | flush body type made => exact ⟨⟨_, body⟩, made⟩
            | abort transfers => exact (transfers rfl).elim

end PrivateState

/-! The whole system. -/

namespace AsyncState

variable {Index Client : Type} [DecidableEq Index] [DecidableEq Client]
variable {endpoints : Client → Endpoint Index} {initial state after : AsyncState Index Client}
variable {trace : List (Event Client)} {label : AsyncLabel Index Client}
variable {events : List (Event Client)} {client : Client}

/-- Only handling a request changes a file, and it is told to the client that has sent it. -/
theorem step_files (inv : state.Inv endpoints) (valid : state.Valid label)
    (stepped : (machine endpoints).step state label = some (after, events)) :
    (after.exchange.world.files = state.exchange.world.files ∧
        ∀ event ∈ events, event.what.isServed = false) ∨
      ∃ (request : Envelope Client Request) (kernel : Kernel) (file : VolumeFile),
        state.exchange.world.files (endpoints request.sender).name = some file ∧
        after.exchange.world.files = Function.update state.exchange.world.files
          (endpoints request.sender).name (some (file.serve kernel request.body).file) ∧
        request.body.isIo = true ∧ kernel.Honest file.content request.body ∧
        events = [⟨request.sender,
          .served request.call request.body kernel (file.serve kernel request.body).file⟩] := by
  rcases machine_cases stepped with ⟨sender, own, rfl, moved⟩ | ⟨own, exchange, rfl, served, rfl, rfl⟩
  · left
    cases clientStep_cases moved with
    | sent taken pushed =>
        obtain ⟨_, rfl⟩ := Exchange.pushRequest_spec pushed
        exact ⟨rfl, by simp [CallEvent.isServed]⟩
    | received popped taken =>
        obtain ⟨_, _, rfl⟩ := Exchange.popReply_spec popped
        exact ⟨rfl, by simp⟩
    | @inside label next own taken =>
        refine ⟨rfl, ?_⟩
        have effect : PrivateState.Effect sender (endpoints sender).volume
            (state.view endpoints sender) (.client (.inside label))
            { state.view endpoints sender with client := next } own :=
          (inv.clients sender).effect_local valid taken
        simpa using effect.notServed
  · have running := Exchange.serverStep_running served
    simp only [Exchange.serverStep, running, Option.isSome_none, Bool.false_eq_true,
      if_false] at served
    cases own with
    | receive index =>
        obtain ⟨_, _, _, _, rfl⟩ := Exchange.receiveStep_spec inv.wired served
        exact Or.inl ⟨rfl, by simp [servedEvents]⟩
    | send index =>
        obtain ⟨_, _, _, rfl⟩ := Exchange.sendStep_spec inv.wired served
        exact Or.inl ⟨rfl, by simp [servedEvents]⟩
    | close index => simp [inv.wired.closeStep_none] at served
    | handle index kernel =>
        right
        obtain ⟨request, hand, belongs, file, found, equal⟩ :=
          Exchange.handleStep_spec inv.wired served
        have files : exchange.world.files = Function.update state.exchange.world.files
            (endpoints request.sender).name (some (file.serve kernel request.body).file) := by
          rw [equal]
          cases file.serve kernel request.body <;> rfl
        have honest := honest inv.wired hand (valid request hand)
        have content : (state.view endpoints request.sender).service.file = file := by
          simp [view, Exchange.service, found]
        rw [content] at honest
        refine ⟨request, kernel, file, found, files, belongs.io, honest, ?_⟩
        simp [servedEvents, hand, Exchange.service, files]

omit [DecidableEq Index] [DecidableEq Client] in
theorem hosted_append (endpoints : Client → Endpoint Index) (first second : List (Event Client)) :
    hosted endpoints (first ++ second) = hosted endpoints first ++ hosted endpoints second :=
  List.flatMap_append

theorem kept_step (inv : state.Inv endpoints) (valid : state.Valid label)
    (stepped : (machine endpoints).step state label = some (after, events)) {value : UInt8}
    (kept : (Promise.durable value).Kept (endpoints client).name position
      (state.host endpoints trace))
    (spares : ∀ event ∈ events, event.client = client → event.what.Spares position) :
    (Promise.durable value).Kept (endpoints client).name position
      (after.host endpoints (trace ++ events)) := by
  have touched : (after.host endpoints (trace ++ events)).touched =
      (hosted endpoints events).foldl HostEvent.touch (state.host endpoints trace).touched := by
    simp only [host, hosted_append, List.foldl_append]
  rcases step_files inv valid stepped with
    ⟨files, silent⟩ | ⟨request, kernel, file, found, files, io, honest, rfl⟩
  · have unseen : hosted endpoints events = [] := by
      refine List.flatMap_eq_nil_iff.mpr fun event member => ?_
      exact CallEvent.hosted_silent (silent event member) _
    refine kept.same (fun file found => ⟨file, ?_, rfl, rfl⟩) (by rw [touched, unseen]; rfl)
    show after.exchange.world.files (endpoints client).name = some file
    rw [files]
    exact found
  · have one (served : Event Client) :
        hosted endpoints [served] = served.what.hosted (endpoints served.client).name := by
      simp [hosted]
    rw [one] at touched
    have told := spares _ (List.mem_singleton.mpr rfl)
    by_cases same : request.sender = client
    · subst same
      refine kept.served found ?_ touched io honest (told rfl)
      show after.exchange.world.files (endpoints request.sender).name = _
      rw [files, Function.update_self]
    · have different : (endpoints request.sender).name ≠ (endpoints client).name :=
        fun equal => same (inv.wired.nameInjective _ _ equal)
      refine kept.same (fun file found => ⟨file, ?_, rfl, rfl⟩)
        (by rw [touched]; exact CallEvent.hosted_other different _ _)
      show after.exchange.world.files (endpoints client).name = some file
      rw [files, Function.update_of_ne (Ne.symm different)]
      exact found

/-- What is on disk stays there as long as no later request interferes. -/
theorem kept_run {first : AsyncState Index Client} (inv : first.Inv endpoints)
    {later : List (Event Client)} (run : (machine endpoints).Run Valid first later state)
    {value : UInt8}
    (kept : (Promise.durable value).Kept (endpoints client).name position
      (first.host endpoints trace))
    (spares : ∀ event ∈ later, event.client = client → event.what.Spares position) :
    (Promise.durable value).Kept (endpoints client).name position
      (state.host endpoints (trace ++ later)) := by
  have holds := run.invariant (fun later state => state.Inv endpoints ∧
    ((∀ event ∈ later, event.client = client → event.what.Spares position) →
      (Promise.durable value).Kept (endpoints client).name position
        (state.host endpoints (trace ++ later))))
    ⟨inv, fun _ => by simpa using kept⟩ ?_
  · exact holds.2 spares
  · rintro later state label after events ⟨inv, kept⟩ valid stepped
    refine ⟨inv.step valid stepped, fun spares => ?_⟩
    rw [← List.append_assoc]
    exact kept_step inv valid stepped
      (kept fun event member => spares event (List.mem_append_left _ member))
      fun event member => spares event (List.mem_append_right _ member)

theorem Started.synchronized (started : initial.Started endpoints)
    (run : (machine endpoints).Run Valid initial trace state) (client : Client) :
    PrivateState.Synchronized (trace.flatMap (Event.visible client)) (state.view endpoints client) := by
  obtain ⟨_, privateRun⟩ := started.inv.run (fun _ _ permitted => permitted) run client
    PrivateState.Valid fun _ _ _ _ _ _ valid => valid
  refine (privateRun.invariant (fun trace state => state.Inv (endpoints client).volume ∧
    PrivateState.Synchronized trace state) ⟨started.inv.clients client, by
      rintro _ _ _ _ ⟨⟩⟩ ?_).2
  rintro trace state label after events ⟨inv, synchronized⟩ valid stepped
  have effect := inv.effect valid stepped
  exact ⟨inv.step effect, synchronized.step inv effect⟩

/-- The FSYNC of a flush that has returned 0. -/
theorem Started.flushed (started : initial.Started endpoints)
    (run : (machine endpoints).Run Valid initial trace state) {call : Nat} {coroutine : Coroutine}
    (found : (state.clients client).coroutines call = some coroutine)
    (flush : coroutine.call = .flush) (returned : coroutine.pc = .returned 0) :
    ∃ before request rest header kernel file,
      trace.flatMap (Event.visible client) = before ++ .submitted call request :: rest ∧
      ⟨client, .served call (.fsync header) kernel file⟩ ∈ trace ∧ kernel.fsync = .ok () ∧
      file.durable = (initial.content endpoints client).applyAll (submitted client before) ∧
      file.content = file.durable := by
  have tied := started.tied run client
  have passed : .submitted ∈ coroutine.passed := by
    simp [Coroutine.passed, returned, flush, CoCall.aligned]
  obtain ⟨request, member⟩ := tied.history.submitted found passed
  obtain ⟨before, rest, split⟩ := List.append_of_mem member
  obtain ⟨body, kernel, file, served, made⟩ : ∃ body kernel file,
      .served call body kernel file ∈ trace.flatMap (Event.visible client) ∧
        kernel.fsync = .ok () := by
    rcases tied.outcomes.returned call coroutine 0 found returned with
      ⟨misaligned, _⟩ | ⟨_, stored, result, zero⟩
    · simp [flush, CoCall.aligned] at misaligned
    · rw [flush] at result
      obtain ⟨err, ⟨body, kernel, file, served, rfl⟩, rfl⟩ := result
      refine ⟨body, kernel, file, served, ?_⟩
      rw [Int32.toInt32_toInt64] at zero
      cases made : kernel.fsync with
      | ok done => rfl
      | error errno =>
          rw [Kernel.fsyncErr, made] at zero
          exact (errno.negative_ne_zero zero.symm).elim
  obtain ⟨other, lookup, synced⟩ := started.synchronized run client call body kernel file served
  obtain rfl := Option.some.inj (found.symm.trans lookup)
  obtain ⟨⟨header, rfl⟩, same⟩ := synced flush
  have durable := tied.outcomes.durable call _ kernel file coroutine served found flush made
  refine ⟨before, request, rest, header, kernel, file, split, Event.mem_visible.mp served, made, ?_,
    (same made).symm⟩
  rw [durable]
  exact (tied.submissions.before before call request rest split).symm

/-- The byte is on disk when the FSYNC has been handled. -/
theorem kept_synced {call : Nat} {header : HeaderRequest} {kernel : Kernel} {file : VolumeFile}
    (inv : state.Inv endpoints) (valid : state.Valid label)
    (stepped : (machine endpoints).step state label = some (after, events))
    (told : ⟨client, .served call (.fsync header) kernel file⟩ ∈ events)
    (made : kernel.fsync = .ok ()) (same : file.content = file.durable)
    (inside : position < file.durable.size) :
    events = [⟨client, .served call (.fsync header) kernel file⟩] ∧
      (Promise.durable (file.durable.byte position)).Kept (endpoints client).name position
        (after.host endpoints (trace ++ events)) := by
  rcases step_files inv valid stepped with
    ⟨_, silent⟩ | ⟨request, served, old, found, files, _, _, rfl⟩
  · have notServed := silent _ told
    simp [CallEvent.isServed] at notServed
  · have equal := List.mem_singleton.mp told
    obtain ⟨rfl, event⟩ := Event.mk.inj equal
    obtain ⟨_, _, rfl, stored⟩ := CallEvent.served.inj event
    refine ⟨by rw [equal], ?_⟩
    have isFile : (after.host endpoints (trace ++ [⟨request.sender, .served request.call request.body
        kernel (old.serve kernel request.body).file⟩])).world.files (endpoints request.sender).name =
          some file := by
      show after.exchange.world.files (endpoints request.sender).name = some file
      rw [files, Function.update_self, stored]
    refine ⟨⟨file, isFile, by rw [same]; exact inside, by rw [same]⟩, ?_, file, isFile, inside, rfl⟩
    rw [← equal]
    simp [host, hosted, CallEvent.hosted, made, HostEvent.touch]

/-- The requests of a client are handled in the order of its calls. -/
theorem Started.handledLater (started : initial.Started endpoints) {earlier later : List (Event Client)}
    {call : Nat} {request : Request} {kernel : Kernel} {file : VolumeFile}
    (run : (machine endpoints).Run Valid initial
      (earlier ++ [⟨client, .served call request kernel file⟩] ++ later) state) {event : CallEvent}
    (member : ⟨client, event⟩ ∈ later) (isServed : event.isServed = true) : call < event.call := by
  have ordered := (started.tied run client).history.served
  rw [List.flatMap_append, List.flatMap_append, List.append_assoc] at ordered
  obtain ⟨_, ordered, _⟩ := List.pairwise_append.mp ordered
  obtain ⟨_, _, behind⟩ := List.pairwise_append.mp ordered
  exact behind (.served call request kernel file)
    (Event.mem_visible.mpr (List.mem_singleton.mpr rfl)) event (Event.mem_visible.mpr member) rfl
    isServed

end AsyncState

end Cvbd
