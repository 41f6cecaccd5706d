import Cvbd.MatchingTotal
import Cvbd.SessionDriver

/-! Two clients whose names begin alike, with a cleared request buffer and with one that completes
the shorter name to the longer one. -/

namespace Cvbd

namespace Session

/-- A file descriptor for every OPEN; `valid` admits no transfers. -/
def regular (session : Session Bool) (label : SessionLabel Bool) : Bool :=
  valid session label &&
    match label with
    | .server (.handle index kernel) =>
        match session.exchange.thread index with
        | .hand ⟨_, _, .openVolume _⟩ => (IOHandler.descriptor kernel).isSome
        | _ => true
    | _ => true

theorem regular_sound {session : Session Bool} {label : SessionLabel Bool}
    (named : session.NamesMade) (passes : regular session label = true) :
    session.Regular label := by
  simp only [regular, Bool.and_eq_true] at passes
  obtain ⟨allowed, succeeds⟩ := passes
  refine ⟨valid_sound named allowed, ?_⟩
  cases label with
  | server label =>
      cases label with
      | handle index kernel =>
          intro request hand
          simp only [valid, hand] at allowed
          simp only [hand] at succeeds
          obtain ⟨sender, call, body⟩ := request
          cases body with
          | openVolume req => exact ⟨Option.isSome_iff_ne_none.mp succeeds, trivial⟩
          | read req => simp [allows] at allowed
          | write req => simp [allows] at allowed
          | stop header => exact ⟨trivial, trivial⟩
          | close req => exact ⟨trivial, trivial⟩
          | getsize req => exact ⟨trivial, trivial⟩
          | fsync req => exact ⟨trivial, trivial⟩
          | unknown header => exact ⟨trivial, trivial⟩
      | receive index => trivial
      | send index => trivial
      | close index => trivial
  | remove client => trivial
  | create client queue => trivial
  | sendOpen client => trivial
  | call client call => trivial
  | sendClose client => trivial
  | receive client => trivial
  | destroy client => trivial

def nameArrives (client : SharedMemClient) : Bool :=
  client.requestMsg (Wire.replyMqNameStart + client.volumeName.length) == 0 &&
    client.volumeName != [] && !client.volumeName.contains 0 &&
    decide (client.volumeName.length < pathMax)

def namesArrive (session : Session Bool) : SessionLabel Bool → Bool
  | .sendOpen client => nameArrives (session.shared client)
  | _ => true

theorem namesArrive_sound {session : Session Bool} {label : SessionLabel Bool}
    (passes : namesArrive session label = true) : session.Terminates label := by
  cases label with
  | sendOpen client =>
      simp only [namesArrive, nameArrives, Bool.and_eq_true, beq_iff_eq, bne_iff_ne,
        Bool.not_eq_true', decide_eq_true_eq] at passes
      obtain ⟨⟨⟨terminated, nonempty⟩, noNul⟩, short⟩ := passes
      exact ⟨terminated, ⟨_, nonempty, by simpa using noNul, short⟩, rfl⟩
  | remove client => trivial
  | create client queue => trivial
  | call client call => trivial
  | sendClose client => trivial
  | receive client => trivial
  | destroy client => trivial
  | server label => trivial

/-- The volumes `a` and `ab`. -/
def prefixNames (buffer : Bytes) : Setting Bool :=
  sampleSetting (fun client => if client then [97, 98] else [97]) buffer

theorem prefixNames_synchronous (buffer : Bytes) : (prefixNames buffer).Synchronous where
  kind := fun _ => rfl
  distinct := by
    intro left right same
    cases left <;> cases right <;> simp_all [prefixNames, sampleSetting, Setting.volumeName]

def clearedNames : Setting Bool := prefixNames fun _ => 0

/-- Both clients open their volumes, and the first one asks for the size of its own. -/
def sampleOpens : List (SessionLabel Bool) :=
  let first := IOHandler.sampleKernel (.error enoent) (.ok 3)
  let second := { IOHandler.sampleKernel (.error enoent) (.ok 4) with newVolume := 8192 }
  [.remove false, .create false (some 0), .remove true, .create true (some 1), .sendOpen false,
    .sendOpen true, .server (.receive 0), .server (.handle 0 first), .server (.send 0),
    .receive false, .server (.receive 0), .server (.handle 0 second), .call false .getsize,
    .server (.send 0)]

/-- The first client waits for its size, and the reply to the second one's OPEN is in its queue. -/
def bothWait (session : Session Bool) : Bool :=
  match session.stage false, session.stage true with
  | .waiting _, .opening _ => (session.exchange.replyMq 1).length == 1
  | _, _ => false

theorem sample_matched : clearedNames.Synchronous ∧ ∃ trace session,
    (machine clearedNames).Run (fun session label => session.Regular label ∧
      session.Terminates label) (sampleStart clearedNames) trace session ∧
      bothWait session = true ∧ session.Matched clearedNames := by
  have synchronous := prefixNames_synchronous fun _ => 0
  obtain ⟨trace, session, run, test⟩ := sample_exec clearedNames
    (fun session label => session.Regular label ∧ session.Terminates label)
    (fun session label => regular session label && namesArrive session label)
    (fun session label named passes => by
      simp only [Bool.and_eq_true] at passes
      exact ⟨regular_sound named passes.1, namesArrive_sound passes.2⟩)
    sampleOpens bothWait (by decide +kernel)
  exact ⟨synchronous, trace, session, run, test, matched_run synchronous run⟩

/-- The letter `b` is left behind the place of the name `a`. -/
def staleNames : Setting Bool :=
  prefixNames fun index => if index = Wire.replyMqNameStart + 1 then 98 else 0

/-- The first client's OPEN is answered. -/
def sampleStale : List (SessionLabel Bool) :=
  [.remove false, .create false (some 0), .remove true, .create true (some 1), .sendOpen false,
    .server (.receive 0), .server (.handle 0 (IOHandler.sampleKernel (.error enoent) (.ok 3))),
    .server (.send 0)]

/-- The reply is in the queue of the second client. -/
def misrouted (session : Session Bool) : Bool :=
  session.mq true == some 1 && (session.exchange.replyMq 1).any fun reply => !reply.sender

theorem misrouted_notMatched {setting : Setting Bool} {session : Session Bool}
    (test : misrouted session = true) : ¬session.Matched setting := by
  intro matched
  simp only [misrouted, Bool.and_eq_true, beq_iff_eq] at test
  obtain ⟨own, wrong⟩ := test
  obtain ⟨reply, member, other⟩ := List.any_eq_true.mp wrong
  obtain ⟨sender, _⟩ := matched.matching true 1 reply own member
  simp [sender] at other

/-- The first client waits for a reply that the second one will take. -/
theorem staleNames_notMatched : staleNames.Synchronous ∧ ¬∀ trace session,
    (machine staleNames).Run Regular (sampleStart staleNames) trace session →
      session.Matched staleNames := by
  refine ⟨prefixNames_synchronous _, fun matched => ?_⟩
  obtain ⟨trace, session, run, test⟩ := sample_exec staleNames Regular regular
    (fun session label named passes => regular_sound named passes) sampleStale misrouted
    (by decide +kernel)
  exact misrouted_notMatched test (matched trace session run)

end Session

end Cvbd
