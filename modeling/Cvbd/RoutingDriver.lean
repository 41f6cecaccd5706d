import Cvbd.SessionDriver

/-! Two clients with one volume name, in an order that keeps their replies apart and in one that
does not. -/

namespace Cvbd

def Stage.isMade : Stage → Bool
  | .made => true
  | _ => false

def Request.isOpen : Request → Bool
  | .openVolume _ => true
  | _ => false

namespace Session

def awaits (setting : Setting Bool) (session : Session Bool) (client : Bool) : Bool :=
  (session.stage client).isMade ||
    (session.exchange.inFlight (setting.index client) client).any fun envelope =>
      envelope.body.isOpen

theorem awaits_sound {setting : Setting Bool} {session : Session Bool} {client : Bool}
    (awaiting : session.AwaitsAttach setting client) : awaits setting session client = true := by
  simp only [awaits, Bool.or_eq_true]
  rcases awaiting with made | ⟨envelope, member, req, body⟩
  · left
    rw [made]
    rfl
  · right
    refine List.any_eq_true.mpr ⟨envelope, member, ?_⟩
    rw [body]
    rfl

def terminates (session : Session Bool) : SessionLabel Bool → Bool
  | .sendOpen client =>
      (session.shared client).requestMsg
          (Wire.replyMqNameStart + (session.shared client).volumeName.length) == 0 &&
        (session.shared client).volumeName == Wire.shortName.bytes
  | _ => true

theorem terminates_sound {session : Session Bool} {label : SessionLabel Bool}
    (passes : terminates session label = true) : session.Terminates label := by
  cases label with
  | sendOpen client =>
      simp only [terminates, Bool.and_eq_true, beq_iff_eq] at passes
      exact ⟨passes.1, Wire.shortName, passes.2⟩
  | remove client => trivial
  | create client queue => trivial
  | call client call => trivial
  | sendClose client => trivial
  | receive client => trivial
  | destroy client => trivial
  | server label => trivial

def undisturbed (setting : Setting Bool) (session : Session Bool) : SessionLabel Bool → Bool
  | .remove client | .destroy client => !awaits setting session !client
  | _ => true

theorem undisturbed_sound {setting : Setting Bool} {session : Session Bool}
    {label : SessionLabel Bool} (passes : undisturbed setting session label = true) :
    session.Undisturbed setting label := by
  have others {client : Bool} (quiet : (!awaits setting session !client) = true) (other : Bool)
      (different : other ≠ client) : ¬session.AwaitsAttach setting other := by
    intro awaiting
    obtain rfl : other = !client := by
      cases other <;> cases client <;> simp_all
    simp [awaits_sound awaiting] at quiet
  cases label with
  | remove client => exact fun other different _ => others passes other different
  | destroy client => exact fun other different _ => others passes other different
  | create client queue => trivial
  | sendOpen client => trivial
  | call client call => trivial
  | sendClose client => trivial
  | receive client => trivial
  | server label => trivial

/-- The second constructor runs when the first client's OPEN has been answered. -/
def sampleOrderly : List (SessionLabel Bool) :=
  [.remove false, .create false (some 0), .sendOpen false, .server (.receive 0),
    .server (.handle 0 (IOHandler.sampleKernel (.error enoent) (.ok 3))), .remove true,
    .create true (some 1), .server (.send 0), .sendOpen true, .server (.receive 0)]

/-- The first client's reply is queued and the second one's OPEN is in hand. -/
def bothServed (session : Session Bool) : Bool :=
  match session.exchange.thread 0 with
  | .hand request => request.sender && (session.exchange.replyMq 0).length == 1
  | _ => false

theorem sample_routed : ∃ trace session,
    (machine sameName).Run (Orderly sameName) (sampleStart sameName) trace session ∧
      bothServed session = true ∧ session.Routed := by
  obtain ⟨trace, session, run, test⟩ := sample_exec sameName (Orderly sameName)
    (fun session label => valid session label && terminates session label &&
      undisturbed sameName session label)
    (fun session label named passes => by
      simp only [Bool.and_eq_true] at passes
      exact ⟨valid_sound named passes.1.1, terminates_sound passes.1.2,
        undisturbed_sound passes.2⟩)
    sampleOrderly bothServed (by decide +kernel)
  exact ⟨trace, session, run, test, routed_run _ run⟩

/-- The second constructor runs while the first client's OPEN is queued. -/
def sampleHijack : List (SessionLabel Bool) :=
  [.remove false, .create false (some 0), .sendOpen false, .remove true, .create true (some 1),
    .server (.receive 0)]

/-- The OPEN in hand will attach the other client's queue. -/
def hijacked (session : Session Bool) : Bool :=
  match session.exchange.thread 0 with
  | .hand request =>
      match request.body with
      | .openVolume req =>
          match req.replyMqName with
          | some name => session.exchange.world.mqNames name != session.mq request.sender
          | none => false
      | _ => false
  | _ => false

theorem hijacked_notRouted {session : Session Bool} (test : hijacked session = true) :
    ¬session.Routed := by
  intro routed
  unfold hijacked at test
  split at test
  · rename_i request hand
    split at test
    · rename_i req body
      obtain ⟨name, mq, named, found, own⟩ := routed.attach 0 request req hand body
      simp [named, found, own] at test
    · simp at test
  · simp at test

/-- The reply queue that the server finds is the one of the second client. -/
theorem sameName_notRouted : ¬∀ trace session,
    (machine sameName).Run Valid (sampleStart sameName) trace session → session.Routed := by
  intro routed
  obtain ⟨trace, session, run, test⟩ := sample_exec sameName Valid valid
    (fun session label named passes => valid_sound named passes) sampleHijack hijacked
    (by decide +kernel)
  exact hijacked_notRouted test (routed trace session run)

end Session

end Cvbd
