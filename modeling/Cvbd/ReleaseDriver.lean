import Cvbd.ReleaseTotal
import Cvbd.SessionDriver

/-! A refused client and one that opens, asks and closes, on one volume name. -/

namespace Cvbd

namespace Session

/-- The first client is refused, for want of space, and the second one takes its address and its
descriptor. Both are destroyed before the server has handled the CLOSE. -/
def sampleLeaving : List (SessionLabel Bool) :=
  let opens := IOHandler.sampleKernel (.error enoent) (.ok 3)
  let refuses := { opens with ftruncate := .error eio }
  let serves := IOHandler.sampleKernel (.error enoent) (.error enoent)
  [.remove false, .create false (some 0), .sendOpen false, .server (.receive 0),
    .server (.handle 0 refuses), .server (.send 0), .receive false, .destroy false,
    .server (.close 0),
    .remove true, .create true (some 1), .sendOpen true, .server (.receive 0),
    .server (.handle 0 opens), .server (.send 0), .receive true, .call true .getsize,
    .server (.receive 0), .server (.handle 0 serves), .server (.send 0), .receive true,
    .sendClose true, .destroy true, .server (.receive 0), .server (.handle 0 serves)]

def isIdle (session : Session Bool) (index : Nat) : Bool :=
  (session.exchange.requestMq index).isEmpty &&
    match session.exchange.thread index with
    | .idle => true
    | _ => false

/-- Both `VolumeState` objects have been deleted, and the server is at rest. -/
def restored (session : Session Bool) : Bool :=
  session.deleted false == 1 && session.deleted true == 1 && session.exchange.fault.isNone &&
    isIdle session (sameName.index false) && isIdle session (sameName.index true)

theorem isIdle_sound {session : Session Bool} {index : Nat} (passes : isIdle session index = true) :
    session.exchange.requestMq index = [] ∧ session.exchange.thread index = .idle := by
  simp only [isIdle, Bool.and_eq_true, List.isEmpty_iff] at passes
  refine ⟨passes.1, ?_⟩
  cases thread : session.exchange.thread index <;> simp_all

theorem restored_quiet {session : Session Bool} (test : restored session = true) :
    session.Quiet sameName ∧ session.exchange.fault = none := by
  simp only [restored, Bool.and_eq_true, Option.isNone_iff_eq_none] at test
  obtain ⟨⟨⟨_, alive⟩, first⟩, second⟩ := test
  refine ⟨⟨?_, ?_⟩, alive⟩
  · rintro (_ | _)
    · exact (isIdle_sound first).1
    · exact (isIdle_sound second).1
  · rintro (_ | _)
    · exact (isIdle_sound first).2
    · exact (isIdle_sound second).2

end Session

end Cvbd
