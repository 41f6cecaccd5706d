import Cvbd.DrainTotal
import Cvbd.MatchingDriver

/-! Two clients that are left waiting, one for its OPEN and one for its size behind a WRITE. -/

namespace Cvbd

instance decidableInVolume : (request : Request) → Decidable request.InVolume
  | .read _ => inferInstanceAs (Decidable (_ ∧ _))
  | .write req => inferInstanceAs (Decidable (0 ≤ req.offset.toInt))
  | .stop _ | .openVolume _ | .close _ | .getsize _ | .fsync _ | .unknown _ =>
      inferInstanceAs (Decidable True)

namespace Session

def sampleWrite : List (SessionLabel Bool) :=
  let first := IOHandler.sampleKernel (.error enoent) (.ok 3)
  let second := { IOHandler.sampleKernel (.error enoent) (.ok 4) with newVolume := 8192 }
  [.remove false, .create false (some 0), .remove true, .create true (some 1), .sendOpen false,
    .sendOpen true, .server (.receive 0), .server (.handle 0 first), .server (.send 0),
    .receive false, .server (.receive 0), .server (.handle 0 second),
    .call false (.write (fun _ => 1) 4 512), .call false .getsize]

/-- The two requests are queued, and the thread has the reply to the other OPEN in hand. -/
def leftWaiting (session : Session Bool) : Bool :=
  match session.stage false, session.stage true, session.exchange.thread 0,
    session.exchange.requestMq 0 with
  | .waiting _, .opening _, .sending .., [⟨_, _, .write _⟩, ⟨_, _, .getsize _⟩] =>
      (session.requests clearedNames false).all (fun request => decide request.InVolume) &&
        (session.requests clearedNames true).all fun request => decide request.InVolume
  | _, _, _, _ => false

theorem leftWaiting_inVolumes {session : Session Bool} (test : leftWaiting session = true) :
    session.InVolumes clearedNames := by
  unfold leftWaiting at test
  split at test
  · simp only [Bool.and_eq_true, List.all_eq_true, decide_eq_true_eq] at test
    rintro (_ | _)
    · exact test.1
    · exact test.2
  · simp at test

end Session

end Cvbd
