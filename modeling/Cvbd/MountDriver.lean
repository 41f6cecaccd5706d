import Cvbd.DiskDriver
import Cvbd.MatchingDriver
import Cvbd.MountTotal
import Cvbd.ReleaseDriver

/-! Two clients that open the volumes `a` and `ab`, and the disks that they get. -/

namespace Cvbd

namespace Session

/-- The volume name ends in the request buffer as well. -/
def nameWhole (session : Session Bool) : SessionLabel Bool → Bool
  | .sendOpen client => (session.shared client).requestMsg
      (Wire.volumeNameStart + (session.shared client).volumeName.length) == 0
  | _ => true

theorem nameWhole_sound {session : Session Bool} {label : SessionLabel Bool}
    (passes : nameWhole session label = true) : session.NamesVolume label := by
  cases label with
  | sendOpen client => exact eq_of_beq passes
  | remove client => trivial
  | create client queue => trivial
  | call client call => trivial
  | sendClose client => trivial
  | receive client => trivial
  | destroy client => trivial
  | server label => trivial

def sampleMounts : List (SessionLabel Bool) :=
  let first := IOHandler.sampleKernel (.error enoent) (.ok 3)
  let second := { IOHandler.sampleKernel (.error enoent) (.ok 4) with newVolume := 8192 }
  [.remove false, .create false (some 0), .remove true, .create true (some 1), .sendOpen false,
    .sendOpen true, .server (.receive 0), .server (.handle 0 first), .server (.send 0),
    .server (.receive 0), .server (.handle 0 second), .server (.send 0), .receive true,
    .receive false]

/-- The first client writes its first block while the second one reads its own. -/
def sampleDisks : List (DisksLabel Nat Bool) :=
  let kernel := Kernel.transfer (File.filled 8192 0) 0 4096
  [.enter false (cvbdWrite 0 8 100) fun _ => 7, .client false, .client false,
    .enter true (cvbdRead 0 8 100) fun _ => 5, .client true, .client true, .client false,
    .server (.receive 0), .server (.handle 0 kernel), .server (.receive 0),
    .server (.handle 0 kernel), .server (.send 0), .client true, .client true]

/-- The second client has read a zero, which `ftruncate` has put there. -/
def readsZero (calls : List (Bool × DiskEvent)) : Bool :=
  calls.any fun
    | (true, .returned 0 memory) => memory 100 == 0
    | _ => false

def isOpened (session : Session Bool) (client : Bool) : Bool :=
  match session.stage client with
  | .opened => true
  | _ => false

/-- Both volumes are open, and the two drivers can be scheduled so. -/
def mounted (session : Session Bool) : Bool :=
  let endpoints := session.endpoint clearedNames
  isOpened session false && isOpened session true &&
    isIdle session (clearedNames.index false) && isIdle session (clearedNames.index true) &&
    ((DisksState.machine endpoints).exec (DisksState.allowed endpoints)
      (session.disks fun _ _ => 0) sampleDisks).any fun outcome => readsZero outcome.2

theorem isOpened_sound {session : Session Bool} {client : Bool}
    (passes : isOpened session client = true) : session.stage client = .opened := by
  unfold isOpened at passes
  split at passes
  · rename_i opened
    exact opened
  · simp at passes

end Session

end Cvbd
