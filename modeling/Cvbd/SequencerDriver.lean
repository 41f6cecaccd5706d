import Cvbd.SequencerTotal
import Cvbd.Transfer

/-! Two clients that have opened one volume, on the one request queue. -/

namespace Cvbd

namespace Exchange

def lawful (exchange : Exchange Unit Bool) : SystemLabel Unit Bool → Bool
  | .server (.handle index kernel) =>
      match exchange.thread index with
      | .hand request => kernel.permits exchange.world request.body
      | _ => true
  | _ => true

theorem lawful_sound {exchange : Exchange Unit Bool} {label : SystemLabel Unit Bool}
    (passes : lawful exchange label = true) : exchange.Lawful label := by
  cases label with
  | submit index request => trivial
  | take mq => trivial
  | rename name queue => trivial
  | server label =>
      cases label with
      | receive index => trivial
      | send index => trivial
      | close index => trivial
      | handle index kernel =>
          intro request hand
          simp only [lawful, hand] at passes
          exact Kernel.permits_valid passes

/-- Each client has a `VolumeState` of its own for the file `v`. -/
def sharedVolume : World where
  files := fun name => if name = [118] then some ⟨File.filled 8192 1, File.filled 8192 1⟩ else none
  fds := fun fd => if fd = 3 ∨ fd = 4 then some [118] else none
  volumes := fun volume =>
    if volume = 4096 then some ⟨[118], 3, 0⟩
    else if volume = 8192 then some ⟨[118], 4, 1⟩
    else none
  mqNames := fun _ => none

theorem sharedVolume_sound : sharedVolume.Sound where
  null := rfl
  fdOpen := by
    intro volume volState live
    simp only [sharedVolume] at live ⊢
    split at live
    · obtain rfl := Option.some.inj live
      rfl
    · split at live
      · obtain rfl := Option.some.inj live
        rfl
      · simp at live
  fdDistinct := by
    intro volume other volState otherState live otherLive same
    simp only [sharedVolume] at live otherLive
    split at live <;> split at otherLive <;> simp_all <;> grind
  existsFile := by
    intro fd name isOpen
    simp only [sharedVolume] at isOpen ⊢
    split at isOpen
    · obtain rfl := Option.some.inj isOpen
      exact ⟨_, rfl⟩
    · simp at isOpen

def twoClients : Exchange Unit Bool where
  world := sharedVolume
  requestMq := fun _ => []
  thread := fun _ => .idle
  replyMq := fun _ => []
  fault := none
  owner := fun _ => none

theorem twoClients_fresh : twoClients.Fresh where
  idle := rfl
  running := rfl
  noRequests := rfl
  noReplies := fun _ => rfl
  sound := sharedVolume_sound

/-- The first client writes, and the second one reads while the WRITE is still queued. -/
def sampleShared : List (SystemLabel Unit Bool) :=
  let write : Request := .write ⟨⟨false, .reqWrite, 1, 4096, 0⟩, 0, 512, fun _ => 7⟩
  let read : Request := .read ⟨⟨false, .reqRead, 1, 8192, 0⟩, 256, 512⟩
  let kernel := Kernel.transfer (File.filled 8192 1) 0 512
  [.submit () ⟨false, 0, write⟩, .submit () ⟨true, 0, read⟩, .server (.receive ()),
    .server (.handle () kernel), .server (.receive ()), .server (.handle () kernel),
    .server (.send ()), .take 1]

/-- The reply holds the new bytes and, behind them, old ones. -/
def sawWrite (trace : List (SystemEvent Unit Bool)) : Bool :=
  trace.any fun
    | .taken _ ⟨true, _, .read answer⟩ => answer.data 255 == 7 && answer.data 256 == 1
    | _ => false

def noStops (trace : List (SystemEvent Unit Bool)) : Bool :=
  (SystemEvent.submittedOf trace).all fun request =>
    match request.body with
    | .stop _ => false
    | _ => true

theorem noStops_sound {trace : List (SystemEvent Unit Bool)} (passes : noStops trace = true) :
    ∀ request ∈ SystemEvent.submittedOf trace, ∀ header, request.body ≠ .stop header := by
  intro request member header stop
  have notStop := List.all_eq_true.mp passes request member
  simp [stop] at notStop

theorem sample_system : ∃ trace exchange, system.Run Lawful twoClients trace exchange ∧
    (sawWrite trace && noStops trace) = true :=
  Machine.Run.of_exec system twoClients lawful (fun _ _ => lawful_sound) sampleShared
    (fun trace _ => sawWrite trace && noStops trace) (by decide +kernel)

theorem sample_sequential : ∃ trace exchange, system.Run Lawful twoClients trace exchange ∧
    sawWrite trace = true ∧
    Sequencer.machine.Run Sequencer.Lawful twoClients.sequencer trace exchange.sequencer := by
  obtain ⟨trace, exchange, run, test⟩ := sample_system
  simp only [Bool.and_eq_true] at test
  exact ⟨trace, exchange, run, test.1, sequential_run rfl run⟩

theorem sample_linear : ∃ trace exchange, system.Run Lawful twoClients trace exchange ∧
    sawWrite trace = true ∧ SystemEvent.Linear sharedVolume trace := by
  obtain ⟨trace, exchange, run, test⟩ := sample_system
  simp only [Bool.and_eq_true] at test
  exact ⟨trace, exchange, run, test.1, linear_run twoClients_fresh run (noStops_sound test.2)⟩

end Exchange

end Cvbd
