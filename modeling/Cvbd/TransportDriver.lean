import Cvbd.SequencerDriver
import Cvbd.TransportReads

/-! Two clients on one volume, with objects that hold remains at both ends. -/

namespace Cvbd

namespace Transport

def lawful (transport : Transport Unit Bool) : TransportLabel Unit Bool → Bool
  | .send _ _ _ args =>
      match args.sent with
      | .read _ sizeInBytes => decide (sizeInBytes.toNat ≤ maxDataSize)
      | .openVolume .. => false
      | .write .. | .close | .getsize | .fsync => true
  | .server (.handle index kernel) =>
      kernel.permits transport.world (Wire.viewRequest (transport.thread index).requestMsg)
  | _ => true

theorem lawful_sound {transport : Transport Unit Bool} {label : TransportLabel Unit Bool}
    (passes : lawful transport label = true) : transport.Lawful label := by
  cases label with
  | halt index sender call static => trivial
  | receive client mq => trivial
  | rename name queue => trivial
  | send index client call args =>
      obtain ⟨id, volume, acb, sent⟩ := args
      simp only [lawful] at passes
      cases sent with
      | read offset sizeInBytes =>
          have small : sizeInBytes.toNat ≤ maxDataSize := of_decide_eq_true passes
          exact small
      | openVolume volumeName replyMqName => simp at passes
      | write offset sizeInBytes data fits => trivial
      | close => trivial
      | getsize => trivial
      | fsync => trivial
  | server label =>
      cases label with
      | receive index => trivial
      | send index => trivial
      | close index => trivial
      | handle index kernel => exact Kernel.permits_valid passes

/-- All objects are full of `x`. -/
def leftovers : Transport Unit Bool where
  world := Exchange.sharedVolume
  requestMq := fun _ => []
  thread := fun _ => ⟨fun _ => 120, fun _ => 120, .idle⟩
  replyMq := fun _ => []
  fault := none
  requestMsg := fun _ => fun _ => 120
  replyMsg := fun _ => fun _ => 120

theorem leftovers_started : leftovers.Started where
  idle := fun _ => rfl
  noRequests := fun _ => rfl
  noReplies := fun _ => rfl

/-- The first client writes and the second one reads, both with what is left in their objects. -/
def sampleCarried : List (TransportLabel Unit Bool) :=
  let kernel := Kernel.transfer (File.filled 8192 1) 0 512
  [.send () false 0 ⟨1, 4096, 0, .write 0 512 (fun _ => 7) (by decide)⟩,
    .send () true 0 ⟨1, 8192, 0, .read 256 512⟩,
    .server (.receive ()), .server (.handle () kernel), .server (.receive ()),
    .server (.handle () kernel), .server (.send ()), .receive true 1]

/-- The second client finds the new bytes in its object and, behind them, old ones. -/
def sawBytes (trace : List (TransportEvent Unit Bool)) : Bool :=
  trace.any fun
    | .received true _ ⟨true, _, .read answer⟩ => answer.data 255 == 7 && answer.data 256 == 1
    | _ => false

def noHalts (trace : List (TransportEvent Unit Bool)) : Bool :=
  trace.all fun event => !event.isHalt

theorem noHalts_sound {trace : List (TransportEvent Unit Bool)} (passes : noHalts trace = true) :
    ∀ event ∈ trace, event.isHalt = false := by
  intro event member
  simpa using List.all_eq_true.mp passes event member

theorem sample_transport : ∃ trace transport, system.Run Lawful leftovers trace transport ∧
    (sawBytes trace && noHalts trace) = true :=
  Machine.Run.of_exec system leftovers lawful (fun _ _ => lawful_sound) sampleCarried
    (fun trace _ => sawBytes trace && noHalts trace) (by decide +kernel)

end Transport

end Cvbd
