import Cvbd.RendezvousTotal

/-! Two clients of a server that starts anew, and a client that takes the server's name away. -/

namespace Cvbd

namespace Rendezvous

/-- A synchronous and an asynchronous client whose volumes have the given names. -/
def twoNames (first second : Name) : Setting Bool where
  queues := maxQueueNum
  kind := fun client => if client then .async else .sync
  allocated := fun client => ⟨if client then second else first, 0, 0, fun _ => 0⟩

/-- A queue of an earlier server and one of an earlier client still have their names. -/
def sampleLeftovers (name : Name) : Option Nat :=
  if name = requestMqName 0 then some 7 else if name = [98] then some 8 else none

theorem twoNames_apart : Apart (twoNames [97] [98]) where
  queues := by
    rintro client index below
    obtain rfl : index = 0 := by simpa [twoNames, maxQueueNum] using below
    cases client <;> decide
  distinct := by
    rintro (_ | _) (_ | _) <;> decide

/-- The clients connect while the server is up; the first one leaves before the server stops. -/
def sampleMeeting : List (RendezvousLabel Bool) :=
  [.server, .server, .server, .remove true, .remove false, .attach true, .attach false,
    .create false, .create true, .start true, .destroy false, .server, .server, .server]

def isConstructed : ClientPc Bool → Bool
  | .constructed (.request 0) => true
  | _ => false

/-- The second client is connected to the server's queue. -/
def met (state : Rendezvous Bool) : Bool :=
  isConstructed (state.clients true) && (state.names (requestMqName 0)).isNone &&
    (state.names [97]).isNone && (state.names [98]).isSome

/-- The first client's volume is named like the request queue. -/
def impostor : Setting Bool := twoNames (requestMqName 0) [98]

def isUp (trace : List (RendezvousEvent Bool)) : Bool :=
  trace.any fun
    | .up => true
    | _ => false

def isOutside : ClientPc Bool → Bool
  | .outside => true
  | _ => false

def isRefused : ClientPc Bool → Bool
  | .refused => true
  | _ => false

/-- The first client removes the name, and the second one finds none. -/
def refusedBehind (state : Rendezvous Bool) : Bool :=
  (state.remove impostor false).any fun after =>
    ((machine impostor).exec (fun _ _ => true) after [.remove true, .attach true]).any fun outcome =>
      isRefused (outcome.1.clients true)

theorem isUp_sound {trace : List (RendezvousEvent Bool)} (passes : isUp trace = true) :
    .up ∈ trace := by
  obtain ⟨event, member, isUp⟩ := List.any_eq_true.mp passes
  split at isUp
  · exact member
  · simp at isUp

theorem isOutside_sound {pc : ClientPc Bool} (passes : isOutside pc = true) : pc = .outside := by
  unfold isOutside at passes
  split at passes
  · rfl
  · simp at passes

theorem sample_lockedOut : ∃ trace state after rest last,
    (machine impostor).Run (fun _ _ => True) (start sampleLeftovers) trace state ∧
      state.remove impostor false = some after ∧
      (machine impostor).Run (fun _ _ => True) after rest last ∧
      isRefused (last.clients true) = true ∧ ∀ other mq, .attached other mq ∉ rest := by
  obtain ⟨trace, state, run, test⟩ := Machine.Run.of_exec (machine impostor)
    (start sampleLeftovers) (fun _ _ => true) (fun _ _ _ => trivial) [.server, .server, .server]
    (fun trace state => isUp trace && isOutside (state.clients false) &&
      isOutside (state.clients true) && refusedBehind state) (by decide +kernel)
  simp only [Bool.and_eq_true] at test
  obtain ⟨⟨⟨up, first⟩, second⟩, refused⟩ := test
  obtain ⟨after, removes, behind⟩ := (Option.any_eq_true _ _).mp refused
  obtain ⟨rest, last, later, none⟩ := Machine.Run.of_exec (machine impostor) after
    (fun _ _ => true) (fun _ _ _ => trivial) [.remove true, .attach true]
    (fun _ last => isRefused (last.clients true)) behind
  have alone (other : Bool) (mq : Mq Bool) (_ : impostor.volumeName other = requestMqName 0) :
      state.clients other ≠ .attached mq := by
    cases other
    · simp [isOutside_sound first]
    · simp [isOutside_sound second]
  exact ⟨trace, state, after, rest, last, run, removes, later, none,
    (lockedOut_run rfl rfl run (isUp_sound up) alone removes later).1⟩

end Rendezvous

end Cvbd
