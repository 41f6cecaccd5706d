import Cvbd.AsyncDriver
import Cvbd.RecoveryCore

/-!
The asynchronous driver on a host that fails: what its requests have done to the
volume files, and what the next server starts with.
-/

namespace Cvbd

namespace CallEvent

/-- What a handled request has done to the file `name`. -/
def hosted (name : Name) : CallEvent → List HostEvent
  | .served _ (.write req) kernel _ =>
      match kernel.pwrite with
      | .ok count => [.effect (.stored name req.offset.toInt.toNat count req.data)]
      | .error _ => []
  | .served _ (.fsync _) kernel _ =>
      match kernel.fsync with
      | .ok _ => [.synced name]
      | .error _ => [.notSynced name]
  | .served .. | .submitted .. | .yielded _ | .entered _ | .returned .. => []

/-- No WRITE to the byte, and no `::fsync` that has failed. -/
def Spares (position : Nat) : CallEvent → Prop
  | .served _ (.write req) _ _ => ¬(req.offset.toInt.toNat ≤ position ∧
      position < req.offset.toInt.toNat + req.sizeInBytes.toNat)
  | .served _ (.fsync _) kernel _ => kernel.fsync = .ok ()
  | .served .. | .submitted .. | .yielded _ | .entered _ | .returned .. => True

end CallEvent

namespace AsyncState

variable {Index Client : Type}

def hosted (endpoints : Client → Endpoint Index) (trace : List (Event Client)) : List HostEvent :=
  trace.flatMap fun event => event.what.hosted (endpoints event.client).name

/-- The host when the server has ended, by an abort or from outside: nothing is left of the clients'
requests but the files. -/
def host (endpoints : Client → Endpoint Index) (trace : List (Event Client))
    (state : AsyncState Index Client) : Host where
  world := World.started state.exchange.world.files state.exchange.world.mqNames
  touched := (hosted endpoints trace).foldl HostEvent.touch fun _ _ => true

end AsyncState

end Cvbd
