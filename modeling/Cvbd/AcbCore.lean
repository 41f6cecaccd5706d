import Cvbd.AsyncPrivate

/-!
The control blocks of the asynchronous driver as the slice allocator sees them:
`g_slice_new` at the beginning of a call, `g_slice_free` on its way out. The heap
of `AsyncClient` is the set of live blocks.
-/

namespace Cvbd

/-- A block is freed, or a call is rejected as misaligned, with the live blocks before and after. -/
inductive AcbEvent
  | freed (call : Nat) (address : UInt64)
  | rejected (before after : UInt64 → Bool)

def AcbEvent.frees (call : Nat) : AcbEvent → Bool
  | .freed other _ => other == call
  | .rejected _ _ => false

namespace AsyncClient

def liveAcbs (client : AsyncClient) : UInt64 → Bool := fun address => (client.heap address).isSome

/-- What a step of the driver tells the allocator. -/
def acbEvents (client after : AsyncClient) : LocalLabel → List AcbEvent
  | .call what _ _ =>
      if what.aligned then [] else [.rejected client.liveAcbs after.liveAcbs]
  | .resume =>
      match client.running with
      | some (call, coroutine) =>
          if client.liveAcbs coroutine.acb then [.freed call coroutine.acb] else []
      | none => []
  | _ => []

/-- The live blocks are those of the calls that have not returned, and each of the others has freed
its block once. -/
structure AcbBalance (client : AsyncClient) (trace : List AcbEvent) : Prop where
  live : ∀ address, client.liveAcbs address = true ↔ ∃ call coroutine,
    client.coroutines call = some coroutine ∧ coroutine.acb = address ∧
      coroutine.pc.isReturned = false
  apart : ∀ call other coroutine found, client.coroutines call = some coroutine →
    client.coroutines other = some found → coroutine.pc.isReturned = false →
    found.pc.isReturned = false → coroutine.acb = found.acb → call = other
  freed : ∀ call coroutine, client.coroutines call = some coroutine →
    trace.filter (AcbEvent.frees call) =
      if coroutine.pc.isReturned then [.freed call coroutine.acb] else []
  rejected : ∀ before after, .rejected before after ∈ trace → after = before

end AsyncClient

namespace AsyncState

variable {Index Client : Type} [DecidableEq Index] [DecidableEq Client]

def acbEvents (state after : AsyncState Index Client) :
    AsyncLabel Index Client → List (Client × AcbEvent)
  | .client client (.inside label) =>
      ((state.clients client).acbEvents (after.clients client) label).map (client, ·)
  | _ => []

/-- The system of all clients and the server, which tells about control blocks. -/
def acbMachine (endpoints : Client → Endpoint Index) :
    Machine (AsyncState Index Client) (AsyncLabel Index Client) (Client × AcbEvent) where
  step state label := ((machine endpoints).step state label).map fun outcome =>
    (outcome.1, state.acbEvents outcome.1 label)

/-- `g_slice_new` hands out a block that is not live. Sends may fail. -/
def Allocates (state : AsyncState Index Client) : AsyncLabel Index Client → Prop
  | .client client (.inside (.call _ address _)) => (state.clients client).heap address = none
  | _ => True

/-- No client has made a call yet. -/
structure Unused (state : AsyncState Index Client) : Prop where
  coroutines : ∀ client call, (state.clients client).coroutines call = none
  heap : ∀ client address, (state.clients client).heap address = none

/-- The events of one client. -/
def acbTrace (client : Client) (trace : List (Client × AcbEvent)) : List AcbEvent :=
  trace.filterMap fun event => if event.1 = client then some event.2 else none

end AsyncState

end Cvbd
