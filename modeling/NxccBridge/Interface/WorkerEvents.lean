import NxccBridge.Interface.Events

/-!
# The events of a work order

The triggers of `node/interface/src/types/worker/events.rs` that a work order
asks for.  The discriminator and the policy of a schedule are left out: nothing
reads them.  A time in UTC is given in nanoseconds since the epoch.
-/

namespace NxccBridge.Interface

/-- High-resolution, monotonic, rate-based schedule. -/
structure RateMode where
  periodMs : ℕ
  phaseMs : ℕ
  startAt : Option ℤ
  endAt : Option ℤ
  maxOccurrences : Option ℕ
  deriving DecidableEq

/-- Minimal constructor with only the required field. -/
def RateMode.new (periodMs : ℕ) : RateMode where
  periodMs := periodMs
  phaseMs := 0
  startAt := none
  endAt := none
  maxOccurrences := none

inductive Schedule
  | rate (rateMode : RateMode)
  deriving DecidableEq

def Schedule.rateMode : Schedule → RateMode
  | rate rateMode => rateMode

/-- Configuration for a Web3 event listener. -/
structure Web3Event where
  chain : ChainIdentifier
  address : List Address
  topics : List (List B256)
  gateways : List String
  deriving DecidableEq

inductive WorkerEventKind
  | launch
  | web3Event (config : Web3Event)
  | httpRequest
  | scheduled (schedule : Schedule)
  deriving DecidableEq

/-- An event that can trigger a worker. -/
structure WorkerEvent where
  handler : String
  kind : WorkerEventKind
  deriving DecidableEq

end NxccBridge.Interface
