import Housekeeper.Manager.Request

/-!
# Processing the manager's queue

The manager takes the messages out of its own queue and handles them in order, those included that
its replies put there. A reply is no request and is not answered, so that the queue runs empty
after at most twice as many steps as it held messages.
-/

namespace Housekeeper.HkState

variable {σ : Type}

def processUpTo (station : Station σ) :
    (steps : Nat) → HkState σ → List (Except PoolError Unit) × HkState σ
  | 0, state => ([], state)
  | steps + 1, state =>
    match station.receive state.manager.queue state.services with
    | (none, _) => ([], state)
    | (some message, services) =>
      let (result, state) := { state with services }.handle station.toServices message
      let (results, state) := processUpTo station steps state
      (result :: results, state)

def process (station : Station σ) (state : HkState σ) :
    List (Except PoolError Unit) × HkState σ :=
  let waiting := (station.facilities state.services).hub.pending state.manager.queue
  processUpTo station (2 * waiting.length) state

end Housekeeper.HkState
