import Housekeeper.Manager.Report
import Housekeeper.Manager.Subscription

/-!
# Housekeeping passes

A pass serves every receiver once, in the order of the list, and goes on after a failure. The
changed flag of a set or variable is shared by all of its update subscriptions; it is cleared when
the last of them was served, for which the pass counts them down. After the pass the counts start
over.
-/

namespace Housekeeper

/-- A manager at work: the manager, its owner and the state of the services. -/
structure HkState (σ : Type) where
  manager : HkManager
  owner : Owner
  services : σ

namespace HkManager

def setWaiting (manager : HkManager) (data : DataId) (waiting : UInt8) : HkManager :=
  { manager with
    counts := updateFirst (fun count => count.data == data)
      (fun count => ⟨count.data, count.total, waiting⟩) manager.counts }

/-- One subscription has seen the change: was it the last one, and the manager afterwards. -/
def countDown (manager : HkManager) (data : DataId) : Bool × HkManager :=
  match manager.count? data with
  | none => (false, manager)
  | some count =>
    if count.total ≤ 1 then (true, manager)
    else if count.waiting ≤ 1 then (true, manager.setWaiting data 0)
    else (false, manager.setWaiting data (count.waiting - 1))

def restartCounts (manager : HkManager) : HkManager :=
  { manager with
    counts := manager.counts.map fun count => ⟨count.data, count.total, count.total⟩ }

end HkManager

namespace HkState

variable {σ : Type}

/-- A periodic packet is due on every tick of the set's timer while its reports are on. -/
def servePeriodic (services : Services σ) (sid : Sid) (destination : QueueId)
    (state : HkState σ) : Except PoolError Unit × HkState σ :=
  match state.owner.getSet sid with
  | .error e => (.error e, state)
  | .ok set =>
    if !set.reporting then (.ok (), state)
    else
      match set.timer with
      | none => (.error .periodicHelperInvalid, state)
      | some timer =>
        let (due, timer) := timer.check
        let owner := state.owner.modifySet sid fun set => set.withTimer timer
        if due then
          let (result, after) :=
            state.manager.sendPacket services sid set true destination state.services
          (result, ⟨state.manager, owner, after⟩)
        else (.ok (), ⟨state.manager, owner, state.services⟩)

/-- The message of one update subscription, for data that has changed. -/
def announce (services : Services σ) (now : CdsTime) (manager : HkManager) (delivery : Delivery)
    (data : OwnedData) (destination : QueueId) (state : σ) : Except PoolError Unit × σ :=
  match delivery, data with
  | .periodicPacket _, _ | .updatePacket _, .ofVariable _ _ => (.ok (), state)
  | .updatePacket sid, .ofSet _ set => manager.sendPacket services sid set true destination state
  | .notice _, .ofSet sid _ => manager.send services destination (.setChanged sid) state
  | .notice _, .ofVariable id _ =>
    manager.send services destination (.variableChanged ⟨manager.owner, id⟩) state
  | .snapshot _, .ofSet sid set =>
    manager.sendData services destination ((Snapshot.mk now (.ofSet set)).toBytes .machine)
      (Command.setSnapshot sid) state
  | .snapshot _, .ofVariable id accessor =>
    manager.sendData services destination
      ((Snapshot.mk now (.ofAccessor accessor)).toBytes .machine)
      (Command.variableSnapshot ⟨manager.owner, id⟩) state

/-- Serves an update subscription, if its data has changed; also a failure counts as served. -/
def serveUpdate (services : Services σ) (now : CdsTime) (delivery : Delivery)
    (destination : QueueId) (state : HkState σ) : Except PoolError Unit × HkState σ :=
  match state.owner.getData delivery.data with
  | .error e => (.error e, state)
  | .ok data =>
    if data.changed then
      let (result, after) :=
        announce services now state.manager delivery data destination state.services
      let (last, manager) := state.manager.countDown delivery.data
      let owner := if last then state.owner.clearChanged delivery.data else state.owner
      (result, ⟨manager, owner, after⟩)
    else (.ok (), state)

def serve (services : Services σ) (now : CdsTime) (receiver : Receiver) (state : HkState σ) :
    Except PoolError Unit × HkState σ :=
  match receiver.delivery with
  | .periodicPacket sid => state.servePeriodic services sid receiver.destination
  | delivery => state.serveUpdate services now delivery receiver.destination

/-- Serves all receivers, with what the clock shows when it comes to each of them. The result is the
error of the last one that failed. -/
def serveAll (services : Services σ) : (clock : Nat → CdsTime) → List Receiver →
    Except PoolError Unit → HkState σ → Except PoolError Unit × HkState σ
  | _, [], status, state => (status, state)
  | clock, receiver :: rest, status, state =>
    let later := fun index => clock (index + 1)
    match state.serve services (clock 0) receiver with
    | (.ok (), next) => serveAll services later rest status next
    | (.error e, next) => serveAll services later rest (.error e) next

def pass (services : Services σ) (clock : Nat → CdsTime) (state : HkState σ) :
    Except PoolError Unit × HkState σ :=
  let (status, served) := serveAll services clock state.manager.receivers (.ok ()) state
  (status, { served with manager := served.manager.restartCounts })

end HkState

end Housekeeper
