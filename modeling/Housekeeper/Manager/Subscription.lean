import Housekeeper.Manager.Basic

/-!
# Subscriptions

A subscription adds one receiver at the end of the manager's list. There is a first check that
lists have room; only then the set is prepared and the receiver added. Setting up the pool lets the
owner fill it and subscribe; it happens once.
-/

namespace Housekeeper

/-- A subscription to full packets of a set. -/
structure PacketSubscription where
  sid : Sid
  /-- Are periodic reports switched on from the start? Update packets always are. -/
  enabled : Bool
  /-- Collection interval of periodic packets. -/
  seconds : Binary32
  kind : ReportKind
  /-- The manager's destination instead of none. -/
  receiver : QueueId

inductive Subscription where
  | periodicPacket (request : PacketSubscription)
  | updatePacket (request : PacketSubscription)
  | setUpdates (set : UInt32) (object : ObjectId) (queue : QueueId) (snapshots : Bool)
  | variableUpdates (id : LocalPoolId) (object : ObjectId) (queue : QueueId) (snapshots : Bool)

namespace HkManager

/-- Is there room for a receiver, and if it is counted, for its count? -/
def hasRoom (manager : HkManager) (delivery : Delivery) : Bool :=
  manager.receivers.length < maxReceivers &&
    (!delivery.isUpdate || (manager.count? delivery.data).isSome ||
      manager.counts.length < maxUpdateCounts)

def saturatingSucc (value : UInt8) : UInt8 := if value = 255 then 255 else value + 1

def withReceiver (manager : HkManager) (receiver : Receiver) : HkManager :=
  { manager with receivers := manager.receivers ++ [receiver] }

/-- Adds a receiver at the end of the list, unless the list is full. -/
def pushReceiver (manager : HkManager) (receiver : Receiver) : Except PoolError Unit × HkManager :=
  if manager.receivers.length < maxReceivers then (.ok (), manager.withReceiver receiver)
  else (.error .receiverListFull, manager)

/-- One more update subscription of the data. A new count is dropped if the list is full. -/
def countUpdate (manager : HkManager) (data : DataId) : HkManager :=
  let counts :=
    match manager.count? data with
    | some _ =>
      updateFirst (fun count => count.data == data)
        (fun count => ⟨data, saturatingSucc count.total, saturatingSucc count.waiting⟩)
        manager.counts
    | none =>
      if manager.counts.length < maxUpdateCounts then manager.counts ++ [⟨data, 1, 1⟩]
      else manager.counts
  { manager with counts }

def addReceiver (manager : HkManager) (object : ObjectId) (delivery : Delivery)
    (destination : QueueId) : Except PoolError Unit × HkManager :=
  match manager.pushReceiver ⟨object, delivery, destination⟩ with
  | (.error e, manager) => (.error e, manager)
  | (.ok (), manager) =>
    (.ok (), if delivery.isUpdate then manager.countUpdate delivery.data else manager)

/-- The set is prepared before the receiver is added. -/
def subscribePeriodic (manager : HkManager) (owner : Owner) (request : PacketSubscription) :
    Except PoolError Unit × HkManager × Owner :=
  if manager.hasRoom (.periodicPacket request.sid) then
    match owner.getSet request.sid with
    | .error e => (.error e, manager, owner)
    | .ok set =>
      match set.timer with
      | none => (.error .periodicHelperInvalid, manager, owner)
      | some _ =>
        let timer :=
          CollectionTimer.start request.seconds owner.period request.kind manager.regularFactor
        let prepare (set : Dataset) : Dataset :=
          { set with
            timer := some timer
            reporting := request.enabled
            kind := request.kind
            validityMask := manager.config.validityMask }
        let owner := owner.modifySet request.sid prepare
        let (result, manager) := manager.addReceiver noObject (.periodicPacket request.sid)
          (manager.orDestination request.receiver)
        (result, manager, owner)
  else (.error .receiverListFull, manager, owner)

def subscribeUpdate (manager : HkManager) (owner : Owner) (request : PacketSubscription) :
    Except PoolError Unit × HkManager × Owner :=
  if manager.hasRoom (.updatePacket request.sid) then
    match owner.getSet request.sid with
    | .error e => (.error e, manager, owner)
    | .ok _ =>
      let prepare (set : Dataset) : Dataset :=
        { set with
          reporting := true
          kind := request.kind
          validityMask := manager.config.validityMask }
      let owner := owner.modifySet request.sid prepare
      let (result, manager) := manager.addReceiver noObject (.updatePacket request.sid)
        (manager.orDestination request.receiver)
      (result, manager, owner)
  else (.error .receiverListFull, manager, owner)

/-- Notices or snapshots of a set or variable that the owner exposes. -/
def subscribeData (manager : HkManager) (owner : Owner) (data : DataId) (object : ObjectId)
    (queue : QueueId) (snapshots : Bool) : Except PoolError Unit × HkManager × Owner :=
  let delivery := if snapshots then Delivery.snapshot data else Delivery.notice data
  if manager.hasRoom delivery then
    match owner.getData data with
    | .error e => (.error e, manager, owner)
    | .ok _ =>
      let (result, manager) := manager.addReceiver object delivery queue
      (result, manager, owner)
  else (.error .receiverListFull, manager, owner)

def subscribe (manager : HkManager) (owner : Owner) :
    Subscription → Except PoolError Unit × HkManager × Owner
  | .periodicPacket request => manager.subscribePeriodic owner request
  | .updatePacket request => manager.subscribeUpdate owner request
  | .setUpdates set object queue snapshots =>
    manager.subscribeData owner (.ofSet ⟨manager.owner, set⟩) object queue snapshots
  | .variableUpdates id object queue snapshots =>
    manager.subscribeData owner (.ofVariable id) object queue snapshots

/-- One subscription after the other, up to the first that is refused. -/
def subscribeAll (manager : HkManager) (owner : Owner) :
    List Subscription → Except PoolError Unit × HkManager × Owner
  | [] => (.ok (), manager, owner)
  | subscription :: rest =>
    match manager.subscribe owner subscription with
    | (.ok (), manager, owner) => manager.subscribeAll owner rest
    | (.error e, manager, owner) => (.error e, manager, owner)

/-- Forgets all subscriptions. -/
def clearReceivers (manager : HkManager) : HkManager :=
  { manager with receivers := [], counts := [] }

end HkManager

/-! ## Setting up the pool -/

/-- What an owner does when its pool is set up. -/
structure PoolSetup where
  entries : List (LocalPoolId × PoolEntry)
  subscriptions : List Subscription
  /-- Does the owner fail in the end? -/
  refusal : Option PoolError

namespace HkManager

def start (manager : HkManager) (owner : Owner) (bank : PoolBank) (setup : PoolSetup) :
    Except PoolError Unit × HkManager × Owner × PoolBank :=
  if manager.started then (.ok (), manager, owner, bank)
  else
    match manager.subscribeAll owner setup.subscriptions with
    | (.error e, manager, owner) => (.error e, manager, owner, bank)
    | (.ok (), manager, owner) =>
      match setup.refusal with
      | some e => (.error e, manager, owner, bank)
      | none =>
        match (bank.lock manager.pool).bind fun pool => pool.insertOnce setup.entries with
        | .error e => (.error e, manager, owner, bank)
        | .ok pool => (.ok (), { manager with started := true }, owner, bank.put manager.pool pool)

end HkManager

end Housekeeper
