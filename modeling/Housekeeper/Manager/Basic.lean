import Housekeeper.Config
import Housekeeper.Manager.Owner

/-!
# Housekeeping managers

A manager belongs to the owner of a pool. It holds the subscriptions in the order in which they
were made, and for every set or variable with update subscriptions how many there are and how many
of them have yet to see a change in the current pass.
-/

namespace Housekeeper

/-- What a receiver gets. -/
inductive Delivery where
  /-- Full packets at the collection interval of the set. -/
  | periodicPacket (sid : Sid)
  /-- A full packet whenever the set changed. -/
  | updatePacket (sid : Sid)
  /-- A message whenever the data changed. -/
  | notice (data : DataId)
  /-- A message with a copy of the data whenever it changed. -/
  | snapshot (data : DataId)
deriving DecidableEq

namespace Delivery

def data : Delivery → DataId
  | periodicPacket sid | updatePacket sid => .ofSet sid
  | notice data | snapshot data => data

/-- Is it triggered by a change? -/
def isUpdate : Delivery → Bool
  | periodicPacket _ => false
  | updatePacket _ | notice _ | snapshot _ => true

end Delivery

structure Receiver where
  object : ObjectId
  delivery : Delivery
  destination : QueueId
deriving DecidableEq

/-- The update subscriptions of one set or variable. -/
structure UpdateCount where
  data : DataId
  total : UInt8
  /-- Those that have not seen the change in this pass. -/
  waiting : UInt8
deriving DecidableEq

structure HkManager where
  owner : ObjectId
  pool : PoolHandle
  config : ManagerConfig
  /-- The manager's own queue. -/
  queue : QueueId
  /-- Where reports go that no destination is given for. -/
  destination : QueueId
  receivers : List Receiver
  counts : List UpdateCount
  /-- Was the pool filled? -/
  started : Bool
  /-- How much slower regular reports are than diagnostics. -/
  regularFactor : UInt8

namespace HkManager

/-- A manager with a new pool in the bank. -/
def create (bank : PoolBank) (owner : ObjectId) (queue : QueueId) (queueDefault : Option QueueId)
    (config : ManagerConfig) : HkManager × PoolBank :=
  let (pool, bank) := bank.add owner (.waiting config.lockMillis)
  ({ owner, pool, config, queue
     destination := (config.destination.or queueDefault).getD noQueue
     receivers := []
     counts := []
     started := false
     regularFactor := max config.regularFactor 1 }, bank)

def withDestination (manager : HkManager) (destination : QueueId) : HkManager :=
  { manager with destination }

/-- The given queue, or the manager's destination instead of none. -/
def orDestination (manager : HkManager) (queue : QueueId) : QueueId :=
  if queue = noQueue then manager.destination else queue

def resolve (manager : HkManager) (queue : QueueId) : Except PoolError QueueId :=
  if manager.orDestination queue = noQueue then .error .queueOrDestinationInvalid
  else .ok (manager.orDestination queue)

def count? (manager : HkManager) (data : DataId) : Option UpdateCount :=
  manager.counts.find? fun count => count.data == data

/-- The text of one pool entry. -/
def describeEntry (manager : HkManager) (bank : PoolBank) (id : LocalPoolId) :
    Except PoolError String :=
  match bank.lock manager.pool with
  | .error e => .error e
  | .ok pool =>
    match pool.entry? id with
    | some entry => .ok entry.text
    | none => .error .poolEntryNotFound

/-- One line for logs. -/
def describe (manager : HkManager) : String :=
  "LocalDataPoolManager \x7b owner_id: " ++ toString manager.owner.toNat ++
    ", hk_destination: " ++ toString manager.destination.toNat ++ ", receivers: " ++
    toString manager.receivers.length ++ ", map_initialized: " ++ toString manager.started ++
    " \x7d"

end HkManager

end Housekeeper
