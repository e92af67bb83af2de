import Housekeeper.Manager.Basic
import Housekeeper.Report.Snapshot
import Housekeeper.Report.Structure
import Housekeeper.Transport.Services

/-!
# Sending reports

Packet data goes into the store and a message that refers to it to the destination. If the message
cannot be sent, the data is released again. Every failure of store or queue is recorded under the
owner of the manager.
-/

namespace Housekeeper.HkManager

variable {σ : Type}

def record (manager : HkManager) (services : Services σ) (kind : ResourceError)
    (error : PoolError) (state : σ) : σ :=
  services.record kind manager.owner error state

/-- Sends a message that refers to nothing in the store. -/
def send (manager : HkManager) (services : Services σ) (destination : QueueId) (command : Command)
    (state : σ) : Except PoolError Unit × σ :=
  match services.send manager.queue destination command state with
  | (.ok (), state) => (.ok (), state)
  | (.error e, state) => (.error e, manager.record services .queueHit e state)

/-- Sends a message that refers to an element of the store. -/
def sendStored (manager : HkManager) (services : Services σ) (destination : QueueId)
    (command : Command) (store : StoreId) (state : σ) : Except PoolError Unit × σ :=
  match manager.send services destination command state with
  | (.ok (), state) => (.ok (), state)
  | (.error e, state) =>
    (.error e, manager.record services .lostTelemetry e (services.delete store state).2)

/-- Stores packet data and sends the message about it. -/
def sendData (manager : HkManager) (services : Services σ) (destination : QueueId)
    (data : Except PoolError Bytes) (command : StoreId → Command) (state : σ) :
    Except PoolError Unit × σ :=
  match data with
  | .error e => (.error e, state)
  | .ok bytes =>
    match services.add bytes state with
    | (.error e, state) => (.error e, manager.record services .storeHit e state)
    | (.ok store, state) => manager.sendStored services destination (command store) store state

/-- Packets that go to ground are big endian, others in the order of the machine. -/
def packetOrder (forDownlink : Bool) : ByteOrder := if forDownlink then .big else .machine

/-- Sends a full packet with the local copies of the set as they are. -/
def sendPacket (manager : HkManager) (services : Services σ) (sid : Sid) (set : Dataset)
    (forDownlink : Bool) (destination : QueueId) (state : σ) : Except PoolError Unit × σ :=
  match manager.resolve destination with
  | .error e => (.error e, state)
  | .ok destination =>
    manager.sendData services destination ((HkPacket.mk sid set).toBytes (packetOrder forDownlink))
      (Command.report set.kind sid) state

/-- Sends the structure report of a set that is reported as the given kind. -/
def sendStructure (manager : HkManager) (services : Services σ) (owner : Owner) (sid : Sid)
    (kind : ReportKind) (destination : QueueId) (state : σ) : Except PoolError Unit × σ :=
  match owner.getSetOfKind sid kind with
  | .error e => (.error e, state)
  | .ok set =>
    let seconds : Binary32 :=
      match set.timer with
      | some timer => timer.seconds
      | none => 0
    match manager.resolve destination with
    | .error e => (.error e, state)
    | .ok destination =>
      manager.sendData services destination ((StructureReport.ofSet set seconds).toBytes .big)
        (Command.structureReport kind sid) state

/-- Sends one full packet of a set that is reported as the given kind. -/
def sendOnce (manager : HkManager) (services : Services σ) (owner : Owner) (sid : Sid)
    (kind : ReportKind) (destination : QueueId) (state : σ) : Except PoolError Unit × σ :=
  match owner.getSetOfKind sid kind with
  | .error e => (.error e, state)
  | .ok set => manager.sendPacket services sid set true destination state

end Housekeeper.HkManager
