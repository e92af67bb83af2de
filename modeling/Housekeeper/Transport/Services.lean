import Housekeeper.Transport.ErrorLog
import Housekeeper.Transport.Queue
import Housekeeper.Transport.Store

/-!
# Services of a manager

What a housekeeping manager needs from its surroundings: a place for packet data, a way to send
messages, and a log of resource errors. `Services σ` names the operations over any state `σ` of
the surroundings, and `Facilities.services` provides them by a packet store, a queue hub and an
error log. Who also takes messages out of queues and looks at the data that came with them has a
`Station σ`.
-/

namespace Housekeeper

structure Services (σ : Type) where
  add : Bytes → σ → Except PoolError StoreId × σ
  delete : StoreId → σ → Except PoolError Unit × σ
  send : (source destination : QueueId) → Command → σ → Except PoolError Unit × σ
  record : ResourceError → ObjectId → PoolError → σ → σ

namespace Services

variable {σ : Type}

/-- The same services without a log. -/
def unlogged (services : Services σ) : Services σ :=
  { services with record := fun _ _ _ state => state }

/-- Releases the store data that a message refers to, if any. -/
def release (services : Services σ) (message : CommandMessage) (state : σ) :
    Except PoolError Unit × σ :=
  match message.command.store? with
  | some store => services.delete store state
  | none => (.ok (), state)

end Services

structure Facilities where
  store : PacketStore
  hub : QueueHub
  log : ErrorLog

namespace Facilities

def ofConfig (config : StoreConfig) : Facilities := ⟨.ofConfig config, .empty, .empty⟩

def services : Services Facilities where
  add data state :=
    let (result, store) := state.store.add data
    (result, { state with store })
  delete id state :=
    let (result, store) := state.store.delete id
    (result, { state with store })
  send source destination command state :=
    let (result, hub) := state.hub.send source destination command
    (result, { state with hub })
  record kind source error state := { state with log := (state.log.record kind source error).2 }

end Facilities

/-- Services of those who receive messages, too. -/
structure Station (σ : Type) extends Services σ where
  facilities : σ → Facilities
  receive : QueueId → σ → Option CommandMessage × σ

def Facilities.station : Station Facilities where
  toServices := services
  facilities := id
  receive own state :=
    let (message, hub) := state.hub.receive own
    (message, { state with hub })

end Housekeeper
