import Housekeeper.Error
import Housekeeper.Identifier

/-!
# Log of resource errors

Failed sends and full stores are not errors of any one caller, so they are counted and the latest
of them are kept. Records are numbered from one upwards.
-/

namespace Housekeeper

inductive ResourceError where
  | lostTelemetry
  | queueHit
  | storeHit
deriving DecidableEq

structure ErrorRecord where
  number : UInt32
  kind : ResourceError
  source : ObjectId
  code : UInt16
deriving DecidableEq

structure ErrorCounters where
  lostTelemetry : UInt32 := 0
  queueHits : UInt32 := 0
  storeHits : UInt32 := 0
deriving DecidableEq

namespace ErrorCounters

def count (counters : ErrorCounters) : ResourceError → ErrorCounters
  | .lostTelemetry => { counters with lostTelemetry := counters.lostTelemetry + 1 }
  | .queueHit => { counters with queueHits := counters.queueHits + 1 }
  | .storeHit => { counters with storeHits := counters.storeHits + 1 }

end ErrorCounters

structure ErrorLog where
  counters : ErrorCounters
  /-- The latest records, the oldest first. -/
  history : List ErrorRecord
  next : UInt32

namespace ErrorLog

/-- How many records are kept. -/
def capacity : Nat := 64

def empty : ErrorLog := ⟨{}, [], 1⟩

/-- The number of the record, and the log with it; the oldest record makes room. -/
def record (log : ErrorLog) (kind : ResourceError) (source : ObjectId) (error : PoolError) :
    UInt32 × ErrorLog :=
  let kept := if capacity ≤ log.history.length then log.history.tail else log.history
  (log.next,
    ⟨log.counters.count kind, kept ++ [⟨log.next, kind, source, error.code⟩], log.next + 1⟩)

/-- Reads the counters and sets them to zero. -/
def takeCounters (log : ErrorLog) : ErrorCounters × ErrorLog :=
  (log.counters, ⟨{}, log.history, log.next⟩)

end ErrorLog

end Housekeeper
