import Housekeeper.Pool.LocalPool

/-!
# Shared pools

All pools of a process sit in one bank, each behind its own mutex; a handle names one of them.
An attempt to lock a pool that somebody else holds fails, because nobody lets go of it while the
caller waits. The directory finds the pool of an owner.
-/

namespace Housekeeper

/-- How long a caller is willing to wait for a mutex. -/
inductive Patience where
  | blocking
  | polling
  | waiting (millis : UInt32)
deriving DecidableEq

namespace Patience

def standard : Patience := waiting 20

end Patience

structure PoolHandle where
  index : Nat
  owner : ObjectId
  /-- The patience of data sets of this pool, where no other is given. -/
  patience : Patience
deriving DecidableEq

namespace PoolHandle

def samePool (a b : PoolHandle) : Bool := a.index == b.index

end PoolHandle

structure PoolCell where
  pool : LocalPool
  /-- Does somebody else hold the mutex? -/
  held : Bool

structure PoolBank where
  cells : Array PoolCell

namespace PoolBank

def empty : PoolBank := ⟨#[]⟩

/-- Adds an empty pool. -/
def add (bank : PoolBank) (owner : ObjectId) (patience : Patience) : PoolHandle × PoolBank :=
  (⟨bank.cells.size, owner, patience⟩, ⟨bank.cells.push ⟨.empty, false⟩⟩)

/-- The content of a pool, whoever holds it. -/
def pool? (bank : PoolBank) (handle : PoolHandle) : Option LocalPool :=
  bank.cells[handle.index]?.map PoolCell.pool

/-- The content of a pool that could be locked. -/
def lock (bank : PoolBank) (handle : PoolHandle) : Except PoolError LocalPool :=
  match bank.cells[handle.index]? with
  | some ⟨pool, false⟩ => .ok pool
  | _ => .error .lockTimeout

def modify (bank : PoolBank) (handle : PoolHandle) (change : LocalPool → LocalPool) : PoolBank :=
  ⟨bank.cells.modify handle.index fun cell => ⟨change cell.pool, cell.held⟩⟩

def put (bank : PoolBank) (handle : PoolHandle) (pool : LocalPool) : PoolBank :=
  bank.modify handle fun _ => pool

/-- Somebody else takes the mutex, or lets go of it. -/
def setHeld (bank : PoolBank) (handle : PoolHandle) (held : Bool) : PoolBank :=
  ⟨bank.cells.modify handle.index fun cell => ⟨cell.pool, held⟩⟩

theorem pool?_modify (bank : PoolBank) (handle other : PoolHandle)
    (change : LocalPool → LocalPool) :
    (bank.modify handle change).pool? other =
      if other.index = handle.index then (bank.pool? other).map change else bank.pool? other := by
  by_cases h : handle.index = other.index <;>
    simp [pool?, modify, Array.getElem?_modify, h, eq_comm, Function.comp_def]

theorem lock_eq_ok {bank : PoolBank} {handle : PoolHandle} {pool : LocalPool}
    (h : bank.lock handle = .ok pool) : bank.pool? handle = some pool := by
  unfold lock at h
  split at h
  next cell => cases h; simp [pool?, cell]
  next => cases h

end PoolBank

structure PoolDirectory where
  pools : IdTable PoolHandle

namespace PoolDirectory

def empty : PoolDirectory := ⟨.empty⟩

/-- A pool registered before for the same owner is forgotten. -/
def register (directory : PoolDirectory) (handle : PoolHandle) : PoolDirectory :=
  ⟨directory.pools.put handle.owner handle⟩

def get (directory : PoolDirectory) (owner : ObjectId) : Except PoolError PoolHandle :=
  match directory.pools.get? owner with
  | some handle => .ok handle
  | none => .error .objectNotFound

end PoolDirectory

end Housekeeper
