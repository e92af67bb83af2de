import Housekeeper.IdTable
import Housekeeper.Pool.Entry

/-!
# Local pools

The value store of one owner. It is filled once; from then on its ids, and the type and length of
every entry, stay as they are. Access to an entry states the expected type and length and fails
if the entry has others.
-/

namespace Housekeeper

structure LocalPool where
  entries : IdTable PoolEntry
  filled : Bool

namespace LocalPool

def empty : LocalPool := ⟨.empty, false⟩

/-- Of several entries with one id the last one stays. -/
def insertOnce (pool : LocalPool) (entries : List (LocalPoolId × PoolEntry)) :
    Except PoolError LocalPool :=
  if pool.filled then .error .poolMapAlreadyInitialized
  else .ok ⟨pool.entries.putAll entries, true⟩

def entry? (pool : LocalPool) (id : LocalPoolId) : Option PoolEntry := pool.entries.get? id

/-- The elements and the validity of an entry of the given type and length. -/
def fetch (pool : LocalPool) (id : LocalPoolId) (type : ElementType) (length : Nat) :
    Except PoolError (List (Element type) × Bool) :=
  match pool.entry? id with
  | none => .error .poolEntryNotFound
  | some entry =>
    match entry.values? type with
    | none => .error .poolEntryTypeConflict
    | some values =>
      if values.length = length then .ok (values, entry.valid) else .error .poolEntryTypeConflict

/-- Overwrites an entry of the given type and as many elements. -/
def write (pool : LocalPool) (id : LocalPoolId) (type : ElementType) (values : List (Element type))
    (valid : Bool) : Except PoolError LocalPool :=
  match pool.fetch id type values.length with
  | .ok _ => .ok ⟨pool.entries.put id ⟨type, values, valid⟩, pool.filled⟩
  | .error e => .error e

theorem fetch_eq_ok_iff {pool : LocalPool} {id : LocalPoolId} {type : ElementType} {length : Nat}
    {values : List (Element type)} {valid : Bool} :
    pool.fetch id type length = .ok (values, valid) ↔
      pool.entry? id = some ⟨type, values, valid⟩ ∧ values.length = length := by
  unfold fetch
  rcases h : pool.entry? id with _ | entry
  · simp
  · obtain ⟨own, xs, flag⟩ := entry
    by_cases same : own = type
    · subst same
      by_cases long : xs.length = length <;> simp [PoolEntry.values?, long] <;> grind
    · simp [PoolEntry.values?, same]

theorem entry?_of_write {pool next : LocalPool} {id : LocalPoolId} {type : ElementType}
    {values : List (Element type)} {valid : Bool} (h : pool.write id type values valid = .ok next)
    (other : LocalPoolId) :
    next.entry? other = if other = id then some ⟨type, values, valid⟩ else pool.entry? other := by
  unfold write at h
  split at h
  · cases h
    exact IdTable.get?_put ..
  · cases h

end LocalPool

end Housekeeper
