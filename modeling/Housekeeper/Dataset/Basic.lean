import Housekeeper.Pool.Accessor
import Housekeeper.Report.Timer

/-!
# Data sets

A data set groups accessors that are read, committed and reported together. Accessors are
registered at the end, up to the capacity of the set, and stay at their index; a handle reaches
the accessor at its index if it is of the shape it was made for. The set of the pool's owner has a
collection timer and can be reported periodically; a consumer's view has none.
-/

namespace Housekeeper

inductive SetState where
  | idle
  | wasRead
deriving DecidableEq

structure Dataset where
  pool : PoolHandle
  sid : Sid
  capacity : Nat
  accessors : List Accessor
  state : SetState
  valid : Bool
  changed : Bool
  kind : ReportKind
  /-- Are periodic reports switched on? -/
  reporting : Bool
  /-- Does the wire format end with a validity mask? -/
  validityMask : Bool
  /-- Does every variable lock its own pool, instead of the set its pool once? -/
  lockEach : Bool
  timer : Option CollectionTimer
deriving DecidableEq

/-- The place of a registered accessor, and its shape. -/
structure VariableHandle where
  index : Nat
  shape : AccessorShape
deriving DecidableEq

namespace Dataset

/-- A view of the set `sid` from another component. -/
def consumer (pool : PoolHandle) (sid : Sid) (capacity : Nat) : Dataset where
  pool := pool
  sid := sid
  capacity := capacity
  accessors := []
  state := .idle
  valid := false
  changed := false
  kind := .regular
  reporting := false
  validityMask := true
  lockEach := false
  timer := none

/-- The owner's set of the given number. -/
def creator (pool : PoolHandle) (set : UInt32) (capacity : Nat) : Dataset :=
  { consumer pool ⟨pool.owner, set⟩ capacity with timer := some .new }

/-- A view of the set `sid`, whose owner's pool is looked up. -/
def ofSid (directory : PoolDirectory) (sid : Sid) (capacity : Nat) : Except PoolError Dataset :=
  (directory.get sid.object).map fun pool => consumer pool sid capacity

def fillCount (set : Dataset) : Nat := set.accessors.length

def localPoolIds (set : Dataset) : List LocalPoolId := set.accessors.map Accessor.id

/-! ## Registration -/

def isForeign (set : Dataset) (accessor : Accessor) : Bool := !accessor.pool.samePool set.pool

/-- Why an accessor cannot be registered, if so. -/
def rejection? (set : Dataset) (accessor : Accessor) : Option PoolError :=
  if set.state ≠ .idle then some .dataSetUninitialised
  else if !set.lockEach && set.isForeign accessor then some .foreignPoolVariable
  else if set.capacity ≤ set.accessors.length then some .dataSetFull
  else none

/-- The index of the accessor, and the set with it. -/
def register (set : Dataset) : Option Accessor → Except PoolError Nat × Dataset
  | none => (.error (if set.state = .idle then .poolVarNull else .dataSetUninitialised), set)
  | some accessor =>
    match set.rejection? accessor with
    | some e => (.error e, set)
    | none => (.ok set.accessors.length, { set with accessors := set.accessors ++ [accessor] })

/-! ## Handles -/

def get? (set : Dataset) (handle : VariableHandle) : Option Accessor :=
  set.accessors[handle.index]?.filter fun accessor => accessor.shape = handle.shape

def putVariable (set : Dataset) (index : Nat) (accessor : Accessor) : Dataset :=
  { set with accessors := set.accessors.set index accessor }

/-- Changes the accessor that a handle reaches. -/
def modify? (set : Dataset) (handle : VariableHandle) (change : Accessor → Accessor) :
    Option Dataset :=
  (set.get? handle).map fun accessor => set.putVariable handle.index (change accessor)

/-! ## Flags -/

def withValidity (set : Dataset) (valid : Bool) : Dataset := { set with valid }

/-- Also for every variable. -/
def withValidityOfAll (set : Dataset) (valid : Bool) : Dataset :=
  { set with valid, accessors := set.accessors.map fun v => v.withValidity valid }

def withChanged (set : Dataset) (changed : Bool) : Dataset := { set with changed }

def withKind (set : Dataset) (kind : ReportKind) : Dataset := { set with kind }

def withReporting (set : Dataset) (reporting : Bool) : Dataset := { set with reporting }

def withValidityMask (set : Dataset) (validityMask : Bool) : Dataset := { set with validityMask }

def withLockEach (set : Dataset) (lockEach : Bool) : Dataset := { set with lockEach }

def withTimer (set : Dataset) (timer : CollectionTimer) : Dataset :=
  { set with timer := some timer }

def stateText (set : Dataset) : String :=
  match set.state with
  | .idle => "Uninitialised"
  | .wasRead => "WasRead"

/-- One line for logs. -/
def describe (set : Dataset) : String :=
  "LocalPoolDataSet \x7b sid: Sid \x7b object_id: " ++ toString set.sid.object.toNat ++
    ", set_id: " ++ toString set.sid.set.toNat ++ " \x7d, fill_count: " ++
    toString set.fillCount ++ ", state: " ++ set.stateText ++ ", valid: " ++ toString set.valid ++
    ", changed: " ++ toString set.changed ++ ", diagnostics: " ++
    toString set.kind.isDiagnostics ++ ", reporting_enabled: " ++ toString set.reporting ++ " \x7d"

end Dataset

end Housekeeper
