import Housekeeper.Dataset.Basic

/-!
# Reading and committing data sets

A read refreshes every readable variable of the set, and a commit writes back what the set has
checked out. Usually the pool of the set is locked once for all of its variables, and those of
other pools are left out; with `lockEach` every variable locks its own pool. A failing variable
never stops the others. A set that is given up while it is checked out commits its writable
variables as invalid.
-/

namespace Housekeeper.Dataset

/-- Sentinels and write-only variables are not read. -/
def isRead (accessor : Accessor) : Bool := accessor.mode.canRead && !accessor.isUnbound

/-- The outcome of reading one variable, and the variable afterwards. -/
def readVariable (set : Dataset) (bank : PoolBank) (accessor : Accessor) :
    Except PoolError Unit × Accessor :=
  if set.lockEach then accessor.read bank
  else if set.isForeign accessor then (.error .invalidParameterDefinition, accessor)
  else
    match bank.pool? set.pool with
    | some pool => accessor.readFrom pool
    | none => (.error .invalidParameterDefinition, accessor)

def readAll (set : Dataset) (bank : PoolBank) : List (Except PoolError Unit × Accessor) :=
  set.accessors.map fun accessor =>
    if isRead accessor then set.readVariable bank accessor else (.ok (), accessor)

/-- Can the set get at its pools? Without a lock of its own it always can. -/
def lockOnce (set : Dataset) (bank : PoolBank) : Except PoolError Unit :=
  if set.lockEach then .ok () else (bank.lock set.pool).map fun _ => ()

def failed (outcome : Except PoolError Unit) : Bool :=
  match outcome with
  | .ok () => false
  | .error _ => true

def read (set : Dataset) (bank : PoolBank) : Except PoolError Unit × Dataset :=
  match set.state with
  | .wasRead => (.error .setWasAlreadyRead, set)
  | .idle =>
    match set.lockOnce bank with
    | .error e => (.error e, set)
    | .ok () =>
      let outcomes := set.readAll bank
      (if outcomes.any fun outcome => failed outcome.1 then .error .invalidParameterDefinition
        else .ok (),
       { set with state := .wasRead, accessors := outcomes.map Prod.snd })

/-- Does a commit of the set write this accessor? -/
def isCommitted (set : Dataset) (accessor : Accessor) : Bool :=
  !accessor.isUnbound &&
    match set.state with
    | .wasRead => accessor.mode.canWrite
    | .idle => accessor.mode == .write

def commitVariable (set : Dataset) (bank : PoolBank) (accessor : Accessor) : PoolBank :=
  if set.lockEach then (accessor.commit bank).2
  else if set.isForeign accessor then bank
  else bank.modify set.pool fun pool =>
    match accessor.commitTo pool with
    | .ok next => next
    | .error _ => pool

/-- Only variables that are never read can be committed without a read before. -/
def commitResult (set : Dataset) : Except PoolError Unit :=
  match set.state with
  | .wasRead => .ok ()
  | .idle =>
    if set.accessors.all fun v => v.isUnbound || v.mode == .write then .ok ()
    else .error .commitWithoutRead

def commit (set : Dataset) (bank : PoolBank) : Except PoolError Unit × Dataset × PoolBank :=
  match set.lockOnce bank with
  | .error e => (.error e, set, bank)
  | .ok () =>
    (set.commitResult, { set with state := .idle },
      (set.accessors.filter set.isCommitted).foldl set.commitVariable bank)

/-- The pools after the set was given up. -/
def drop (set : Dataset) (bank : PoolBank) : PoolBank :=
  match set.state with
  | .idle => bank
  | .wasRead =>
    (set.accessors.filter fun v => v.mode.canWrite).foldl
      (fun bank v => ((v.withValidity false).commit bank).2) bank

end Housekeeper.Dataset
