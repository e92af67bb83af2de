import Housekeeper.Pool.Bank

/-!
# Accessors

An accessor is bound to one entry of a pool and keeps a local copy of its elements, which is
either a single element or a vector. Reading refreshes the copy from the entry and resets it if
the entry is missing or of another shape; committing writes the copy back. An accessor bound to
`noParameter` touches no pool at all.
-/

namespace Housekeeper

inductive AccessMode where
  | read
  | write
  | readWrite
deriving DecidableEq

namespace AccessMode

def canRead (mode : AccessMode) : Bool := mode != write

def canWrite (mode : AccessMode) : Bool := mode != read

end AccessMode

/-- What an accessor keeps of an entry. -/
inductive LocalCopy (type : ElementType) where
  | scalar (value : Element type)
  | vector (values : List (Element type))
deriving DecidableEq

namespace LocalCopy

variable {type : ElementType}

def values : LocalCopy type → List (Element type)
  | scalar value => [value]
  | vector values => values

/-- The length that the entry must have. -/
def length : LocalCopy type → Nat
  | scalar _ => 1
  | vector values => values.length

/-- Takes over the elements of an entry of the right length. -/
def load : LocalCopy type → List (Element type) → LocalCopy type
  | scalar value, values => scalar (values.headD value)
  | vector _, values => vector values

def cleared : LocalCopy type → LocalCopy type
  | scalar _ => scalar 0
  | vector values => vector (List.replicate values.length 0)

/-- Bytes of the elements on the wire. -/
def wireSize : LocalCopy type → Nat
  | scalar _ => type.width
  | vector values => type.width * values.length

def serialize (copy : LocalCopy type) (writer : Writer) (order : ByteOrder) :
    Except PoolError Unit × Writer :=
  match copy with
  | scalar value => writer.write (value.encode order)
  | vector values =>
    if writer.remaining < copy.wireSize then (.error .bufferTooShort, writer)
    else writer.writeAll (values.map (Element.encode order))

def deserialize (copy : LocalCopy type) (reader : Reader) (order : ByteOrder) :
    Except PoolError Unit × LocalCopy type × Reader :=
  match copy with
  | scalar value =>
    match Element.read type order reader with
    | (.ok x, next) => (.ok (), scalar x, next)
    | (.error e, next) => (.error e, scalar value, next)
  | vector values =>
    if reader.remaining < copy.wireSize then (.error .streamTooShort, copy, reader)
    else
      let (result, xs, next) := Element.readEach order values reader
      (result, vector xs, next)

@[simp] theorem length_values (copy : LocalCopy type) : copy.values.length = copy.length := by
  cases copy <;> rfl

/-- Elements of the right length are taken over as they are. -/
theorem values_load {copy : LocalCopy type} {xs : List (Element type)}
    (h : xs.length = copy.length) : (copy.load xs).values = xs := by
  cases copy with
  | scalar value =>
    obtain ⟨x, rfl⟩ := List.length_eq_one_iff.mp h
    rfl
  | vector values => rfl

theorem length_load {copy : LocalCopy type} {xs : List (Element type)}
    (h : xs.length = copy.length) : (copy.load xs).length = copy.length := by
  rw [← length_values, values_load h, h]

end LocalCopy

/-- What tells accessors of different kinds apart. -/
structure AccessorShape where
  type : ElementType
  /-- The length of a vector. -/
  vectorLength : Option Nat
deriving DecidableEq

structure Accessor where
  pool : PoolHandle
  id : LocalPoolId
  mode : AccessMode
  type : ElementType
  copy : LocalCopy type
  valid : Bool
  changed : Bool
deriving DecidableEq

namespace Accessor

def scalar (pool : PoolHandle) (id : LocalPoolId) (mode : AccessMode) (type : ElementType) :
    Accessor :=
  ⟨pool, id, mode, type, .scalar 0, false, false⟩

def vector (pool : PoolHandle) (id : LocalPoolId) (mode : AccessMode) (type : ElementType)
    (length : Nat) : Accessor :=
  ⟨pool, id, mode, type, .vector (List.replicate length 0), false, false⟩

/-- An accessor for the pool that is registered for an owner. -/
def ofOwner (directory : PoolDirectory) (owner : ObjectId) (make : PoolHandle → Accessor) :
    Except PoolError Accessor :=
  (directory.get owner).map make

def gpid (accessor : Accessor) : Gpid := ⟨accessor.pool.owner, accessor.id⟩

/-- Is the accessor bound to no entry? -/
def isUnbound (accessor : Accessor) : Bool := accessor.id == noParameter

def shape (accessor : Accessor) : AccessorShape :=
  ⟨accessor.type, match accessor.copy with
    | .scalar _ => none
    | .vector values => some values.length⟩

def values (accessor : Accessor) : List (Element accessor.type) := accessor.copy.values

def withCopy (accessor : Accessor) (copy : LocalCopy accessor.type) : Accessor :=
  ⟨accessor.pool, accessor.id, accessor.mode, accessor.type, copy, accessor.valid,
    accessor.changed⟩

def withValidity (accessor : Accessor) (valid : Bool) : Accessor :=
  { accessor with valid }

def withChanged (accessor : Accessor) (changed : Bool) : Accessor :=
  { accessor with changed }

/-- Takes over as many elements of the same type as there are; others are left aside. -/
def withValues (accessor : Accessor) (type : ElementType) (values : List (Element type)) :
    Accessor :=
  if h : type = accessor.type ∧ values.length = accessor.copy.length then
    accessor.withCopy (accessor.copy.load (h.1 ▸ values))
  else accessor

/-! ## Pool access -/

/-- Refreshes the local copy from a pool that is locked already. -/
def readFrom (accessor : Accessor) (pool : LocalPool) : Except PoolError Unit × Accessor :=
  if accessor.isUnbound then (.ok (), accessor)
  else
    match pool.fetch accessor.id accessor.type accessor.copy.length with
    | .ok (values, valid) =>
      (.ok (), (accessor.withCopy (accessor.copy.load values)).withValidity valid)
    | .error e => (.error e, (accessor.withCopy accessor.copy.cleared).withValidity false)

/-- Writes the local copy to a pool that is locked already. -/
def commitTo (accessor : Accessor) (pool : LocalPool) : Except PoolError LocalPool :=
  if accessor.isUnbound then .ok pool
  else if accessor.mode.canWrite then
    pool.write accessor.id accessor.type accessor.values accessor.valid
  else .error .readOnlyVariable

def read (accessor : Accessor) (bank : PoolBank) : Except PoolError Unit × Accessor :=
  if accessor.isUnbound then (.ok (), accessor)
  else
    match bank.lock accessor.pool with
    | .ok pool => accessor.readFrom pool
    | .error e => (.error e, accessor)

def commit (accessor : Accessor) (bank : PoolBank) : Except PoolError Unit × PoolBank :=
  if accessor.isUnbound then (.ok (), bank)
  else
    match bank.lock accessor.pool with
    | .ok pool =>
      match accessor.commitTo pool with
      | .ok next => (.ok (), bank.put accessor.pool next)
      | .error e => (.error e, bank)
    | .error e => (.error e, bank)

/-! ## Wire format -/

def wireSize (accessor : Accessor) : Nat := accessor.copy.wireSize

/-- Only the elements go onto the wire. -/
def serialize (accessor : Accessor) (writer : Writer) (order : ByteOrder) :
    Except PoolError Unit × Writer :=
  accessor.copy.serialize writer order

def toBytes (accessor : Accessor) (order : ByteOrder) : Except PoolError Bytes :=
  Writer.collect accessor.wireSize fun writer => accessor.serialize writer order

def deserialize (accessor : Accessor) (reader : Reader) (order : ByteOrder) :
    Except PoolError Unit × Accessor × Reader :=
  let (result, copy, next) := accessor.copy.deserialize reader order
  (result, accessor.withCopy copy, next)

end Accessor

end Housekeeper
