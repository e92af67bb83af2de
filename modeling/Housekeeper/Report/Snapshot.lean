import Housekeeper.CdsTime
import Housekeeper.Dataset.Wire

/-!
# Snapshots

A snapshot is a time stamp followed by the elements of a data set or of a single variable, without
header and without validity mask. The stamp is big endian, whatever the order of the rest.
-/

namespace Housekeeper

inductive SnapshotContent where
  | ofSet (set : Dataset)
  | ofAccessor (accessor : Accessor)

structure Snapshot where
  time : CdsTime
  content : SnapshotContent

namespace SnapshotContent

def wireSize : SnapshotContent → Nat
  | ofSet set => set.variablesSize
  | ofAccessor accessor => accessor.wireSize

def serialize (content : SnapshotContent) (writer : Writer) (order : ByteOrder) :
    Except PoolError Unit × Writer :=
  match content with
  | ofSet set => set.serializeVariables writer order
  | ofAccessor accessor => accessor.serialize writer order

def deserialize (content : SnapshotContent) (reader : Reader) (order : ByteOrder) :
    Except PoolError Unit × SnapshotContent × Reader :=
  match content with
  | ofSet set =>
    let (result, set, next) := set.deserializeVariables reader order
    (result, ofSet set, next)
  | ofAccessor accessor =>
    let (result, accessor, next) := accessor.deserialize reader order
    (result, ofAccessor accessor, next)

end SnapshotContent

namespace Snapshot

def wireSize (snapshot : Snapshot) : Nat := CdsTime.wireSize + snapshot.content.wireSize

def serialize (snapshot : Snapshot) (writer : Writer) (order : ByteOrder) :
    Except PoolError Unit × Writer :=
  if writer.remaining < snapshot.wireSize then (.error .bufferTooShort, writer)
  else
    match writer.write snapshot.time.toBytes with
    | (.ok (), next) => snapshot.content.serialize next order
    | (.error e, next) => (.error e, next)

def toBytes (snapshot : Snapshot) (order : ByteOrder) : Except PoolError Bytes :=
  Writer.collect snapshot.wireSize fun writer => snapshot.serialize writer order

/-- The stamp that was read stays, even if elements are missing. -/
def deserialize (snapshot : Snapshot) (reader : Reader) (order : ByteOrder) :
    Except PoolError Unit × Snapshot × Reader :=
  match reader.read CdsTime.wireSize with
  | (.error e, next) => (.error e, snapshot, next)
  | (.ok stamp, next) =>
    match CdsTime.ofBytes stamp with
    | .error e => (.error e, snapshot, next)
    | .ok time =>
      let (result, content, last) := snapshot.content.deserialize next order
      (result, ⟨time, content⟩, last)

end Snapshot

end Housekeeper
