import Housekeeper.Error
import Housekeeper.Wire.ByteOrder

/-!
# Bounded readers

A reader walks over a byte string. Asking for more bytes than are left fails with
`PoolError.streamTooShort` and leaves the position where it was.
-/

namespace Housekeeper

/-- The bytes that are left, and how many have been taken. -/
structure Reader where
  position : Nat
  rest : Bytes
deriving DecidableEq

namespace Reader

def ofBytes (bytes : Bytes) : Reader := ⟨0, bytes⟩

def remaining (reader : Reader) : Nat := reader.rest.length

def read (reader : Reader) (count : Nat) : Except PoolError Bytes × Reader :=
  if count ≤ reader.rest.length then
    (.ok (reader.rest.take count), ⟨reader.position + count, reader.rest.drop count⟩)
  else
    (.error .streamTooShort, reader)

/-- One number of `width` bytes. -/
def readNat (reader : Reader) (order : ByteOrder) (width : Nat) : Except PoolError Nat × Reader :=
  match reader.read width with
  | (.ok bytes, next) => (.ok (order.decode bytes), next)
  | (.error e, next) => (.error e, next)

def readByte (reader : Reader) : Except PoolError UInt8 × Reader :=
  match reader.readNat .big 1 with
  | (.ok value, next) => (.ok (UInt8.ofNat value), next)
  | (.error e, next) => (.error e, next)

/-- One byte, which stands for false exactly if it is zero. -/
def readFlag (reader : Reader) : Except PoolError Bool × Reader :=
  match reader.readByte with
  | (.ok byte, next) => (.ok (byte != 0), next)
  | (.error e, next) => (.error e, next)

def readWord (reader : Reader) (order : ByteOrder) : Except PoolError UInt32 × Reader :=
  match reader.readNat order 4 with
  | (.ok value, next) => (.ok (UInt32.ofNat value), next)
  | (.error e, next) => (.error e, next)

theorem read_of_le {reader : Reader} {count : Nat} (h : count ≤ reader.remaining) :
    reader.read count =
      (.ok (reader.rest.take count), ⟨reader.position + count, reader.rest.drop count⟩) := by
  simp only [remaining] at h
  simp [read, h]

theorem read_of_lt {reader : Reader} {count : Nat} (h : reader.remaining < count) :
    reader.read count = (.error .streamTooShort, reader) := by
  have short : ¬ count ≤ reader.rest.length := by simpa [remaining] using h
  simp [read, short]

end Reader

end Housekeeper
