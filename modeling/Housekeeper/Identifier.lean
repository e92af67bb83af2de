import Housekeeper.Wire.Hex

/-!
# Identifiers

Objects, pool parameters and message queues are numbered with 32 bits. A `Sid` names one data set
of an object, a `Gpid` one pool parameter of an object, and a `StoreId` one element of the packet
store. Each of the three packs into one raw word, and `ofRaw_raw` says that nothing is lost.
-/

namespace Housekeeper

abbrev ObjectId := UInt32

abbrev LocalPoolId := UInt32

abbrev QueueId := UInt32

def noObject : ObjectId := 0xFFFFFFFF

/-- The pool id of an accessor that is bound to no entry. -/
def noParameter : LocalPoolId := 0

/-- The queue id that no queue has. -/
def noQueue : QueueId := 0

/-- Eight hexadecimal digits. -/
def hexWord (value : UInt32) : String := (ByteOrder.big.encode 4 value.toNat).hexText

/-- Both halves of a raw word. -/
def packWords (high low : UInt32) : UInt64 :=
  UInt64.ofNat (high.toNat * UInt32.size + low.toNat)

theorem packWords_toNat (high low : UInt32) :
    (packWords high low).toNat = high.toNat * UInt32.size + low.toNat := by
  have h := high.toNat_lt
  have l := low.toNat_lt
  simp only [packWords, UInt64.toNat_ofNat', UInt32.size]
  omega

theorem packWords_high (high low : UInt32) :
    UInt32.ofNat ((packWords high low).toNat / UInt32.size) = high := by
  have l := low.toNat_lt
  rw [packWords_toNat, Nat.add_comm, Nat.add_mul_div_right _ _ (by decide),
    Nat.div_eq_of_lt l, Nat.zero_add, UInt32.ofNat_toNat]

theorem packWords_low (high low : UInt32) :
    UInt32.ofNat (packWords high low).toNat = low := by
  have l := low.toNat_lt
  apply UInt32.toNat_inj.mp
  rw [packWords_toNat, UInt32.toNat_ofNat', UInt32.size]
  omega

/-- A data set of an object. -/
structure Sid where
  object : ObjectId
  set : UInt32
deriving DecidableEq

namespace Sid

def invalid : Sid := ⟨noObject, 0xFFFFFFFF⟩

instance : Inhabited Sid := ⟨invalid⟩

def notSet (sid : Sid) : Bool := sid == invalid

def raw (sid : Sid) : UInt64 := packWords sid.object sid.set

def ofRaw (raw : UInt64) : Sid := ⟨UInt32.ofNat (raw.toNat / UInt32.size), UInt32.ofNat raw.toNat⟩

theorem ofRaw_raw (sid : Sid) : ofRaw sid.raw = sid := by
  simp only [ofRaw, raw, packWords_high, packWords_low]

def text (sid : Sid) : String := "0x" ++ hexWord sid.object ++ ":" ++ toString sid.set.toNat

/-- Ordered by object, then by set. -/
def le (a b : Sid) : Bool := a.object < b.object || (a.object == b.object && a.set ≤ b.set)

end Sid

/-- A pool parameter of an object. -/
structure Gpid where
  object : ObjectId
  parameter : LocalPoolId
deriving DecidableEq

namespace Gpid

def invalid : Gpid := ⟨noObject, noParameter⟩

def raw (gpid : Gpid) : UInt64 := packWords gpid.object gpid.parameter

def ofRaw (raw : UInt64) : Gpid := ⟨UInt32.ofNat (raw.toNat / UInt32.size), UInt32.ofNat raw.toNat⟩

theorem ofRaw_raw (gpid : Gpid) : ofRaw gpid.raw = gpid := by
  simp only [ofRaw, raw, packWords_high, packWords_low]

def text (gpid : Gpid) : String :=
  "0x" ++ hexWord gpid.object ++ ":" ++ toString gpid.parameter.toNat

end Gpid

/-- A slot of a page of the packet store. -/
structure StoreId where
  page : UInt16
  slot : UInt16
deriving DecidableEq

namespace StoreId

def raw (id : StoreId) : UInt32 := UInt32.ofNat (id.page.toNat * UInt16.size + id.slot.toNat)

def ofRaw (raw : UInt32) : StoreId := ⟨UInt16.ofNat (raw.toNat / UInt16.size), UInt16.ofNat raw.toNat⟩

theorem raw_toNat (id : StoreId) :
    id.raw.toNat = id.page.toNat * UInt16.size + id.slot.toNat := by
  have p := id.page.toNat_lt
  have s := id.slot.toNat_lt
  simp only [raw, UInt32.toNat_ofNat', UInt16.size]
  omega

theorem ofRaw_raw (id : StoreId) : ofRaw id.raw = id := by
  obtain ⟨page, slot⟩ := id
  have p := page.toNat_lt
  have s := slot.toNat_lt
  simp only [ofRaw, raw_toNat, mk.injEq]
  constructor <;> apply UInt16.toNat_inj.mp <;> simp only [UInt16.toNat_ofNat', UInt16.size] <;> omega

end StoreId

end Housekeeper
