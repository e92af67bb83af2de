import Housekeeper.Transport.Memory
import Housekeeper.Transport.Store

/-!
# Pages in memory

In memory a page is one run of bytes, cut into slots of the same size, and beside it stands the
length of every live element. Deleting an element only forgets its length: the bytes stay until
others are written over them, perhaps fewer. `StoreMemory` is a store of such pages, and
`StoreMemory.contents` what is in it.

The bytes of a page and the place of a slot among them are computed in 64 bits. With too many bytes
for that, making the page ends the program, or the page has fewer bytes than its slots need.
-/

namespace Housekeeper

/-- All slots together have no more bytes than a piece of memory can have. -/
def PageConfig.Allocatable (config : PageConfig) : Prop :=
  config.elementSize.toNat * config.elements.toNat ≤ maxBytes

instance (config : PageConfig) : Decidable config.Allocatable := Nat.decLe _ _

/-- No page has too many bytes. -/
def StoreConfig.Allocatable (config : StoreConfig) : Prop :=
  ∀ page ∈ config.pages, page.Allocatable

instance (config : StoreConfig) : Decidable config.Allocatable :=
  inferInstanceAs (Decidable (∀ page ∈ config.pages, page.Allocatable))

structure PageBuffer where
  elementSize : UInt64
  bytes : Bytes
  /-- The length of the element in every slot, if it is live. -/
  lengths : Array (Option Nat)

namespace PageBuffer

def ofConfig? (overflow : Overflow) (config : PageConfig) : Option PageBuffer := do
  let size ← overflow.mul? config.elementSize config.elements.toUInt64
  let bytes ← Bytes.allocate? size
  return ⟨config.elementSize, bytes, Array.replicate config.elements.toNat none⟩

/-- Where the first `length` bytes of a slot begin. -/
def start? (overflow : Overflow) (page : PageBuffer) (slot length : Nat) : Option Nat := do
  let start ← overflow.mul? (UInt64.ofNat slot) page.elementSize
  let stop ← overflow.add? start (UInt64.ofNat length)
  if start ≤ stop ∧ stop.toNat ≤ page.bytes.length then some start.toNat else none

def freeSlot? (page : PageBuffer) : Option Nat := page.lengths.findIdx? Option.isNone

/-- Writes data into a slot, over whatever is there. -/
def fill? (overflow : Overflow) (page : PageBuffer) (slot : Nat) (data : Bytes) :
    Option PageBuffer := do
  let start ← page.start? overflow slot data.length
  return ⟨page.elementSize, page.bytes.overwrite start data,
    page.lengths.setIfInBounds slot (some data.length)⟩

/-- The first bytes of a slot. -/
def read? (overflow : Overflow) (page : PageBuffer) (slot length : Nat) : Option Bytes := do
  let start ← page.start? overflow slot length
  return page.bytes.slice start length

/-- Forgets the element in a slot. -/
def vacate (page : PageBuffer) (slot : Nat) : PageBuffer :=
  ⟨page.elementSize, page.bytes, page.lengths.setIfInBounds slot none⟩

/-- Forgets all elements. -/
def vacateAll (page : PageBuffer) : PageBuffer :=
  ⟨page.elementSize, page.bytes, Array.replicate page.lengths.size none⟩

def freeCount (page : PageBuffer) : Nat := page.lengths.countP Option.isNone

/-- The length of a live element. -/
def length? (page : PageBuffer) (slot : Nat) : Option Nat := page.lengths[slot]?.join

/-- What is in the slots. -/
def contents (page : PageBuffer) : StorePage where
  elementSize := page.elementSize.toNat
  slots := page.lengths.mapIdx fun slot length =>
    length.map fun length => page.bytes.slice (slot * page.elementSize.toNat) length

end PageBuffer

structure StoreMemory where
  pages : List PageBuffer

namespace StoreMemory

def ofConfig? (overflow : Overflow) (config : StoreConfig) : Option StoreMemory := do
  let pages ← (config.pages.mergeSort fun a b => a.elementSize ≤ b.elementSize).mapM
    (PageBuffer.ofConfig? overflow)
  return ⟨pages⟩

/-- Goes through the pages, of which the first has the given number, and puts the data into the
first free slot of a page that fits. `fits` says whether a page before them was large enough. -/
def addFrom? (overflow : Overflow) (data : Bytes) : (number : Nat) → (fits : Bool) →
    List PageBuffer → Option (Except PoolError StoreId × List PageBuffer)
  | _, fits, [] => some (.error (if fits then .storeFull else .dataTooLarge), [])
  | number, fits, page :: rest =>
    if data.length ≤ page.elementSize.toNat then
      match page.freeSlot? with
      | some slot => do
        let page ← page.fill? overflow slot data
        return (.ok ⟨UInt16.ofNat number, UInt16.ofNat slot⟩, page :: rest)
      | none => do
        let (result, rest) ← addFrom? overflow data (number + 1) true rest
        return (result, page :: rest)
    else do
      let (result, rest) ← addFrom? overflow data (number + 1) fits rest
      return (result, page :: rest)

def add? (overflow : Overflow) (memory : StoreMemory) (data : Bytes) :
    Option (Except PoolError StoreId × StoreMemory) := do
  let (result, pages) ← addFrom? overflow data 0 false memory.pages
  return (result, ⟨pages⟩)

/-- The page of a live element, and its length. -/
def live? (memory : StoreMemory) (id : StoreId) : Option (PageBuffer × Nat) :=
  memory.pages[id.page.toNat]?.bind fun page =>
    (page.length? id.slot.toNat).map fun length => (page, length)

def get? (overflow : Overflow) (memory : StoreMemory) (id : StoreId) :
    Option (Except PoolError Bytes) :=
  match memory.live? id with
  | some (page, length) => (page.read? overflow id.slot.toNat length).map .ok
  | none => some (.error .dataDoesNotExist)

def delete (memory : StoreMemory) (id : StoreId) : Except PoolError Unit × StoreMemory :=
  match memory.live? id with
  | some _ => (.ok (), ⟨memory.pages.modify id.page.toNat fun page => page.vacate id.slot.toNat⟩)
  | none => (.error .dataDoesNotExist, memory)

def clear (memory : StoreMemory) : StoreMemory := ⟨memory.pages.map PageBuffer.vacateAll⟩

def freeCount (memory : StoreMemory) : Nat :=
  memory.pages.foldr (fun page count => page.freeCount + count) 0

/-- What is in the slots of all pages. -/
def contents (memory : StoreMemory) : PacketStore := ⟨memory.pages.map PageBuffer.contents⟩

end StoreMemory

end Housekeeper
