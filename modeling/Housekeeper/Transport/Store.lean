import Housekeeper.Config
import Housekeeper.Error
import Housekeeper.Wire.ByteOrder

/-!
# Packet store

The store keeps byte strings in pages. Every page has a fixed number of slots of one size, and the
pages are ordered by that size, so that an element goes to the smallest slot that holds it and
moves on to larger ones while smaller pages are full. An id names page and slot. `get?_setSlot`
says that filling or emptying a slot leaves all others alone.
-/

namespace Housekeeper

structure StorePage where
  /-- The most bytes a slot can hold. -/
  elementSize : Nat
  slots : Array (Option Bytes)

namespace StorePage

def ofConfig (config : PageConfig) : StorePage :=
  ⟨config.elementSize.toNat, Array.replicate config.elements.toNat none⟩

def fits (page : StorePage) (data : Bytes) : Bool := data.length ≤ page.elementSize

def freeSlot? (page : StorePage) : Option Nat := page.slots.findIdx? Option.isNone

def freeCount (page : StorePage) : Nat := page.slots.countP Option.isNone

def withSlot (page : StorePage) (slot : Nat) (data : Option Bytes) : StorePage :=
  ⟨page.elementSize, page.slots.setIfInBounds slot data⟩

def cleared (page : StorePage) : StorePage :=
  ⟨page.elementSize, Array.replicate page.slots.size none⟩

end StorePage

structure PacketStore where
  pages : List StorePage

namespace PacketStore

def ofConfig (config : StoreConfig) : PacketStore :=
  ⟨(config.pages.mergeSort fun a b => a.elementSize ≤ b.elementSize).map StorePage.ofConfig⟩

/-- The first free slot of the first page that fits and has one. -/
def place? (store : PacketStore) (data : Bytes) : Option (Nat × Nat) :=
  store.pages.zipIdx.findSome? fun (page, index) =>
    if page.fits data then page.freeSlot?.map fun slot => (index, slot) else none

def setSlot (store : PacketStore) (page slot : Nat) (data : Option Bytes) : PacketStore :=
  ⟨store.pages.modify page fun p => p.withSlot slot data⟩

def add (store : PacketStore) (data : Bytes) : Except PoolError StoreId × PacketStore :=
  match store.place? data with
  | some (page, slot) =>
    (.ok ⟨UInt16.ofNat page, UInt16.ofNat slot⟩, store.setSlot page slot (some data))
  | none =>
    (.error (if store.pages.any fun page => page.fits data then .storeFull else .dataTooLarge),
      store)

/-- The data of a live element. -/
def get? (store : PacketStore) (id : StoreId) : Option Bytes :=
  (store.pages[id.page.toNat]?.bind fun page => page.slots[id.slot.toNat]?).join

def get (store : PacketStore) (id : StoreId) : Except PoolError Bytes :=
  match store.get? id with
  | some data => .ok data
  | none => .error .dataDoesNotExist

def delete (store : PacketStore) (id : StoreId) : Except PoolError Unit × PacketStore :=
  match store.get? id with
  | some _ => (.ok (), store.setSlot id.page.toNat id.slot.toNat none)
  | none => (.error .dataDoesNotExist, store)

def clear (store : PacketStore) : PacketStore := ⟨store.pages.map StorePage.cleared⟩

def freeCount (store : PacketStore) : Nat :=
  store.pages.foldr (fun page count => page.freeCount + count) 0

/-- A slot that exists takes the data, and all others keep theirs. -/
theorem get?_setSlot {store : PacketStore} {page slot : Nat} {own : StorePage}
    (h : store.pages[page]? = some own) (bound : slot < own.slots.size) (data : Option Bytes)
    (id : StoreId) :
    (store.setSlot page slot data).get? id =
      if id.page.toNat = page ∧ id.slot.toNat = slot then data else store.get? id := by
  by_cases samePage : id.page.toNat = page
  · subst samePage
    by_cases sameSlot : id.slot.toNat = slot
    · subst sameSlot
      simp [get?, setSlot, StorePage.withSlot, h, bound]
    · simp [get?, setSlot, StorePage.withSlot, h, sameSlot, Ne.symm sameSlot]
  · simp [get?, setSlot, samePage, Ne.symm samePage]

end PacketStore

end Housekeeper
