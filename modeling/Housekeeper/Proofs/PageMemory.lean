import Mathlib.Data.List.Forall2
import Housekeeper.Transport.PageBuffer
import Housekeeper.Proofs.Slots

/-!
# What is in memory is what is in the store

A page is `Sound` if its live elements lie within its bytes, and `Roomy` if there are bytes for all
its slots. Every page that can be made is sound, also where its size was cut off, and then an
operation that does not end the program does the same to the contents as to a `PacketStore`
(`StoreMemory.Sound.add`, `StoreMemory.Sound.get`): no slot reaches into another one, and nothing
that was deleted can be seen again. While all pages are roomy no operation ends the program.
-/

namespace Housekeeper

namespace PageBuffer

/-- Live elements fit into their slots and lie within the bytes. -/
structure Sound (page : PageBuffer) : Prop where
  bytes_le : page.bytes.length ≤ maxBytes
  size_lt : page.lengths.size < UInt16.size
  length_le : ∀ slot length : Nat, page.lengths[slot]? = some (some length) →
    length ≤ page.elementSize.toNat
  stop_le : ∀ slot length : Nat, page.lengths[slot]? = some (some length) →
    slot * page.elementSize.toNat + length ≤ page.bytes.length

/-- There are bytes for all slots. -/
def Roomy (page : PageBuffer) : Prop :=
  page.lengths.size * page.elementSize.toNat ≤ page.bytes.length

/-- What no operation changes: the size of the elements, of the memory, and the number of slots. -/
def shape (page : PageBuffer) : UInt64 × Nat × Nat :=
  (page.elementSize, page.bytes.length, page.lengths.size)

variable {overflow : Overflow} {page : PageBuffer} {slot length : Nat}

/-! ### Places -/

theorem toNat_ofNat_slot (h : slot < UInt16.size) : (UInt64.ofNat slot).toNat = slot :=
  UInt64.toNat_ofNat_of_lt' (Nat.lt_trans h (by decide))

/-- Bytes that are there are found. -/
theorem start?_of_le (overflow : Overflow) (hbytes : page.bytes.length ≤ maxBytes)
    (hslot : slot < UInt16.size) (hlength : length ≤ page.elementSize.toNat)
    (hstop : slot * page.elementSize.toNat + length ≤ page.bytes.length) :
    page.start? overflow slot length = some (slot * page.elementSize.toNat) := by
  have hmax : maxBytes < UInt64.size := by decide
  have hstart : slot * page.elementSize.toNat < UInt64.size := by omega
  have hlt : length < UInt64.size := Nat.lt_of_le_of_lt hlength page.elementSize.toNat_lt
  have hsum : slot * page.elementSize.toNat + length < UInt64.size := by omega
  have hmul : overflow.mul? (UInt64.ofNat slot) page.elementSize =
      some (UInt64.ofNat (slot * page.elementSize.toNat)) := by
    rw [Overflow.mul?, toNat_ofNat_slot hslot, overflow.size?_of_lt hstart]
  have hadd : overflow.add? (UInt64.ofNat (slot * page.elementSize.toNat)) (UInt64.ofNat length) =
      some (UInt64.ofNat (slot * page.elementSize.toNat + length)) := by
    rw [Overflow.add?, UInt64.toNat_ofNat_of_lt' hstart, UInt64.toNat_ofNat_of_lt' hlt,
      overflow.size?_of_lt hsum]
  simp only [start?, hmul, hadd, Option.bind_eq_bind, Option.bind_some, UInt64.le_iff_toNat_le,
    UInt64.toNat_ofNat_of_lt' hstart, UInt64.toNat_ofNat_of_lt' hsum]
  exact if_pos ⟨Nat.le_add_right .., hstop⟩

/-- All slots before the first free one are live. -/
theorem live_of_freeSlot? (h : page.freeSlot? = some slot) :
    page.lengths[slot]? = some none ∧
      ∀ other < slot, ∃ length, page.lengths[other]? = some (some length) := by
  obtain ⟨hlt, hnone, hbefore⟩ := Array.findIdx?_eq_some_iff_getElem.mp h
  constructor
  · rw [Array.getElem?_eq_getElem hlt, Option.isNone_iff_eq_none.mp hnone]
  · intro other hother
    have hlive := hbefore other hother
    rw [Bool.not_eq_true, Option.isNone_eq_false_iff] at hlive
    obtain ⟨length, hlength⟩ := Option.isSome_iff_exists.mp hlive
    exact ⟨length, by rw [Array.getElem?_eq_getElem (Nat.lt_trans hother hlt), hlength]⟩

namespace Sound

/-- The first free slot does not lie beyond what 64 bits can count, since the one before it has its
bytes. -/
theorem start_lt (h : page.Sound) (hfree : page.freeSlot? = some slot) :
    slot * page.elementSize.toNat < UInt64.size := by
  have hbytes := h.bytes_le
  have hmax : maxBytes + maxBytes < UInt64.size := by decide
  have hsize := page.elementSize.toNat_lt
  match slot with
  | 0 => rw [Nat.zero_mul]; decide
  | 1 => rwa [Nat.one_mul]
  | before + 2 =>
    obtain ⟨length, hlive⟩ := (live_of_freeSlot? hfree).2 (before + 1) (Nat.lt_succ_self _)
    have hstop := h.stop_le _ _ hlive
    have hone : page.elementSize.toNat ≤ (before + 1) * page.elementSize.toNat :=
      Nat.le_mul_of_pos_left _ (Nat.succ_pos _)
    rw [Nat.succ_mul]
    omega

/-- Where the first free slot begins, it has all the bytes that are asked for. -/
theorem start_spec (h : page.Sound) (hfree : page.freeSlot? = some slot)
    (hlength : length ≤ page.elementSize.toNat) {start : Nat}
    (hstart : page.start? overflow slot length = some start) :
    start = slot * page.elementSize.toNat ∧
      slot * page.elementSize.toNat + length ≤ page.bytes.length := by
  obtain ⟨first, hfirst, hrest⟩ := Option.bind_eq_some_iff.mp hstart
  obtain ⟨stop, hstop, hrange⟩ := Option.bind_eq_some_iff.mp hrest
  have hslot : slot < UInt16.size :=
    Nat.lt_trans (Array.getElem?_eq_some_iff.mp (live_of_freeSlot? hfree).1).1 h.size_lt
  have hlt := h.start_lt hfree
  have hlengthLt : length < UInt64.size := Nat.lt_of_le_of_lt hlength page.elementSize.toNat_lt
  have hbegin : first.toNat = slot * page.elementSize.toNat := by
    rw [Overflow.toNat_of_size? overflow hfirst, toNat_ofNat_slot hslot, Nat.mod_eq_of_lt hlt]
  have hend := Overflow.toNat_of_size? overflow hstop
  rw [hbegin, UInt64.toNat_ofNat_of_lt' hlengthLt] at hend
  split at hrange
  next hordered =>
    obtain ⟨hle, hinside⟩ := hordered
    rw [UInt64.le_iff_toNat_le, hbegin] at hle
    refine ⟨by rw [← hbegin]; exact (Option.some.inj hrange).symm, ?_⟩
    -- a sum that wraps around would be smaller than what it begins with
    by_cases hfits : slot * page.elementSize.toNat + length < UInt64.size
    · rwa [hend, Nat.mod_eq_of_lt hfits] at hinside
    · rw [Nat.mod_eq_sub_mod (Nat.le_of_not_lt hfits), Nat.mod_eq_of_lt (by omega)] at hend
      omega
  next => cases hrange

/-- Two slots have no bytes in common. -/
theorem disjoint (h : page.Sound) {other : Nat} (hne : other ≠ slot)
    (hlength : length ≤ page.elementSize.toNat) {live : Nat}
    (hlive : page.lengths[other]? = some (some live)) :
    other * page.elementSize.toNat + live ≤ slot * page.elementSize.toNat ∨
      slot * page.elementSize.toNat + length ≤ other * page.elementSize.toNat := by
  have hother := h.length_le other live hlive
  rcases Nat.lt_or_gt_of_ne hne with before | behind
  · have hnext : (other + 1) * page.elementSize.toNat ≤ slot * page.elementSize.toNat :=
      Nat.mul_le_mul_right _ before
    rw [Nat.succ_mul] at hnext
    omega
  · have hnext : (slot + 1) * page.elementSize.toNat ≤ other * page.elementSize.toNat :=
      Nat.mul_le_mul_right _ behind
    rw [Nat.succ_mul] at hnext
    omega

end Sound

/-! ### Contents -/

theorem getElem?_contents (page : PageBuffer) (slot : Nat) :
    page.contents.slots[slot]? = page.lengths[slot]?.map fun length =>
      length.map fun length => page.bytes.slice (slot * page.elementSize.toNat) length := by
  simp [contents]

@[simp] theorem size_contents (page : PageBuffer) :
    page.contents.slots.size = page.lengths.size := Array.size_mapIdx

theorem contents_ext {a b : StorePage} (hsize : a.elementSize = b.elementSize)
    (hslots : ∀ slot : Nat, a.slots[slot]? = b.slots[slot]?) : a = b := by
  obtain ⟨elementSize, slots⟩ := a
  obtain ⟨_, slots'⟩ := b
  cases hsize
  have hsame : slots = slots' := Array.ext_getElem? hslots
  rw [hsame]

/-- The same slots are free. -/
theorem map_isNone_contents (page : PageBuffer) :
    page.contents.slots.map Option.isNone = page.lengths.map Option.isNone := by
  apply Array.ext_getElem?
  intro slot
  rw [Array.getElem?_map, Array.getElem?_map, getElem?_contents, Option.map_map]
  congr 1
  funext length
  exact Option.isNone_map

theorem freeSlot?_contents (page : PageBuffer) : page.contents.freeSlot? = page.freeSlot? := by
  have hfind (α : Type) (slots : Array (Option α)) :
      slots.findIdx? Option.isNone = (slots.map Option.isNone).findIdx? id := by
    rw [Array.findIdx?_map, Function.id_comp]
  rw [StorePage.freeSlot?, hfind, map_isNone_contents, ← hfind, freeSlot?]

theorem freeCount_contents (page : PageBuffer) : page.contents.freeCount = page.freeCount := by
  have hcount (α : Type) (slots : Array (Option α)) :
      slots.countP Option.isNone = (slots.map Option.isNone).countP id := by
    rw [Array.countP_map, Function.id_comp]
  rw [StorePage.freeCount, hcount, map_isNone_contents, ← hcount, freeCount]

theorem contents_vacate (page : PageBuffer) (slot : Nat) :
    (page.vacate slot).contents = page.contents.withSlot slot none := by
  refine contents_ext rfl fun other => ?_
  rw [getElem?_contents, StorePage.withSlot, Array.getElem?_setIfInBounds, getElem?_contents]
  simp only [vacate, Array.getElem?_setIfInBounds, size_contents]
  split
  · split <;> rfl
  · rfl

theorem contents_vacateAll (page : PageBuffer) :
    page.vacateAll.contents = page.contents.cleared := by
  refine contents_ext rfl fun slot => ?_
  rw [getElem?_contents]
  simp only [vacateAll, StorePage.cleared, Array.getElem?_replicate, size_contents]
  split <;> rfl

/-! ### New pages -/

section New

variable {config : PageConfig}

theorem ofConfig?_eq_some (h : ofConfig? overflow config = some page) :
    ∃ size, overflow.mul? config.elementSize config.elements.toUInt64 = some size ∧
      size.toNat ≤ maxBytes ∧ page = ⟨config.elementSize, List.replicate size.toNat 0,
        Array.replicate config.elements.toNat none⟩ := by
  obtain ⟨size, hsize, hrest⟩ := Option.bind_eq_some_iff.mp h
  obtain ⟨bytes, hbytes, hpage⟩ := Option.bind_eq_some_iff.mp hrest
  unfold Bytes.allocate? at hbytes
  split at hbytes
  next hle =>
    cases hbytes
    exact ⟨size, hsize, hle, (Option.some.inj hpage).symm⟩
  next => cases hbytes

theorem contents_ofConfig? (h : ofConfig? overflow config = some page) :
    page.contents = StorePage.ofConfig config := by
  obtain ⟨size, -, -, rfl⟩ := ofConfig?_eq_some h
  refine contents_ext rfl fun slot => ?_
  rw [getElem?_contents]
  simp only [StorePage.ofConfig, Array.getElem?_replicate]
  split <;> rfl

theorem sound_ofConfig? (h : ofConfig? overflow config = some page) : page.Sound := by
  obtain ⟨size, -, hle, rfl⟩ := ofConfig?_eq_some h
  refine ⟨?_, ?_, fun slot length hlive => ?_, fun slot length hlive => ?_⟩
  · rwa [List.length_replicate]
  · rw [Array.size_replicate]
    exact config.elements.toNat_lt
  all_goals
    simp [Array.getElem?_replicate] at hlive

/-- A page is made with all its bytes if that many can be had. -/
theorem exists_ofConfig? (overflow : Overflow) (h : config.Allocatable) :
    ∃ page, ofConfig? overflow config = some page ∧ page.Roomy := by
  have hlt : config.elementSize.toNat * config.elements.toNat < UInt64.size :=
    Nat.lt_of_le_of_lt h (by decide)
  have hmul : overflow.mul? config.elementSize config.elements.toUInt64 =
      some (UInt64.ofNat (config.elementSize.toNat * config.elements.toNat)) := by
    rw [Overflow.mul?, UInt16.toNat_toUInt64, overflow.size?_of_lt hlt]
  have hsize := UInt64.toNat_ofNat_of_lt' hlt
  refine ⟨⟨config.elementSize,
    List.replicate (config.elementSize.toNat * config.elements.toNat) 0,
    Array.replicate config.elements.toNat none⟩, ?_, ?_⟩
  · have hle : config.elementSize.toNat * config.elements.toNat ≤ maxBytes := h
    simp only [ofConfig?, hmul, Bytes.allocate?, hsize, hle, if_true, Option.bind_eq_bind,
      Option.bind_some, Option.pure_def]
  · rw [Roomy, Array.size_replicate, List.length_replicate]
    exact Nat.le_of_eq (Nat.mul_comm ..)

/-- A build that checks for overflows makes no other pages. -/
theorem allocatable_of_stop (h : ofConfig? .stop config = some page) : config.Allocatable := by
  obtain ⟨size, hsize, hle, -⟩ := ofConfig?_eq_some h
  have hmod := Overflow.toNat_of_size? .stop hsize
  rw [Overflow.mul?, Overflow.size?] at hsize
  split at hsize
  next hlt =>
    rw [Nat.mod_eq_of_lt (hlt.resolve_right (by decide)), UInt16.toNat_toUInt64] at hmod
    rw [PageConfig.Allocatable, ← hmod]
    exact hle
  next => cases hsize

end New

/-! ### Filling, reading and forgetting -/

/-- The page with the data in a slot, where it belongs. -/
def filled (page : PageBuffer) (slot : Nat) (data : Bytes) : PageBuffer :=
  ⟨page.elementSize, page.bytes.overwrite (slot * page.elementSize.toNat) data,
    page.lengths.setIfInBounds slot (some data.length)⟩

section Fill

variable {data : Bytes}

theorem Sound.eq_filled (h : page.Sound) (hfree : page.freeSlot? = some slot)
    (hfits : data.length ≤ page.elementSize.toNat) {after : PageBuffer}
    (hfill : page.fill? overflow slot data = some after) :
    after = page.filled slot data ∧
      slot * page.elementSize.toNat + data.length ≤ page.bytes.length := by
  obtain ⟨start, hstart, hafter⟩ := Option.bind_eq_some_iff.mp hfill
  obtain ⟨rfl, hroom⟩ := h.start_spec hfree hfits hstart
  exact ⟨(Option.some.inj hafter).symm, hroom⟩

/-- A live element of the filled page is the new one or was there before. -/
theorem live_filled {other live : Nat}
    (hlive : (page.filled slot data).lengths[other]? = some (some live)) :
    other = slot ∧ live = data.length ∨ page.lengths[other]? = some (some live) := by
  rw [filled, Array.getElem?_setIfInBounds] at hlive
  split at hlive
  next hsame =>
    split at hlive
    · cases hlive
      exact .inl ⟨hsame.symm, rfl⟩
    · cases hlive
  next => exact .inr hlive

theorem Sound.filled (h : page.Sound) (hfits : data.length ≤ page.elementSize.toNat)
    (hroom : slot * page.elementSize.toNat + data.length ≤ page.bytes.length) :
    (page.filled slot data).Sound := by
  have hkept : (page.filled slot data).bytes.length = page.bytes.length :=
    Bytes.length_overwrite hroom
  refine ⟨by rw [hkept]; exact h.bytes_le, ?_, fun other live hlive => ?_,
    fun other live hlive => ?_⟩
  · rw [PageBuffer.filled, Array.size_setIfInBounds]
    exact h.size_lt
  · rcases live_filled hlive with ⟨-, rfl⟩ | hlive
    · exact hfits
    · exact h.length_le other live hlive
  · rw [hkept]
    rcases live_filled hlive with ⟨rfl, rfl⟩ | hlive
    · exact hroom
    · exact h.stop_le other live hlive

theorem shape_filled
    (hroom : slot * page.elementSize.toNat + data.length ≤ page.bytes.length) :
    (page.filled slot data).shape = page.shape := by
  have hkept : (page.filled slot data).bytes.length = page.bytes.length :=
    Bytes.length_overwrite hroom
  rw [shape, shape, hkept, filled, Array.size_setIfInBounds]

/-- **Filling a slot changes no other slot**, and the slot then has the data and nothing else. -/
theorem Sound.contents_filled (h : page.Sound) (hfits : data.length ≤ page.elementSize.toNat)
    (hroom : slot * page.elementSize.toNat + data.length ≤ page.bytes.length) :
    (page.filled slot data).contents = page.contents.withSlot slot (some data) := by
  refine contents_ext rfl fun other => ?_
  rw [StorePage.withSlot, Array.getElem?_setIfInBounds, getElem?_contents, getElem?_contents]
  simp only [PageBuffer.filled, Array.getElem?_setIfInBounds, size_contents]
  by_cases hsame : slot = other
  · subst hsame
    simp only [if_true]
    split
    · simp only [Option.map_some, Bytes.slice_overwrite hroom]
    · rfl
  · simp only [hsame, if_false]
    rcases hlive : page.lengths[other]? with _ | _ | live
    · rfl
    · rfl
    · have hdisjoint := h.disjoint (Ne.symm hsame) hfits hlive
      simp only [Option.map_some, Bytes.slice_overwrite_of_disjoint hroom hdisjoint]

/-- A page that has all its bytes can be filled. -/
theorem Sound.exists_fill (h : page.Sound) (hroomy : page.Roomy) (overflow : Overflow)
    (hfree : page.freeSlot? = some slot) (hfits : data.length ≤ page.elementSize.toNat) :
    ∃ after, page.fill? overflow slot data = some after := by
  have hlt := (Array.getElem?_eq_some_iff.mp (live_of_freeSlot? hfree).1).1
  have hnext : (slot + 1) * page.elementSize.toNat ≤ page.lengths.size * page.elementSize.toNat :=
    Nat.mul_le_mul_right _ hlt
  rw [Nat.succ_mul] at hnext
  have hroom : slot * page.elementSize.toNat + data.length ≤ page.bytes.length := by
    rw [Roomy] at hroomy
    omega
  have hstart := start?_of_le overflow h.bytes_le (Nat.lt_trans hlt h.size_lt) hfits hroom
  exact ⟨_, by rw [fill?, hstart]; rfl⟩

end Fill

/-- A live element can always be read. -/
theorem Sound.read (h : page.Sound) (overflow : Overflow)
    (hlive : page.lengths[slot]? = some (some length)) :
    ∃ data, page.read? overflow slot length = some data ∧
      page.contents.slots[slot]? = some (some data) := by
  have hlt := (Array.getElem?_eq_some_iff.mp hlive).1
  have hstart := start?_of_le overflow h.bytes_le (Nat.lt_trans hlt h.size_lt)
    (h.length_le _ _ hlive) (h.stop_le _ _ hlive)
  refine ⟨page.bytes.slice (slot * page.elementSize.toNat) length, by rw [read?, hstart]; rfl, ?_⟩
  rw [getElem?_contents, hlive]
  rfl

theorem Sound.vacate (h : page.Sound) (slot : Nat) : (page.vacate slot).Sound := by
  have hkept {other length : Nat}
      (hlive : (page.vacate slot).lengths[other]? = some (some length)) :
      page.lengths[other]? = some (some length) := by
    rw [PageBuffer.vacate, Array.getElem?_setIfInBounds] at hlive
    split at hlive
    · split at hlive <;> cases hlive
    · exact hlive
  refine ⟨h.bytes_le, ?_, fun other length hlive => h.length_le other length (hkept hlive),
    fun other length hlive => h.stop_le other length (hkept hlive)⟩
  rw [PageBuffer.vacate, Array.size_setIfInBounds]
  exact h.size_lt

theorem Sound.vacateAll (h : page.Sound) : page.vacateAll.Sound := by
  refine ⟨h.bytes_le, ?_, fun slot length hlive => ?_, fun slot length hlive => ?_⟩
  · rw [PageBuffer.vacateAll, Array.size_replicate]
    exact h.size_lt
  all_goals
    simp [PageBuffer.vacateAll, Array.getElem?_replicate] at hlive

theorem shape_vacate (page : PageBuffer) (slot : Nat) : (page.vacate slot).shape = page.shape := by
  rw [shape, shape, PageBuffer.vacate, Array.size_setIfInBounds]

theorem shape_vacateAll (page : PageBuffer) : page.vacateAll.shape = page.shape := by
  rw [shape, shape, PageBuffer.vacateAll, Array.size_replicate]

end PageBuffer

/-! ## All pages -/

/-- Changing one element and looking at all of them, or the other way round. -/
theorem map_modify {α β : Type} (f : α → β) {change : α → α} {change' : β → β}
    (h : ∀ x, f (change x) = change' (f x)) (xs : List α) (index : Nat) :
    (xs.modify index change).map f = (xs.map f).modify index change' := by
  apply List.ext_getElem?
  intro other
  rw [List.getElem?_map, List.getElem?_modify, List.getElem?_modify, List.getElem?_map]
  cases xs[other]? with
  | none => rfl
  | some x => by_cases hsame : index = other <;> simp [hsame, h]

namespace StoreMemory

def Sound (memory : StoreMemory) : Prop := ∀ page ∈ memory.pages, page.Sound

def Roomy (memory : StoreMemory) : Prop := ∀ page ∈ memory.pages, page.Roomy

def shapes (memory : StoreMemory) : List (UInt64 × Nat × Nat) := memory.pages.map PageBuffer.shape

theorem exists_of_shapes {memory after : StoreMemory} (hshapes : after.shapes = memory.shapes)
    {page : PageBuffer} (hmem : page ∈ after.pages) :
    ∃ old ∈ memory.pages, old.elementSize = page.elementSize ∧
      old.bytes.length = page.bytes.length ∧ old.lengths.size = page.lengths.size := by
  have hshape : page.shape ∈ memory.shapes := hshapes ▸ List.mem_map_of_mem hmem
  obtain ⟨old, hold, heq⟩ := List.mem_map.mp hshape
  exact ⟨old, hold, by simpa [PageBuffer.shape] using heq⟩

theorem Roomy.of_shapes {memory after : StoreMemory} (h : memory.Roomy)
    (hshapes : after.shapes = memory.shapes) : after.Roomy := by
  intro page hmem
  obtain ⟨old, hold, hsize, hbytes, hcount⟩ := exists_of_shapes hshapes hmem
  have hroomy := h old hold
  rwa [PageBuffer.Roomy, ← hsize, ← hbytes, ← hcount]

variable {overflow : Overflow} {memory : StoreMemory} {data : Bytes}

/-! ### Adding -/

theorem addFrom?_cons_of_free {page : PageBuffer} (hfits : data.length ≤ page.elementSize.toNat)
    {slot : Nat} (hfree : page.freeSlot? = some slot) (number : Nat) (fits : Bool)
    (rest : List PageBuffer) :
    addFrom? overflow data number fits (page :: rest) =
      (page.fill? overflow slot data).map fun page =>
        (.ok ⟨UInt16.ofNat number, UInt16.ofNat slot⟩, page :: rest) := by
  simp only [addFrom?, hfits, hfree, if_true]
  cases page.fill? overflow slot data <;> rfl

theorem addFrom?_cons_of_full {page : PageBuffer}
    (hfull : page.contents.fits data → page.freeSlot? = none) (number : Nat) (fits : Bool)
    (rest : List PageBuffer) :
    addFrom? overflow data number fits (page :: rest) =
      (addFrom? overflow data (number + 1) (fits || page.contents.fits data) rest).map
        fun (result, rest) => (result, page :: rest) := by
  by_cases h : data.length ≤ page.elementSize.toNat
  · have hfits : page.contents.fits data = true := decide_eq_true h
    simp only [addFrom?, h, hfull hfits, hfits, if_true, Bool.or_true]
    cases addFrom? overflow data (number + 1) true rest <;> rfl
  · have hfits : page.contents.fits data = false := decide_eq_false h
    simp only [addFrom?, h, hfits, if_false, Bool.or_false]
    cases addFrom? overflow data (number + 1) fits rest <;> rfl

/-- What adding to some pages does that does not end the program: it finds the place that the
contents have for the data. -/
structure AddsTo (data : Bytes) (number : Nat) (fits : Bool) (pages : List PageBuffer)
    (result : Except PoolError StoreId) (after : List PageBuffer) : Prop where
  sound : ∀ page ∈ after, page.Sound
  shapes : after.map PageBuffer.shape = pages.map PageBuffer.shape
  placed : ∀ page slot,
    PacketStore.placeFrom data number (pages.map PageBuffer.contents) = some (page, slot) →
      ∃ index, page = number + index ∧ result = .ok ⟨UInt16.ofNat page, UInt16.ofNat slot⟩ ∧
        after.map PageBuffer.contents =
          (pages.map PageBuffer.contents).modify index fun own => own.withSlot slot (some data)
  refused : PacketStore.placeFrom data number (pages.map PageBuffer.contents) = none →
    after = pages ∧ result = .error (if fits || (pages.map PageBuffer.contents).any
      fun page => page.fits data then .storeFull else .dataTooLarge)

theorem addsTo {pages after : List PageBuffer} {number : Nat} {fits : Bool}
    {result : Except PoolError StoreId} (hsound : ∀ page ∈ pages, page.Sound)
    (h : addFrom? overflow data number fits pages = some (result, after)) :
    AddsTo data number fits pages result after := by
  induction pages generalizing number fits result after with
  | nil =>
    cases h
    refine ⟨hsound, rfl, fun page slot hplace => ?_, fun _ => ⟨rfl, by simp⟩⟩
    cases hplace
  | cons page rest ih =>
    obtain ⟨hpage, hrest⟩ := List.forall_mem_cons.mp hsound
    have hfreeSlot := page.freeSlot?_contents
    by_cases hfull : page.contents.fits data → page.freeSlot? = none
    · have hnone (hfits : page.contents.fits data) : page.contents.freeSlot? = none := by
        rw [hfreeSlot, hfull hfits]
      rw [addFrom?_cons_of_full hfull] at h
      obtain ⟨⟨_, later⟩, hlater, heq⟩ := Option.map_eq_some_iff.mp h
      cases heq
      have hadds := ih hrest hlater
      refine ⟨List.forall_mem_cons.mpr ⟨hpage, hadds.sound⟩, ?_, fun number slot => ?_, ?_⟩
      · rw [List.map_cons, List.map_cons, hadds.shapes]
      · rw [List.map_cons, PacketStore.placeFrom_cons_of_full hnone]
        intro hplace
        obtain ⟨index, hindex, hresult, hcontents⟩ := hadds.placed number slot hplace
        refine ⟨index + 1, by omega, hresult, ?_⟩
        rw [List.map_cons, hcontents, List.modify_succ_cons]
      · rw [List.map_cons, PacketStore.placeFrom_cons_of_full hnone]
        intro hplace
        obtain ⟨rfl, hresult⟩ := hadds.refused hplace
        exact ⟨rfl, by rw [hresult, List.any_cons, Bool.or_assoc]⟩
    · obtain ⟨hfits, hslot⟩ := Classical.not_imp.mp hfull
      obtain ⟨slot, hslot⟩ := Option.ne_none_iff_exists'.mp hslot
      have hlength : data.length ≤ page.elementSize.toNat := of_decide_eq_true hfits
      rw [addFrom?_cons_of_free hlength hslot] at h
      obtain ⟨filled, hfill, heq⟩ := Option.map_eq_some_iff.mp h
      cases heq
      obtain ⟨rfl, hroom⟩ := hpage.eq_filled hslot hlength hfill
      have hplaced : PacketStore.placeFrom data number
          (page.contents :: rest.map PageBuffer.contents) = some (number, slot) :=
        PacketStore.placeFrom_cons_of_free hfits (hfreeSlot.trans hslot)
      refine ⟨List.forall_mem_cons.mpr ⟨hpage.filled hlength hroom, hrest⟩, ?_,
        fun number slot hplace => ?_, fun hplace => ?_⟩
      · rw [List.map_cons, List.map_cons, PageBuffer.shape_filled hroom]
      · rw [List.map_cons, hplaced] at hplace
        cases hplace
        refine ⟨0, rfl, rfl, ?_⟩
        rw [List.map_cons, hpage.contents_filled hlength hroom, List.map_cons,
          List.modify_zero_cons]
      · rw [List.map_cons, hplaced] at hplace
        cases hplace

/-- Pages that have all their bytes take data, or refuse them. -/
theorem exists_addFrom? (overflow : Overflow) (data : Bytes) {pages : List PageBuffer}
    (hsound : ∀ page ∈ pages, page.Sound) (hroomy : ∀ page ∈ pages, page.Roomy) (number : Nat)
    (fits : Bool) : ∃ outcome, addFrom? overflow data number fits pages = some outcome := by
  induction pages generalizing number fits with
  | nil => exact ⟨_, rfl⟩
  | cons page rest ih =>
    obtain ⟨hpage, hsound⟩ := List.forall_mem_cons.mp hsound
    obtain ⟨hfirst, hroomy⟩ := List.forall_mem_cons.mp hroomy
    by_cases hfull : page.contents.fits data → page.freeSlot? = none
    · obtain ⟨outcome, hrest⟩ := ih hsound hroomy (number + 1) (fits || page.contents.fits data)
      exact ⟨_, by rw [addFrom?_cons_of_full hfull, hrest]; rfl⟩
    · obtain ⟨hfits, hslot⟩ := Classical.not_imp.mp hfull
      obtain ⟨slot, hslot⟩ := Option.ne_none_iff_exists'.mp hslot
      have hlength : data.length ≤ page.elementSize.toNat := of_decide_eq_true hfits
      obtain ⟨after, hfill⟩ := hpage.exists_fill hfirst overflow hslot hlength
      exact ⟨_, by rw [addFrom?_cons_of_free hlength hslot, hfill]; rfl⟩

theorem Sound.add (h : memory.Sound) {result : Except PoolError StoreId} {after : StoreMemory}
    (hadd : memory.add? overflow data = some (result, after)) :
    memory.contents.add data = (result, after.contents) ∧ after.Sound ∧
      after.shapes = memory.shapes := by
  obtain ⟨⟨_, pages⟩, hfrom, heq⟩ := Option.bind_eq_some_iff.mp hadd
  cases heq
  have hadds := addsTo h hfrom
  refine ⟨?_, hadds.sound, hadds.shapes⟩
  rw [PacketStore.add, PacketStore.place?_eq_placeFrom]
  simp only [contents]
  cases hplace : PacketStore.placeFrom data 0 (memory.pages.map PageBuffer.contents) with
  | some place =>
    obtain ⟨index, hindex, hresult, hpages⟩ := hadds.placed place.1 place.2 hplace
    rw [Nat.zero_add] at hindex
    simp only [hresult, hpages, hindex, PacketStore.setSlot]
  | none =>
    obtain ⟨rfl, hresult⟩ := hadds.refused hplace
    rw [hresult, Bool.false_or]
    rfl

theorem Sound.exists_add (h : memory.Sound) (hroomy : memory.Roomy) (overflow : Overflow)
    (data : Bytes) : ∃ result after, memory.add? overflow data = some (result, after) := by
  obtain ⟨⟨result, pages⟩, hfrom⟩ := exists_addFrom? overflow data h hroomy 0 false
  exact ⟨result, ⟨pages⟩, by rw [add?, hfrom]; rfl⟩

/-! ### Looking and forgetting -/

/-- What the contents have for an id. -/
theorem get?_contents (memory : StoreMemory) (id : StoreId) :
    memory.contents.get? id = (memory.live? id).map fun live =>
      live.1.bytes.slice (id.slot.toNat * live.1.elementSize.toNat) live.2 := by
  simp only [PacketStore.get?, contents, live?, List.getElem?_map]
  cases memory.pages[id.page.toNat]? with
  | none => rfl
  | some page =>
    simp only [Option.map_some, Option.bind_some, page.getElem?_contents, PageBuffer.length?]
    rcases page.lengths[id.slot.toNat]? with _ | _ | length <;> rfl

/-- A live element can always be got, and no other one. -/
theorem Sound.get (h : memory.Sound) (overflow : Overflow) (id : StoreId) :
    memory.get? overflow id = some (memory.contents.get id) := by
  rw [PacketStore.get, get?_contents, get?]
  cases hlive : memory.live? id with
  | none => rfl
  | some live =>
    obtain ⟨page, hpage, hfound⟩ := Option.bind_eq_some_iff.mp hlive
    obtain ⟨length, hlength, rfl⟩ := Option.map_eq_some_iff.mp hfound
    obtain ⟨data, hread, hdata⟩ := (h page (List.mem_of_getElem? hpage)).read overflow
      (Option.join_eq_some_iff.mp hlength)
    rw [page.getElem?_contents, Option.join_eq_some_iff.mp hlength] at hdata
    simp only [hread, Option.map_some]
    cases hdata
    rfl

theorem delete_contents (memory : StoreMemory) (id : StoreId) :
    memory.contents.delete id = ((memory.delete id).1, (memory.delete id).2.contents) := by
  rw [PacketStore.delete, get?_contents]
  cases hlive : memory.live? id with
  | none => simp only [delete, hlive, Option.map_none]
  | some live =>
    have hpages : (memory.pages.modify id.page.toNat fun page =>
        page.vacate id.slot.toNat).map PageBuffer.contents =
          (memory.pages.map PageBuffer.contents).modify id.page.toNat fun page =>
            page.withSlot id.slot.toNat none :=
      map_modify _ (fun page => page.contents_vacate id.slot.toNat) _ _
    simp only [delete, hlive, Option.map_some, PacketStore.setSlot, contents, hpages]

theorem clear_contents (memory : StoreMemory) :
    memory.contents.clear = memory.clear.contents := by
  have hpage : StorePage.cleared ∘ PageBuffer.contents =
      PageBuffer.contents ∘ PageBuffer.vacateAll :=
    funext fun page => (page.contents_vacateAll).symm
  rw [PacketStore.clear, contents, contents, clear, List.map_map, List.map_map, hpage]

theorem freeCount_contents (memory : StoreMemory) :
    memory.contents.freeCount = memory.freeCount := by
  rw [PacketStore.freeCount, contents, List.foldr_map, freeCount]
  simp only [PageBuffer.freeCount_contents]

/-- What every page keeps, the pages keep when one of them is changed. -/
theorem forall_mem_modify {P : PageBuffer → Prop} {change : PageBuffer → PageBuffer}
    {pages : List PageBuffer} (h : ∀ page ∈ pages, P page)
    (hkept : ∀ page, P page → P (change page)) (index : Nat) : ∀ page ∈ pages.modify index change, P page := by
  intro page hmem
  obtain ⟨other, hother⟩ := List.mem_iff_getElem?.mp hmem
  rw [List.getElem?_modify] at hother
  obtain ⟨old, hold, rfl⟩ := Option.map_eq_some_iff.mp hother
  have hpage := h old (List.mem_of_getElem? hold)
  split
  · exact hkept old hpage
  · exact hpage

theorem Sound.delete (h : memory.Sound) (id : StoreId) : (memory.delete id).2.Sound := by
  unfold StoreMemory.delete
  split
  · exact forall_mem_modify h (fun page hpage => hpage.vacate _) _
  · exact h

theorem shapes_delete (memory : StoreMemory) (target : StoreId) :
    (memory.delete target).2.shapes = memory.shapes := by
  have hshape (page : PageBuffer) : (page.vacate target.slot.toNat).shape = id page.shape :=
    page.shape_vacate _
  unfold StoreMemory.delete
  split
  · rw [shapes, map_modify _ hshape, List.modify_id, shapes]
  · rfl

theorem Sound.clear (h : memory.Sound) : memory.clear.Sound :=
  List.forall_mem_map.mpr fun page hmem => (h page hmem).vacateAll

theorem shapes_clear (memory : StoreMemory) : memory.clear.shapes = memory.shapes := by
  have hpage : PageBuffer.shape ∘ PageBuffer.vacateAll = PageBuffer.shape :=
    funext PageBuffer.shape_vacateAll
  rw [shapes, clear, List.map_map, hpage, shapes]

/-! ### New memories -/

theorem mapM_eq_some_iff {α β : Type} {f : α → Option β} {xs : List α} {ys : List β} :
    xs.mapM f = some ys ↔ List.Forall₂ (fun x y => f x = some y) xs ys := by
  induction xs generalizing ys with
  | nil => cases ys <;> simp
  | cons x rest ih =>
    simp only [List.mapM_cons, Option.bind_eq_bind, Option.bind_eq_some_iff, Option.pure_def,
      Option.some.injEq, ih]
    constructor
    · rintro ⟨y, hy, later, hlater, rfl⟩
      exact .cons hy hlater
    · rintro (_ | ⟨hy, hlater⟩)
      exact ⟨_, hy, _, hlater, rfl⟩

theorem exists_of_mem_left {α β : Type} {R : α → β → Prop} {xs : List α} {ys : List β}
    (h : List.Forall₂ R xs ys) {x : α} (hx : x ∈ xs) : ∃ y ∈ ys, R x y := by
  induction h with
  | nil => cases hx
  | cons hfirst _ ih =>
    rcases List.mem_cons.mp hx with rfl | hx
    · exact ⟨_, List.mem_cons_self, hfirst⟩
    · obtain ⟨y, hy, hxy⟩ := ih hx
      exact ⟨y, List.mem_cons_of_mem _ hy, hxy⟩

section New

variable {config : StoreConfig}

/-- Every page of a new memory is made from one of the config. -/
theorem pages_ofConfig? (h : ofConfig? overflow config = some memory) :
    List.Forall₂ (fun page own => PageBuffer.ofConfig? overflow page = some own)
      (config.pages.mergeSort fun a b => a.elementSize ≤ b.elementSize) memory.pages := by
  obtain ⟨pages, hpages, heq⟩ := Option.bind_eq_some_iff.mp h
  cases heq
  exact mapM_eq_some_iff.mp hpages

theorem contents_ofConfig? (h : ofConfig? overflow config = some memory) :
    memory.contents = PacketStore.ofConfig config := by
  have hsame := (pages_ofConfig? h).imp fun _ _ hpage => PageBuffer.contents_ofConfig? hpage
  have hpages := List.forall₂_map_left_iff.mpr (List.forall₂_map_right_iff.mpr hsame.flip)
  rw [List.forall₂_eq_eq_eq] at hpages
  rw [contents, PacketStore.ofConfig, hpages]

theorem sound_ofConfig? (h : ofConfig? overflow config = some memory) : memory.Sound := by
  intro page hmem
  obtain ⟨own, -, hown⟩ := exists_of_mem_left (pages_ofConfig? h).flip hmem
  exact PageBuffer.sound_ofConfig? hown

theorem exists_ofConfig? (overflow : Overflow) (h : config.Allocatable) :
    ∃ memory, ofConfig? overflow config = some memory ∧ memory.Roomy := by
  have hordered : ∀ page ∈ config.pages.mergeSort fun a b => a.elementSize ≤ b.elementSize,
      page.Allocatable := fun page hmem => h page (List.mem_mergeSort.mp hmem)
  have hpages : ∃ pages, (config.pages.mergeSort fun a b => a.elementSize ≤ b.elementSize).mapM
      (PageBuffer.ofConfig? overflow) = some pages ∧ ∀ page ∈ pages, page.Roomy := by
    generalize config.pages.mergeSort (fun a b => a.elementSize ≤ b.elementSize) = configs
      at hordered
    induction configs with
    | nil => exact ⟨[], rfl, List.forall_mem_nil _⟩
    | cons first rest ih =>
      obtain ⟨hfirst, hrest⟩ := List.forall_mem_cons.mp hordered
      obtain ⟨page, hpage, hroomy⟩ := PageBuffer.exists_ofConfig? overflow hfirst
      obtain ⟨pages, hpages, hothers⟩ := ih hrest
      exact ⟨page :: pages, by rw [List.mapM_cons, hpage, hpages]; rfl,
        List.forall_mem_cons.mpr ⟨hroomy, hothers⟩⟩
  obtain ⟨pages, hpages, hroomy⟩ := hpages
  exact ⟨⟨pages⟩, by rw [ofConfig?, hpages]; rfl, hroomy⟩

/-- A build that checks for overflows makes no other memory. -/
theorem allocatable_of_stop (h : ofConfig? .stop config = some memory) :
    config.Allocatable := by
  intro page hmem
  obtain ⟨own, -, hmade⟩ := exists_of_mem_left (pages_ofConfig? h) (List.mem_mergeSort.mpr hmem)
  exact PageBuffer.allocatable_of_stop hmade

end New

end StoreMemory

end Housekeeper
