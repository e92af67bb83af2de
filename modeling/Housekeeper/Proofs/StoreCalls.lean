import Housekeeper.Proofs.PageMemory

/-!
# Calls of the store

Whatever is called, a store in memory gives the replies of the `PacketStore` that has the same
contents, as long as the program goes on (`StoreMemory.Sound.run`). It goes on for good exactly if
every page of the config can have the bytes of all its slots (`StoreMemory.lasts_iff`): otherwise
making the store ends the program, or filling the page does.
-/

namespace Housekeeper

inductive StoreCall where
  | add (data : Bytes)
  | get (id : StoreId)
  | delete (id : StoreId)
  | clear
  | freeElements

inductive StoreReply where
  | added (result : Except PoolError StoreId)
  | got (result : Except PoolError Bytes)
  | deleted (result : Except PoolError Unit)
  | cleared
  | freeElements (count : Nat)

/-- Data that are to be added are in memory themselves. -/
def StoreCall.Possible (call : StoreCall) : Prop :=
  ∀ data, call = .add data → data.length ≤ maxBytes

/-- The replies to some calls, one after the other, and the state after them. -/
def StoreCall.run {σ : Type} (step : σ → StoreCall → StoreReply × σ) (state : σ) :
    List StoreCall → List StoreReply × σ
  | [] => ([], state)
  | call :: rest =>
    let replies := run step (step state call).2 rest
    ((step state call).1 :: replies.1, replies.2)

def PacketStore.call (store : PacketStore) : StoreCall → StoreReply × PacketStore
  | .add data => ((.added (store.add data).1), (store.add data).2)
  | .get id => (.got (store.get id), store)
  | .delete id => (.deleted (store.delete id).1, (store.delete id).2)
  | .clear => (.cleared, store.clear)
  | .freeElements => (.freeElements store.freeCount, store)

namespace StoreMemory

def call? (overflow : Overflow) (memory : StoreMemory) :
    StoreCall → Option (StoreReply × StoreMemory)
  | .add data => (memory.add? overflow data).map fun (result, after) => (.added result, after)
  | .get id => (memory.get? overflow id).map fun result => (.got result, memory)
  | .delete id => some (.deleted (memory.delete id).1, (memory.delete id).2)
  | .clear => some (.cleared, memory.clear)
  | .freeElements => some (.freeElements memory.freeCount, memory)

/-- The replies to some calls, one after the other, and the memory after them. -/
def run? (overflow : Overflow) (memory : StoreMemory) :
    List StoreCall → Option (List StoreReply × StoreMemory)
  | [] => some ([], memory)
  | call :: rest => do
    let (reply, after) ← memory.call? overflow call
    let (replies, last) ← run? overflow after rest
    return (reply :: replies, last)

variable {overflow : Overflow} {memory : StoreMemory}

/-! ## The same replies -/

theorem Sound.call (h : memory.Sound) {call : StoreCall} {reply : StoreReply} {after : StoreMemory}
    (hcall : memory.call? overflow call = some (reply, after)) :
    memory.contents.call call = (reply, after.contents) ∧ after.Sound ∧
      after.shapes = memory.shapes := by
  cases call with
  | add data =>
    obtain ⟨⟨result, last⟩, hadd, heq⟩ := Option.map_eq_some_iff.mp hcall
    cases heq
    obtain ⟨hsame, hafter⟩ := h.add hadd
    exact ⟨by rw [PacketStore.call, hsame], hafter⟩
  | get id =>
    rw [call?, h.get overflow id] at hcall
    cases hcall
    exact ⟨rfl, h, rfl⟩
  | delete id =>
    cases hcall
    exact ⟨by rw [PacketStore.call, delete_contents], h.delete id, memory.shapes_delete id⟩
  | clear =>
    cases hcall
    exact ⟨by rw [PacketStore.call, clear_contents], h.clear, memory.shapes_clear⟩
  | freeElements =>
    cases hcall
    exact ⟨by rw [PacketStore.call, freeCount_contents], h, rfl⟩

/-- **The store in memory gives the same replies**, as long as the program goes on. -/
theorem Sound.run (h : memory.Sound) {calls : List StoreCall} {replies : List StoreReply}
    {after : StoreMemory} (hrun : memory.run? overflow calls = some (replies, after)) :
    StoreCall.run PacketStore.call memory.contents calls = (replies, after.contents) ∧
      after.Sound ∧ after.shapes = memory.shapes := by
  induction calls generalizing memory replies with
  | nil =>
    cases hrun
    exact ⟨rfl, h, rfl⟩
  | cons call rest ih =>
    obtain ⟨⟨reply, middle⟩, hcall, hrest⟩ := Option.bind_eq_some_iff.mp hrun
    obtain ⟨⟨later, last⟩, hlater, heq⟩ := Option.bind_eq_some_iff.mp hrest
    cases heq
    obtain ⟨hsame, hmiddle, hshapes⟩ := h.call hcall
    obtain ⟨hreplies, hafter, hkept⟩ := ih hmiddle hlater
    exact ⟨by rw [StoreCall.run, hsame, hreplies], hafter, hkept.trans hshapes⟩

/-! ## Going on -/

theorem Sound.exists_call (h : memory.Sound) (hroomy : memory.Roomy) (overflow : Overflow)
    (call : StoreCall) : ∃ reply after, memory.call? overflow call = some (reply, after) := by
  cases call with
  | add data =>
    obtain ⟨result, after, hadd⟩ := h.exists_add hroomy overflow data
    exact ⟨.added result, after, by rw [call?, hadd]; rfl⟩
  | get id => exact ⟨.got (memory.contents.get id), memory, by rw [call?, h.get overflow id]; rfl⟩
  | delete id => exact ⟨_, _, rfl⟩
  | clear => exact ⟨_, _, rfl⟩
  | freeElements => exact ⟨_, _, rfl⟩

/-- No call ends the program while all pages have the bytes of their slots. -/
theorem Sound.exists_run (h : memory.Sound) (hroomy : memory.Roomy) (overflow : Overflow)
    (calls : List StoreCall) :
    ∃ replies after, memory.run? overflow calls = some (replies, after) := by
  induction calls generalizing memory with
  | nil => exact ⟨_, _, rfl⟩
  | cons call rest ih =>
    obtain ⟨reply, middle, hcall⟩ := h.exists_call hroomy overflow call
    obtain ⟨-, hmiddle, hshapes⟩ := h.call hcall
    obtain ⟨replies, after, hrest⟩ := ih hmiddle (hroomy.of_shapes hshapes)
    refine ⟨reply :: replies, after, ?_⟩
    simp only [run?, hcall, hrest, Option.bind_eq_bind, Option.bind_some, Option.pure_def]

/-- A store of this config is made, and the program goes on whatever is called. -/
def Lasts (overflow : Overflow) (config : StoreConfig) : Prop :=
  ∃ memory, ofConfig? overflow config = some memory ∧ ∀ calls : List StoreCall,
    (∀ call ∈ calls, call.Possible) →
      ∃ replies after, memory.run? overflow calls = some (replies, after)

end StoreMemory

/-! ## Filling a store -/

namespace PacketStore

/-- The same data everywhere. -/
def HoldsOnly (store : PacketStore) (data : Bytes) : Prop :=
  ∀ own ∈ store.pages, ∀ (slot : Nat) (live : Bytes),
    own.slots[slot]? = some (some live) → live = data

theorem holdsOnly_ofConfig (config : StoreConfig) (data : Bytes) :
    (ofConfig config).HoldsOnly data := by
  intro own hmem slot live hlive
  obtain ⟨page, -, rfl⟩ := List.mem_map.mp hmem
  simp [StorePage.ofConfig, Array.getElem?_replicate] at hlive

variable {store : PacketStore} {data : Bytes}

theorem HoldsOnly.setSlot (h : store.HoldsOnly data) (page slot : Nat) :
    (store.setSlot page slot (some data)).HoldsOnly data := by
  intro own hmem other live hlive
  obtain ⟨number, hnumber⟩ := List.mem_iff_getElem?.mp hmem
  rw [PacketStore.setSlot, List.getElem?_modify] at hnumber
  obtain ⟨old, hold, rfl⟩ := Option.map_eq_some_iff.mp hnumber
  have hbefore := h old (List.mem_of_getElem? hold) other live
  split at hlive
  · rw [StorePage.withSlot, Array.getElem?_setIfInBounds] at hlive
    split at hlive
    · split at hlive
      · exact (Option.some.inj (Option.some.inj hlive)).symm
      · cases hlive
    · exact hbefore hlive
  · exact hbefore hlive

/-- Adding the same data again and again leaves no room for them, and nothing else is added. -/
theorem exists_filled (h : store.HoldsOnly data) : ∃ count,
    let after := (StoreCall.run PacketStore.call store (List.replicate count (.add data))).2
    after.place? data = none ∧ after.HoldsOnly data := by
  induction hcount : store.freeCount using Nat.strongRecOn generalizing store with
  | ind free ih =>
    cases hplace : store.place? data with
    | none => exact ⟨0, hplace, h⟩
    | some place =>
      have hadd := add_of_place hplace
      have hless := freeCount_of_added hadd
      obtain ⟨rest, hrest⟩ := ih _ (by omega) (h.setSlot place.1 place.2) rfl
      refine ⟨rest + 1, ?_⟩
      rw [List.replicate_succ, StoreCall.run, PacketStore.call, hadd]
      exact hrest

end PacketStore

namespace PageBuffer

variable {overflow : Overflow} {page : PageBuffer}

/-- If there is room behind the last slot for as many bytes as it can have, there is room for all
slots. -/
theorem allocatable_of_last {config : PageConfig} (h : ofConfig? overflow config = some page)
    (hlast : 0 < page.lengths.size → (page.lengths.size - 1) * page.elementSize.toNat +
      min page.elementSize.toNat maxBytes ≤ page.bytes.length) : config.Allocatable := by
  obtain ⟨size, hsize, hle, rfl⟩ := ofConfig?_eq_some h
  have hmod := Overflow.toNat_of_size? overflow hsize
  rw [UInt16.toNat_toUInt64] at hmod
  rw [Array.size_replicate, List.length_replicate] at hlast
  dsimp only at hlast
  rw [PageConfig.Allocatable]
  cases hcount : config.elements.toNat with
  | zero => exact Nat.zero_le _
  | succ before =>
    rw [hcount] at hlast hmod
    have hroom := hlast (Nat.succ_pos _)
    rw [Nat.add_sub_cancel] at hroom
    rw [Nat.mul_succ, Nat.mul_comm]
    rcases Nat.le_total config.elementSize.toNat maxBytes with hsmall | hlarge
    · rw [Nat.min_eq_left hsmall] at hroom
      exact Nat.le_trans hroom hle
    · -- then there is only one slot, whose size is that of the page
      rw [Nat.min_eq_right hlarge] at hroom
      have hzero : before * config.elementSize.toNat = 0 := by omega
      rw [Nat.mul_succ, Nat.mul_comm, hzero, Nat.zero_add,
        Nat.mod_eq_of_lt config.elementSize.toNat_lt] at hmod
      rw [hzero, Nat.zero_add, ← hmod]
      exact hle

end PageBuffer

namespace StoreMemory

variable {overflow : Overflow} {memory : StoreMemory}

/-- The last slot of a page that is full has its data within the bytes of the page. -/
theorem Sound.last_slot_le (h : memory.Sound) {data : Bytes}
    (hnone : memory.contents.place? data = none) (honly : memory.contents.HoldsOnly data)
    {page : PageBuffer} (hmem : page ∈ memory.pages) (hfits : data.length ≤ page.elementSize.toNat)
    (hslots : 0 < page.lengths.size) :
    (page.lengths.size - 1) * page.elementSize.toNat + data.length ≤ page.bytes.length := by
  have hown : page.contents ∈ memory.contents.pages := List.mem_map_of_mem hmem
  have hspec := PacketStore.placeFrom_spec data 0 memory.contents.pages
  rw [← PacketStore.place?_eq_placeFrom, hnone] at hspec
  have hfull := hspec page.contents hown (decide_eq_true hfits)
  have hslot := StorePage.freeSlot?_eq_none_iff.mp hfull (page.lengths.size - 1)
  have hlt : page.lengths.size - 1 < page.lengths.size := by omega
  rw [StorePage.HasFree, page.getElem?_contents, Array.getElem?_eq_getElem hlt,
    Option.map_some] at hslot
  cases hlength : page.lengths[page.lengths.size - 1] with
  | none => exact absurd (by rw [hlength, Option.map_none]) hslot
  | some length =>
    have hlive : page.lengths[page.lengths.size - 1]? = some (some length) := by
      rw [Array.getElem?_eq_getElem hlt, hlength]
    have hstop := (h page hmem).stop_le _ length hlive
    have hdata := honly page.contents hown (page.lengths.size - 1) _ (by
      rw [page.getElem?_contents, hlive, Option.map_some, Option.map_some])
    have hsame : data.length = length := by
      rw [← hdata, Bytes.slice, List.length_take, List.length_drop]
      omega
    rwa [hsame]

/-- Filling a page again and again shows how many bytes it has. -/
theorem allocatable_of_lasts {config : StoreConfig} (h : Lasts overflow config) :
    config.Allocatable := by
  obtain ⟨memory, hmade, hruns⟩ := h
  intro page hpage
  obtain ⟨own, hown, hcreated⟩ :=
    exists_of_mem_left (pages_ofConfig? hmade) (List.mem_mergeSort.mpr hpage)
  have hconfig : own.elementSize = page.elementSize := by
    obtain ⟨size, -, -, rfl⟩ := PageBuffer.ofConfig?_eq_some hcreated
    rfl
  let data : Bytes := List.replicate (min page.elementSize.toNat maxBytes) 0
  have hlength : data.length = min page.elementSize.toNat maxBytes := List.length_replicate
  obtain ⟨count, hnone, honly⟩ :=
    PacketStore.exists_filled (PacketStore.holdsOnly_ofConfig config data)
  have hpossible : ∀ call ∈ List.replicate count (StoreCall.add data), call.Possible := by
    intro call hcall other hother
    rw [List.eq_of_mem_replicate hcall] at hother
    cases hother
    exact Nat.le_trans (Nat.le_of_eq hlength) (Nat.min_le_right ..)
  obtain ⟨replies, after, hrun⟩ := hruns _ hpossible
  obtain ⟨hsame, hsound, hshapes⟩ := (sound_ofConfig? hmade).run hrun
  rw [contents_ofConfig? hmade] at hsame
  rw [hsame] at hnone honly
  obtain ⟨last, hlast, hsize, hbytes, hslots⟩ := exists_of_shapes hshapes.symm hown
  refine PageBuffer.allocatable_of_last hcreated fun hpos => ?_
  rw [← hslots] at hpos ⊢
  rw [← hsize, ← hbytes]
  have hroom := hsound.last_slot_le hnone honly hlast
    (by rw [hlength, hsize, hconfig]; exact Nat.min_le_left ..) hpos
  rwa [hlength, ← hconfig, ← hsize] at hroom

/-- **The program goes on whatever is called**, exactly if no page has too many bytes. -/
theorem lasts_iff {config : StoreConfig} :
    Lasts overflow config ↔ config.Allocatable := by
  constructor
  · exact allocatable_of_lasts
  · intro h
    obtain ⟨memory, hmade, hroomy⟩ := exists_ofConfig? overflow h
    exact ⟨memory, hmade, fun calls _ => (sound_ofConfig? hmade).exists_run hroomy overflow calls⟩

end StoreMemory

end Housekeeper
