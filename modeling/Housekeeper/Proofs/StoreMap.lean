import Mathlib.Data.Set.Card
import Housekeeper.Proofs.StoreCalls

/-!
# The store as a map

`StoreMap` is what a store is to those who use it: the data of every id that is in use.
`StoreMap.Call` says what a call answers to them and what it makes of the map, and
`PacketStore.refines_map` that over any calls the store gives no other answers. In memory it gives
the same ones.
-/

namespace Housekeeper

/-! ## The map -/

/-- The data of every id that is in use. -/
abbrev StoreMap := StoreId → Option Bytes

/-- The pages in the order in which they are filled. -/
def StoreConfig.ordered (config : StoreConfig) : List PageConfig :=
  config.pages.mergeSort fun a b => a.elementSize ≤ b.elementSize

namespace StoreMap

def empty : StoreMap := fun _ => none

def set (map : StoreMap) (id : StoreId) (data : Option Bytes) : StoreMap :=
  fun other => if other = id then data else map other

/-- The ids that are in use. -/
def live (map : StoreMap) : Set StoreId := {id | map id ≠ none}

/-- An id that is not in use and stands for a slot that can hold the data. -/
structure CanHold (config : StoreConfig) (map : StoreMap) (data : Bytes) (id : StoreId)
    (page : PageConfig) : Prop where
  page_eq : config.ordered[id.page.toNat]? = some page
  slot_lt : id.slot.toNat < page.elements.toNat
  fits : data.length ≤ page.elementSize.toNat
  free : map id = none

/-- What adding data answers and what it makes of the map. -/
structure Add (config : StoreConfig) (map : StoreMap) (data : Bytes)
    (result : Except PoolError StoreId) (after : StoreMap) : Prop where
  /-- The data go where they can, on a page with elements as small as possible. -/
  ok : ∀ id, result = .ok id → after = map.set id (some data) ∧
    ∃ page, CanHold config map data id page ∧
      ∀ other page', CanHold config map data other page' → page.elementSize ≤ page'.elementSize
  tooLarge : result = .error .dataTooLarge ↔
    ∀ page ∈ config.pages, page.elementSize.toNat < data.length
  full : result = .error .storeFull ↔
    (∃ page ∈ config.pages, data.length ≤ page.elementSize.toNat) ∧
      ∀ id page, ¬ CanHold config map data id page
  error : ∀ e, result = .error e → after = map ∧ (e = .dataTooLarge ∨ e = .storeFull)

/-- What a call answers and what it makes of the map. -/
inductive Call (config : StoreConfig) (map : StoreMap) :
    StoreCall → StoreReply → StoreMap → Prop where
  | add {data : Bytes} {result : Except PoolError StoreId} {after : StoreMap}
      (h : Add config map data result after) : Call config map (.add data) (.added result) after
  | found {id : StoreId} {data : Bytes} (h : map id = some data) :
      Call config map (.get id) (.got (.ok data)) map
  | missing {id : StoreId} (h : map id = none) :
      Call config map (.get id) (.got (.error .dataDoesNotExist)) map
  | deleted {id : StoreId} {data : Bytes} (h : map id = some data) :
      Call config map (.delete id) (.deleted (.ok ())) (map.set id none)
  | absent {id : StoreId} (h : map id = none) :
      Call config map (.delete id) (.deleted (.error .dataDoesNotExist)) map
  | clear : Call config map .clear .cleared empty
  | freeElements {count : Nat} (h : count + map.live.ncard = config.capacity) :
      Call config map .freeElements (.freeElements count) map

/-- The replies to some calls, one after the other, and the map after them. -/
inductive Calls (config : StoreConfig) :
    StoreMap → List StoreCall → List StoreReply → StoreMap → Prop where
  | nil {map : StoreMap} : Calls config map [] [] map
  | cons {map middle after : StoreMap} {call : StoreCall} {calls : List StoreCall}
      {reply : StoreReply} {replies : List StoreReply} (head : Call config map call reply middle)
      (tail : Calls config middle calls replies after) :
      Calls config map (call :: calls) (reply :: replies) after

/-! ### Ids in use -/

theorem finite_storeId : Finite StoreId := by
  apply Finite.of_injective fun id : StoreId => (id.page.toFin, id.slot.toFin)
  rintro ⟨page, slot⟩ ⟨page', slot'⟩ h
  obtain ⟨hpage, hslot⟩ := Prod.mk.inj h
  exact congrArg₂ StoreId.mk (UInt16.toFin_inj.mp hpage) (UInt16.toFin_inj.mp hslot)

theorem live_empty : empty.live = ∅ := by
  ext id
  simp [live, empty]

variable {map : StoreMap} {id : StoreId}

theorem ncard_live_add (hfree : map id = none) (data : Bytes) :
    (map.set id (some data)).live.ncard = map.live.ncard + 1 := by
  have := finite_storeId
  have hlive : (map.set id (some data)).live = insert id map.live := by
    ext other
    by_cases hsame : other = id <;> simp [live, set, hsame]
  rw [hlive, Set.ncard_insert_of_notMem (by simp [live, hfree])]

theorem ncard_live_delete {data : Bytes} (hlive : map id = some data) :
    (map.set id none).live.ncard + 1 = map.live.ncard := by
  have := finite_storeId
  have hless : (map.set id none).live = map.live \ {id} := by
    ext other
    by_cases hsame : other = id <;> simp [live, set, hsame]
  rw [hless, Set.ncard_sdiff_singleton_add_one (by simp [live, hlive])]

end StoreMap

/-! ## Pages -/

namespace StoreConfig

theorem mem_ordered {config : StoreConfig} {page : PageConfig} :
    page ∈ config.ordered ↔ page ∈ config.pages := List.mem_mergeSort

/-- Pages come before those with larger elements. -/
theorem elementSize_le {config : StoreConfig} {i j : Nat} (hle : i ≤ j) {page page' : PageConfig}
    (hi : config.ordered[i]? = some page) (hj : config.ordered[j]? = some page') :
    page.elementSize ≤ page'.elementSize := by
  have hsorted : config.ordered.Pairwise fun a b => decide (a.elementSize ≤ b.elementSize) = true :=
    List.pairwise_mergeSort
      (fun a b c hab hbc => by
        simp only [decide_eq_true_eq] at hab hbc ⊢
        exact UInt64.le_trans hab hbc)
      (fun a b => by
        simp only [Bool.or_eq_true, decide_eq_true_eq]
        exact UInt64.le_total a.elementSize b.elementSize)
      config.pages
  obtain ⟨hi', rfl⟩ := List.getElem?_eq_some_iff.mp hi
  obtain ⟨hj', rfl⟩ := List.getElem?_eq_some_iff.mp hj
  rcases Nat.eq_or_lt_of_le hle with rfl | hlt
  · exact UInt64.le_refl _
  · exact of_decide_eq_true (List.pairwise_iff_getElem.mp hsorted i j hi' hj' hlt)

end StoreConfig

/-! ### What adding may answer -/

namespace StoreMap.Add

variable {config : StoreConfig} {map : StoreMap} {data : Bytes}

theorem stored {id : StoreId} {page : PageConfig} (hcan : CanHold config map data id page)
    (hleast : ∀ other page', CanHold config map data other page' →
      page.elementSize ≤ page'.elementSize) :
    Add config map data (.ok id) (map.set id (some data)) where
  ok own hown := by
    cases hown
    exact ⟨rfl, page, hcan, hleast⟩
  tooLarge := by
    constructor
    · intro h
      cases h
    · intro hsmall
      have hmem := StoreConfig.mem_ordered.mp (List.mem_of_getElem? hcan.page_eq)
      exact absurd (hsmall page hmem) (Nat.not_lt.mpr hcan.fits)
  full := by
    constructor
    · intro h
      cases h
    · rintro ⟨-, hnone⟩
      exact absurd hcan (hnone id page)
  error e h := by cases h

theorem storeFull (hfits : ∃ page ∈ config.pages, data.length ≤ page.elementSize.toNat)
    (hnone : ∀ id page, ¬ CanHold config map data id page) :
    Add config map data (.error .storeFull) map where
  ok id h := by cases h
  tooLarge := by
    constructor
    · intro h
      cases h
    · intro hsmall
      obtain ⟨page, hmem, hle⟩ := hfits
      exact absurd (hsmall page hmem) (Nat.not_lt.mpr hle)
  full := ⟨fun _ => ⟨hfits, hnone⟩, fun _ => rfl⟩
  error e h := by
    cases h
    exact ⟨rfl, .inr rfl⟩

theorem dataTooLarge (hsmall : ¬ ∃ page ∈ config.pages, data.length ≤ page.elementSize.toNat) :
    Add config map data (.error .dataTooLarge) map where
  ok id h := by cases h
  tooLarge := by
    constructor
    · intro _ page hmem
      exact Nat.lt_of_not_le fun hle => hsmall ⟨page, hmem, hle⟩
    · intro _
      rfl
  full := by
    constructor
    · intro h
      cases h
    · rintro ⟨hfits, -⟩
      exact absurd hfits hsmall
  error e h := by
    cases h
    exact ⟨rfl, .inl rfl⟩

end StoreMap.Add

/-! ## The pages of a config -/

/-- The size of the elements and how many there are. -/
def StorePage.shape (page : StorePage) : Nat × Nat := (page.elementSize, page.slots.size)

def PageConfig.shape (page : PageConfig) : Nat × Nat :=
  (page.elementSize.toNat, page.elements.toNat)

/-- A page of this shape on which nothing is in use. -/
def StorePage.blank (shape : Nat × Nat) : StorePage := ⟨shape.1, Array.replicate shape.2 none⟩

namespace PacketStore

/-- The pages are those of the config, each slot has an id, and there are as many free slots as the
ids in use leave. -/
structure BuiltFrom (config : StoreConfig) (store : PacketStore) : Prop where
  shapes : store.pages.map StorePage.shape = config.ordered.map PageConfig.shape
  freeCount_add : store.freeCount + (StoreMap.live store.get?).ncard = config.capacity
  addressable : store.Addressable

theorem get?_ofConfig (config : StoreConfig) : (ofConfig config).get? = StoreMap.empty := by
  funext id
  cases hpage : (ofConfig config).pages[id.page.toNat]? with
  | none => simp [get?, hpage, StoreMap.empty]
  | some own =>
    obtain ⟨page, -, rfl⟩ := List.mem_map.mp (List.mem_of_getElem? hpage)
    simp only [get?, hpage, Option.bind_some, StorePage.ofConfig, Array.getElem?_replicate]
    split <;> rfl

theorem shapes_ofConfig (config : StoreConfig) :
    (ofConfig config).pages.map StorePage.shape = config.ordered.map PageConfig.shape := by
  have hpage : StorePage.shape ∘ StorePage.ofConfig = PageConfig.shape := by
    funext page
    simp [StorePage.shape, StorePage.ofConfig, PageConfig.shape]
  rw [ofConfig, List.map_map, hpage, StoreConfig.ordered]

theorem page_of_own {config : StoreConfig} {store : PacketStore}
    (h : store.pages.map StorePage.shape = config.ordered.map PageConfig.shape) {number : Nat}
    {own : StorePage} (hown : store.pages[number]? = some own) :
    ∃ page, config.ordered[number]? = some page ∧ page.shape = own.shape := by
  have hshape : (config.ordered.map PageConfig.shape)[number]? = some own.shape := by
    rw [← h, List.getElem?_map, hown, Option.map_some]
  rw [List.getElem?_map] at hshape
  exact Option.map_eq_some_iff.mp hshape

theorem builtFrom_ofConfig {config : StoreConfig} (h : config.pages.length ≤ UInt16.size) :
    (ofConfig config).BuiltFrom config where
  shapes := shapes_ofConfig config
  freeCount_add := by
    rw [freeCount_ofConfig, get?_ofConfig, StoreMap.live_empty, Set.ncard_empty, Nat.add_zero]
  addressable := addressable_ofConfig h

theorem shapes_setSlot (store : PacketStore) (page slot : Nat) (data : Option Bytes) :
    (store.setSlot page slot data).pages.map StorePage.shape = store.pages.map StorePage.shape := by
  have hshape (own : StorePage) : (own.withSlot slot data).shape = id own.shape := by
    simp only [StorePage.shape, StorePage.size_withSlot]
    rfl
  rw [setSlot, map_modify _ hshape, List.modify_id]

namespace BuiltFrom

variable {config : StoreConfig} {store : PacketStore}

/-- Clearing a store makes it a new one. -/
theorem clear_eq (h : store.BuiltFrom config) : store.clear = ofConfig config := by
  have hpages : store.pages.map StorePage.cleared = config.ordered.map StorePage.ofConfig := by
    have hcleared : StorePage.cleared = StorePage.blank ∘ StorePage.shape := rfl
    have hnew : StorePage.ofConfig = StorePage.blank ∘ PageConfig.shape := rfl
    rw [hcleared, hnew, ← List.map_map, ← List.map_map, h.shapes]
  rw [clear, hpages, ofConfig, StoreConfig.ordered]

theorem own_of_page (h : store.BuiltFrom config) {number : Nat} {page : PageConfig}
    (hpage : config.ordered[number]? = some page) :
    ∃ own, store.pages[number]? = some own ∧ own.shape = page.shape := by
  have hshape : (store.pages.map StorePage.shape)[number]? = some page.shape := by
    rw [h.shapes, List.getElem?_map, hpage, Option.map_some]
  rw [List.getElem?_map] at hshape
  exact Option.map_eq_some_iff.mp hshape

/-- An id can hold data if its slot is free and large enough. -/
theorem canHold_iff (h : store.BuiltFrom config) {data : Bytes} {id : StoreId} {page : PageConfig} :
    StoreMap.CanHold config store.get? data id page ↔
      config.ordered[id.page.toNat]? = some page ∧
        ∃ own, store.pages[id.page.toNat]? = some own ∧ own.fits data ∧
          own.HasFree id.slot.toNat := by
  constructor
  · rintro ⟨hpage, hslot, hfits, hfree⟩
    obtain ⟨own, hown, hshape⟩ := h.own_of_page hpage
    obtain ⟨hsize, hcount⟩ := Prod.mk.inj hshape
    refine ⟨hpage, own, hown, decide_eq_true (by rw [hsize]; exact hfits), ?_⟩
    rw [← hcount] at hslot
    simp only [get?, hown, Option.bind_some, Array.getElem?_eq_getElem hslot] at hfree
    rw [StorePage.HasFree, Array.getElem?_eq_getElem hslot]
    exact congrArg some hfree
  · rintro ⟨hpage, own, hown, hfits, hfree⟩
    obtain ⟨page', hpage', hshape⟩ := page_of_own h.shapes hown
    obtain rfl := Option.some.inj (hpage.symm.trans hpage')
    obtain ⟨hsize, hcount⟩ := Prod.mk.inj hshape
    refine ⟨hpage, by rw [hcount]; exact hfree.lt, ?_, get?_of_free hown hfree⟩
    rw [hsize]
    exact of_decide_eq_true hfits

theorem any_fits_iff (h : store.BuiltFrom config) {data : Bytes} :
    (store.pages.any fun page => page.fits data) = true ↔
      ∃ page ∈ config.pages, data.length ≤ page.elementSize.toNat := by
  rw [List.any_eq_true]
  constructor
  · rintro ⟨own, hmem, hfits⟩
    obtain ⟨number, hown⟩ := List.mem_iff_getElem?.mp hmem
    obtain ⟨page, hpage, hshape⟩ := page_of_own h.shapes hown
    refine ⟨page, StoreConfig.mem_ordered.mp (List.mem_of_getElem? hpage), ?_⟩
    rw [(Prod.mk.inj hshape).1]
    exact of_decide_eq_true hfits
  · rintro ⟨page, hmem, hfits⟩
    obtain ⟨number, hpage⟩ := List.mem_iff_getElem?.mp (StoreConfig.mem_ordered.mpr hmem)
    obtain ⟨own, hown, hshape⟩ := h.own_of_page hpage
    refine ⟨own, List.mem_of_getElem? hown, decide_eq_true ?_⟩
    rw [(Prod.mk.inj hshape).1]
    exact hfits

/-- Data that have no place anywhere. -/
theorem add_of_none (h : store.BuiltFrom config) {data : Bytes}
    (hplace : store.place? data = none) :
    StoreMap.Add config store.get? data (store.add data).1 (store.add data).2.get? := by
  have hfull : ∀ own ∈ store.pages, own.fits data → own.freeSlot? = none := by
    have hspec := placeFrom_spec data 0 store.pages
    rw [← place?_eq_placeFrom, hplace] at hspec
    exact hspec
  have hnone (id : StoreId) (page : PageConfig) :
      ¬ StoreMap.CanHold config store.get? data id page := by
    intro hcan
    obtain ⟨-, own, hown, hfits, hfree⟩ := h.canHold_iff.mp hcan
    exact StorePage.freeSlot?_eq_none_iff.mp (hfull own (List.mem_of_getElem? hown) hfits) _ hfree
  have hadd : store.add data =
      (.error (if store.pages.any fun page => page.fits data then .storeFull else .dataTooLarge),
        store) := by
    simp only [add, hplace]
  rw [hadd]
  by_cases hfits : ∃ page ∈ config.pages, data.length ≤ page.elementSize.toNat
  · rw [if_pos (h.any_fits_iff.mpr hfits)]
    exact .storeFull hfits hnone
  · rw [if_neg fun hany => hfits (h.any_fits_iff.mp hany)]
    exact .dataTooLarge hfits

/-- Data that have a place. -/
theorem add_of_some (h : store.BuiltFrom config) {data : Bytes} {number slot : Nat}
    (hplace : store.place? data = some (number, slot)) :
    StoreMap.Add config store.get? data (store.add data).1 (store.add data).2.get? ∧
      (store.add data).2.BuiltFrom config := by
  have hspec := placeFrom_spec data 0 store.pages
  rw [← place?_eq_placeFrom, hplace] at hspec
  obtain ⟨index, own, hindex, hown, hfits, hfree, hfirst⟩ := hspec
  rw [Nat.zero_add] at hindex
  subst hindex
  obtain ⟨hnumber, hslot⟩ := toNat_of_not_misplaces (h.addressable.not_misplaces data) hplace
  have hadd := add_of_place hplace
  obtain ⟨hunused, hget, hcount, haddressable⟩ := h.addressable.add_spec hadd
  obtain ⟨page, hpage, -⟩ := page_of_own h.shapes hown
  have hcan : StoreMap.CanHold config store.get? data
      ⟨UInt16.ofNat number, UInt16.ofNat slot⟩ page := by
    rw [h.canHold_iff, hnumber, hslot]
    exact ⟨hpage, own, hown, hfits, hfree⟩
  have hmap : (store.setSlot number slot (some data)).get? =
      StoreMap.set store.get? ⟨UInt16.ofNat number, UInt16.ofNat slot⟩ (some data) := funext hget
  rw [hadd]
  constructor
  · show StoreMap.Add _ _ _ _ (store.setSlot number slot (some data)).get?
    rw [hmap]
    refine .stored hcan fun other page' hcan' => ?_
    obtain ⟨hpage', own', hown', hfits', hfree'⟩ := h.canHold_iff.mp hcan'
    refine StoreConfig.elementSize_le (Nat.le_of_not_lt fun hlt => ?_) hpage hpage'
    exact StorePage.freeSlot?_eq_none_iff.mp (hfirst _ hlt own' hown' hfits') _ hfree'
  · refine ⟨by rw [shapes_setSlot, h.shapes], ?_, haddressable⟩
    show (store.setSlot number slot (some data)).freeCount +
      (StoreMap.live (store.setSlot number slot (some data)).get?).ncard = config.capacity
    rw [hmap, StoreMap.ncard_live_add hunused]
    have hbefore := h.freeCount_add
    omega

theorem delete (h : store.BuiltFrom config) {id : StoreId} {data : Bytes}
    (hlive : store.get? id = some data) :
    (store.delete id).2.get? = StoreMap.set store.get? id none ∧
      (store.delete id).2.BuiltFrom config := by
  obtain ⟨-, hget, hcount, haddressable⟩ := h.addressable.delete_spec hlive
  have hmap : (store.delete id).2.get? = StoreMap.set store.get? id none := funext hget
  refine ⟨hmap, ?_, ?_, haddressable⟩
  · rw [delete_of_live hlive, shapes_setSlot, h.shapes]
  · have hless : (StoreMap.set store.get? id none).live.ncard + 1 =
        (StoreMap.live store.get?).ncard := StoreMap.ncard_live_delete hlive
    have hbefore := h.freeCount_add
    rw [hmap]
    omega

/-- A call answers as the map says. -/
theorem call (h : store.BuiltFrom config) (bound : config.pages.length ≤ UInt16.size)
    (call : StoreCall) :
    StoreMap.Call config store.get? call (store.call call).1 (store.call call).2.get? ∧
      (store.call call).2.BuiltFrom config := by
  cases call with
  | add data =>
    cases hplace : store.place? data with
    | none =>
      obtain ⟨e, he⟩ := add_of_full hplace
      refine ⟨.add (h.add_of_none hplace), ?_⟩
      simp only [PacketStore.call, he]
      exact h
    | some place =>
      obtain ⟨hadd, hafter⟩ := h.add_of_some hplace
      exact ⟨.add hadd, hafter⟩
  | get id =>
    refine ⟨?_, h⟩
    cases hlive : store.get? id with
    | none =>
      simp only [PacketStore.call, get, hlive]
      exact .missing hlive
    | some data =>
      simp only [PacketStore.call, get, hlive]
      exact .found hlive
  | delete id =>
    cases hlive : store.get? id with
    | none =>
      simp only [PacketStore.call, PacketStore.delete, hlive]
      exact ⟨.absent hlive, h⟩
    | some data =>
      obtain ⟨hmap, hafter⟩ := h.delete hlive
      refine ⟨?_, hafter⟩
      simp only [PacketStore.call]
      rw [hmap, delete_of_live hlive]
      exact .deleted hlive
  | clear =>
    simp only [PacketStore.call, h.clear_eq, get?_ofConfig]
    exact ⟨.clear, builtFrom_ofConfig bound⟩
  | freeElements => exact ⟨.freeElements h.freeCount_add, h⟩

theorem run (h : store.BuiltFrom config) (bound : config.pages.length ≤ UInt16.size)
    (calls : List StoreCall) :
    StoreMap.Calls config store.get? calls (StoreCall.run PacketStore.call store calls).1
        (StoreCall.run PacketStore.call store calls).2.get? ∧
      (StoreCall.run PacketStore.call store calls).2.BuiltFrom config := by
  induction calls generalizing store with
  | nil => exact ⟨.nil, h⟩
  | cons call rest ih =>
    obtain ⟨hcall, hafter⟩ := h.call bound call
    obtain ⟨hrest, hend⟩ := ih hafter
    exact ⟨.cons hcall hrest, hend⟩

end BuiltFrom

/-- **The store is a map from ids to data**, from which no call can tell it apart. In memory it
gives the same replies as long as the program goes on, and whatever is called the program goes on
exactly if no page has too many bytes. -/
theorem refines_map (config : StoreConfig) (bound : config.pages.length ≤ UInt16.size)
    (overflow : Overflow) :
    (∀ calls, let run := StoreCall.run PacketStore.call (ofConfig config) calls
      StoreMap.Calls config StoreMap.empty calls run.1 run.2.get? ∧
        run.2.freeCount + (StoreMap.live run.2.get?).ncard = config.capacity) ∧
    (∀ memory calls replies after, StoreMemory.ofConfig? overflow config = some memory →
      memory.run? overflow calls = some (replies, after) →
      StoreCall.run PacketStore.call (ofConfig config) calls = (replies, after.contents)) ∧
    (StoreMemory.Lasts overflow config ↔ config.Allocatable) := by
  refine ⟨fun calls => ?_, fun memory calls replies after hmade hrun => ?_, StoreMemory.lasts_iff⟩
  · obtain ⟨hcalls, hafter⟩ := (builtFrom_ofConfig bound).run bound calls
    rw [get?_ofConfig] at hcalls
    exact ⟨hcalls, hafter.freeCount_add⟩
  · rw [← StoreMemory.contents_ofConfig? hmade]
    exact ((StoreMemory.sound_ofConfig? hmade).run hrun).1

/-- One slot of four bytes and one of sixteen. -/
def twoSlots : StoreConfig := ⟨[⟨1, 4⟩, ⟨1, 16⟩]⟩

theorem ofConfig_twoSlots : ofConfig twoSlots = ⟨[⟨4, #[none]⟩, ⟨16, #[none]⟩]⟩ := by
  have hsorted : twoSlots.pages.mergeSort (fun a b => a.elementSize ≤ b.elementSize) =
      twoSlots.pages := List.mergeSort_of_pairwise (by decide)
  rw [ofConfig, hsorted]
  rfl

/-- The second element takes the larger slot while the smaller one is full. A short element in the
slot of a longer one shows nothing of it. -/
theorem twoSlots_refine_map :
    twoSlots.pages.length ≤ UInt16.size ∧
      ∃ memory after map, StoreMemory.ofConfig? .stop twoSlots = some memory ∧
        memory.run? .stop
          [.add [1, 2, 3, 4], .add [5], .delete ⟨0, 0⟩, .add [9], .get ⟨0, 0⟩, .add [],
            .freeElements] =
          some ([.added (.ok ⟨0, 0⟩), .added (.ok ⟨1, 0⟩), .deleted (.ok ()), .added (.ok ⟨0, 0⟩),
            .got (.ok [9]), .added (.error .storeFull), .freeElements 0], after) ∧
        StoreMap.Calls twoSlots StoreMap.empty
          [.add [1, 2, 3, 4], .add [5], .delete ⟨0, 0⟩, .add [9], .get ⟨0, 0⟩, .add [],
            .freeElements]
          [.added (.ok ⟨0, 0⟩), .added (.ok ⟨1, 0⟩), .deleted (.ok ()), .added (.ok ⟨0, 0⟩),
            .got (.ok [9]), .added (.error .storeFull), .freeElements 0] map := by
  obtain ⟨hmap, hsame, hlasts⟩ := refines_map twoSlots (by decide) .stop
  obtain ⟨memory, hmade, hruns⟩ := hlasts.mpr (by decide)
  obtain ⟨replies, after, hrun⟩ := hruns
    [.add [1, 2, 3, 4], .add [5], .delete ⟨0, 0⟩, .add [9], .get ⟨0, 0⟩, .add [], .freeElements]
    (by simp [StoreCall.Possible, maxBytes])
  have hcalls := hsame memory _ replies after hmade hrun
  have hreplies : (StoreCall.run PacketStore.call (ofConfig twoSlots)
      [.add [1, 2, 3, 4], .add [5], .delete ⟨0, 0⟩, .add [9], .get ⟨0, 0⟩, .add [],
        .freeElements]).1 =
      [.added (.ok ⟨0, 0⟩), .added (.ok ⟨1, 0⟩), .deleted (.ok ()), .added (.ok ⟨0, 0⟩),
        .got (.ok [9]), .added (.error .storeFull), .freeElements 0] := by
    rw [ofConfig_twoSlots]
    simp [StoreCall.run, PacketStore.call, add, get, PacketStore.delete, get?, place?, setSlot,
      freeCount, StorePage.fits, StorePage.freeSlot?, StorePage.withSlot, StorePage.freeCount]
  have hspec := (hmap [.add [1, 2, 3, 4], .add [5], .delete ⟨0, 0⟩, .add [9], .get ⟨0, 0⟩, .add [],
    .freeElements]).1
  rw [hreplies] at hspec
  rw [hcalls] at hreplies
  cases hreplies
  exact ⟨by decide, memory, after, _, hmade, hrun, hspec⟩

/-- One page whose bytes are as many as 64 bits can count, and one more. -/
def hugePage : StoreConfig := ⟨[⟨32768, 562949953421312⟩]⟩

/-- A page without bytes is free, and adding to it ends the program. -/
theorem run?_of_no_bytes {elementSize : UInt64} (hsize : 1 ≤ elementSize.toNat) {count : Nat}
    (hcount : 0 < count) (overflow : Overflow) :
    StoreMemory.run? overflow ⟨[⟨elementSize, [], Array.replicate count none⟩]⟩ [.add [1]] =
      none := by
  have hfree : PageBuffer.freeSlot? ⟨elementSize, [], Array.replicate count none⟩ = some 0 := by
    rw [PageBuffer.freeSlot?, Array.findIdx?_replicate, if_pos ⟨hcount, rfl⟩]
  have hstart :
      PageBuffer.start? overflow ⟨elementSize, [], Array.replicate count none⟩ 0 1 = none := by
    have hzero : overflow.mul? (UInt64.ofNat 0) elementSize = some (UInt64.ofNat 0) := by
      rw [Overflow.mul?, UInt64.toNat_ofNat_of_lt' (by decide), Nat.zero_mul,
        overflow.size?_of_lt (by decide)]
    have hone : overflow.add? (UInt64.ofNat 0) (UInt64.ofNat 1) = some (UInt64.ofNat 1) :=
      overflow.size?_of_lt (by decide)
    rw [PageBuffer.start?, hzero, Option.bind_eq_bind, Option.bind_some, hone, Option.bind_some]
    exact if_neg fun h => Nat.not_succ_le_zero 0 h.2
  simp [StoreMemory.run?, StoreMemory.call?, StoreMemory.add?, StoreMemory.addFrom?, hsize, hfree,
    PageBuffer.fill?, hstart]

theorem ofConfig?_of_no_bytes {overflow : Overflow} (page : PageConfig)
    (h : overflow.mul? page.elementSize page.elements.toUInt64 = some 0) :
    StoreMemory.ofConfig? overflow ⟨[page]⟩ =
      some ⟨[⟨page.elementSize, [], Array.replicate page.elements.toNat none⟩]⟩ := by
  have hmade : PageBuffer.ofConfig? overflow page =
      some ⟨page.elementSize, [], Array.replicate page.elements.toNat none⟩ := by
    rw [PageBuffer.ofConfig?, h]
    rfl
  rw [StoreMemory.ofConfig?, List.mergeSort_singleton, List.mapM_cons, hmade]
  rfl

/-- **A page with too many bytes for 64 bits**: making it ends the program, or it has none of them
and its first element ends the program. -/
theorem hugePage_ends :
    hugePage.pages.length ≤ UInt16.size ∧ StoreMemory.ofConfig? .stop hugePage = none ∧
      ∃ memory, StoreMemory.ofConfig? .wrap hugePage = some memory ∧ memory.freeCount = 32768 ∧
        memory.run? .wrap [.add [1]] = none := by
  have hzero : Overflow.mul? .wrap 562949953421312 (32768 : UInt16).toUInt64 = some 0 := by decide
  have hmade := ofConfig?_of_no_bytes ⟨32768, 562949953421312⟩ hzero
  refine ⟨by decide, ?_, _, hmade, ?_, run?_of_no_bytes (by decide) (by decide) .wrap⟩
  · rw [Option.eq_none_iff_forall_ne_some]
    intro memory hstop
    exact absurd (StoreMemory.allocatable_of_stop hstop) (by decide)
  · rw [← StoreMemory.freeCount_contents, StoreMemory.contents_ofConfig? hmade,
      freeCount_ofConfig]
    rfl

end PacketStore

end Housekeeper
