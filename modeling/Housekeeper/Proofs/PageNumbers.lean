import Housekeeper.Proofs.StoreMap

/-!
# Pages without a number of their own

An id has 16 bits for the page, and a config may have more pages than that. Data that go to a page
behind these get the id of something else. All other data get an id that was free, under which they
are found and can be deleted as if they had never been there (`PacketStore.NamesAdded`).

As long as the pages without a number have no slots, all data are among the others; a single slot
on one of them can be reached by filling all slots before it (`exists_misplaced`). So
`ids_name_what_was_added` says exactly which configs give every element an id of its own. In
`oneMore` an element of the last page cannot be found, and its id is given away once more
(`lost_under_its_id`).
-/

namespace Housekeeper

/-- The pages behind the last page number. -/
def StoreConfig.unnumbered (config : StoreConfig) : List PageConfig :=
  config.ordered.drop UInt16.size

theorem StoreConfig.mem_unnumbered {config : StoreConfig} {page : PageConfig} :
    page ∈ config.unnumbered ↔ ∃ number, UInt16.size ≤ number ∧
      config.ordered[number]? = some page := by
  rw [unnumbered, List.mem_iff_getElem?]
  simp only [List.getElem?_drop]
  constructor
  · rintro ⟨index, hindex⟩
    exact ⟨UInt16.size + index, Nat.le_add_right .., hindex⟩
  · rintro ⟨number, hle, hnumber⟩
    exact ⟨number - UInt16.size, by rwa [Nat.add_sub_cancel' hle]⟩

theorem StorePage.freeSlot?_ofConfig {page : PageConfig} (h : 0 < page.elements.toNat) :
    (StorePage.ofConfig page).freeSlot? = some 0 := by
  rw [freeSlot?, ofConfig, Array.findIdx?_replicate, if_pos ⟨h, rfl⟩]

namespace PacketStore

/-- The id was free, is that of the data now, and deleting it undoes the adding. -/
structure NamesAdded (store : PacketStore) (data : Bytes) (id : StoreId) (after : PacketStore) :
    Prop where
  free : store.get? id = none
  get_eq : after.get id = .ok data
  delete_eq : after.delete id = (.ok (), store)

theorem namesAdded_iff {store after : PacketStore} {data : Bytes} {id : StoreId}
    (hadd : store.add data = (.ok id, after)) :
    store.NamesAdded data id after ↔ ¬ store.Misplaces data := by
  constructor
  · rintro ⟨hfree, hget, -⟩ hmisplaced
    rw [get, get?_of_misplaced hadd hmisplaced, hfree] at hget
    cases hget
  · intro hplaced
    refine ⟨get?_of_unadded hadd hplaced, ?_, delete_after_add hadd hplaced⟩
    rw [get, get?_of_added hadd hplaced]

/-! ## Reached stores -/

/-- The store that some calls make of a new one. -/
def reached (config : StoreConfig) (calls : List StoreCall) : PacketStore :=
  (StoreCall.run PacketStore.call (ofConfig config) calls).2

theorem shapes_call (store : PacketStore) (call : StoreCall) :
    (store.call call).2.pages.map StorePage.shape = store.pages.map StorePage.shape := by
  cases call with
  | add data =>
    simp only [PacketStore.call, add]
    split
    · exact shapes_setSlot ..
    · rfl
  | delete id =>
    simp only [PacketStore.call, delete]
    split
    · exact shapes_setSlot ..
    · rfl
  | clear =>
    have hcleared (page : StorePage) : page.cleared.shape = page.shape := by
      simp [StorePage.shape, StorePage.cleared]
    simp only [PacketStore.call, clear, List.map_map, Function.comp_def, hcleared]
  | get id => rfl
  | freeElements => rfl

theorem shapes_run (store : PacketStore) (calls : List StoreCall) :
    (StoreCall.run PacketStore.call store calls).2.pages.map StorePage.shape =
      store.pages.map StorePage.shape := by
  induction calls generalizing store with
  | nil => rfl
  | cons call rest ih => exact (ih (store.call call).2).trans (store.shapes_call call)

theorem shapes_reached (config : StoreConfig) (calls : List StoreCall) :
    (reached config calls).pages.map StorePage.shape = config.ordered.map PageConfig.shape :=
  (shapes_run (ofConfig config) calls).trans (shapes_ofConfig config)

/-- A slot always has a number, because a page has no more slots than 16 bits can count. -/
theorem place?_reached {config : StoreConfig} {calls : List StoreCall} {data : Bytes}
    {number slot : Nat} (hplace : (reached config calls).place? data = some (number, slot)) :
    ∃ page, config.ordered[number]? = some page ∧ slot < page.elements.toNat ∧
      slot < UInt16.size := by
  obtain ⟨own, hown, hfree⟩ := place?_spec hplace
  obtain ⟨page, hpage, hshape⟩ := page_of_own (shapes_reached config calls) hown
  have hcount : page.elements.toNat = own.slots.size := (Prod.mk.inj hshape).2
  have hslot := hfree.lt
  have hbound := page.elements.toNat_lt
  unfold UInt16.size
  exact ⟨page, hpage, by omega, by omega⟩

theorem misplaces_reached_iff {config : StoreConfig} {calls : List StoreCall} {data : Bytes} :
    (reached config calls).Misplaces data ↔ ∃ number slot, UInt16.size ≤ number ∧
      (reached config calls).place? data = some (number, slot) := by
  constructor
  · rintro ⟨number, slot, hplace, hsize⟩
    obtain ⟨-, -, -, hslot⟩ := place?_reached hplace
    exact ⟨number, slot, by omega, hplace⟩
  · rintro ⟨number, slot, hnumber, hplace⟩
    exact ⟨number, slot, hplace, .inl hnumber⟩

/-! ## Filling a store -/

/-- Adding the same data again and again fills all slots before a free one that is large enough. -/
theorem exists_misplaced {store : PacketStore} {data : Bytes} {number : Nat} {own : StorePage}
    (hnumber : UInt16.size ≤ number) (hown : store.pages[number]? = some own)
    (hfits : own.fits data) {slot : Nat} (hfree : own.HasFree slot) :
    ∃ count, Misplaces
      (StoreCall.run PacketStore.call store (List.replicate count (.add data))).2 data := by
  induction hcount : store.freeCount generalizing store with
  | zero =>
    -- the free slot itself is counted
    have hroom := freeCount_setSlot hown slot (some data)
    have hfill := StorePage.freeCount_fill hfree data
    omega
  | succ count ih =>
    by_cases hmisplaced : store.Misplaces data
    · exact ⟨0, hmisplaced⟩
    cases hplace : store.place? data with
    | none =>
      have hfull := placeFrom_spec data 0 store.pages
      rw [← place?_eq_placeFrom, hplace] at hfull
      have hnone := hfull own (List.mem_of_getElem? hown) hfits
      exact absurd hfree (StorePage.freeSlot?_eq_none_iff.mp hnone slot)
    | some place =>
      obtain ⟨page, filled⟩ := place
      have hadd := add_of_place hplace
      have hless := freeCount_of_added hadd
      have hother : page ≠ number := by
        rintro rfl
        exact hmisplaced ⟨page, filled, hplace, .inl hnumber⟩
      have hkept : (store.setSlot page filled (some data)).pages[number]? = some own := by
        rw [setSlot, List.getElem?_modify_ne _ _ hother, hown]
      obtain ⟨rest, hrest⟩ := ih hkept (by omega)
      refine ⟨rest + 1, ?_⟩
      rw [List.replicate_succ, StoreCall.run, PacketStore.call, hadd]
      exact hrest

/-- A slot on a page without a number can be reached. -/
theorem exists_reached_misplaced {config : StoreConfig} {page : PageConfig}
    (hpage : page ∈ config.unnumbered) (hslots : page.elements ≠ 0) :
    ∃ calls data, (reached config calls).Misplaces data := by
  obtain ⟨number, hnumber, hordered⟩ := StoreConfig.mem_unnumbered.mp hpage
  have hown : (ofConfig config).pages[number]? = some (StorePage.ofConfig page) := by
    rw [ofConfig, List.getElem?_map]
    exact congrArg (Option.map StorePage.ofConfig) hordered
  have hfits : (StorePage.ofConfig page).fits (List.replicate page.elementSize.toNat 0) := by
    simp [StorePage.fits, StorePage.ofConfig]
  have hpos : 0 < page.elements.toNat := by
    refine Nat.pos_of_ne_zero fun hzero => hslots ?_
    exact UInt16.toNat_inj.mp hzero
  have hfree := StorePage.freeSlot?_spec (StorePage.freeSlot?_ofConfig hpos)
  obtain ⟨count, hmisplaced⟩ := exists_misplaced hnumber hown hfits hfree
  exact ⟨_, _, hmisplaced⟩

/-- **Every id names what was added under it**, exactly if no page without a number has a slot.
Whatever the config, it does so for data on a page with a number and for no others. In memory the
store gives the same replies as long as the program goes on, and it goes on if no page has too many
bytes. -/
theorem ids_name_what_was_added (config : StoreConfig) :
    (∀ calls data id after, (reached config calls).add data = (.ok id, after) →
      ((reached config calls).NamesAdded data id after ↔
        ∃ number slot, number < UInt16.size ∧
          (reached config calls).place? data = some (number, slot))) ∧
    ((∀ calls data id after, (reached config calls).add data = (.ok id, after) →
        (reached config calls).NamesAdded data id after) ↔
      ∀ page ∈ config.unnumbered, page.elements = 0) ∧
    ∀ overflow,
      (∀ memory calls replies after, StoreMemory.ofConfig? overflow config = some memory →
        memory.run? overflow calls = some (replies, after) →
        StoreCall.run PacketStore.call (ofConfig config) calls = (replies, after.contents)) ∧
      (config.Allocatable → StoreMemory.Lasts overflow config) := by
  refine ⟨fun calls data id after hadd => ?_, ⟨fun hnames page hpage => ?_, ?_⟩, fun overflow =>
    ⟨fun memory calls replies after hmade hrun => ?_, StoreMemory.lasts_iff.mpr⟩⟩
  · rw [namesAdded_iff hadd, misplaces_reached_iff]
    obtain ⟨number, slot, -, hplace, -⟩ := add_of_ok hadd
    constructor
    · intro hplaced
      exact ⟨number, slot, Nat.lt_of_not_le fun hle => hplaced ⟨number, slot, hle, hplace⟩, hplace⟩
    · rintro ⟨own, _, hlt, hown⟩ ⟨other, _, hle, hother⟩
      rw [hown] at hother
      cases hother
      omega
  · by_contra hslots
    obtain ⟨calls, data, hmisplaced⟩ := exists_reached_misplaced hpage hslots
    obtain ⟨number, slot, hplace, -⟩ := id hmisplaced
    have hadd := add_of_place hplace
    exact (namesAdded_iff hadd).mp (hnames calls data _ _ hadd) hmisplaced
  · intro hempty calls data id after hadd
    rw [namesAdded_iff hadd, misplaces_reached_iff]
    rintro ⟨number, slot, hnumber, hplace⟩
    obtain ⟨page, hpage, hslot, -⟩ := place?_reached hplace
    have hzero := hempty page (StoreConfig.mem_unnumbered.mpr ⟨number, hnumber, hpage⟩)
    rw [hzero] at hslot
    exact absurd hslot (Nat.not_lt_zero slot)
  · rw [← StoreMemory.contents_ofConfig? hmade]
    exact ((StoreMemory.sound_ofConfig? hmade).run hrun).1

/-! ## One page too many -/

theorem place?_of_first {store : PacketStore} {data : Bytes} {own : StorePage}
    (hown : store.pages[0]? = some own) (hfits : own.fits data) {slot : Nat}
    (hfree : own.freeSlot? = some slot) : store.place? data = some (0, slot) := by
  obtain ⟨_ | ⟨first, rest⟩⟩ := store
  · cases hown
  · cases hown
    exact placeFrom_cons_of_free hfits hfree

/-- As many pages as there are page numbers, of which only the first has a slot. -/
def numberedConfigs : List PageConfig := ⟨1, 4⟩ :: List.replicate 65535 ⟨0, 4⟩

/-- One page more, for longer data than the others. -/
def oneMore : StoreConfig := ⟨numberedConfigs ++ [⟨1, 64⟩]⟩

theorem elementSize_numberedConfigs {page : PageConfig} (h : page ∈ numberedConfigs) :
    page.elementSize = 4 := by
  rcases List.mem_cons.mp h with rfl | h
  · rfl
  · rw [List.eq_of_mem_replicate h]

theorem pages_oneMore : (ofConfig oneMore).pages =
    numberedConfigs.map StorePage.ofConfig ++ [StorePage.ofConfig ⟨1, 64⟩] := by
  have hsorted : oneMore.pages.mergeSort (fun a b => a.elementSize ≤ b.elementSize) =
      oneMore.pages := by
    apply List.mergeSort_of_pairwise
    refine List.pairwise_append.mpr
      ⟨List.pairwise_of_forall_mem_list ?_, List.pairwise_singleton .., ?_⟩
    · intro a ha b hb
      rw [elementSize_numberedConfigs ha, elementSize_numberedConfigs hb]
      decide
    · intro a ha b hb
      rw [elementSize_numberedConfigs ha, List.mem_singleton.mp hb]
      decide
  rw [ofConfig, hsorted, oneMore, List.map_append]
  rfl

theorem length_numberedPages : (numberedConfigs.map StorePage.ofConfig).length = 65536 := by
  rw [List.length_map, numberedConfigs, List.length_cons, List.length_replicate]

/-- The data go to the last page, and get the id of the first slot of the first page. -/
theorem oneMore_add {data : Bytes} (hlong : 4 < data.length) (hfits : data.length ≤ 64) :
    (ofConfig oneMore).add data =
      (.ok ⟨0, 0⟩, (ofConfig oneMore).setSlot 65536 0 (some data)) := by
  have hsmall : ∀ page ∈ numberedConfigs.map StorePage.ofConfig,
      page.fits data → page.freeSlot? = none := by
    intro page hmem hfits
    obtain ⟨own, hown, rfl⟩ := List.mem_map.mp hmem
    have hsize : (StorePage.ofConfig own).elementSize = 4 := by
      rw [StorePage.ofConfig, elementSize_numberedConfigs hown]
      rfl
    simp only [StorePage.fits, hsize, decide_eq_true_eq] at hfits
    omega
  have hlast : (StorePage.ofConfig ⟨1, 64⟩).fits data := decide_eq_true hfits
  have hplace := place?_append hsmall hlast (StorePage.freeSlot?_ofConfig Nat.one_pos)
  rw [← pages_oneMore, length_numberedPages] at hplace
  rw [add_of_place hplace]
  rfl

/-- An id under which the first data are not found, and the next ones are. -/
theorem run_of_lost {store kept last : PacketStore} {data next : Bytes} {id : StoreId}
    (hlost : store.add data = (.ok id, kept)) (hmissing : kept.get? id = none)
    (hnext : kept.add next = (.ok id, last)) (hfound : last.get? id = some next) :
    (StoreCall.run PacketStore.call store
      [.add data, .get id, .delete id, .add next, .get id]).1 =
    [.added (.ok id), .got (.error .dataDoesNotExist), .deleted (.error .dataDoesNotExist),
      .added (.ok id), .got (.ok next)] := by
  simp only [StoreCall.run, PacketStore.call, hlost, get, delete, hmissing, hnext, hfound]

/-- **An element is lost under its id**: it is not found, it cannot be deleted, and the id is given
to the next element. -/
theorem lost_under_its_id :
    (StoreCall.run PacketStore.call (ofConfig oneMore)
      [.add [9, 9, 9, 9, 9], .get ⟨0, 0⟩, .delete ⟨0, 0⟩, .add [1], .get ⟨0, 0⟩]).1 =
    [.added (.ok ⟨0, 0⟩), .got (.error .dataDoesNotExist), .deleted (.error .dataDoesNotExist),
      .added (.ok ⟨0, 0⟩), .got (.ok [1])] := by
  have hlast : (ofConfig oneMore).pages[65536]? = some (.ofConfig ⟨1, 64⟩) := by
    rw [pages_oneMore, ← length_numberedPages]
    exact List.getElem?_concat_length
  have hmissing :
      ((ofConfig oneMore).setSlot 65536 0 (some [9, 9, 9, 9, 9])).get? ⟨0, 0⟩ = none := by
    rw [get?_setSlot hlast Nat.one_pos, if_neg (by decide), get?_ofConfig]
    rfl
  have hfirst : ((ofConfig oneMore).setSlot 65536 0 (some [9, 9, 9, 9, 9])).pages[0]? =
      some (.ofConfig ⟨1, 4⟩) := by
    rw [setSlot, List.getElem?_modify_ne _ _ (by decide), pages_oneMore]
    rfl
  have hnext := add_of_place (place?_of_first hfirst
    (decide_eq_true (by decide) : StorePage.fits _ [1]) (StorePage.freeSlot?_ofConfig Nat.one_pos))
  have hfound := get?_setSlot hfirst Nat.one_pos (some [1]) ⟨0, 0⟩
  rw [if_pos (by decide)] at hfound
  exact run_of_lost (oneMore_add (by decide) (by decide)) hmissing hnext hfound

end PacketStore

end Housekeeper
