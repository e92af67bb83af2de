import Housekeeper.Transport.Store

/-!
# Adding to the store and deleting from it

`PacketStore.Addressable` says that every slot has an id of its own. Then data are added at an id
that was free (`Addressable.add_spec`), and a live element is deleted for good
(`Addressable.delete_spec`); every one of them is one free slot more or less.

Deleting undoes adding (`delete_after_add`), but not where the slot has no id of its own, as in
pages beyond the 16-bit page number: there something else is deleted, or nothing
(`delete_after_misplaced`).
-/

namespace Housekeeper

namespace StorePage

/-- The slot exists and is free. -/
def HasFree (page : StorePage) (slot : Nat) : Prop := page.slots[slot]? = some none

theorem freeSlot?_spec {page : StorePage} {slot : Nat} (h : page.freeSlot? = some slot) :
    page.HasFree slot := by
  obtain ⟨hlt, hnone, -⟩ := Array.findIdx?_eq_some_iff_getElem.mp h
  rw [HasFree, Array.getElem?_eq_getElem hlt, Option.isNone_iff_eq_none.mp hnone]

theorem freeSlot?_eq_none_iff {page : StorePage} :
    page.freeSlot? = none ↔ ∀ slot, ¬ page.HasFree slot := by
  rw [freeSlot?, Array.findIdx?_eq_none_iff]
  constructor
  · intro hfull slot hfree
    have hlive := hfull none (Array.mem_of_getElem? hfree)
    cases hlive
  · intro hfull data hmem
    obtain ⟨slot, hslot⟩ := Array.mem_iff_getElem?.mp hmem
    cases data with
    | none => exact absurd hslot (hfull slot)
    | some data => rfl

theorem HasFree.lt {page : StorePage} {slot : Nat} (h : page.HasFree slot) :
    slot < page.slots.size := (Array.getElem?_eq_some_iff.mp h).1

@[simp] theorem size_withSlot (page : StorePage) (slot : Nat) (data : Option Bytes) :
    (page.withSlot slot data).slots.size = page.slots.size := Array.size_setIfInBounds

theorem freeCount_fill {page : StorePage} {slot : Nat} (h : page.HasFree slot) (data : Bytes) :
    (page.withSlot slot (some data)).freeCount + 1 = page.freeCount := by
  obtain ⟨hlt, hfree⟩ := Array.getElem?_eq_some_iff.mp h
  have hpos : 0 < page.slots.countP Option.isNone :=
    Array.countP_pos_iff.mpr ⟨none, hfree ▸ Array.getElem_mem hlt, rfl⟩
  simp only [freeCount, withSlot, Array.setIfInBounds, hlt, dif_pos]
  rw [Array.countP_set, hfree]
  simp only [Option.isNone_none, Option.isNone_some, if_true, Bool.false_eq_true, if_false]
  omega

theorem freeCount_empty {page : StorePage} {slot : Nat} {data : Bytes}
    (h : page.slots[slot]? = some (some data)) :
    (page.withSlot slot none).freeCount = page.freeCount + 1 := by
  obtain ⟨hlt, hlive⟩ := Array.getElem?_eq_some_iff.mp h
  simp only [freeCount, withSlot, Array.setIfInBounds, hlt, dif_pos]
  rw [Array.countP_set, hlive]
  simp

theorem withSlot_restore {page : StorePage} {slot : Nat} (h : page.HasFree slot)
    (data : Option Bytes) : (page.withSlot slot data).withSlot slot none = page := by
  obtain ⟨hlt, hfree⟩ := Array.getElem?_eq_some_iff.mp h
  have hslots : (page.slots.setIfInBounds slot data).setIfInBounds slot none = page.slots := by
    apply Array.ext_getElem?
    intro other
    simp only [Array.getElem?_setIfInBounds, Array.size_setIfInBounds]
    by_cases hsame : slot = other
    · subst hsame; simp [hlt, hfree]
    · simp [hsame]
  simp only [withSlot, hslots]

end StorePage

namespace PacketStore

/-! ## Pages -/

theorem place?_spec {store : PacketStore} {data : Bytes} {page slot : Nat}
    (h : store.place? data = some (page, slot)) :
    ∃ own, store.pages[page]? = some own ∧ own.HasFree slot := by
  obtain ⟨⟨own, index⟩, hmem, hplace⟩ := List.exists_of_findSome?_eq_some h
  dsimp only at hplace
  split at hplace
  · obtain ⟨free, hfree, heq⟩ := Option.map_eq_some_iff.mp hplace
    cases heq
    exact ⟨own, List.mem_zipIdx_iff_getElem?.mp hmem, StorePage.freeSlot?_spec hfree⟩
  · cases hplace

/-- Data go to the last page if no page before it fits and has a free slot. -/
theorem place?_append {pages : List StorePage} {data : Bytes}
    (hfull : ∀ page ∈ pages, page.fits data → page.freeSlot? = none) {last : StorePage}
    (hfits : last.fits data) {slot : Nat} (hfree : last.freeSlot? = some slot) :
    place? ⟨pages ++ [last]⟩ data = some (pages.length, slot) := by
  unfold place?
  rw [List.zipIdx_append, List.findSome?_append, List.findSome?_eq_none_iff.mpr]
  · simp [hfits, hfree]
  · intro pair hmem
    have hpage : pair.1 ∈ pages := List.fst_mem_of_mem_zipIdx hmem
    dsimp only
    split
    next hf => rw [hfull pair.1 hpage hf]; rfl
    next => rfl

theorem setSlot_restore {store : PacketStore} {page slot : Nat} {own : StorePage}
    (hpage : store.pages[page]? = some own) (hfree : own.HasFree slot) (data : Option Bytes) :
    (store.setSlot page slot data).setSlot page slot none = store := by
  have hpages : (store.pages.modify page fun p => p.withSlot slot data).modify page
      (fun p => p.withSlot slot none) = store.pages := by
    apply List.ext_getElem?
    intro other
    simp only [List.getElem?_modify]
    by_cases hsame : page = other
    · subst hsame
      simp [hpage, StorePage.withSlot_restore hfree]
    · simp [hsame]
  simp only [setSlot, hpages]

theorem freeCount_modify (pages : List StorePage) {page : Nat} {own : StorePage}
    (hpage : pages[page]? = some own) (change : StorePage → StorePage) :
    freeCount ⟨pages.modify page change⟩ + own.freeCount =
      freeCount ⟨pages⟩ + (change own).freeCount := by
  induction pages generalizing page with
  | nil => cases hpage
  | cons head rest ih =>
    cases page with
    | zero =>
      cases hpage
      simp only [List.modify_zero_cons, freeCount, List.foldr_cons]
      omega
    | succ page =>
      have h := ih hpage
      simp only [List.modify_succ_cons, freeCount, List.foldr_cons] at h ⊢
      omega

theorem freeCount_setSlot {store : PacketStore} {page : Nat} {own : StorePage}
    (hpage : store.pages[page]? = some own) (slot : Nat) (data : Option Bytes) :
    (store.setSlot page slot data).freeCount + own.freeCount =
      store.freeCount + (own.withSlot slot data).freeCount :=
  freeCount_modify store.pages hpage fun p => p.withSlot slot data

/-! ## The place of new data -/

/-- The first free slot of the first page that fits and has one, if the pages are numbered from the
given number on. -/
def placeFrom (data : Bytes) (number : Nat) (pages : List StorePage) : Option (Nat × Nat) :=
  (pages.zipIdx number).findSome? fun (page, index) =>
    if page.fits data then page.freeSlot?.map fun slot => (index, slot) else none

theorem place?_eq_placeFrom (store : PacketStore) (data : Bytes) :
    store.place? data = placeFrom data 0 store.pages := rfl

section Place

variable {data : Bytes} {number : Nat} {page : StorePage} {rest : List StorePage}

theorem placeFrom_cons_of_free (hfits : page.fits data) {slot : Nat}
    (hfree : page.freeSlot? = some slot) :
    placeFrom data number (page :: rest) = some (number, slot) := by
  simp [placeFrom, hfits, hfree]

theorem placeFrom_cons_of_full (hfull : page.fits data → page.freeSlot? = none) :
    placeFrom data number (page :: rest) = placeFrom data (number + 1) rest := by
  by_cases hfits : page.fits data <;> simp [placeFrom, hfits, hfull]

end Place

/-- Either there is no room on any page, or the data go to the first page that has room. -/
theorem placeFrom_spec (data : Bytes) (number : Nat) (pages : List StorePage) :
    match placeFrom data number pages with
    | some (page, slot) =>
      ∃ index own, page = number + index ∧ pages[index]? = some own ∧ own.fits data ∧
        own.HasFree slot ∧ ∀ earlier < index, ∀ before, pages[earlier]? = some before →
          before.fits data → before.freeSlot? = none
    | none => ∀ page ∈ pages, page.fits data → page.freeSlot? = none := by
  induction pages generalizing number with
  | nil => simp [placeFrom]
  | cons page rest ih =>
    by_cases hfull : page.fits data → page.freeSlot? = none
    · rw [placeFrom_cons_of_full hfull]
      have hrest := ih (number + 1)
      split at hrest
      next target slot _ =>
        obtain ⟨index, own, rfl, hown, hfits, hfree, hfirst⟩ := hrest
        refine ⟨index + 1, own, by omega, hown, hfits, hfree, ?_⟩
        intro earlier hearlier before hbefore
        cases earlier with
        | zero => cases hbefore; exact hfull
        | succ earlier => exact hfirst earlier (by omega) before hbefore
      next => exact List.forall_mem_cons.mpr ⟨hfull, hrest⟩
    · obtain ⟨hfits, hfree⟩ := Classical.not_imp.mp hfull
      obtain ⟨slot, hslot⟩ := Option.ne_none_iff_exists'.mp hfree
      rw [placeFrom_cons_of_free hfits hslot]
      refine ⟨0, page, rfl, rfl, hfits, StorePage.freeSlot?_spec hslot, ?_⟩
      intro earlier hearlier
      cases hearlier

/-! ## Ids -/

/-- Every slot has an id of its own. -/
structure Addressable (store : PacketStore) : Prop where
  pages_le : store.pages.length ≤ UInt16.size
  slots_le : ∀ page ∈ store.pages, page.slots.size ≤ UInt16.size

theorem Addressable.setSlot {store : PacketStore} (h : store.Addressable) (page slot : Nat)
    (data : Option Bytes) : (store.setSlot page slot data).Addressable := by
  refine ⟨by simpa [PacketStore.setSlot] using h.pages_le, ?_⟩
  intro changed hmem
  obtain ⟨index, hindex⟩ := List.mem_iff_getElem?.mp hmem
  simp only [PacketStore.setSlot, List.getElem?_modify] at hindex
  obtain ⟨own, hown, rfl⟩ := Option.map_eq_some_iff.mp hindex
  have hle := h.slots_le own (List.mem_of_getElem? hown)
  split
  · rw [StorePage.size_withSlot]; exact hle
  · exact hle

/-- A config of as many pages as there are page numbers. -/
theorem addressable_ofConfig {config : StoreConfig} (h : config.pages.length ≤ UInt16.size) :
    (ofConfig config).Addressable := by
  refine ⟨by simpa [ofConfig] using h, ?_⟩
  intro page hmem
  obtain ⟨own, -, rfl⟩ := List.mem_map.mp hmem
  simpa [StorePage.ofConfig] using Nat.le_of_lt own.elements.toNat_lt

theorem get?_eq_some_iff {store : PacketStore} {id : StoreId} {data : Bytes} :
    store.get? id = some data ↔
      ∃ own, store.pages[id.page.toNat]? = some own ∧
        own.slots[id.slot.toNat]? = some (some data) := by
  cases hp : store.pages[id.page.toNat]? with
  | none => simp [get?, hp]
  | some own => simp [get?, hp, Option.join_eq_some_iff]

theorem get?_of_free {store : PacketStore} {id : StoreId} {own : StorePage}
    (hpage : store.pages[id.page.toNat]? = some own) (hfree : own.HasFree id.slot.toNat) :
    store.get? id = none := by
  simp only [get?, hpage, Option.bind_some]
  rw [hfree]
  rfl

theorem add_of_full {store : PacketStore} {data : Bytes} (h : store.place? data = none) :
    ∃ e, store.add data = (.error e, store) := by
  simp only [add, h]
  exact ⟨_, rfl⟩

theorem add_of_place {store : PacketStore} {data : Bytes} {page slot : Nat}
    (h : store.place? data = some (page, slot)) :
    store.add data =
      (.ok ⟨UInt16.ofNat page, UInt16.ofNat slot⟩, store.setSlot page slot (some data)) := by
  simp only [add, h]

theorem add_of_error {store after : PacketStore} {data : Bytes} {e : PoolError}
    (h : store.add data = (.error e, after)) : after = store := by
  cases hplace : store.place? data with
  | none =>
    obtain ⟨e', he⟩ := add_of_full hplace
    rw [he] at h
    cases h
    rfl
  | some place => rw [add_of_place hplace] at h; cases h

theorem delete_of_live {store : PacketStore} {id : StoreId} {data : Bytes}
    (h : store.get? id = some data) :
    store.delete id = (.ok (), store.setSlot id.page.toNat id.slot.toNat none) := by
  simp only [delete, h]

theorem add_of_ok {store after : PacketStore} {data : Bytes} {id : StoreId}
    (h : store.add data = (.ok id, after)) :
    ∃ page slot own, store.place? data = some (page, slot) ∧ store.pages[page]? = some own ∧
      own.HasFree slot ∧ id = ⟨UInt16.ofNat page, UInt16.ofNat slot⟩ ∧
      after = store.setSlot page slot (some data) := by
  cases hplace : store.place? data with
  | none =>
    obtain ⟨e, he⟩ := add_of_full hplace
    rw [he] at h
    cases h
  | some place =>
    obtain ⟨page, slot⟩ := place
    obtain ⟨own, hpage, hfree⟩ := place?_spec hplace
    rw [add_of_place hplace] at h
    cases h
    exact ⟨page, slot, own, rfl, hpage, hfree, rfl, rfl⟩

/-! ## Data that no id reaches -/

/-- The data would go into a slot that has no id of its own. -/
def Misplaces (store : PacketStore) (data : Bytes) : Prop :=
  ∃ page slot, store.place? data = some (page, slot) ∧
    (UInt16.size ≤ page ∨ UInt16.size ≤ slot)

theorem Addressable.not_misplaces {store : PacketStore} (h : store.Addressable) (data : Bytes) :
    ¬ store.Misplaces data := by
  rintro ⟨page, slot, hplace, hsize⟩
  obtain ⟨own, hpage, hfree⟩ := place?_spec hplace
  obtain ⟨hlt, -⟩ := List.getElem?_eq_some_iff.mp hpage
  have hpages := h.pages_le
  have hslots := h.slots_le own (List.mem_of_getElem? hpage)
  have hslot := hfree.lt
  omega

theorem toNat_of_not_misplaces {store : PacketStore} {data : Bytes} (h : ¬ store.Misplaces data)
    {page slot : Nat} (hplace : store.place? data = some (page, slot)) :
    (UInt16.ofNat page).toNat = page ∧ (UInt16.ofNat slot).toNat = slot := by
  have hlt : ¬ (UInt16.size ≤ page ∨ UInt16.size ≤ slot) := fun hsize =>
    h ⟨page, slot, hplace, hsize⟩
  exact ⟨UInt16.toNat_ofNat_of_lt (by omega), UInt16.toNat_ofNat_of_lt (by omega)⟩

/-- Data that were just added can be deleted, as if they had never been there. -/
theorem delete_after_add {store after : PacketStore} {data : Bytes} {id : StoreId}
    (hadd : store.add data = (.ok id, after)) (h : ¬ store.Misplaces data) :
    after.delete id = (.ok (), store) := by
  obtain ⟨page, slot, own, hplace, hpage, hfree, rfl, rfl⟩ := add_of_ok hadd
  obtain ⟨hp, hs⟩ := toNat_of_not_misplaces h hplace
  have hlive := get?_setSlot hpage hfree.lt (some data) ⟨UInt16.ofNat page, UInt16.ofNat slot⟩
  rw [if_pos ⟨hp, hs⟩] at hlive
  rw [delete_of_live hlive, hp, hs, setSlot_restore hpage hfree]

theorem get?_of_added {store after : PacketStore} {data : Bytes} {id : StoreId}
    (hadd : store.add data = (.ok id, after)) (h : ¬ store.Misplaces data) :
    after.get? id = some data := by
  obtain ⟨page, slot, own, hplace, hpage, hfree, rfl, rfl⟩ := add_of_ok hadd
  rw [get?_setSlot hpage hfree.lt, if_pos (toNat_of_not_misplaces h hplace)]

theorem get?_of_unadded {store after : PacketStore} {data : Bytes} {id : StoreId}
    (hadd : store.add data = (.ok id, after)) (h : ¬ store.Misplaces data) :
    store.get? id = none := by
  obtain ⟨page, slot, own, hplace, hpage, hfree, rfl, rfl⟩ := add_of_ok hadd
  obtain ⟨hp, hs⟩ := toNat_of_not_misplaces h hplace
  exact get?_of_free (by rw [hp]; exact hpage) (by rw [hs]; exact hfree)

theorem freeCount_of_added {store after : PacketStore} {data : Bytes} {id : StoreId}
    (hadd : store.add data = (.ok id, after)) : after.freeCount + 1 = store.freeCount := by
  obtain ⟨page, slot, own, -, hpage, hfree, -, rfl⟩ := add_of_ok hadd
  have hsum := freeCount_setSlot hpage slot (some data)
  have hfill := StorePage.freeCount_fill hfree data
  omega

/-- The id of misplaced data is that of something else. -/
theorem get?_of_misplaced {store after : PacketStore} {data : Bytes} {id : StoreId}
    (hadd : store.add data = (.ok id, after)) (h : store.Misplaces data) :
    after.get? id = store.get? id := by
  obtain ⟨page, slot, own, hplace, hpage, hfree, rfl, rfl⟩ := add_of_ok hadd
  obtain ⟨page', slot', hplace', hsize⟩ := h
  rw [hplace] at hplace'
  cases hplace'
  have hp := (UInt16.ofNat page).toNat_lt
  have hs := (UInt16.ofNat slot).toNat_lt
  rw [get?_setSlot hpage hfree.lt, if_neg]
  rintro ⟨hpage', hslot'⟩
  dsimp only at hpage' hslot'
  unfold UInt16.size at hsize
  omega

/-- Adding leaves live elements alone, whether they can be addressed or not. -/
theorem get?_add_of_live {store : PacketStore} {id : StoreId} {data : Bytes}
    (hlive : store.get? id = some data) (other : Bytes) :
    (store.add other).2.get? id = some data := by
  rcases hadd : store.add other with ⟨_ | own, after⟩
  · rw [add_of_error hadd]
    exact hlive
  · obtain ⟨page, slot, own, -, hpage, hfree, -, rfl⟩ := add_of_ok hadd
    show (store.setSlot page slot (some other)).get? id = some data
    rw [get?_setSlot hpage hfree.lt, if_neg]
    · exact hlive
    · rintro ⟨rfl, rfl⟩
      rw [get?_of_free hpage hfree] at hlive
      cases hlive

theorem get?_delete_of_ne {store : PacketStore} {id other : StoreId} (hne : other ≠ id) :
    (store.delete other).2.get? id = store.get? id := by
  cases hother : store.get? other with
  | none => simp only [delete, hother]
  | some data =>
    obtain ⟨own, hpage, hslot⟩ := get?_eq_some_iff.mp hother
    obtain ⟨hlt, -⟩ := Array.getElem?_eq_some_iff.mp hslot
    rw [delete_of_live hother, get?_setSlot hpage hlt, if_neg]
    rintro ⟨hp, hs⟩
    obtain ⟨p, s⟩ := id
    obtain ⟨p', s'⟩ := other
    simp only [UInt16.toNat_inj] at hp hs
    exact hne (by rw [hp, hs])

/-- What is in a slot, whether it has an id or not. -/
def slot? (store : PacketStore) (page slot : Nat) : Option Bytes :=
  (store.pages[page]?.bind fun own => own.slots[slot]?).join

theorem slot?_setSlot_of_ne {store : PacketStore} {page slot page' slot' : Nat}
    (hne : page' ≠ page ∨ slot' ≠ slot) (data : Option Bytes) :
    (store.setSlot page slot data).slot? page' slot' = store.slot? page' slot' := by
  simp only [slot?, setSlot, List.getElem?_modify]
  by_cases hpage : page = page'
  · subst hpage
    have hslot : ¬ slot = slot' := fun h => hne.elim (fun hp => hp rfl) (fun hs => hs h.symm)
    cases store.pages[page]? with
    | none => rfl
    | some own => simp [StorePage.withSlot, hslot]
  · simp [hpage]

/-- But data that no id reaches stay there. -/
theorem delete_after_misplaced {store after : PacketStore} {data : Bytes} {id : StoreId}
    (hadd : store.add data = (.ok id, after)) (h : store.Misplaces data) :
    (after.delete id).2 ≠ store := by
  obtain ⟨page, slot, own, hplace, hpage, hfree, rfl, rfl⟩ := add_of_ok hadd
  obtain ⟨page', slot', hplace', hsize⟩ := h
  rw [hplace] at hplace'
  cases hplace'
  have hbefore : store.slot? page slot = none := by
    simp only [slot?, hpage, Option.bind_some]
    rw [hfree]
    rfl
  have hadded : (store.setSlot page slot (some data)).slot? page slot = some data := by
    simp [slot?, setSlot, hpage, StorePage.withSlot, hfree.lt]
  have hafter : ((store.setSlot page slot (some data)).delete
      ⟨UInt16.ofNat page, UInt16.ofNat slot⟩).2.slot? page slot = some data := by
    unfold delete
    split
    · have hp := (UInt16.ofNat page).toNat_lt
      have hs := (UInt16.ofNat slot).toNat_lt
      have hne : page ≠ (UInt16.ofNat page).toNat ∨ slot ≠ (UInt16.ofNat slot).toNat := by
        unfold UInt16.size at hsize
        omega
      rw [slot?_setSlot_of_ne hne, hadded]
    · exact hadded
  intro hsame
  rw [hsame, hbefore] at hafter
  cases hafter

/-- As many pages as there are page numbers. None of them has a free slot. -/
def crammedPages : List StorePage := ⟨4, #[some [1]]⟩ :: List.replicate 65535 ⟨4, #[]⟩

theorem length_crammedPages : crammedPages.length = 65536 := by
  rw [crammedPages, List.length_cons, List.length_replicate]

/-- A store with one page more, for longer data than the others. -/
def oversized : PacketStore := ⟨crammedPages ++ [⟨64, #[none]⟩]⟩

theorem oversized_last : oversized.pages[65536]? = some ⟨64, #[none]⟩ := by
  rw [← length_crammedPages]
  exact List.getElem?_concat_length

theorem oversized_add {data : Bytes} (hlong : 4 < data.length) (hfits : data.length ≤ 64) :
    oversized.add data = (.ok ⟨0, 0⟩, oversized.setSlot 65536 0 (some data)) := by
  have hplace : oversized.place? data = some (crammedPages.length, 0) := by
    apply place?_append ?_ (decide_eq_true hfits) (by simp [StorePage.freeSlot?])
    intro page hmem hsmall
    have hsize : page.elementSize = 4 := by
      rcases List.mem_cons.mp hmem with rfl | hmem
      · rfl
      · rw [List.eq_of_mem_replicate hmem]
    simp only [StorePage.fits, hsize, decide_eq_true_eq] at hsmall
    omega
  rw [add_of_place hplace, length_crammedPages]
  rfl

/-- The first page keeps what it has. -/
theorem oversized_get? (data : Option Bytes) :
    (oversized.setSlot 65536 0 data).get? ⟨0, 0⟩ = some [1] := by
  rw [get?_setSlot oversized_last Nat.one_pos]
  rfl

/-! ## Stores whose slots all have an id -/

/-- **Data are added at an id that was free**, and at no other. -/
theorem Addressable.add_spec {store after : PacketStore} (h : store.Addressable) {data : Bytes}
    {id : StoreId} (hadd : store.add data = (.ok id, after)) :
    store.get? id = none ∧
      (∀ other, after.get? other = if other = id then some data else store.get? other) ∧
      after.freeCount + 1 = store.freeCount ∧ after.Addressable := by
  have hcount := freeCount_of_added hadd
  have hunused := get?_of_unadded hadd (h.not_misplaces data)
  obtain ⟨page, slot, own, hplace, hpage, hfree, rfl, rfl⟩ := add_of_ok hadd
  obtain ⟨hp, hs⟩ := toNat_of_not_misplaces (h.not_misplaces data) hplace
  refine ⟨hunused, fun other => ?_, hcount, h.setSlot ..⟩
  rw [get?_setSlot hpage hfree.lt]
  congr 1
  rw [eq_iff_iff]
  constructor
  · rintro ⟨rfl, rfl⟩
    obtain ⟨p, s⟩ := other
    simp
  · rintro rfl
    exact ⟨hp, hs⟩

/-- **A live element is deleted**, and no other. -/
theorem Addressable.delete_spec {store : PacketStore} (h : store.Addressable) {id : StoreId}
    {data : Bytes} (hlive : store.get? id = some data) :
    (store.delete id).1 = .ok () ∧
      (∀ other, (store.delete id).2.get? other = if other = id then none else store.get? other) ∧
      (store.delete id).2.freeCount = store.freeCount + 1 ∧ (store.delete id).2.Addressable := by
  obtain ⟨own, hpage, hslot⟩ := get?_eq_some_iff.mp hlive
  obtain ⟨hlt, -⟩ := Array.getElem?_eq_some_iff.mp hslot
  rw [delete_of_live hlive]
  refine ⟨rfl, ?_, ?_, h.setSlot ..⟩
  · intro other
    rw [get?_setSlot hpage hlt]
    congr 1
    rw [eq_iff_iff]
    obtain ⟨p, s⟩ := other
    obtain ⟨p', s'⟩ := id
    simp [UInt16.toNat_inj]
  · have hsum := freeCount_setSlot hpage id.slot.toNat none
    have hempty := StorePage.freeCount_empty hslot
    show (store.setSlot id.page.toNat id.slot.toNat none).freeCount = store.freeCount + 1
    omega

end PacketStore

/-! ## Capacity -/

/-- How many elements a store of this config can hold. -/
def StoreConfig.capacity (config : StoreConfig) : Nat :=
  config.pages.foldr (fun page count => page.elements.toNat + count) 0

namespace PacketStore

/-- The order of the pages does not matter for what is free. -/
theorem freeCount_perm {a b : List StorePage} (h : a.Perm b) : freeCount ⟨a⟩ = freeCount ⟨b⟩ := by
  induction h with
  | nil => rfl
  | cons page _ ih =>
    simp only [freeCount, List.foldr_cons] at ih ⊢
    omega
  | swap x y rest =>
    simp only [freeCount, List.foldr_cons]
    omega
  | trans _ _ ihab ihbc => exact ihab.trans ihbc

/-- A new store is empty. -/
theorem freeCount_ofConfig (config : StoreConfig) :
    (ofConfig config).freeCount = config.capacity := by
  have hsorted := (List.mergeSort_perm config.pages fun a b => a.elementSize ≤ b.elementSize).map
    StorePage.ofConfig
  rw [ofConfig, freeCount_perm hsorted, StoreConfig.capacity]
  induction config.pages with
  | nil => rfl
  | cons page rest ih =>
    have hpage : (StorePage.ofConfig page).freeCount = page.elements.toNat := by
      rw [StorePage.ofConfig, StorePage.freeCount, Array.countP_replicate]
      rfl
    simp only [freeCount, List.map_cons, List.foldr_cons, hpage] at ih ⊢
    rw [ih]

end PacketStore

end Housekeeper
