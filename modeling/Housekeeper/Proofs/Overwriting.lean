import Housekeeper.Dataset.Transaction

/-!
# What a commit overwrites

`Accessor.MayWrite` says which entry of which pool an accessor may overwrite, and
`PoolBank.Rewritten` that the pools differ at most by entries that some of the given accessors
overwrote with what they hold. A commit of an accessor rewrites for this accessor
(`Accessor.rewritten_commit`), a commit of a data set for the variables that `Dataset.writers`
lists (`Dataset.rewritten_commit`), and a set that is given up for those of `Dataset.dropped`
(`Dataset.rewritten_drop`). Rewriting keeps type and length of every entry
(`LocalPool.Rewritten.layout?_eq`).
-/

namespace Housekeeper

/-! ## What may be there or not -/

section

variable {α : Type} {R S : α → α → Prop} {a b c : Option α}

theorem rel_refl (h : ∀ x, R x x) (a : Option α) : Option.Rel R a a := by
  cases a with
  | none => exact .none
  | some x => exact .some (h x)

theorem rel_trans (h : ∀ x y z, R x y → R y z → R x z) (hab : Option.Rel R a b)
    (hbc : Option.Rel R b c) : Option.Rel R a c := by
  cases hab with
  | none => exact hbc
  | some hab =>
    cases hbc with
    | some hbc => exact .some (h _ _ _ hab hbc)

theorem rel_mono (h : ∀ x y, R x y → S x y) (hab : Option.Rel R a b) : Option.Rel S a b := by
  cases hab with
  | none => exact .none
  | some hab => exact .some (h _ _ hab)

end

/-! ## Entries -/

namespace PoolEntry

/-- What stays of an entry, whatever is written to it. -/
def layout (entry : PoolEntry) : ElementType × Nat := (entry.type, entry.length)

end PoolEntry

namespace Accessor

/-- What a commit of the accessor makes of its entry. -/
def entry (accessor : Accessor) : PoolEntry := ⟨accessor.type, accessor.values, accessor.valid⟩

/-- The accessor is a writable one, bound to the entry of this id in this pool, and of its type and
length. -/
structure MayWrite (writer : Accessor) (handle : PoolHandle) (id : LocalPoolId)
    (old : PoolEntry) : Prop where
  writable : writer.mode.canWrite = true
  bound : writer.pool.samePool handle = true
  id_eq : writer.id = id
  real : id ≠ noParameter
  layout_eq : writer.entry.layout = old.layout

end Accessor

/-- An entry stays as it is, or one of the writers that may do so puts in what it holds. -/
inductive Overwritten (writers : List Accessor) (handle : PoolHandle) (id : LocalPoolId) :
    Option PoolEntry → Option PoolEntry → Prop where
  | kept (entry : Option PoolEntry) : Overwritten writers handle id entry entry
  | written {old : PoolEntry} {writer : Accessor} (among : writer ∈ writers)
      (may : writer.MayWrite handle id old) :
      Overwritten writers handle id (some old) (some writer.entry)

namespace Overwritten

variable {writers : List Accessor} {handle : PoolHandle} {id : LocalPoolId}
  {a b c : Option PoolEntry}

theorem trans (first : Overwritten writers handle id a b)
    (second : Overwritten writers handle id b c) : Overwritten writers handle id a c := by
  cases second with
  | kept => exact first
  | written among may =>
    cases first with
    | kept => exact .written among may
    | written _ may' =>
      have hlayout := may.layout_eq.trans may'.layout_eq
      exact .written among ⟨may.writable, may.bound, may.id_eq, may.real, hlayout⟩

theorem of_mem {writer : Accessor} (h : Overwritten [writer] handle id a b)
    (among : writer ∈ writers) : Overwritten writers handle id a b := by
  cases h with
  | kept => exact .kept _
  | written only may =>
    cases List.mem_singleton.mp only
    exact .written among may

theorem layout_eq (h : Overwritten writers handle id a b) :
    b.map PoolEntry.layout = a.map PoolEntry.layout := by
  cases h with
  | kept => rfl
  | written _ may => exact congrArg some may.layout_eq

/-- Nobody may write the entry of the sentinel. -/
theorem eq_of_noParameter (h : Overwritten writers handle noParameter a b) : b = a := by
  cases h with
  | kept => rfl
  | written _ may => exact absurd rfl may.real

end Overwritten

/-! ## Pools -/

namespace LocalPool

/-- Type and length of an entry. -/
def layout? (pool : LocalPool) (id : LocalPoolId) : Option (ElementType × Nat) :=
  (pool.entry? id).map PoolEntry.layout

/-- The pools differ at most by what the writers wrote. -/
structure Rewritten (writers : List Accessor) (handle : PoolHandle) (before after : LocalPool) :
    Prop where
  filled_eq : after.filled = before.filled
  entry (id : LocalPoolId) : Overwritten writers handle id (before.entry? id) (after.entry? id)

namespace Rewritten

variable {writers : List Accessor} {handle : PoolHandle} {a b c : LocalPool}

theorem refl (pool : LocalPool) : Rewritten writers handle pool pool :=
  ⟨rfl, fun _ => .kept _⟩

theorem trans (first : Rewritten writers handle a b) (second : Rewritten writers handle b c) :
    Rewritten writers handle a c :=
  ⟨second.filled_eq.trans first.filled_eq, fun id => (first.entry id).trans (second.entry id)⟩

theorem of_mem {writer : Accessor} (h : Rewritten [writer] handle a b)
    (among : writer ∈ writers) : Rewritten writers handle a b :=
  ⟨h.filled_eq, fun id => (h.entry id).of_mem among⟩

theorem layout?_eq (h : Rewritten writers handle a b) (id : LocalPoolId) :
    b.layout? id = a.layout? id :=
  (h.entry id).layout_eq

end Rewritten

theorem layout?_of_write {pool next : LocalPool} {id : LocalPoolId} {type : ElementType}
    {values : List (Element type)} {valid : Bool} (h : pool.write id type values valid = .ok next) :
    next.filled = pool.filled ∧ pool.layout? id = some (type, values.length) := by
  unfold write at h
  split at h
  next found hfetch =>
    obtain ⟨old, flag⟩ := found
    obtain ⟨hentry, hlength⟩ := fetch_eq_ok_iff.mp hfetch
    cases h
    refine ⟨rfl, ?_⟩
    rw [layout?, hentry, ← hlength]
    rfl
  next => cases h

theorem insertOnce_of_filled {pool : LocalPool} (h : pool.filled = true)
    (entries : List (LocalPoolId × PoolEntry)) :
    pool.insertOnce entries = .error .poolMapAlreadyInitialized := by
  simp [insertOnce, h]

theorem filled_of_insertOnce {pool next : LocalPool} {entries : List (LocalPoolId × PoolEntry)}
    (h : pool.insertOnce entries = .ok next) : next.filled = true := by
  unfold insertOnce at h
  split at h <;> cases h
  rfl

end LocalPool

/-! ## Banks -/

namespace PoolHandle

variable {a b c : PoolHandle}

theorem samePool_iff : a.samePool b = true ↔ a.index = b.index := beq_iff_eq

theorem samePool_trans (hab : a.samePool b = true) (hbc : b.samePool c = true) :
    a.samePool c = true :=
  samePool_iff.mpr ((samePool_iff.mp hab).trans (samePool_iff.mp hbc))

end PoolHandle

namespace PoolBank

theorem pool?_of_samePool {a b : PoolHandle} (h : a.samePool b = true) (bank : PoolBank) :
    bank.pool? b = bank.pool? a := by
  rw [pool?, pool?, PoolHandle.samePool_iff.mp h]

theorem pool?_setHeld (bank : PoolBank) (handle other : PoolHandle) (held : Bool) :
    (bank.setHeld handle held).pool? other = bank.pool? other := by
  by_cases h : handle.index = other.index <;>
    simp [pool?, setHeld, Array.getElem?_modify, h, Function.comp_def]

theorem pool?_add (bank : PoolBank) (owner : ObjectId) (patience : Patience)
    (handle : PoolHandle) :
    (bank.add owner patience).2.pool? handle =
      if handle.index = bank.cells.size then some .empty else bank.pool? handle := by
  simp only [pool?, add, Array.getElem?_push]
  split <;> rfl

/-- The pools differ at most by what the writers wrote. -/
def Rewritten (writers : List Accessor) (before after : PoolBank) : Prop :=
  ∀ handle, Option.Rel (LocalPool.Rewritten writers handle) (before.pool? handle)
    (after.pool? handle)

namespace Rewritten

variable {writers : List Accessor} {a b c : PoolBank}

theorem refl (bank : PoolBank) : Rewritten writers bank bank :=
  fun _ => rel_refl LocalPool.Rewritten.refl _

theorem trans (first : Rewritten writers a b) (second : Rewritten writers b c) :
    Rewritten writers a c :=
  fun handle => rel_trans (fun _ _ _ => LocalPool.Rewritten.trans) (first handle) (second handle)

theorem of_mem {writer : Accessor} (h : Rewritten [writer] a b) (among : writer ∈ writers) :
    Rewritten writers a b :=
  fun handle => rel_mono (fun _ _ hpool => hpool.of_mem among) (h handle)

/-- A change of one pool, under whatever handle the pool is looked up. -/
theorem modify {bank : PoolBank} {handle : PoolHandle} {change : LocalPool → LocalPool}
    (h : ∀ other pool, handle.samePool other = true → bank.pool? handle = some pool →
      pool.Rewritten writers other (change pool)) :
    Rewritten writers bank (bank.modify handle change) := by
  intro other
  rw [pool?_modify]
  split
  next hindex =>
    have hsame : handle.samePool other = true := PoolHandle.samePool_iff.mpr hindex.symm
    rw [pool?_of_samePool hsame]
    cases hpool : bank.pool? handle with
    | none => exact .none
    | some pool => exact .some (h other pool hsame hpool)
  next => exact refl bank other

/-- What holds of every step of a fold holds of the whole. -/
theorem foldl {step : PoolBank → Accessor → PoolBank} {accessors : List Accessor}
    (h : ∀ accessor ∈ accessors, ∀ bank, Rewritten writers bank (step bank accessor))
    (bank : PoolBank) : Rewritten writers bank (accessors.foldl step bank) := by
  apply List.foldlRecOn accessors step (refl bank)
  intro next hnext accessor hmem
  exact hnext.trans (h accessor hmem next)

end Rewritten

end PoolBank

/-! ## Accessors -/

namespace Accessor

theorem rewritten_commitTo {accessor : Accessor} {pool next : LocalPool}
    (h : accessor.commitTo pool = .ok next) {handle : PoolHandle}
    (hbound : accessor.pool.samePool handle = true) :
    pool.Rewritten [accessor] handle next := by
  unfold commitTo at h
  split at h
  · cases h
    exact .refl pool
  next hreal =>
    split at h
    next hwritable =>
      obtain ⟨hfilled, hlayout⟩ := LocalPool.layout?_of_write h
      refine ⟨hfilled, fun id => ?_⟩
      rw [LocalPool.entry?_of_write h id]
      split
      next hid =>
        subst hid
        obtain ⟨old, hold, hsame⟩ := Option.map_eq_some_iff.mp hlayout
        rw [hold]
        refine .written (List.mem_singleton_self accessor) ⟨hwritable, hbound, rfl, ?_, hsame.symm⟩
        simpa [isUnbound] using hreal
      next => exact .kept _
    next => cases h

theorem rewritten_commit (accessor : Accessor) (bank : PoolBank) :
    PoolBank.Rewritten [accessor] bank (accessor.commit bank).2 := by
  unfold commit
  split
  · exact .refl bank
  · split
    next pool hlock =>
      split
      next next hcommit =>
        refine .modify fun other found hsame hfound => ?_
        rw [PoolBank.lock_eq_ok hlock] at hfound
        cases hfound
        exact rewritten_commitTo hcommit hsame
      next => exact .refl bank
    next => exact .refl bank

/-- Only a successful commit of a bound and writable accessor changes anything. -/
theorem of_commit_ne {accessor : Accessor} {bank : PoolBank}
    (h : (accessor.commit bank).2 ≠ bank) :
    (accessor.commit bank).1 = .ok () ∧ accessor.mode.canWrite = true ∧
      accessor.id ≠ noParameter := by
  unfold commit at h ⊢
  split at h
  · exact absurd rfl h
  next hbound =>
    have hreal : accessor.id ≠ noParameter := by simpa [isUnbound] using hbound
    cases hlock : bank.lock accessor.pool with
    | error e => simp [hlock] at h
    | ok pool =>
      cases hcommit : accessor.commitTo pool with
      | error e => simp [hlock, hcommit] at h
      | ok next =>
        cases hmode : accessor.mode.canWrite with
        | false => simp [commitTo, hbound, hmode] at hcommit
        | true => exact ⟨by simp [hbound, hcommit], rfl, hreal⟩

end Accessor

/-! ## Data sets -/

namespace Dataset

/-- The variables that a commit of the set writes: those that it commits, but for the foreign ones
while it locks its own pool only. -/
def writers (set : Dataset) : List Accessor :=
  (set.accessors.filter set.isCommitted).filter fun v => set.lockEach || !set.isForeign v

/-- The variables that are written when the set is given up. -/
def dropped (set : Dataset) : List Accessor :=
  match set.state with
  | .idle => []
  | .wasRead => (set.accessors.filter fun v => v.mode.canWrite).map fun v => v.withValidity false

theorem rewritten_commitVariable (set : Dataset) {accessor : Accessor}
    (h : (set.lockEach || !set.isForeign accessor) = true → accessor ∈ set.writers)
    (bank : PoolBank) : PoolBank.Rewritten set.writers bank (set.commitVariable bank accessor) := by
  unfold commitVariable
  split
  next hlock => exact (accessor.rewritten_commit bank).of_mem (h (by simp [hlock]))
  next =>
    split
    next => exact .refl bank
    next hown =>
      have hbound : accessor.pool.samePool set.pool = true := by simpa [isForeign] using hown
      refine .modify fun other pool hsame _ => ?_
      split
      next next hcommit =>
        have hother := PoolHandle.samePool_trans hbound hsame
        exact (Accessor.rewritten_commitTo hcommit hother).of_mem (h (by simp [hown]))
      next => exact .refl pool

theorem rewritten_commit (set : Dataset) (bank : PoolBank) :
    PoolBank.Rewritten set.writers bank (set.commit bank).2.2 := by
  unfold commit
  split
  · exact .refl bank
  · refine .foldl (fun accessor hmem => set.rewritten_commitVariable fun hwrites => ?_) bank
    exact List.mem_filter.mpr ⟨hmem, hwrites⟩

theorem rewritten_drop (set : Dataset) (bank : PoolBank) :
    PoolBank.Rewritten set.dropped bank (set.drop bank) := by
  unfold drop dropped
  cases set.state with
  | idle => exact .refl bank
  | wasRead =>
    refine .foldl (fun accessor hmem bank => ?_) bank
    exact ((accessor.withValidity false).rewritten_commit bank).of_mem (List.mem_map_of_mem hmem)

end Dataset

end Housekeeper
