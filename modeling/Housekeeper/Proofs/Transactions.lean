import Housekeeper.Proofs.Confinement
import Housekeeper.Proofs.Staleness

/-!
# Reads and commits of a data set

What a transaction does while nobody else holds the mutexes that it needs
(`Dataset.Uncontended`). A commit goes through the variables in the order of their registration,
and each of those that write (`Dataset.Writes`) overwrites its entry: this is
`Dataset.commit_in_order`. A read looks at each variable by itself, whatever became of those before
it: this is `Dataset.read_each`.

`PoolBank.Changed` says that every entry was changed in a given way and that nothing else of the
pools was. It is what each variable does to the pools (`Accessor.changed_commit`,
`Dataset.changed_commitVariable`), and it adds up (`PoolBank.Changed.foldl`).
-/

namespace Housekeeper

/-! ## Pools that change entry by entry -/

namespace PoolBank

def entry? (bank : PoolBank) (handle : PoolHandle) (id : LocalPoolId) : Option PoolEntry :=
  (bank.pool? handle).bind fun pool => pool.entry? id

/-- Could the pool be locked? -/
def isFree (bank : PoolBank) (handle : PoolHandle) : Bool := (bank.lock handle).toBool

theorem exists_lock_of_isFree {bank : PoolBank} {handle : PoolHandle}
    (h : bank.isFree handle = true) : ∃ pool, bank.lock handle = .ok pool := by
  unfold isFree at h
  cases hlock : bank.lock handle with
  | ok pool => exact ⟨pool, rfl⟩
  | error e =>
    rw [hlock] at h
    cases h

theorem isFree_modify (bank : PoolBank) (handle other : PoolHandle)
    (change : LocalPool → LocalPool) :
    (bank.modify handle change).isFree other = bank.isFree other := by
  simp only [isFree, lock, modify, Array.getElem?_modify]
  by_cases hindex : handle.index = other.index
  · rw [if_pos hindex]
    rcases bank.cells[other.index]? with _ | ⟨pool, _ | _⟩ <;> rfl
  · rw [if_neg hindex]

/-- The entries became what `change` makes of them, and nothing else changed. -/
structure Changed (change : PoolHandle → LocalPoolId → PoolEntry → PoolEntry)
    (before after : PoolBank) : Prop where
  entry (handle : PoolHandle) (id : LocalPoolId) :
    after.entry? handle id = (before.entry? handle id).map (change handle id)
  filled (handle : PoolHandle) :
    (after.pool? handle).map LocalPool.filled = (before.pool? handle).map LocalPool.filled
  free (handle : PoolHandle) : after.isFree handle = before.isFree handle

namespace Changed

variable {change next : PoolHandle → LocalPoolId → PoolEntry → PoolEntry} {a b c : PoolBank}

/-- A change that leaves every entry alone. -/
theorem of_kept {bank : PoolBank}
    (h : ∀ handle id old, bank.entry? handle id = some old → change handle id old = old) :
    Changed change bank bank where
  entry handle id := by
    cases hold : bank.entry? handle id with
    | none => rfl
    | some old => rw [Option.map_some, h handle id old hold]
  filled _ := rfl
  free _ := rfl

theorem trans (first : Changed change a b) (second : Changed next b c) :
    Changed (fun handle id old => next handle id (change handle id old)) a c where
  entry handle id := by
    rw [second.entry, first.entry, Option.map_map]
    rfl
  filled handle := (second.filled handle).trans (first.filled handle)
  free handle := (second.free handle).trans (first.free handle)

/-- A change of one pool, under whatever handle it is looked up. -/
theorem modify {bank : PoolBank} {own : PoolHandle} {update : LocalPool → LocalPool}
    (hfilled : ∀ pool, bank.pool? own = some pool → (update pool).filled = pool.filled)
    (hentry : ∀ pool handle id, bank.pool? own = some pool → own.samePool handle = true →
      LocalPool.entry? (update pool) id = (pool.entry? id).map (change handle id))
    (hother : ∀ handle id old, own.samePool handle = false → change handle id old = old) :
    Changed change bank (bank.modify own update) where
  free handle := bank.isFree_modify own handle update
  filled handle := by
    rw [pool?_modify]
    split
    next hindex =>
      have hsame : own.samePool handle = true := PoolHandle.samePool_iff.mpr hindex.symm
      rw [pool?_of_samePool hsame]
      cases hpool : bank.pool? own with
      | none => rfl
      | some pool => exact congrArg some (hfilled pool hpool)
    next => rfl
  entry handle id := by
    show ((bank.modify own update).pool? handle).bind _ = ((bank.pool? handle).bind _).map _
    rw [pool?_modify]
    split
    next hindex =>
      have hsame : own.samePool handle = true := PoolHandle.samePool_iff.mpr hindex.symm
      rw [pool?_of_samePool hsame]
      cases hpool : bank.pool? own with
      | none => rfl
      | some pool => exact hentry pool handle id hpool hsame
    next hindex =>
      have hsame : own.samePool handle = false := by
        simpa [PoolHandle.samePool] using Ne.symm hindex
      have hid : change handle id = fun old => old := funext fun old => hother handle id old hsame
      rw [hid, Option.map_id']

/-- One accessor after the other changes the pools, each of which is as free as before. -/
theorem foldl {step : PoolBank → Accessor → PoolBank}
    {change : Accessor → PoolHandle → LocalPoolId → PoolEntry → PoolEntry}
    (accessors : List Accessor) (bank : PoolBank)
    (h : ∀ v ∈ accessors, ∀ next : PoolBank, (∀ handle, next.isFree handle = bank.isFree handle) →
      Changed (change v) next (step next v)) :
    Changed (fun handle id old => accessors.foldl (fun entry v => change v handle id entry) old)
      bank (accessors.foldl step bank) := by
  induction accessors generalizing bank with
  | nil => exact .of_kept fun _ _ _ _ => rfl
  | cons v rest ih =>
    have hfirst := h v List.mem_cons_self bank fun _ => rfl
    refine hfirst.trans (ih _ fun w hmem next hfree => ?_)
    exact h w (List.mem_cons_of_mem v hmem) next fun handle =>
      (hfree handle).trans (hfirst.free handle)

end Changed

end PoolBank

/-! ## One variable -/

namespace Accessor

instance (writer : Accessor) (handle : PoolHandle) (id : LocalPoolId) (old : PoolEntry) :
    Decidable (writer.MayWrite handle id old) :=
  decidable_of_iff (writer.mode.canWrite = true ∧ writer.pool.samePool handle = true ∧
      writer.id = id ∧ id ≠ noParameter ∧ writer.entry.layout = old.layout)
    ⟨fun ⟨writable, bound, same, real, layout⟩ => ⟨writable, bound, same, real, layout⟩,
      fun h => ⟨h.writable, h.bound, h.id_eq, h.real, h.layout_eq⟩⟩

/-- What a commit of the accessor makes of an entry. -/
def rewrite (accessor : Accessor) (handle : PoolHandle) (id : LocalPoolId) (old : PoolEntry) :
    PoolEntry :=
  if accessor.MayWrite handle id old then accessor.entry else old

/-- The pool after a commit, which may have failed. -/
def written (accessor : Accessor) (pool : LocalPool) : LocalPool :=
  match accessor.commitTo pool with
  | .ok next => next
  | .error _ => pool

theorem filled_written (accessor : Accessor) (pool : LocalPool) :
    (accessor.written pool).filled = pool.filled := by
  unfold written
  cases hcommit : accessor.commitTo pool with
  | error e => rfl
  | ok next => exact (rewritten_commitTo hcommit (PoolHandle.samePool_iff.mpr rfl)).filled_eq

/-- Whoever may write an entry of its pool does so. -/
theorem commitTo_of_mayWrite {accessor : Accessor} {pool : LocalPool} {handle : PoolHandle}
    {id : LocalPoolId} {old : PoolEntry} (may : accessor.MayWrite handle id old)
    (there : pool.entry? id = some old) :
    accessor.commitTo pool = .ok ⟨pool.entries.put id accessor.entry, pool.filled⟩ := by
  obtain ⟨hwritable, -, rfl, hreal, hlayout⟩ := may
  have hmatches : pool.layout? accessor.id = some (accessor.type, accessor.values.length) := by
    rw [LocalPool.layout?, there, Option.map_some, ← hlayout]
    rfl
  obtain ⟨found, hfetch⟩ := LocalPool.exists_fetch_iff.mpr hmatches
  rw [commitTo, if_neg (by simpa [isUnbound] using hreal), if_pos hwritable, LocalPool.write,
    hfetch]
  rfl

theorem entry?_written (accessor : Accessor) (pool : LocalPool) {handle : PoolHandle}
    (bound : accessor.pool.samePool handle = true) (id : LocalPoolId) :
    LocalPool.entry? (accessor.written pool) id =
      (pool.entry? id).map (accessor.rewrite handle id) := by
  by_cases hmay : ∃ old, pool.entry? id = some old ∧ accessor.MayWrite handle id old
  · obtain ⟨old, hold, hmay⟩ := hmay
    rw [written, commitTo_of_mayWrite hmay hold, hold, Option.map_some, rewrite, if_pos hmay]
    exact (IdTable.get?_put ..).trans (if_pos rfl)
  · have hkept : (pool.entry? id).map (accessor.rewrite handle id) = pool.entry? id := by
      cases hold : pool.entry? id with
      | none => rfl
      | some old =>
        rw [Option.map_some, rewrite, if_neg fun h => hmay ⟨old, hold, h⟩]
    rw [hkept, written]
    cases hcommit : accessor.commitTo pool with
    | error e => rfl
    | ok next =>
      have hentry := (rewritten_commitTo hcommit bound).entry id
      generalize hold : pool.entry? id = before at hentry hmay
      generalize next.entry? id = after at hentry
      cases hentry with
      | kept => rfl
      | @written old writer among may =>
        cases List.mem_singleton.mp among
        exact absurd ⟨old, rfl, may⟩ hmay

theorem changed_modify {accessor : Accessor} {bank : PoolBank} {own : PoolHandle}
    {update : LocalPool → LocalPool} (same : accessor.pool.samePool own = true)
    (h : ∀ pool, bank.pool? own = some pool → update pool = accessor.written pool) :
    PoolBank.Changed accessor.rewrite bank (bank.modify own update) := by
  refine .modify (fun pool hpool => ?_) (fun pool handle id hpool hsame => ?_) ?_
  · rw [h pool hpool, accessor.filled_written]
  · rw [h pool hpool, accessor.entry?_written pool (PoolHandle.samePool_trans same hsame)]
  · intro handle id old hother
    refine if_neg fun hmay => ?_
    have hindex : own.index ≠ handle.index := by simpa [PoolHandle.samePool] using hother
    exact hindex ((PoolHandle.samePool_iff.mp same).symm.trans
      (PoolHandle.samePool_iff.mp hmay.bound))

theorem changed_commit {accessor : Accessor} {bank : PoolBank}
    (free : bank.isFree accessor.pool = true) :
    PoolBank.Changed accessor.rewrite bank (accessor.commit bank).2 := by
  have hsame : accessor.pool.samePool accessor.pool = true := PoolHandle.samePool_iff.mpr rfl
  obtain ⟨pool, hlock⟩ := PoolBank.exists_lock_of_isFree free
  have hpool := PoolBank.lock_eq_ok hlock
  unfold commit
  split
  next hunbound =>
    refine .of_kept fun handle id old _ => if_neg fun hmay => hmay.real ?_
    rw [← hmay.id_eq]
    simpa [isUnbound] using hunbound
  next =>
    simp only [hlock]
    cases hcommit : accessor.commitTo pool with
    | error e =>
      refine .of_kept fun handle id old hold => if_neg fun hmay => ?_
      rw [PoolBank.entry?, PoolBank.pool?_of_samePool hmay.bound, hpool] at hold
      rw [commitTo_of_mayWrite hmay hold] at hcommit
      cases hcommit
    | ok next =>
      have hwritten (own : LocalPool) (hown : bank.pool? accessor.pool = some own) :
          next = accessor.written own := by
        obtain rfl := Option.some.inj (hpool.symm.trans hown)
        rw [written, hcommit]
      exact changed_modify hsame hwritten

/-- What becomes of an accessor that is read, given the entry under its id: it has what the entry
has if this is of its type and length, and otherwise it is zero and invalid. -/
structure Follows (before : Accessor) (source : Option PoolEntry) (after : Accessor) : Prop where
  pool_eq : after.pool = before.pool
  id_eq : after.id = before.id
  mode_eq : after.mode = before.mode
  shape_eq : after.shape = before.shape
  changed_eq : after.changed = before.changed
  entry_eq : after.entry = (source.filter fun old => old.layout = before.entry.layout).getD
    (.zeroed before.type before.values.length)

theorem shape_load {accessor : Accessor} {values : List (Element accessor.type)}
    (h : values.length = accessor.copy.length) (valid : Bool) :
    ((accessor.withCopy (accessor.copy.load values)).withValidity valid).shape =
      accessor.shape := by
  obtain ⟨pool, id, mode, type, _ | old, valid, changed⟩ := accessor
  · rfl
  · exact congrArg (fun length => AccessorShape.mk type (some length)) h

theorem shape_cleared (accessor : Accessor) (valid : Bool) :
    ((accessor.withCopy accessor.copy.cleared).withValidity valid).shape = accessor.shape := by
  obtain ⟨pool, id, mode, type, _ | old, valid, changed⟩ := accessor
  · rfl
  · exact congrArg (fun length => AccessorShape.mk type (some length)) List.length_replicate

theorem shape_withValues (accessor : Accessor) (type : ElementType)
    (values : List (Element type)) :
    (accessor.withValues type values).shape = accessor.shape := by
  unfold withValues
  split
  next h =>
    obtain ⟨rfl, hlength⟩ := h
    exact shape_load hlength accessor.valid
  next => rfl

theorem shape_withValidity (accessor : Accessor) (valid : Bool) :
    (accessor.withValidity valid).shape = accessor.shape := by
  obtain ⟨pool, id, mode, type, copy | copy, old, changed⟩ := accessor <;> rfl

theorem shape_readFrom (accessor : Accessor) (pool : LocalPool) :
    (accessor.readFrom pool).2.shape = accessor.shape := by
  unfold readFrom
  split
  · rfl
  · split
    next values valid hfetch => exact shape_load (LocalPool.fetch_eq_ok_iff.mp hfetch).2 valid
    next => exact accessor.shape_cleared false

theorem shape_read (accessor : Accessor) (bank : PoolBank) :
    (accessor.read bank).2.shape = accessor.shape := by
  unfold read
  split
  · rfl
  · split
    · exact accessor.shape_readFrom _
    · rfl

theorem follows_readFrom {accessor : Accessor} (real : accessor.id ≠ noParameter)
    (pool : LocalPool) :
    accessor.Follows (pool.entry? accessor.id) (accessor.readFrom pool).2 ∧
      (Dataset.failed (accessor.readFrom pool).1 = true ↔
        (pool.entry? accessor.id).map PoolEntry.layout ≠ some accessor.entry.layout) := by
  have hlayout : accessor.entry.layout = (accessor.type, accessor.copy.length) := by
    rw [← LocalCopy.length_values]
    rfl
  rw [readFrom, if_neg (by simpa [isUnbound] using real)]
  cases hfetch : pool.fetch accessor.id accessor.type accessor.copy.length with
  | ok found =>
    obtain ⟨values, valid⟩ := found
    obtain ⟨hentry, hlength⟩ := LocalPool.fetch_eq_ok_iff.mp hfetch
    have hmatches : (PoolEntry.mk accessor.type values valid).layout = accessor.entry.layout := by
      rw [hlayout, ← hlength]
      rfl
    refine ⟨⟨rfl, rfl, rfl, shape_load hlength valid, rfl, ?_⟩, ?_⟩
    · rw [hentry, Option.filter_some, if_pos (by simpa using hmatches), Option.getD_some]
      exact congrArg (PoolEntry.mk accessor.type · valid) (LocalCopy.values_load hlength)
    · simp [Dataset.failed, hentry, hmatches]
  | error e =>
    have hother : pool.layout? accessor.id ≠ some accessor.entry.layout := by
      intro hmatches
      rw [hlayout] at hmatches
      obtain ⟨found, hfound⟩ := LocalPool.exists_fetch_iff.mpr hmatches
      rw [hfetch] at hfound
      cases hfound
    refine ⟨⟨rfl, rfl, rfl, accessor.shape_cleared false, rfl, ?_⟩, ?_⟩
    · have hnone : (pool.entry? accessor.id).filter
          (fun old => old.layout = accessor.entry.layout) = none := by
        rw [Option.filter_eq_none_iff]
        intro old hold hsame
        refine hother ?_
        rw [LocalPool.layout?, hold, Option.map_some, of_decide_eq_true hsame]
      rw [hnone, Option.getD_none]
      refine congrArg (PoolEntry.mk accessor.type · false) ?_
      exact accessor.copy.values_cleared.trans (by rw [← LocalCopy.length_values]; rfl)
    · exact iff_of_true rfl hother

end Accessor

/-! ## The set -/

namespace Dataset

/-- The pools that a transaction of the set locks. -/
def locks (set : Dataset) : List PoolHandle :=
  if set.lockEach then set.accessors.map Accessor.pool else [set.pool]

/-- Nobody else holds a mutex that the set needs. -/
def Uncontended (set : Dataset) (bank : PoolBank) : Prop :=
  ∀ handle ∈ set.locks, bank.isFree handle = true

/-- The set gets at the pool of the variable. -/
def Reaches (set : Dataset) (v : Accessor) : Prop :=
  set.lockEach = true ∨ v.pool.samePool set.pool = true

instance (set : Dataset) (v : Accessor) : Decidable (set.Reaches v) :=
  inferInstanceAs (Decidable (_ ∨ _))

/-- A commit of the set puts what the variable holds into this entry. -/
structure Writes (set : Dataset) (v : Accessor) (handle : PoolHandle) (id : LocalPoolId)
    (old : PoolEntry) : Prop where
  may : v.MayWrite handle id old
  /-- Without a read before, only what is never read is written. -/
  mode : set.state = .idle → v.mode = .write
  reached : set.Reaches v

instance (set : Dataset) (v : Accessor) (handle : PoolHandle) (id : LocalPoolId)
    (old : PoolEntry) : Decidable (set.Writes v handle id old) :=
  decidable_of_iff (v.MayWrite handle id old ∧ (set.state = .idle → v.mode = .write) ∧
      set.Reaches v)
    ⟨fun ⟨may, mode, reached⟩ => ⟨may, mode, reached⟩, fun h => ⟨h.may, h.mode, h.reached⟩⟩

/-- The variable is read along with the set. -/
structure Reads (set : Dataset) (v : Accessor) : Prop where
  readable : v.mode.canRead = true
  real : v.id ≠ noParameter
  reached : set.Reaches v

instance (set : Dataset) (v : Accessor) : Decidable (set.Reads v) :=
  decidable_of_iff (v.mode.canRead = true ∧ v.id ≠ noParameter ∧ set.Reaches v)
    ⟨fun ⟨readable, real, reached⟩ => ⟨readable, real, reached⟩,
      fun h => ⟨h.readable, h.real, h.reached⟩⟩

namespace Uncontended

variable {set : Dataset} {bank : PoolBank}

theorem of_mem (free : set.Uncontended bank) {v : Accessor} (hmem : v ∈ set.accessors)
    (each : set.lockEach = true) : bank.isFree v.pool = true := by
  apply free
  rw [locks, if_pos each]
  exact List.mem_map_of_mem hmem

theorem of_pool (free : set.Uncontended bank) (once : set.lockEach = false) :
    bank.isFree set.pool = true := by
  apply free
  simp [locks, once]

theorem lockOnce_eq (free : set.Uncontended bank) : set.lockOnce bank = .ok () := by
  rw [lockOnce]
  cases heach : set.lockEach with
  | true => rfl
  | false =>
    obtain ⟨pool, hpool⟩ := PoolBank.exists_lock_of_isFree (free.of_pool heach)
    rw [hpool]
    rfl

end Uncontended

/-! ## Committing -/

theorem writes_iff {set : Dataset} {v : Accessor} {handle : PoolHandle} {id : LocalPoolId}
    {old : PoolEntry} : set.Writes v handle id old ↔
      set.isCommitted v = true ∧ set.Reaches v ∧ v.MayWrite handle id old := by
  constructor
  · intro h
    refine ⟨?_, h.reached, h.may⟩
    have hreal : v.id ≠ noParameter := h.may.id_eq ▸ h.may.real
    cases hstate : set.state <;>
      simp [isCommitted, Accessor.isUnbound, hreal, hstate, h.may.writable, h.mode]
  · rintro ⟨hcommitted, hreached, hmay⟩
    refine ⟨hmay, fun hidle => ?_, hreached⟩
    simp only [isCommitted, hidle, Bool.and_eq_true, beq_iff_eq] at hcommitted
    exact hcommitted.2

theorem changed_commitVariable {set : Dataset} {v : Accessor} {bank : PoolBank}
    (free : set.lockEach = true → bank.isFree v.pool = true) :
    PoolBank.Changed (fun handle id old => if set.Reaches v then v.rewrite handle id old else old)
      bank (set.commitVariable bank v) := by
  by_cases heach : set.lockEach = true
  · rw [commitVariable, if_pos heach]
    simpa [Reaches, heach] using Accessor.changed_commit (free heach)
  · rw [commitVariable, if_neg heach]
    cases hsame : v.pool.samePool set.pool with
    | false =>
      rw [if_pos (by simp [isForeign, hsame])]
      exact .of_kept fun handle id old _ => if_neg (by simp [Reaches, heach, hsame])
    | true =>
      rw [if_neg (by simp [isForeign, hsame])]
      simp only [Reaches, hsame, or_true, if_true]
      exact Accessor.changed_modify hsame fun _ _ => rfl

theorem changed_committed {set : Dataset} {bank : PoolBank} (free : set.Uncontended bank) :
    PoolBank.Changed (fun handle id old => set.accessors.foldl
        (fun entry v => if set.Writes v handle id entry then v.entry else entry) old)
      bank ((set.accessors.filter set.isCommitted).foldl set.commitVariable bank) := by
  have hstep (v : Accessor) (hmem : v ∈ set.accessors.filter set.isCommitted) (next : PoolBank)
      (hfree : ∀ handle, next.isFree handle = bank.isFree handle) :
      PoolBank.Changed
        (fun handle id old => if set.Reaches v then v.rewrite handle id old else old) next
        (set.commitVariable next v) :=
    changed_commitVariable fun heach =>
      (hfree v.pool).trans (free.of_mem (List.mem_filter.mp hmem).1 heach)
  have hchanged := PoolBank.Changed.foldl _ bank hstep
  have hvariable (handle : PoolHandle) (id : LocalPoolId) (entry : PoolEntry) (v : Accessor) :
      (if set.isCommitted v = true then
          if set.Reaches v then v.rewrite handle id entry else entry
        else entry) = if set.Writes v handle id entry then v.entry else entry := by
    by_cases hcommitted : set.isCommitted v = true <;> by_cases hreached : set.Reaches v <;>
      simp [writes_iff, Accessor.rewrite, hcommitted, hreached]
  simpa only [List.foldl_filter, hvariable] using hchanged

theorem commitResult_of_idle {set : Dataset} (idle : set.state = .idle) :
    set.commitResult =
      if ∃ v ∈ set.accessors, v.id ≠ noParameter ∧ v.mode ≠ .write then .error .commitWithoutRead
      else .ok () := by
  have hall : (set.accessors.all fun v => v.isUnbound || v.mode == .write) = true ↔
      ¬ ∃ v ∈ set.accessors, v.id ≠ noParameter ∧ v.mode ≠ .write := by
    simp [Accessor.isUnbound, Decidable.or_iff_not_imp_left]
  rw [commitResult, idle]
  simp only [hall, ite_not]

/-- **A commit goes through the variables in the order of their registration**, and each one that
writes puts its values and its validity into its entry: it is not the sentinel, and the entry is
there in its pool, of its type and length; it is writable, or write-only if the set was not read;
and unless every variable locks its own pool, it is of the pool of the set. No failure stops the
others, and nothing else changes. If the set was read the commit succeeds; otherwise it fails if,
and only if, some variable is not write-only. -/
theorem commit_in_order {set : Dataset} {bank : PoolBank} (free : set.Uncontended bank) :
    let outcome := set.commit bank
    PoolBank.Changed (fun handle id old => set.accessors.foldl
        (fun entry v => if set.Writes v handle id entry then v.entry else entry) old)
      bank outcome.2.2 ∧
    outcome.2.1 = { set with state := .idle } ∧
    (set.state = .wasRead → outcome.1 = .ok ()) ∧
    (set.state = .idle → outcome.1 =
      if ∃ v ∈ set.accessors, v.id ≠ noParameter ∧ v.mode ≠ .write then .error .commitWithoutRead
      else .ok ()) := by
  intro outcome
  have houtcome : outcome = (set.commitResult, { set with state := .idle },
      (set.accessors.filter set.isCommitted).foldl set.commitVariable bank) := by
    simp only [outcome, commit, free.lockOnce_eq]
  rw [houtcome]
  refine ⟨changed_committed free, rfl, fun hread => ?_, commitResult_of_idle⟩
  show set.commitResult = .ok ()
  rw [commitResult, hread]

/-- Two pools, each with a byte under the same id. -/
def twoPools : PoolBank :=
  let cell (byte : Element .u8) : PoolCell :=
    ⟨⟨IdTable.empty.put 1 ⟨.u8, [byte], true⟩, true⟩, false⟩
  ⟨#[cell 5, cell 6]⟩

def firstPool : PoolHandle := ⟨0, 7, .polling⟩

def secondPool : PoolHandle := ⟨1, 8, .polling⟩

/-- The first two write the same byte, the third expects two bytes there, the fourth is bound to
nothing and the fifth is of the other pool. -/
def mixed : Dataset :=
  { creator firstPool 1 5 with
    accessors := [(Accessor.scalar firstPool 1 .write .u8).withValues .u8 [20],
      (Accessor.scalar firstPool 1 .readWrite .u8).withValues .u8 [30],
      Accessor.vector firstPool 1 .readWrite .u8 2,
      Accessor.scalar firstPool noParameter .write .u8,
      (Accessor.scalar secondPool 1 .write .u8).withValues .u8 [40]] }

theorem uncontended_mixed : mixed.Uncontended twoPools := by
  intro handle hmem
  obtain rfl : handle = firstPool := by simpa [locks, mixed, creator, consumer] using hmem
  rfl

/-- Nothing of the set was read, so the byte of the second variable is not written. -/
theorem mixed_commit_in_order :
    mixed.Uncontended twoPools ∧
      (mixed.commit twoPools).1 = .error .commitWithoutRead ∧
      PoolBank.entry? (mixed.commit twoPools).2.2 firstPool 1 = some ⟨.u8, [20], false⟩ ∧
      PoolBank.entry? (mixed.commit twoPools).2.2 secondPool 1 = some ⟨.u8, [6], true⟩ := by
  obtain ⟨hchanged, -, -, hresult⟩ := commit_in_order uncontended_mixed
  refine ⟨uncontended_mixed, ?_, ?_, ?_⟩
  · rw [hresult rfl]
    exact if_pos (by decide)
  · rw [hchanged.entry]
    rfl
  · rw [hchanged.entry]
    rfl

/-! ## Reading -/

theorem readVariable_of_reaches {set : Dataset} {bank : PoolBank} (free : set.Uncontended bank)
    {v : Accessor} (hmem : v ∈ set.accessors) (reached : set.Reaches v) :
    ∃ pool, bank.pool? v.pool = some pool ∧ set.readVariable bank v = v.readFrom pool := by
  cases heach : set.lockEach with
  | true =>
    obtain ⟨pool, hlock⟩ := PoolBank.exists_lock_of_isFree (free.of_mem hmem heach)
    refine ⟨pool, PoolBank.lock_eq_ok hlock, ?_⟩
    rw [readVariable, if_pos heach, Accessor.read, hlock]
    cases hunbound : v.isUnbound <;> simp [Accessor.readFrom, hunbound]
  | false =>
    obtain ⟨pool, hlock⟩ := PoolBank.exists_lock_of_isFree (free.of_pool heach)
    have hsame : v.pool.samePool set.pool = true := by simpa [Reaches, heach] using reached
    have hpool := PoolBank.lock_eq_ok hlock
    refine ⟨pool, (PoolBank.pool?_of_samePool hsame bank).symm.trans hpool, ?_⟩
    simp [readVariable, heach, isForeign, hsame, hpool]

/-- A readable variable that the set does not get at, or that has no entry of its type and
length. -/
structure Misses (set : Dataset) (bank : PoolBank) (v : Accessor) : Prop where
  readable : v.mode.canRead = true
  real : v.id ≠ noParameter
  missing : ¬ set.Reaches v ∨ (bank.entry? v.pool v.id).map PoolEntry.layout ≠ some v.entry.layout

instance (set : Dataset) (bank : PoolBank) (v : Accessor) : Decidable (set.Misses bank v) :=
  decidable_of_iff (v.mode.canRead = true ∧ v.id ≠ noParameter ∧ (¬ set.Reaches v ∨
      (bank.entry? v.pool v.id).map PoolEntry.layout ≠ some v.entry.layout))
    ⟨fun ⟨readable, real, missing⟩ => ⟨readable, real, missing⟩,
      fun h => ⟨h.readable, h.real, h.missing⟩⟩

/-- What a read does to one variable. -/
def outcome (set : Dataset) (bank : PoolBank) (v : Accessor) : Except PoolError Unit × Accessor :=
  if isRead v then set.readVariable bank v else (.ok (), v)

theorem readAll_eq (set : Dataset) (bank : PoolBank) :
    set.readAll bank = set.accessors.map (set.outcome bank) := rfl

/-- Whatever becomes of a variable, it is still of the same type and length. -/
theorem shape_outcome (set : Dataset) (bank : PoolBank) (v : Accessor) :
    (set.outcome bank v).2.shape = v.shape := by
  unfold outcome readVariable
  split
  · split
    · exact v.shape_read bank
    · split
      · rfl
      · split
        · exact v.shape_readFrom _
        · rfl
  · rfl

theorem shapes_read (set : Dataset) (bank : PoolBank) :
    (set.read bank).2.accessors.map Accessor.shape = set.accessors.map Accessor.shape := by
  unfold read
  split
  · rfl
  · split
    · rfl
    · rw [readAll_eq, List.map_map, List.map_map]
      exact List.map_congr_left fun v _ => set.shape_outcome bank v

theorem read_outcome {set : Dataset} {bank : PoolBank} (free : set.Uncontended bank)
    {v : Accessor} (hmem : v ∈ set.accessors) :
    (if set.Reads v then v.Follows (bank.entry? v.pool v.id) (set.outcome bank v).2
      else (set.outcome bank v).2 = v) ∧
    (failed (set.outcome bank v).1 = true ↔ set.Misses bank v) := by
  by_cases hread : isRead v = true
  · obtain ⟨hreadable, hreal⟩ : v.mode.canRead = true ∧ v.id ≠ noParameter := by
      simpa [isRead, Accessor.isUnbound] using hread
    rw [outcome, if_pos hread]
    by_cases hreached : set.Reaches v
    · obtain ⟨pool, hpool, houtcome⟩ := readVariable_of_reaches free hmem hreached
      have hentry : bank.entry? v.pool v.id = pool.entry? v.id := by
        rw [PoolBank.entry?, hpool, Option.bind_some]
      obtain ⟨hfollows, hfailed⟩ := Accessor.follows_readFrom hreal pool
      rw [← hentry] at hfollows hfailed
      rw [if_pos ⟨hreadable, hreal, hreached⟩, houtcome, hfailed]
      refine ⟨hfollows, fun hother => ⟨hreadable, hreal, .inr hother⟩, fun hmisses => ?_⟩
      exact hmisses.missing.resolve_left (not_not_intro hreached)
    · obtain ⟨heach, hforeign⟩ : set.lockEach = false ∧ set.isForeign v = true := by
        simpa [Reaches, isForeign] using hreached
      have houtcome : set.readVariable bank v = (.error .invalidParameterDefinition, v) := by
        simp [readVariable, heach, hforeign]
      rw [if_neg fun hreads => hreached hreads.reached, houtcome]
      exact ⟨rfl, iff_of_true rfl ⟨hreadable, hreal, .inl hreached⟩⟩
  · have hskipped (readable : v.mode.canRead = true) (real : v.id ≠ noParameter) : False :=
      hread (by simp [isRead, Accessor.isUnbound, readable, real])
    rw [outcome, if_neg hread, if_neg fun hreads => hskipped hreads.readable hreads.real]
    exact ⟨rfl, iff_of_false (by simp [failed]) fun hmisses =>
      hskipped hmisses.readable hmisses.real⟩

/-- **A read looks at every variable by itself.** Each one that is read has what its entry has, or
it is zero and invalid if there is none of its type and length; what becomes of the others does not
matter to it. Sentinels and write-only variables stay as they are, and so do those of other pools
unless every variable locks its own. The read fails if, and only if, some readable variable is of
another pool or has no such entry. No pool changes, and a set that was read is not read again. -/
theorem read_each (set : Dataset) (bank : PoolBank) :
    (set.act bank .read).2.2 = bank ∧
    (set.state = .wasRead → set.read bank = (.error .setWasAlreadyRead, set)) ∧
    (set.state = .idle → set.Uncontended bank →
      (∃ refresh : Accessor → Accessor,
        (set.read bank).2 =
          { set with state := .wasRead, accessors := set.accessors.map refresh } ∧
        ∀ v ∈ set.accessors, if set.Reads v then v.Follows (bank.entry? v.pool v.id) (refresh v)
          else refresh v = v) ∧
      (set.read bank).1 = if ∃ v ∈ set.accessors, set.Misses bank v
        then .error .invalidParameterDefinition else .ok ()) := by
  refine ⟨rfl, fun hread => by rw [read, hread], fun hidle free => ?_⟩
  have hread : set.read bank =
      (if (set.readAll bank).any fun outcome => failed outcome.1 then
          .error .invalidParameterDefinition else .ok (),
        { set with state := .wasRead, accessors := (set.readAll bank).map Prod.snd }) := by
    rw [read, hidle]
    simp only [free.lockOnce_eq]
  have hfailed : ((set.readAll bank).any fun outcome => failed outcome.1) = true ↔
      ∃ v ∈ set.accessors, set.Misses bank v := by
    rw [List.any_eq_true]
    constructor
    · rintro ⟨outcome, hmem, houtcome⟩
      obtain ⟨v, hv, rfl⟩ := List.mem_map.mp hmem
      exact ⟨v, hv, (read_outcome free hv).2.mp houtcome⟩
    · rintro ⟨v, hv, hmisses⟩
      exact ⟨_, List.mem_map_of_mem hv, (read_outcome free hv).2.mpr hmisses⟩
  rw [hread]
  refine ⟨⟨fun v => (set.outcome bank v).2, ?_, fun v hv => (read_outcome free hv).1⟩, ?_⟩
  · rw [readAll_eq, List.map_map]
    rfl
  · simp only [hfailed]

/-- The third variable fails, and the second has the byte all the same. -/
theorem mixed_read_each :
    mixed.state = .idle ∧ mixed.Uncontended twoPools ∧
      (mixed.read twoPools).1 = .error .invalidParameterDefinition ∧
      ∃ v, (mixed.read twoPools).2.accessors[1]? = some v ∧ v.entry = ⟨.u8, [5], true⟩ := by
  obtain ⟨-, -, hidle⟩ := read_each mixed twoPools
  obtain ⟨⟨refresh, hset, hvariables⟩, hresult⟩ := hidle rfl uncontended_mixed
  refine ⟨rfl, uncontended_mixed, ?_, _, by rw [hset]; rfl, ?_⟩
  · rw [hresult]
    exact if_pos (by decide)
  · have hsecond := hvariables _ (List.mem_of_getElem? (i := 1) rfl)
    rw [if_pos (by decide)] at hsecond
    exact hsecond.entry_eq

end Dataset

end Housekeeper
