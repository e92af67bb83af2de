import Housekeeper.Proofs.Overwriting

/-!
# What a read brings in

A set whose variables lock their own pools is read variable by variable, and others may take and
release the mutexes meanwhile: `Dataset.readOver` is a read during which every variable finds the
pools at a moment of its own. `Accessor.Refreshed` says what becomes of a variable. It has what its
entry had, or it is zero and invalid, but if its pool could not be locked then it is what it was.

So a commit after the read puts back what was there, and nothing else, but for the variables that
were locked out (`Dataset.commit_after_read`). Of them it writes what they held before the read,
however old that is (`Dataset.locked_out_is_stale`).
-/

namespace Housekeeper

namespace LocalCopy

variable {type : ElementType}

theorem values_cleared (copy : LocalCopy type) :
    copy.cleared.values = List.replicate copy.length 0 := by
  cases copy <;> rfl

end LocalCopy

/-! ## Entries and their layout -/

namespace LocalPool

/-- Access succeeds if the entry is of this type and length, and only then. -/
theorem exists_fetch_iff {pool : LocalPool} {id : LocalPoolId} {type : ElementType}
    {length : Nat} :
    (∃ found, pool.fetch id type length = .ok found) ↔ pool.layout? id = some (type, length) := by
  constructor
  · rintro ⟨⟨values, valid⟩, hfetch⟩
    obtain ⟨hentry, hlength⟩ := fetch_eq_ok_iff.mp hfetch
    rw [layout?, hentry, ← hlength]
    rfl
  · intro hlayout
    obtain ⟨⟨own, values, valid⟩, hentry, hown⟩ := Option.map_eq_some_iff.mp hlayout
    cases hown
    exact ⟨(values, valid), fetch_eq_ok_iff.mpr ⟨hentry, rfl⟩⟩

end LocalPool

/-! ## One variable -/

namespace Accessor

/-- What a read makes of an accessor that finds the pools as they are in this bank. -/
inductive Refreshed (bank : PoolBank) (before : Accessor) : Accessor → Prop where
  /-- It has what its entry has. -/
  | loaded {pool : LocalPool} {copy : LocalCopy before.type} {valid : Bool}
      (free : bank.lock before.pool = .ok pool)
      (entry : pool.entry? before.id = some ⟨before.type, copy.values, valid⟩) :
      Refreshed bank before ((before.withCopy copy).withValidity valid)
  /-- There is no such entry. It is zero and invalid. -/
  | reset {pool : LocalPool} (free : bank.lock before.pool = .ok pool)
      (other : pool.layout? before.id ≠ some (before.type, before.copy.length)) :
      Refreshed bank before ((before.withCopy before.copy.cleared).withValidity false)
  /-- Its pool could not be locked. It is what it was. -/
  | missed (held : bank.lock before.pool = .error .lockTimeout) : Refreshed bank before before

theorem refreshed_read {accessor : Accessor} (bound : accessor.isUnbound = false)
    (bank : PoolBank) : accessor.Refreshed bank (accessor.read bank).2 := by
  unfold read
  rw [if_neg (by simp [bound])]
  cases hlock : bank.lock accessor.pool with
  | error e =>
    have htimeout : e = .lockTimeout := by
      unfold PoolBank.lock at hlock
      split at hlock <;> cases hlock
      rfl
    subst htimeout
    exact .missed hlock
  | ok pool =>
    simp only [readFrom, bound]
    cases hfetch : pool.fetch accessor.id accessor.type accessor.copy.length with
    | error e =>
      refine .reset hlock fun hlayout => ?_
      obtain ⟨found, hfound⟩ := LocalPool.exists_fetch_iff.mpr hlayout
      rw [hfetch] at hfound
      cases hfound
    | ok found =>
      obtain ⟨values, valid⟩ := found
      obtain ⟨hentry, hlength⟩ := LocalPool.fetch_eq_ok_iff.mp hfetch
      refine .loaded hlock ?_
      rw [LocalCopy.values_load hlength]
      exact hentry

/-- An accessor that is committed is written, unless it is bound to no entry. -/
theorem write_of_commitTo {accessor : Accessor} {pool next : LocalPool}
    (h : accessor.commitTo pool = .ok next) :
    next = pool ∨
      pool.write accessor.id accessor.type accessor.values accessor.valid = .ok next := by
  unfold commitTo at h
  split at h
  · cases h
    exact .inl rfl
  · split at h
    · exact .inr h
    · cases h

end Accessor

/-! ## One commit -/

namespace PoolBank.Rewritten

variable {writers : List Accessor} {before after : PoolBank} {accessor : Accessor}
  {pool : LocalPool}

/-- A commit keeps what every write to the pool of the accessor keeps. -/
theorem commit (h : Rewritten writers before after)
    (hpool : before.pool? accessor.pool = some pool)
    (hwrite : ∀ handle own next, pool.Rewritten writers handle own →
      own.write accessor.id accessor.type accessor.values accessor.valid = .ok next →
      pool.Rewritten writers handle next) :
    Rewritten writers before (accessor.commit after).2 := by
  unfold Accessor.commit
  split
  · exact h
  · split
    next own hlock =>
      split
      next next hcommit =>
        intro handle
        have hold := h handle
        show Option.Rel _ _ ((after.modify accessor.pool fun _ => next).pool? handle)
        rw [pool?_modify]
        split
        next hindex =>
          have hsame : accessor.pool.samePool handle = true :=
            PoolHandle.samePool_iff.mpr hindex.symm
          rw [pool?_of_samePool hsame, pool?_of_samePool hsame, hpool, lock_eq_ok hlock] at hold ⊢
          cases hold with
          | some hold =>
            rcases Accessor.write_of_commitTo hcommit with rfl | hcommit
            · exact .some hold
            · exact .some (hwrite handle own next hold hcommit)
        next => exact hold
      next => exact h
    next => exact h

/-- An accessor that has what its entry had puts it back. -/
theorem commit_loaded (h : Rewritten writers before after)
    (hpool : before.pool? accessor.pool = some pool)
    (hentry : pool.entry? accessor.id = some accessor.entry) :
    Rewritten writers before (accessor.commit after).2 := by
  refine h.commit hpool fun handle own next hold hcommit => ?_
  refine ⟨(LocalPool.layout?_of_write hcommit).1.trans hold.filled_eq, fun id => ?_⟩
  rw [LocalPool.entry?_of_write hcommit id]
  split
  next hid =>
    rw [hid, hentry]
    exact .kept _
  next => exact hold.entry id

/-- An accessor that has no entry of its type and length writes nothing. -/
theorem commit_reset (h : Rewritten writers before after)
    (hpool : before.pool? accessor.pool = some pool)
    (hother : pool.layout? accessor.id ≠ some accessor.entry.layout) :
    Rewritten writers before (accessor.commit after).2 := by
  refine h.commit hpool fun handle own next hold hcommit => ?_
  have hlayout := (LocalPool.layout?_of_write hcommit).2
  rw [hold.layout?_eq] at hlayout
  exact absurd hlayout hother

end PoolBank.Rewritten

/-! ## All variables -/

namespace Dataset

/-- A read during which every variable finds the pools at a moment of its own. -/
def readOver (set : Dataset) (moments : Nat → PoolBank) : Except PoolError Unit × Dataset :=
  match set.state with
  | .wasRead => (.error .setWasAlreadyRead, set)
  | .idle =>
    let outcomes := set.accessors.mapIdx fun index accessor =>
      if isRead accessor then accessor.read (moments index) else (.ok (), accessor)
    (if outcomes.any fun outcome => failed outcome.1 then .error .invalidParameterDefinition
      else .ok (),
     { set with state := .wasRead, accessors := outcomes.map Prod.snd })

/-- If nothing happens meanwhile, it is a read like any other. -/
theorem readOver_const {set : Dataset} (each : set.lockEach = true) (bank : PoolBank) :
    set.readOver (fun _ => bank) = set.read bank := by
  have hlock : set.lockOnce bank = .ok () := by rw [lockOnce, if_pos each]
  have hall : (set.accessors.mapIdx fun _ accessor =>
      if isRead accessor then accessor.read bank else (.ok (), accessor)) = set.readAll bank := by
    apply List.ext_getElem?
    intro index
    rw [List.getElem?_mapIdx, readAll, List.getElem?_map]
    simp only [readVariable, each, if_true]
  unfold readOver read
  cases set.state with
  | wasRead => rfl
  | idle => simp only [hlock, hall]

/-- The variables whose pool could not be locked when it was their turn. -/
def missed (set : Dataset) (moments : Nat → PoolBank) : List Accessor :=
  (set.accessors.zipIdx.filter fun (accessor, index) =>
    isRead accessor && ((moments index).lock accessor.pool).toBool.not).map Prod.fst

theorem mem_missed {set : Dataset} {moments : Nat → PoolBank} {index : Nat} {accessor : Accessor}
    (hindex : set.accessors[index]? = some accessor) (hread : isRead accessor = true)
    (held : (moments index).lock accessor.pool = .error .lockTimeout) :
    accessor ∈ set.missed moments := by
  refine List.mem_map.mpr ⟨(accessor, index), List.mem_filter.mpr ⟨?_, ?_⟩, rfl⟩
  · exact List.mem_zipIdx_iff_getElem?.mpr hindex
  · simp [hread, held, Except.toBool]

theorem getElem?_readOver {set : Dataset} (idle : set.state = .idle) (moments : Nat → PoolBank)
    (index : Nat) :
    (set.readOver moments).2.accessors[index]? = set.accessors[index]?.map fun accessor =>
      if isRead accessor then (accessor.read (moments index)).2 else accessor := by
  unfold readOver
  rw [idle]
  simp only [List.getElem?_map, List.getElem?_mapIdx, Option.map_map]
  congr 1
  funext accessor
  simp only [Function.comp_apply]
  split <;> rfl

theorem state_readOver {set : Dataset} (idle : set.state = .idle) (moments : Nat → PoolBank) :
    (set.readOver moments).2.state = .wasRead ∧
      (set.readOver moments).2.lockEach = set.lockEach := by
  unfold readOver
  rw [idle]
  exact ⟨rfl, rfl⟩

/-- A refreshed variable is committed like those that were locked out. -/
theorem commit_refreshed {writers : List Accessor} {moment before after : PoolBank}
    {old accessor : Accessor} (h : PoolBank.Rewritten writers before after)
    (same : ∀ handle, moment.pool? handle = before.pool? handle)
    (hrefreshed : old.Refreshed moment accessor)
    (among : moment.lock old.pool = .error .lockTimeout → old ∈ writers) :
    PoolBank.Rewritten writers before (accessor.commit after).2 := by
  cases hrefreshed with
  | loaded free entry =>
    exact h.commit_loaded ((same _).symm.trans (PoolBank.lock_eq_ok free)) entry
  | reset free other =>
    refine h.commit_reset ((same _).symm.trans (PoolBank.lock_eq_ok free)) ?_
    have hlength : old.copy.cleared.values.length = old.copy.length := by
      rw [LocalCopy.values_cleared, List.length_replicate]
    rw [← hlength] at other
    exact other
  | missed held => exact h.trans ((old.rewritten_commit after).of_mem (among held))

/-- **A commit after a read puts back what was there**, but for the variables that were locked out
while the set was read: only these may write what they held before. -/
theorem commit_after_read {set : Dataset} (each : set.lockEach = true) (idle : set.state = .idle)
    (moments : Nat → PoolBank) :
    let after := (set.readOver moments).2
    (∀ bank, set.readOver (fun _ => bank) = set.read bank) ∧ after.state = .wasRead ∧
      (∀ index old, set.accessors[index]? = some old → isRead old = true →
        ∃ accessor, after.accessors[index]? = some accessor ∧
          old.Refreshed (moments index) accessor) ∧
      ∀ bank, (∀ v ∈ set.accessors, v.mode = .write → v.isUnbound = true) →
        (∀ index handle, (moments index).pool? handle = bank.pool? handle) →
        PoolBank.Rewritten (set.missed moments) bank (after.commit bank).2.2 := by
  obtain ⟨hstate, heach⟩ := state_readOver idle moments
  have hrefreshed (index : Nat) {old : Accessor} (hread : isRead old = true) :
      old.Refreshed (moments index) (old.read (moments index)).2 := by
    simp only [isRead, Bool.and_eq_true, Bool.not_eq_true'] at hread
    exact Accessor.refreshed_read hread.2 (moments index)
  refine ⟨readOver_const each, hstate, ?_, ?_⟩
  · intro index old hold hread
    refine ⟨_, ?_, hrefreshed index hread⟩
    rw [getElem?_readOver idle, hold, Option.map_some, if_pos hread]
  · intro bank hmodes same
    have hlock : (set.readOver moments).2.lockOnce bank = .ok () := by
      rw [lockOnce, if_pos (heach.trans each)]
    simp only [commit, hlock]
    apply List.foldlRecOn _ _ (PoolBank.Rewritten.refl bank)
    intro next hnext accessor hmem
    obtain ⟨hmem, hcommitted⟩ := List.mem_filter.mp hmem
    obtain ⟨index, hindex⟩ := List.mem_iff_getElem?.mp hmem
    rw [getElem?_readOver idle] at hindex
    obtain ⟨old, hold, rfl⟩ := Option.map_eq_some_iff.mp hindex
    rw [commitVariable, if_pos (heach.trans each)]
    cases hread : isRead old with
    | true =>
      rw [if_pos rfl]
      exact commit_refreshed hnext (same index) (hrefreshed index hread)
        (mem_missed hold hread)
    | false =>
      -- what is committed without being read is write-only
      simp only [hread, isCommitted, Bool.and_eq_true, Bool.not_eq_true', Bool.false_eq_true,
        if_false] at hcommitted
      have hmode : old.mode = .write := by
        simpa [isRead, hcommitted.1, AccessMode.canRead] using hread
      rw [hmodes old (List.mem_of_getElem? hold) hmode] at hcommitted
      cases hcommitted.1

/-! ### A set that is locked out, or not -/

/-- The only pool of a bank. -/
def soleHandle : PoolHandle := ⟨0, 7, .polling⟩

/-- A pool with one entry, a valid byte. -/
def bytePool (byte : Element .u8) : PoolBank :=
  ⟨#[⟨⟨IdTable.empty.put 1 ⟨.u8, [byte], true⟩, true⟩, false⟩]⟩

/-- A set with one variable, which was read and committed while the byte was 5. -/
def afterFive : Dataset :=
  let set := { creator soleHandle 1 1 with
    lockEach := true, accessors := [Accessor.scalar soleHandle 1 .readWrite .u8] }
  ((set.read (bytePool 5)).2.commit (bytePool 5)).2.1

/-- A set that gets at its pool writes back the byte that it found. -/
theorem afterFive_commit_after_read :
    afterFive.lockEach = true ∧ afterFive.state = .idle ∧
      PoolBank.Rewritten [] (bytePool 9)
        ((afterFive.readOver fun _ => bytePool 9).2.commit (bytePool 9)).2.2 := by
  have each : afterFive.lockEach = true := rfl
  obtain ⟨-, -, -, hcommit⟩ := commit_after_read each rfl fun _ => bytePool 9
  exact ⟨rfl, rfl, hcommit (bytePool 9) (by decide) fun _ _ => rfl⟩

/-- Meanwhile the byte is 9, and its pool is locked while the set is read again. -/
def lockedOut : Except PoolError Unit × Dataset :=
  afterFive.read ((bytePool 9).setHeld soleHandle true)

/-- The variable is neither 9 nor zero and invalid, and the commit writes the old byte. -/
theorem locked_out_is_stale :
    lockedOut.1 = .error .invalidParameterDefinition ∧
      lockedOut.2.accessors.map Accessor.entry = [⟨.u8, [5], true⟩] ∧
      ((bytePool 9).pool? soleHandle).bind (fun pool => pool.entry? 1) =
        some ⟨.u8, [9], true⟩ ∧
      ((lockedOut.2.commit (bytePool 9)).2.2.pool? soleHandle).bind (fun pool => pool.entry? 1) =
        some ⟨.u8, [5], true⟩ := ⟨rfl, rfl, rfl, rfl⟩

end Dataset

end Housekeeper
