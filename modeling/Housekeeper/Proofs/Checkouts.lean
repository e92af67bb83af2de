import Housekeeper.Proofs.Timeouts
import Housekeeper.Proofs.Transactions
import Mathlib.Logic.Function.Iterate

/-!
# Sets that are checked out

A data set that was read is checked out until it is committed or given up. What it has read agrees
with the pools (`Accessor.Agrees`): every variable has what its entry has, or its entry is of
another type or length, and then nobody writes it. So a commit right after the read changes nothing
(`Dataset.commit_right_after_read`).

A set that is given up writes its variables once more, as invalid. Of those that may write an entry
the last one stays (`Dataset.changed_drop`). Whether a set is checked out depends on the last of its
reads and commits that was not refused (`Scene.state_run`).
-/

namespace Housekeeper

/-! ## Writing what is there -/

theorem LocalPool.write_of_entry? {pool : LocalPool} {id : LocalPoolId} {entry : PoolEntry}
    (h : pool.entry? id = some entry) :
    pool.write id entry.type entry.values entry.valid = .ok pool := by
  have hfetch : pool.fetch id entry.type entry.values.length = .ok (entry.values, entry.valid) :=
    fetch_eq_ok_iff.mpr ⟨h, rfl⟩
  have hput : pool.entries.put id ⟨entry.type, entry.values, entry.valid⟩ = pool.entries :=
    IdTable.put_of_get? h
  simp only [write, hfetch, hput]

theorem PoolBank.modify_of_kept {bank : PoolBank} {handle : PoolHandle}
    {change : LocalPool → LocalPool}
    (h : ∀ pool, bank.pool? handle = some pool → change pool = pool) :
    bank.modify handle change = bank := by
  obtain ⟨cells⟩ := bank
  refine congrArg PoolBank.mk (Array.ext_getElem? fun index => ?_)
  rw [Array.getElem?_modify]
  split
  next hindex =>
    subst hindex
    cases hcell : cells[handle.index]? with
    | none => rfl
    | some cell =>
      have hpool : change cell.pool = cell.pool := h cell.pool (by simp [pool?, hcell])
      rw [Option.map_some, hpool]
  next => rfl

namespace Accessor

variable {accessor : Accessor} {bank : PoolBank} {pool : LocalPool}

/-- What the accessor holds is what its entry has, unless that is of another type or length. -/
def Agrees (accessor : Accessor) (bank : PoolBank) : Prop :=
  ∀ old, bank.entry? accessor.pool accessor.id = some old →
    old.layout = accessor.entry.layout → old = accessor.entry

theorem written_of_agrees (agrees : accessor.Agrees bank)
    (hpool : bank.pool? accessor.pool = some pool) : accessor.written pool = pool := by
  unfold written
  cases hcommit : accessor.commitTo pool with
  | error e => rfl
  | ok next =>
    rcases write_of_commitTo hcommit with rfl | hwrite
    · rfl
    · obtain ⟨old, hold, hlayout⟩ :=
        Option.map_eq_some_iff.mp (LocalPool.layout?_of_write hwrite).2
      have hentry : bank.entry? accessor.pool accessor.id = some old := by
        rw [PoolBank.entry?, hpool]
        exact hold
      have hkept := LocalPool.write_of_entry? ((agrees old hentry hlayout) ▸ hold)
      exact Except.ok.inj (hwrite.symm.trans hkept)

/-- A commit of what is there already changes nothing. -/
theorem commit_of_agrees (agrees : accessor.Agrees bank) : (accessor.commit bank).2 = bank := by
  unfold commit
  split
  · rfl
  · split
    next pool hlock =>
      have hpool := PoolBank.lock_eq_ok hlock
      have hkept := written_of_agrees agrees hpool
      unfold written at hkept
      split
      next next hcommit =>
        rw [hcommit] at hkept
        show bank.put accessor.pool next = bank
        refine PoolBank.modify_of_kept fun own hown => ?_
        exact hkept.trans (Option.some.inj (hpool.symm.trans hown))
      next => rfl
    next => rfl

/-- Who was read agrees with what was read. -/
theorem Follows.agrees {before after : Accessor}
    (h : before.Follows (bank.entry? before.pool before.id) after) : after.Agrees bank := by
  intro old hold hlayout
  rw [h.pool_eq, h.id_eq] at hold
  have hentry := h.entry_eq
  rw [hold, Option.filter_some] at hentry
  split at hentry
  · rw [hentry, Option.getD_some]
  next hother =>
    refine absurd ?_ hother
    rw [hlayout, hentry, Option.getD_none]
    simp [PoolEntry.layout, PoolEntry.zeroed, PoolEntry.length, entry]

end Accessor

/-! ## Reading twice -/

namespace LocalCopy

variable {type : ElementType}

theorem load_load (copy : LocalCopy type) (xs : List (Element type)) :
    (copy.load xs).load xs = copy.load xs := by
  cases copy with
  | scalar value => cases xs <;> rfl
  | vector values => rfl

theorem length_cleared (copy : LocalCopy type) : copy.cleared.length = copy.length := by
  rw [← length_values, values_cleared, List.length_replicate]

theorem cleared_cleared (copy : LocalCopy type) : copy.cleared.cleared = copy.cleared := by
  cases copy with
  | scalar value => rfl
  | vector values => simp [cleared]

end LocalCopy

namespace Accessor

theorem readFrom_of_ok {accessor : Accessor} {pool : LocalPool}
    (hbound : ¬ accessor.isUnbound = true) {values : List (Element accessor.type)} {valid : Bool}
    (hfetch : pool.fetch accessor.id accessor.type accessor.copy.length = .ok (values, valid)) :
    accessor.readFrom pool =
      (.ok (), (accessor.withCopy (accessor.copy.load values)).withValidity valid) := by
  rw [readFrom, if_neg hbound, hfetch]

theorem readFrom_of_error {accessor : Accessor} {pool : LocalPool}
    (hbound : ¬ accessor.isUnbound = true) {e : PoolError}
    (hfetch : pool.fetch accessor.id accessor.type accessor.copy.length = .error e) :
    accessor.readFrom pool =
      (.error e, (accessor.withCopy accessor.copy.cleared).withValidity false) := by
  rw [readFrom, if_neg hbound, hfetch]

theorem readFrom_readFrom (accessor : Accessor) (pool : LocalPool) :
    (accessor.readFrom pool).2.readFrom pool = accessor.readFrom pool := by
  by_cases hunbound : accessor.isUnbound = true
  · have hread : accessor.readFrom pool = (.ok (), accessor) := if_pos hunbound
    rw [hread, hread]
  cases hfetch : pool.fetch accessor.id accessor.type accessor.copy.length with
  | ok found =>
    obtain ⟨values, valid⟩ := found
    have hlength := LocalCopy.length_load (LocalPool.fetch_eq_ok_iff.mp hfetch).2
    rw [readFrom_of_ok hunbound hfetch]
    refine (if_neg hunbound).trans ?_
    simp only [withValidity, withCopy, hlength, hfetch, LocalCopy.load_load]
  | error e =>
    rw [readFrom_of_error hunbound hfetch]
    refine (if_neg hunbound).trans ?_
    simp only [withValidity, withCopy, LocalCopy.length_cleared, hfetch, LocalCopy.cleared_cleared]

/-- What an accessor is bound to, and how. -/
def binding (accessor : Accessor) : PoolHandle × LocalPoolId × AccessMode :=
  (accessor.pool, accessor.id, accessor.mode)

theorem binding_readFrom (accessor : Accessor) (pool : LocalPool) :
    (accessor.readFrom pool).2.binding = accessor.binding := by
  unfold readFrom
  split
  · rfl
  · split <;> rfl

end Accessor

namespace Dataset

variable {set : Dataset} {bank : PoolBank} {v w : Accessor}

theorem isRead_of_binding (h : w.binding = v.binding) : isRead w = isRead v := by
  obtain ⟨-, hid, hmode⟩ : w.pool = v.pool ∧ w.id = v.id ∧ w.mode = v.mode := by
    simpa [Accessor.binding] using h
  rw [isRead, isRead, Accessor.isUnbound, Accessor.isUnbound, hid, hmode]

/-- A variable stays as it is, or there is a pool from which it is read, and so is whoever is bound
to the same entry. -/
theorem exists_source (set : Dataset) (bank : PoolBank) (v : Accessor) :
    (set.outcome bank v).2 = v ∨
      ∃ pool, ∀ w : Accessor, w.binding = v.binding → set.outcome bank w = w.readFrom pool := by
  by_cases hread : isRead v = true
  · rw [outcome, if_pos hread, readVariable]
    have hbinding {w : Accessor} (h : w.binding = v.binding) :
        isRead w = true ∧ w.pool = v.pool ∧ w.isUnbound = false := by
      have hreadable := (isRead_of_binding h).trans hread
      refine ⟨hreadable, congrArg Prod.fst h, ?_⟩
      simp only [isRead, Bool.and_eq_true, Bool.not_eq_true'] at hreadable
      exact hreadable.2
    split
    -- Locked one by one, a variable is read from its own pool, and else from the pool of the set.
    next heach =>
      cases hlock : bank.lock v.pool with
      | ok pool =>
        refine .inr ⟨pool, fun w h => ?_⟩
        obtain ⟨hreadable, hpool, hbound⟩ := hbinding h
        rw [outcome, if_pos hreadable, readVariable, if_pos heach, Accessor.read, hpool, hlock,
          if_neg (by simp [hbound])]
      | error e => exact .inl (by rw [Accessor.read, hlock, (hbinding rfl).2.2]; rfl)
    next heach =>
      split
      next => exact .inl rfl
      next hown =>
        split
        next pool hsource =>
          refine .inr ⟨pool, fun w h => ?_⟩
          obtain ⟨hreadable, hpool, -⟩ := hbinding h
          have hforeign : ¬ set.isForeign w = true := by rwa [isForeign, hpool]
          rw [outcome, if_pos hreadable, readVariable, if_neg heach, if_neg hforeign, hsource]
        next => exact .inl rfl
  · rw [outcome, if_neg hread]
    exact .inl rfl

theorem outcome_outcome (set : Dataset) (bank : PoolBank) (v : Accessor) :
    set.outcome bank (set.outcome bank v).2 = set.outcome bank v := by
  obtain hkept | ⟨pool, hsource⟩ := set.exists_source bank v
  · rw [hkept]
  · rw [hsource v rfl, hsource _ (v.binding_readFrom pool), v.readFrom_readFrom]

/-! ## Committing at once -/

theorem commitVariable_of_agrees (agrees : v.Agrees bank) : set.commitVariable bank v = bank := by
  unfold commitVariable
  split
  · exact v.commit_of_agrees agrees
  · split
    · rfl
    next hown =>
      refine PoolBank.modify_of_kept fun pool hpool => ?_
      have hsame : v.pool.samePool set.pool = true := by simpa [isForeign] using hown
      exact v.written_of_agrees agrees ((PoolBank.pool?_of_samePool hsame bank).symm.trans hpool)

theorem read_of_uncontended (idle : set.state = .idle) (free : set.Uncontended bank) :
    set.read bank =
      (if set.accessors.any fun v => failed (set.outcome bank v).1 then
          .error .invalidParameterDefinition else .ok (),
        { set with
          state := .wasRead, accessors := set.accessors.map fun v => (set.outcome bank v).2 }) := by
  simp only [read, idle, free.lockOnce_eq, readAll_eq, List.any_map, List.map_map,
    Function.comp_def]

/-- No variable writes anything but what it has just read. -/
theorem commitVariable_outcome (free : set.Uncontended bank) (hmem : v ∈ set.accessors)
    (readable : v.mode ≠ .write) (bound : (set.outcome bank v).2.isUnbound = false) :
    set.commitVariable bank (set.outcome bank v).2 = bank := by
  have houtcome := (read_outcome free hmem).1
  split at houtcome
  next => exact commitVariable_of_agrees houtcome.agrees
  next hreads =>
    rw [houtcome] at bound ⊢
    have hreal : v.id ≠ noParameter := by simpa [Accessor.isUnbound] using bound
    have hunreached : ¬ set.Reaches v := fun hreached =>
      hreads ⟨by simpa [AccessMode.canRead] using readable, hreal, hreached⟩
    obtain ⟨heach, hforeign⟩ : set.lockEach = false ∧ set.isForeign v = true := by
      simpa [Reaches, isForeign] using hunreached
    rw [commitVariable, if_neg (by simp [heach]), if_pos hforeign]

/-- The set and the pools after the set was read and committed. -/
def readCommit (place : Dataset × PoolBank) : Dataset × PoolBank :=
  ((place.1.read place.2).2.commit place.2).2

/-- The set with everything in it that a read brings in. -/
def refreshed (set : Dataset) (bank : PoolBank) : Dataset :=
  { set with accessors := set.accessors.map fun v => (set.outcome bank v).2 }

theorem commit_read (idle : set.state = .idle) (readable : ∀ v ∈ set.accessors, v.mode ≠ .write)
    (free : set.Uncontended bank) :
    (set.read bank).2.commit bank = (.ok (), set.refreshed bank, bank) := by
  let after : Dataset := { set.refreshed bank with state := .wasRead }
  have hread : (set.read bank).2 = after := by rw [read_of_uncontended idle free]; rfl
  have hlock : after.lockOnce bank = .ok () := free.lockOnce_eq
  have hback : { after with state := .idle } = set.refreshed bank := by rw [← idle]; rfl
  have hkept : (after.accessors.filter after.isCommitted).foldl after.commitVariable bank = bank := by
    refine List.foldlRecOn (motive := fun next => next = bank) _ _ rfl ?_
    -- Nobody before has changed the pools, so they are still those of the read.
    rintro next rfl w hmem
    obtain ⟨hmem, hcommitted⟩ := List.mem_filter.mp hmem
    obtain ⟨v, hv, rfl⟩ := List.mem_map.mp hmem
    simp only [isCommitted, Bool.and_eq_true, Bool.not_eq_true'] at hcommitted
    show set.commitVariable next (set.outcome next v).2 = next
    exact commitVariable_outcome free hv (readable v hv) hcommitted.1
  rw [hread, commit, hlock]
  dsimp only
  rw [hkept, hback]
  rfl

/-- What was read once is not changed by another read. -/
theorem refreshed_refreshed (set : Dataset) (bank : PoolBank) :
    (set.refreshed bank).refreshed bank = set.refreshed bank := by
  have htwice : (set.refreshed bank).accessors.map (fun v => (set.outcome bank v).2) =
      (set.refreshed bank).accessors := by
    simp only [refreshed, List.map_map]
    exact List.map_congr_left fun v _ => congrArg Prod.snd (set.outcome_outcome bank v)
  exact congrArg (fun accessors => { set with accessors }) htwice

theorem binding_outcome (set : Dataset) (bank : PoolBank) (v : Accessor) :
    (set.outcome bank v).2.binding = v.binding := by
  obtain hkept | ⟨pool, hsource⟩ := set.exists_source bank v
  · rw [hkept]
  · rw [hsource v rfl, v.binding_readFrom pool]

theorem Uncontended.refreshed (free : set.Uncontended bank) :
    (set.refreshed bank).Uncontended bank := by
  have hpools : (set.refreshed bank).accessors.map Accessor.pool = set.accessors.map Accessor.pool := by
    simp only [Dataset.refreshed, List.map_map]
    exact List.map_congr_left fun v _ => congrArg Prod.fst (set.binding_outcome bank v)
  have hlocks : (set.refreshed bank).locks = set.locks := by
    rw [locks, hpools]
    rfl
  rw [Uncontended, hlocks]
  exact free

/-- **A commit right after a read changes nothing**, whatever became of the read: no entry of any
pool, and from then on neither the set, however often the two are repeated. -/
theorem commit_right_after_read (idle : set.state = .idle)
    (readable : ∀ v ∈ set.accessors, v.mode ≠ .write) (free : set.Uncontended bank) :
    ((set.read bank).2.commit bank).1 = .ok () ∧
      ((set.read bank).2.commit bank).2.2 = bank ∧
      ∀ n, (readCommit^[n] (set, bank)).2 = bank ∧
        readCommit^[n + 1] (set, bank) = readCommit (set, bank) := by
  have honce : readCommit (set, bank) = (set.refreshed bank, bank) :=
    congrArg Prod.snd (commit_read idle readable free)
  have hagain : readCommit (set.refreshed bank, bank) = (set.refreshed bank, bank) := by
    have hreadable : ∀ w ∈ (set.refreshed bank).accessors, w.mode ≠ .write := by
      intro w hmem
      obtain ⟨v, hv, rfl⟩ := List.mem_map.mp hmem
      have hmode := congrArg (fun binding => binding.2.2) (set.binding_outcome bank v)
      exact fun hwrite => readable v hv (hmode.symm.trans hwrite)
    have hidle : (set.refreshed bank).state = .idle := idle
    have htwice := congrArg Prod.snd (commit_read hidle hreadable free.refreshed)
    rwa [refreshed_refreshed] at htwice
  have hmore (n : Nat) : readCommit^[n + 1] (set, bank) = readCommit (set, bank) := by
    rw [Function.iterate_succ_apply, honce, Function.iterate_fixed hagain]
  refine ⟨?_, congrArg Prod.snd honce, fun n => ⟨?_, hmore n⟩⟩
  · rw [commit_read idle readable free]
  · cases n with
    | zero => rfl
    | succ n => rw [hmore, honce]

/-- The first two share the byte, the third expects two bytes there, the fourth has no entry, the
fifth is bound to nothing and the last is of the other pool. -/
def mixedReaders : Dataset :=
  { creator firstPool 1 6 with
    accessors := [Accessor.scalar firstPool 1 .readWrite .u8,
      Accessor.scalar firstPool 1 .read .u8,
      Accessor.vector firstPool 1 .readWrite .u8 2,
      Accessor.scalar firstPool 9 .readWrite .f32,
      Accessor.scalar firstPool noParameter .readWrite .u8,
      Accessor.scalar secondPool 1 .readWrite .u8] }

/-- The read fails, and nothing changes all the same. -/
theorem mixedReaders_right_after_read :
    (mixedReaders.state = .idle ∧ (∀ v ∈ mixedReaders.accessors, v.mode ≠ .write) ∧
        mixedReaders.Uncontended twoPools) ∧
      (mixedReaders.read twoPools).1 = .error .invalidParameterDefinition ∧
      ((mixedReaders.read twoPools).2.commit twoPools).2.2 = twoPools := by
  have free : mixedReaders.Uncontended twoPools := by
    intro handle hmem
    obtain rfl : handle = firstPool := by
      simpa [locks, mixedReaders, creator, consumer] using hmem
    rfl
  obtain ⟨-, hkept, -⟩ := commit_right_after_read rfl (by decide) free
  exact ⟨⟨rfl, by decide, free⟩, rfl, hkept⟩

end Dataset

/-! ## Giving up -/

namespace Accessor

variable {handle : PoolHandle} {id : LocalPoolId} {old entry : PoolEntry}

/-- The last of the accessors that may write this entry. -/
def lastWriter? (accessors : List Accessor) (handle : PoolHandle) (id : LocalPoolId)
    (old : PoolEntry) : Option Accessor :=
  (accessors.filter fun v => v.MayWrite handle id old).getLast?

theorem mayWrite_congr (h : entry.layout = old.layout) (writer : Accessor) :
    writer.MayWrite handle id entry ↔ writer.MayWrite handle id old :=
  ⟨fun ⟨writable, bound, id_eq, real, layout⟩ => ⟨writable, bound, id_eq, real, layout.trans h⟩,
    fun ⟨writable, bound, id_eq, real, layout⟩ => ⟨writable, bound, id_eq, real, layout.trans h.symm⟩⟩

/-- Of all that write an entry the last one stays. -/
theorem foldl_rewrite (accessors : List Accessor) (h : entry.layout = old.layout) :
    accessors.foldl (fun entry v => v.rewrite handle id entry) entry =
      ((lastWriter? accessors handle id old).map Accessor.entry).getD entry := by
  induction accessors generalizing entry with
  | nil => rfl
  | cons v rest ih =>
    rw [List.foldl_cons, rewrite, lastWriter?]
    by_cases hmay : v.MayWrite handle id old
    -- Whoever writes an entry keeps its layout, so afterwards the same may write it as before.
    · rw [if_pos ((mayWrite_congr h v).mpr hmay), ih hmay.layout_eq,
        List.filter_cons_of_pos (by simpa using hmay), List.getLast?_cons, lastWriter?]
      cases (rest.filter fun v => decide (v.MayWrite handle id old)).getLast? <;> rfl
    · rw [if_neg (mt (mayWrite_congr h v).mp hmay), ih h,
        List.filter_cons_of_neg (by simpa using hmay), lastWriter?]

end Accessor

namespace Dataset

variable {set : Dataset} {bank : PoolBank}

theorem drop_eq (set : Dataset) (bank : PoolBank) :
    set.drop bank = set.dropped.foldl (fun bank v => (v.commit bank).2) bank := by
  unfold drop dropped
  cases set.state with
  | idle => rfl
  | wasRead => rw [List.foldl_map]

theorem lastWriter?_dropped (read : set.state = .wasRead) (handle : PoolHandle) (id : LocalPoolId)
    (old : PoolEntry) :
    Accessor.lastWriter? set.dropped handle id old =
      (Accessor.lastWriter? set.accessors handle id old).map fun v => v.withValidity false := by
  have hmay (v : Accessor) :
      (decide ((v.withValidity false).MayWrite handle id old) && v.mode.canWrite) =
        decide (v.MayWrite handle id old) := by
    rw [Bool.eq_iff_iff, Bool.and_eq_true, decide_eq_true_iff, decide_eq_true_iff]
    constructor
    · rintro ⟨⟨writable, bound, id_eq, real, layout⟩, -⟩
      exact ⟨writable, bound, id_eq, real, layout⟩
    · rintro ⟨writable, bound, id_eq, real, layout⟩
      exact ⟨⟨writable, bound, id_eq, real, layout⟩, writable⟩
  have hdropped : set.dropped =
      (set.accessors.filter fun v => v.mode.canWrite).map fun v => v.withValidity false := by
    rw [dropped, read]
  rw [Accessor.lastWriter?, Accessor.lastWriter?, hdropped, List.filter_map, List.getLast?_map,
    List.filter_filter]
  simp only [Function.comp_apply, hmay]

/-- What becomes of an entry if the set is given up while it is checked out. -/
def abandoned (set : Dataset) (handle : PoolHandle) (id : LocalPoolId) (old : PoolEntry) :
    PoolEntry :=
  match Accessor.lastWriter? set.accessors handle id old with
  | some v => ⟨v.type, v.values, false⟩
  | none => old

theorem changed_drop (read : set.state = .wasRead)
    (free : ∀ v ∈ set.accessors, bank.isFree v.pool = true) :
    PoolBank.Changed set.abandoned bank (set.drop bank) := by
  have hfree : ∀ v ∈ set.dropped, bank.isFree v.pool = true := by
    intro v hmem
    rw [dropped, read] at hmem
    obtain ⟨w, hw, rfl⟩ := List.mem_map.mp hmem
    exact free w (List.mem_filter.mp hw).1
  have hstep (v : Accessor) (hmem : v ∈ set.dropped) (next : PoolBank)
      (hnext : ∀ handle, next.isFree handle = bank.isFree handle) :
      PoolBank.Changed v.rewrite next (v.commit next).2 :=
    Accessor.changed_commit ((hnext v.pool).trans (hfree v hmem))
  have hchanged := PoolBank.Changed.foldl _ bank hstep
  have hentry (handle : PoolHandle) (id : LocalPoolId) (old : PoolEntry) :
      set.dropped.foldl (fun entry v => v.rewrite handle id entry) old =
        set.abandoned handle id old := by
    rw [Accessor.foldl_rewrite _ rfl, lastWriter?_dropped read, abandoned]
    cases Accessor.lastWriter? set.accessors handle id old <;> rfl
  rw [drop_eq]
  simpa only [hentry] using hchanged

theorem state_deserialize (set : Dataset) (reader : Reader) (order : ByteOrder) :
    (set.deserialize reader order).2.1.state = set.state := by
  have hstate : (set.deserializeVariables reader order).2.1.state = set.state := rfl
  unfold deserialize
  split
  next hread =>
    rw [hread] at hstate
    exact hstate
  next hread =>
    rw [hread] at hstate
    split
    · split <;> exact hstate
    · exact hstate

/-- The result says that nothing was done. -/
def refused : Except PoolError Unit → Bool
  | .error .setWasAlreadyRead | .error .lockTimeout => true
  | _ => false

theorem state_register (set : Dataset) (accessor : Option Accessor) :
    (set.register accessor).2.state = set.state := by
  unfold register
  split
  · rfl
  · split <;> rfl

theorem state_onVariable (set : Dataset) (bank : PoolBank) (index : Nat) (action : AccessorAction) :
    (set.act bank (.onVariable index action)).2.1.state = set.state := by
  unfold act
  dsimp only
  split <;> rfl

theorem state_read (set : Dataset) (bank : PoolBank) :
    (set.read bank).2.state = if refused (set.read bank).1 then set.state else .wasRead := by
  unfold read
  cases hstate : set.state with
  | wasRead => exact hstate
  | idle =>
    rcases set.lockOnce_cases bank with hlock | hlock
    · simp only [hlock]
      split <;> rfl
    · simp only [hlock]
      exact hstate

theorem state_commit (set : Dataset) (bank : PoolBank) :
    (set.commit bank).2.1.state = if refused (set.commit bank).1 then set.state else .idle := by
  unfold commit
  rcases set.lockOnce_cases bank with hlock | hlock
  · have hresult : refused set.commitResult = false := by
      unfold commitResult
      split
      · rfl
      · split <;> rfl
    simp only [hlock, hresult]
    rfl
  · simp only [hlock]
    rfl

end Dataset

namespace Moment

/-- The state that a set is brought into by its reads and commits. -/
def transition? (moment : Moment) : Option SetState :=
  if Dataset.refused moment.result then none
  else
    match moment.event with
    | .call .read => some .wasRead
    | .call .commit | .call (.commitWithValidity _) => some .idle
    | _ => none

theorem state_after (moment : Moment) :
    moment.after.set.state = moment.transition?.getD moment.before.set.state := by
  obtain ⟨⟨set, bank⟩, event⟩ := moment
  have hdone (result : Except PoolError Unit) (state : SetState) :
      (if Dataset.refused result then none else some state).getD set.state =
        if Dataset.refused result then set.state else state := by
    split <;> rfl
  have hother (result : Except PoolError Unit) :
      (if Dataset.refused result then none else (none : Option SetState)).getD set.state =
        set.state := by
    rw [ite_self, Option.getD_none]
  cases event with
  | others change => exact (hother _).symm
  | call action =>
    cases action with
    | read => exact (set.state_read bank).trans (hdone _ _).symm
    | commit => exact (set.state_commit bank).trans (hdone _ _).symm
    | commitWithValidity valid =>
      exact ((set.withValidityOfAll valid).state_commit bank).trans (hdone _ _).symm
    | deserialize reader order => exact (set.state_deserialize reader order).trans (hother _).symm
    | register accessor => exact (set.state_register accessor).trans (hother _).symm
    | onVariable index action =>
      exact (set.state_onVariable bank index action).trans (hother _).symm
    | setValidity valid recursive =>
      refine Eq.trans ?_ (hother _).symm
      cases recursive <;> rfl
    | protect lockEach => exact (hother _).symm
    | configure changed reporting validityMask kind timer => exact (hother _).symm
    | serialize writer order => exact (hother _).symm

end Moment

namespace Scene

/-- **Whether a set is checked out** depends on the last of its reads and commits that was not
refused. -/
theorem state_run (scene : Scene) (events : List SceneEvent) :
    (scene.run events).set.state =
      ((scene.trace events).filterMap Moment.transition?).getLast?.getD scene.set.state := by
  induction events generalizing scene with
  | nil => rfl
  | cons event rest ih =>
    have hafter : (scene.step event).2.set.state =
        (Moment.mk scene event).transition?.getD scene.set.state :=
      Moment.state_after ⟨scene, event⟩
    have hrest : (scene.run (event :: rest)).set.state = _ := ih (scene.step event).2
    rw [hrest, hafter, trace, List.filterMap_cons]
    cases (Moment.mk scene event).transition? with
    | none => rfl
    | some state =>
      rw [List.getLast?_cons]
      rfl

end Scene

namespace Dataset

/-- **A set that is given up while it is checked out** leaves the local values of the last variable
that may write an entry there, as invalid, and changes nothing else. A set that is not checked out
changes nothing. Which of the two it is depends on the last of its reads and commits that was not
refused, whatever else became of the set and the pools. -/
theorem given_up (set : Dataset) (bank : PoolBank) :
    (set.state = .wasRead → (∀ v ∈ set.accessors, bank.isFree v.pool = true) →
      PoolBank.Changed set.abandoned bank (set.drop bank)) ∧
    (set.state = .idle → set.drop bank = bank ∧
      ∀ events : List SceneEvent,
        let scene := (Scene.mk set bank).run events
        let last := (((Scene.mk set bank).trace events).filterMap Moment.transition?).getLast?
        (scene.set.state = .wasRead ↔ last = some .wasRead) ∧
        (last ≠ some .wasRead → scene.set.drop scene.bank = scene.bank)) := by
  have hkept {set : Dataset} {bank : PoolBank} (idle : set.state = .idle) :
      set.drop bank = bank := by
    rw [drop, idle]
  refine ⟨changed_drop, fun idle => ⟨hkept idle, fun events => ?_⟩⟩
  intro scene last
  have hstate : scene.set.state = last.getD .idle := by
    rw [← idle]
    exact Scene.state_run ⟨set, bank⟩ events
  rw [hstate]
  cases hlast : last with
  | none => exact ⟨by simp, fun _ => hkept (hstate.trans (by rw [hlast]; rfl))⟩
  | some state =>
    cases state with
    | idle => exact ⟨by simp, fun _ => hkept (hstate.trans (by rw [hlast]; rfl))⟩
    | wasRead => exact ⟨by simp, fun hno => absurd rfl hno⟩

/-- The first variable and the second write the same byte, and the last that of its own pool. -/
theorem mixed_given_up :
    (mixed.read twoPools).2.state = .wasRead ∧
      (∀ v ∈ (mixed.read twoPools).2.accessors, twoPools.isFree v.pool = true) ∧
      PoolBank.entry? ((mixed.read twoPools).2.drop twoPools) firstPool 1 =
        some ⟨.u8, [5], false⟩ ∧
      PoolBank.entry? ((mixed.read twoPools).2.drop twoPools) secondPool 1 =
        some ⟨.u8, [40], false⟩ := by
  have free : ∀ v ∈ (mixed.read twoPools).2.accessors, twoPools.isFree v.pool = true := by decide
  have hchanged := (given_up (mixed.read twoPools).2 twoPools).1 rfl free
  refine ⟨rfl, free, ?_, ?_⟩
  · rw [hchanged.entry]
    rfl
  · rw [hchanged.entry]
    rfl

end Dataset

end Housekeeper
