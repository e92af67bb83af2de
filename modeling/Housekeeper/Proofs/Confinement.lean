import Housekeeper.Dataset.Wire
import Housekeeper.Manager.Request
import Housekeeper.Proofs.Overwriting

/-!
# Who changes a pool

`World` is any number of pools, managers and owners with their data sets and accessors, and
`World.Event` one thing that happens among them. Everything that reaches a pool is an event of its
own: accessors and sets are made, configured and replaced as anybody likes, and the sets of an
owner can be given up at any time.

`PoolChange` lists all that an event may do to a pool, and `World.step_change` says that nothing
else happens: a pool appears empty, is filled by the one `insertOnce` that succeeds, or entries are
overwritten for one of the accessors that the event commits (`World.writers`). Over whole
histories a filled pool keeps its ids and layouts, and the entry of the sentinel
(`World.run_keeps`); `World.writes_confined` puts all of it together.
-/

namespace Housekeeper

/-! ## Operations -/

/-- What can be done with an accessor. -/
inductive AccessorAction where
  | read
  | commit
  | commitWithValidity (valid : Bool)
  | setValues (type : ElementType) (values : List (Element type))
  | setFlags (valid changed : Bool)
  | serialize (writer : Writer) (order : ByteOrder)
  | deserialize (reader : Reader) (order : ByteOrder)
  /-- Another accessor is put in its place. -/
  | replace (other : Accessor)

namespace Accessor

/-- The result of an operation, the accessor afterwards and the pools. -/
def act (accessor : Accessor) (bank : PoolBank) :
    AccessorAction → Except PoolError Unit × Accessor × PoolBank
  | .read =>
    let (result, accessor) := accessor.read bank
    (result, accessor, bank)
  | .commit =>
    let (result, bank) := accessor.commit bank
    (result, accessor, bank)
  | .commitWithValidity valid =>
    let (result, bank) := (accessor.withValidity valid).commit bank
    (result, accessor.withValidity valid, bank)
  | .setValues type values => (.ok (), accessor.withValues type values, bank)
  | .setFlags valid changed => (.ok (), (accessor.withValidity valid).withChanged changed, bank)
  | .serialize writer order =>
    let (result, _) := accessor.serialize writer order
    (result, accessor, bank)
  | .deserialize reader order =>
    let (result, accessor, _) := accessor.deserialize reader order
    (result, accessor, bank)
  | .replace other => (.ok (), other, bank)

/-- What an operation commits. -/
def committed (accessor : Accessor) : AccessorAction → List Accessor
  | .commit => [accessor]
  | .commitWithValidity valid => [accessor.withValidity valid]
  | _ => []

end Accessor

/-- What can be done with a data set. -/
inductive SetAction where
  | register (accessor : Option Accessor)
  | read
  | commit
  | commitWithValidity (valid : Bool)
  /-- Whether every variable locks its own pool. -/
  | protect (lockEach : Bool)
  | setValidity (valid recursive : Bool)
  /-- The other flags and the timer. -/
  | configure (changed reporting validityMask : Bool) (kind : ReportKind)
      (timer : Option CollectionTimer)
  | serialize (writer : Writer) (order : ByteOrder)
  | deserialize (reader : Reader) (order : ByteOrder)
  | onVariable (index : Nat) (action : AccessorAction)

namespace Dataset

/-- The result of an operation, the set afterwards and the pools. -/
def act (set : Dataset) (bank : PoolBank) :
    SetAction → Except PoolError Unit × Dataset × PoolBank
  | .register accessor =>
    let (result, set) := set.register accessor
    (result.map fun _ => (), set, bank)
  | .read =>
    let (result, set) := set.read bank
    (result, set, bank)
  | .commit => set.commit bank
  | .commitWithValidity valid => (set.withValidityOfAll valid).commit bank
  | .protect lockEach => (.ok (), set.withLockEach lockEach, bank)
  | .setValidity valid recursive =>
    (.ok (), if recursive then set.withValidityOfAll valid else set.withValidity valid, bank)
  | .configure changed reporting validityMask kind timer =>
    (.ok (), { set with changed, reporting, validityMask, kind, timer }, bank)
  | .serialize writer order =>
    let (result, _) := set.serialize writer order
    (result, set, bank)
  | .deserialize reader order =>
    let (result, set, _) := set.deserialize reader order
    (result, set, bank)
  | .onVariable index action =>
    match set.accessors[index]? with
    | none => (.ok (), set, bank)
    | some accessor =>
      let (result, accessor, bank) := accessor.act bank action
      (result, set.putVariable index accessor, bank)

/-- What an operation commits. -/
def committed (set : Dataset) : SetAction → List Accessor
  | .commit => set.writers
  | .commitWithValidity valid => (set.withValidityOfAll valid).writers
  | .onVariable index action =>
    match set.accessors[index]? with
    | none => []
    | some accessor => accessor.committed action
  | _ => []

end Dataset

/-- What can be done with a manager. -/
inductive ManagerAction where
  | start (setup : PoolSetup)
  | subscribe (subscription : Subscription)
  | clearReceivers
  | setDestination (destination : QueueId)
  | setReporting (sid : Sid) (enabled : Bool) (kind : ReportKind)
  | setInterval (sid : Sid) (seconds : Binary32) (kind : ReportKind)
  | handle (message : CommandMessage)
  | pass (clock : Nat → CdsTime)
  | sendPacket (sid : Sid) (set : Dataset) (forDownlink : Bool) (destination : QueueId)
  | sendStructure (sid : Sid) (kind : ReportKind) (destination : QueueId)

namespace HkState

variable {σ : Type}

/-- The state after an operation, and the pools. Only setting up its pool takes a manager to it. -/
def act (services : Services σ) (state : HkState σ) (bank : PoolBank) :
    ManagerAction → HkState σ × PoolBank
  | .start setup =>
    let (_, manager, owner, bank) := state.manager.start state.owner bank setup
    (⟨manager, owner, state.services⟩, bank)
  | .subscribe subscription =>
    let (_, manager, owner) := state.manager.subscribe state.owner subscription
    (⟨manager, owner, state.services⟩, bank)
  | .clearReceivers => ({ state with manager := state.manager.clearReceivers }, bank)
  | .setDestination destination =>
    ({ state with manager := state.manager.withDestination destination }, bank)
  | .setReporting sid enabled kind =>
    match state.owner.setReporting sid enabled kind with
    | .ok owner => ({ state with owner }, bank)
    | .error _ => (state, bank)
  | .setInterval sid seconds kind =>
    match state.owner.setInterval sid seconds kind with
    | .ok owner => ({ state with owner }, bank)
    | .error _ => (state, bank)
  | .handle message => ((state.handle services message).2, bank)
  | .pass clock => ((state.pass services clock).2, bank)
  | .sendPacket sid set forDownlink destination =>
    let (_, after) :=
      state.manager.sendPacket services sid set forDownlink destination state.services
    ({ state with services := after }, bank)
  | .sendStructure sid kind destination =>
    let (_, after) :=
      state.manager.sendStructure services state.owner sid kind destination state.services
    ({ state with services := after }, bank)

end HkState

/-! ## Histories -/

/-- Pools and all that works on them. -/
structure World (σ : Type) where
  bank : PoolBank
  owners : List Owner
  managers : List HkManager
  services : σ

namespace World

inductive Event (σ : Type) where
  | addPool (owner : ObjectId) (patience : Patience)
  /-- Somebody takes the mutex of a pool, or lets go of it. -/
  | hold (handle : PoolHandle) (held : Bool)
  | fill (handle : PoolHandle) (entries : List (LocalPoolId × PoolEntry))
  | addManager (owner : ObjectId) (queue : QueueId) (queueDefault : Option QueueId)
      (config : ManagerConfig)
  | addOwner (owner : Owner)
  | addAccessor (owner : Nat) (id : LocalPoolId) (accessor : Accessor)
  | addSet (owner : Nat) (sid : Sid) (set : Dataset)
  | onAccessor (owner index : Nat) (action : AccessorAction)
  | onSet (owner index : Nat) (action : SetAction)
  | dropSet (owner index : Nat)
  | manage (manager owner : Nat) (action : ManagerAction)
  /-- Others use the services. -/
  | meanwhile (services : σ)

variable {σ : Type}

def empty (services : σ) : World σ := ⟨.empty, [], [], services⟩

def accessor? (world : World σ) (owner index : Nat) : Option Accessor :=
  world.owners[owner]?.bind fun owner => owner.accessors[index]?.map Prod.snd

def set? (world : World σ) (owner index : Nat) : Option Dataset :=
  world.owners[owner]?.bind fun owner => owner.sets[index]?.map Prod.snd

/-- What happens to one of the owners, and the pools afterwards. -/
def withOwner (world : World σ) (owner : Nat) (change : Owner → Owner) (bank : PoolBank) :
    World σ :=
  { world with bank, owners := world.owners.modify owner change }

/-- The world after an event; what is asked of somebody who is not there does nothing. -/
def step (services : Services σ) (world : World σ) : Event σ → World σ
  | .addPool owner patience => { world with bank := (world.bank.add owner patience).2 }
  | .hold handle held => { world with bank := world.bank.setHeld handle held }
  | .fill handle entries =>
    match world.bank.pool? handle with
    | none => world
    | some pool =>
      match pool.insertOnce entries with
      | .ok next => { world with bank := world.bank.put handle next }
      | .error _ => world
  | .addManager owner queue queueDefault config =>
    let (manager, bank) := HkManager.create world.bank owner queue queueDefault config
    { world with bank, managers := world.managers ++ [manager] }
  | .addOwner owner => { world with owners := world.owners ++ [owner] }
  | .addAccessor owner id accessor =>
    world.withOwner owner
      (fun owner => { owner with accessors := owner.accessors ++ [(id, accessor)] }) world.bank
  | .addSet owner sid set =>
    world.withOwner owner (fun owner => { owner with sets := owner.sets ++ [(sid, set)] })
      world.bank
  | .onAccessor owner index action =>
    match world.accessor? owner index with
    | none => world
    | some accessor =>
      let (_, accessor, bank) := accessor.act world.bank action
      world.withOwner owner
        (fun owner =>
          { owner with
            accessors := owner.accessors.modify index fun exposed => (exposed.1, accessor) })
        bank
  | .onSet owner index action =>
    match world.set? owner index with
    | none => world
    | some set =>
      let (_, set, bank) := set.act world.bank action
      world.withOwner owner
        (fun owner =>
          { owner with sets := owner.sets.modify index fun exposed => (exposed.1, set) })
        bank
  | .dropSet owner index =>
    match world.set? owner index with
    | none => world
    | some set =>
      world.withOwner owner (fun owner => { owner with sets := owner.sets.eraseIdx index })
        (set.drop world.bank)
  | .manage manager owner action =>
    match world.managers[manager]?, world.owners[owner]? with
    | some hk, some data =>
      let (state, bank) := HkState.act services ⟨hk, data, world.services⟩ world.bank action
      ⟨bank, world.owners.set owner state.owner, world.managers.set manager state.manager,
        state.services⟩
    | _, _ => world
  | .meanwhile after => { world with services := after }

def run (services : Services σ) (events : List (Event σ)) (world : World σ) : World σ :=
  events.foldl (step services) world

/-- The accessors that an event commits. -/
def writers (world : World σ) : Event σ → List Accessor
  | .onAccessor owner index action =>
    match world.accessor? owner index with
    | none => []
    | some accessor => accessor.committed action
  | .onSet owner index action =>
    match world.set? owner index with
    | none => []
    | some set => set.committed action
  | .dropSet owner index =>
    match world.set? owner index with
    | none => []
    | some set => set.dropped
  | _ => []

end World

/-! ## One event -/

/-- All that an event may do to a pool. -/
inductive PoolChange (writers : List Accessor) (handle : PoolHandle) :
    Option LocalPool → Option LocalPool → Prop where
  | absent : PoolChange writers handle none none
  | made : PoolChange writers handle none (some .empty)
  | filled {pool next : LocalPool} {entries : List (LocalPoolId × PoolEntry)}
      (h : pool.insertOnce entries = .ok next) :
      PoolChange writers handle (some pool) (some next)
  | rewritten {pool next : LocalPool} (h : pool.Rewritten writers handle next) :
      PoolChange writers handle (some pool) (some next)

namespace PoolChange

variable {writers : List Accessor} {handle : PoolHandle} {bank next : PoolBank}

theorem of_rewritten (h : PoolBank.Rewritten writers bank next) (handle : PoolHandle) :
    PoolChange writers handle (bank.pool? handle) (next.pool? handle) := by
  have hpool := h handle
  generalize bank.pool? handle = before, next.pool? handle = after at hpool
  cases hpool with
  | none => exact .absent
  | some hpool => exact .rewritten hpool

theorem refl (bank : PoolBank) :
    PoolChange writers handle (bank.pool? handle) (bank.pool? handle) :=
  of_rewritten (.refl bank) handle

theorem of_add (bank : PoolBank) (owner : ObjectId) (patience : Patience) :
    PoolChange writers handle (bank.pool? handle)
      ((bank.add owner patience).2.pool? handle) := by
  rw [PoolBank.pool?_add]
  split
  next hindex =>
    have hnone : bank.pool? handle = none := by simp [PoolBank.pool?, hindex]
    rw [hnone]
    exact .made
  next => exact refl bank

theorem of_fill {pool filled : LocalPool} {target : PoolHandle}
    {entries : List (LocalPoolId × PoolEntry)} (hpool : bank.pool? target = some pool)
    (h : pool.insertOnce entries = .ok filled) :
    PoolChange writers handle (bank.pool? handle) ((bank.put target filled).pool? handle) := by
  rw [PoolBank.put, PoolBank.pool?_modify]
  split
  next hindex =>
    have hsame : target.samePool handle = true := PoolHandle.samePool_iff.mpr hindex.symm
    rw [PoolBank.pool?_of_samePool hsame, hpool]
    exact .filled h
  next => exact refl bank

end PoolChange

namespace Accessor

theorem rewritten_act (accessor : Accessor) (bank : PoolBank) (action : AccessorAction) :
    PoolBank.Rewritten (accessor.committed action) bank (accessor.act bank action).2.2 := by
  cases action with
  | commit => exact accessor.rewritten_commit bank
  | commitWithValidity valid => exact (accessor.withValidity valid).rewritten_commit bank
  | _ => exact .refl bank

/-- Only a commit that succeeds, for a bound and writable accessor, changes any pool. -/
theorem of_act_ne {accessor : Accessor} {bank : PoolBank} {action : AccessorAction}
    (h : (accessor.act bank action).2.2 ≠ bank) :
    accessor.committed action ≠ [] ∧ (accessor.act bank action).1 = .ok () ∧
      accessor.mode.canWrite = true ∧ accessor.id ≠ noParameter := by
  cases action with
  | commit =>
    have hcommit : (accessor.commit bank).2 ≠ bank := h
    exact ⟨List.cons_ne_nil _ _, of_commit_ne hcommit⟩
  | commitWithValidity valid =>
    have hcommit : ((accessor.withValidity valid).commit bank).2 ≠ bank := h
    exact ⟨List.cons_ne_nil _ _, of_commit_ne hcommit⟩
  | _ => exact absurd rfl h

end Accessor

namespace Dataset

theorem rewritten_act (set : Dataset) (bank : PoolBank) (action : SetAction) :
    PoolBank.Rewritten (set.committed action) bank (set.act bank action).2.2 := by
  cases action with
  | commit => exact set.rewritten_commit bank
  | commitWithValidity valid => exact (set.withValidityOfAll valid).rewritten_commit bank
  | onVariable index action =>
    cases hfound : set.accessors[index]? with
    | none => simp only [committed, act, hfound]; exact .refl bank
    | some accessor => simp only [committed, act, hfound]; exact accessor.rewritten_act bank action
  | _ => exact .refl bank

end Dataset

namespace HkManager

/-- Setting up a pool leaves all pools as they are, or fills one of them. -/
theorem start_bank (manager : HkManager) (owner : Owner) (bank : PoolBank) (setup : PoolSetup) :
    (manager.start owner bank setup).2.2.2 = bank ∨
      ∃ (target : PoolHandle) (pool next : LocalPool), bank.pool? target = some pool ∧
        pool.insertOnce setup.entries = .ok next ∧
        (manager.start owner bank setup).2.2.2 = bank.put target next := by
  unfold start
  split
  · exact .inl rfl
  · split
    · exact .inl rfl
    next prepared _ _ =>
      split
      · exact .inl rfl
      · split
        · exact .inl rfl
        next next hfill =>
          right
          cases hlock : bank.lock prepared.pool with
          | error e => rw [hlock] at hfill; cases hfill
          | ok pool =>
            rw [hlock] at hfill
            exact ⟨prepared.pool, pool, next, PoolBank.lock_eq_ok hlock, hfill, rfl⟩

end HkManager

namespace World

variable {σ : Type}

theorem manage_change (services : Services σ) (state : HkState σ) (bank : PoolBank)
    (action : ManagerAction) (handle : PoolHandle) :
    PoolChange [] handle (bank.pool? handle) ((state.act services bank action).2.pool? handle) := by
  cases action with
  | start setup =>
    rcases state.manager.start_bank state.owner bank setup with
      hsame | ⟨target, pool, next, hpool, hfill, hbank⟩
    · have hact : (state.act services bank (.start setup)).2 = bank := hsame
      rw [hact]
      exact .refl bank
    · have hact : (state.act services bank (.start setup)).2 = bank.put target next := hbank
      rw [hact]
      exact .of_fill hpool hfill
  | setReporting sid enabled kind =>
    cases h : state.owner.setReporting sid enabled kind <;> simp only [HkState.act, h] <;>
      exact .refl bank
  | setInterval sid seconds kind =>
    cases h : state.owner.setInterval sid seconds kind <;> simp only [HkState.act, h] <;>
      exact .refl bank
  | _ => exact .refl bank

/-- All that one event does to a pool. -/
theorem step_change (services : Services σ) (world : World σ) (event : Event σ)
    (handle : PoolHandle) :
    PoolChange (world.writers event) handle (world.bank.pool? handle)
      ((world.step services event).bank.pool? handle) := by
  cases event with
  | addPool owner patience => exact .of_add world.bank owner patience
  | hold target held =>
    have hpool := world.bank.pool?_setHeld target handle held
    simp only [step, hpool]
    exact .refl world.bank
  | fill target entries =>
    cases hpool : world.bank.pool? target with
    | none => simp only [step, hpool]; exact .refl world.bank
    | some pool =>
      cases hfill : pool.insertOnce entries with
      | error e => simp only [step, hpool, hfill]; exact .refl world.bank
      | ok next => simp only [step, hpool, hfill]; exact .of_fill hpool hfill
  | addManager owner queue queueDefault config =>
    exact .of_add world.bank owner (.waiting config.lockMillis)
  | onAccessor owner index action =>
    cases hfound : world.accessor? owner index with
    | none => simp only [step, writers, hfound]; exact .refl world.bank
    | some accessor =>
      simp only [step, writers, hfound]
      exact .of_rewritten (accessor.rewritten_act world.bank action) handle
  | onSet owner index action =>
    cases hfound : world.set? owner index with
    | none => simp only [step, writers, hfound]; exact .refl world.bank
    | some set =>
      simp only [step, writers, hfound]
      exact .of_rewritten (set.rewritten_act world.bank action) handle
  | dropSet owner index =>
    cases hfound : world.set? owner index with
    | none => simp only [step, writers, hfound]; exact .refl world.bank
    | some set =>
      simp only [step, writers, hfound]
      exact .of_rewritten (set.rewritten_drop world.bank) handle
  | manage manager owner action =>
    cases hmanager : world.managers[manager]? with
    | none => simp only [step, hmanager]; exact .refl world.bank
    | some hk =>
      cases howner : world.owners[owner]? with
      | none => simp only [step, hmanager, howner]; exact .refl world.bank
      | some data =>
        simp only [step, hmanager, howner]
        exact manage_change services ⟨hk, data, world.services⟩ world.bank action handle
  | _ => exact .refl world.bank

/-- A pool stays where it is: an event fills it or rewrites it. -/
theorem step_of_pool {world : World σ} {handle : PoolHandle} {pool : LocalPool}
    (services : Services σ) (event : Event σ) (hpool : world.bank.pool? handle = some pool) :
    ∃ next, (world.step services event).bank.pool? handle = some next ∧
      ((∃ entries, pool.insertOnce entries = .ok next) ∨
        pool.Rewritten (world.writers event) handle next) := by
  have hchange := world.step_change services event handle
  rw [hpool] at hchange
  generalize (world.step services event).bank.pool? handle = after at hchange
  cases hchange with
  | filled hfill => exact ⟨_, rfl, .inl ⟨_, hfill⟩⟩
  | rewritten hrewritten => exact ⟨_, rfl, .inr hrewritten⟩

theorem step_of_filled {world : World σ} {handle : PoolHandle} {pool : LocalPool}
    (services : Services σ) (event : Event σ) (hpool : world.bank.pool? handle = some pool)
    (hfilled : pool.filled = true) :
    ∃ next, (world.step services event).bank.pool? handle = some next ∧
      pool.Rewritten (world.writers event) handle next := by
  rcases step_of_pool services event hpool with ⟨next, hnext, ⟨entries, hfill⟩ | hrewritten⟩
  · rw [LocalPool.insertOnce_of_filled hfilled] at hfill
    cases hfill
  · exact ⟨next, hnext, hrewritten⟩

/-! ## Whole histories -/

theorem run_induction {services : Services σ} {P : World σ → Prop}
    (hstep : ∀ world event, P world → P (world.step services event)) {start : World σ}
    (h : P start) (events : List (Event σ)) : P (start.run services events) :=
  List.foldlRecOn events (World.step services) h fun world hworld event _ =>
    hstep world event hworld

/-- Before it is filled, a pool has no entries. -/
def EmptyUntilFilled (world : World σ) : Prop :=
  ∀ handle pool, world.bank.pool? handle = some pool → pool.filled = false →
    ∀ id, pool.entry? id = none

theorem EmptyUntilFilled.step {world : World σ} (h : world.EmptyUntilFilled)
    (services : Services σ) (event : Event σ) :
    (world.step services event).EmptyUntilFilled := by
  intro handle pool hpool hfilled id
  have hchange := world.step_change services event handle
  rw [hpool] at hchange
  generalize hbefore : world.bank.pool? handle = before at hchange
  cases hchange with
  | made => rfl
  | filled hfill =>
    rw [LocalPool.filled_of_insertOnce hfill] at hfilled
    cases hfilled
  | rewritten hrewritten =>
    have hnone := h handle _ hbefore (hrewritten.filled_eq ▸ hfilled) id
    have hentry := hrewritten.entry id
    rw [hnone] at hentry
    generalize pool.entry? id = entry at hentry
    -- nothing is written where no entry was before
    cases hentry
    rfl

/-- The pool is there and filled, with the ids of the given one, the layouts of its entries and the
entry of the sentinel as it was. -/
def Keeps (handle : PoolHandle) (pool : LocalPool) (world : World σ) : Prop :=
  ∃ last, world.bank.pool? handle = some last ∧ last.filled = true ∧
    (∀ id, last.layout? id = pool.layout? id) ∧
    last.entry? noParameter = pool.entry? noParameter

theorem Keeps.step {handle : PoolHandle} {pool : LocalPool} {world : World σ}
    (h : Keeps handle pool world) (services : Services σ) (event : Event σ) :
    Keeps handle pool (world.step services event) := by
  obtain ⟨last, hlast, hfilled, hlayout, hsentinel⟩ := h
  obtain ⟨next, hnext, hrewritten⟩ := step_of_filled services event hlast hfilled
  refine ⟨next, hnext, hrewritten.filled_eq.trans hfilled, fun id => ?_, ?_⟩
  · exact (hrewritten.layout?_eq id).trans (hlayout id)
  · exact (hrewritten.entry noParameter).eq_of_noParameter.trans hsentinel

theorem run_keeps {handle : PoolHandle} {pool : LocalPool} {world : World σ}
    (hpool : world.bank.pool? handle = some pool) (hfilled : pool.filled = true)
    (services : Services σ) (later : List (Event σ)) :
    Keeps handle pool (world.run services later) := by
  have hnow : Keeps handle pool world := ⟨pool, hpool, hfilled, fun _ => rfl, rfl⟩
  exact run_induction (fun _ event h => h.step services event) hnow later

/-- After any history a pool is empty until its one `insertOnce` succeeds. Then it is filled for
good: no other `insertOnce` succeeds, and whatever happens, its ids, the layout of every entry and
the entry of the sentinel stay. One event overwrites entries only for those accessors that it
commits, each in the pool to which it is bound and where it may write; all other entries of all
pools stay as they are. An operation on an accessor that changes any pool is a commit that succeeds,
for a bound and writable accessor. -/
theorem writes_confined (services : Services σ) (start : σ) (events : List (Event σ)) :
    let world := (empty start).run services events
    (∀ handle pool, world.bank.pool? handle = some pool →
      (pool.filled = false →
        (∀ id, pool.entry? id = none) ∧
        ∀ event, ∃ next, (world.step services event).bank.pool? handle = some next ∧
          (next.filled = true → ∃ entries, pool.insertOnce entries = .ok next)) ∧
      (pool.filled = true →
        (∀ entries, pool.insertOnce entries = .error .poolMapAlreadyInitialized) ∧
        (∀ event, ∃ next, (world.step services event).bank.pool? handle = some next ∧
          ∀ id, Overwritten (world.writers event) handle id (pool.entry? id) (next.entry? id)) ∧
        ∀ later, Keeps handle pool (world.run services later))) ∧
    (∀ (accessor : Accessor) (action : AccessorAction),
      (accessor.act world.bank action).2.2 ≠ world.bank →
        accessor.committed action ≠ [] ∧ (accessor.act world.bank action).1 = .ok () ∧
          accessor.mode.canWrite = true ∧ accessor.id ≠ noParameter) := by
  intro world
  have hempty : (empty start).EmptyUntilFilled := by
    intro handle pool hpool
    simp [empty, PoolBank.empty, PoolBank.pool?] at hpool
  have hnow : world.EmptyUntilFilled :=
    run_induction (fun _ event h => h.step services event) hempty events
  refine ⟨fun handle pool hpool => ⟨fun hunfilled => ?_, fun hfilled => ?_⟩, ?_⟩
  · refine ⟨hnow handle pool hpool hunfilled, fun event => ?_⟩
    rcases step_of_pool services event hpool with ⟨next, hnext, ⟨entries, hfill⟩ | hrewritten⟩
    · exact ⟨next, hnext, fun _ => ⟨entries, hfill⟩⟩
    · refine ⟨next, hnext, fun hfilled => ?_⟩
      rw [hrewritten.filled_eq, hunfilled] at hfilled
      cases hfilled
  · have hkeeps := run_keeps hpool hfilled services
    refine ⟨LocalPool.insertOnce_of_filled hfilled, fun event => ?_, hkeeps⟩
    obtain ⟨next, hnext, hrewritten⟩ := step_of_filled services event hpool hfilled
    exact ⟨next, hnext, hrewritten.entry⟩
  · intro accessor action hchanged
    exact Accessor.of_act_ne hchanged

/-- A variable of another pool, registered while every variable locked its own: once the set locks
its pool only, a commit writes neither pool, also not the set's own entry of the same id. -/
example (services : Services σ) (start : σ) :
    let own : PoolHandle := ⟨0, 1, .blocking⟩
    let other : PoolHandle := ⟨1, 2, .blocking⟩
    let set := (Dataset.consumer own ⟨1, 1⟩ 2).withLockEach true
    let foreign := (Accessor.scalar other 1 .write .u8).withValues .u8 [7]
    let locked := (empty start).run services
      [.addPool 1 .blocking, .addPool 2 .blocking, .fill own [(1, .zeroed .u8 1)],
       .fill other [(1, .zeroed .u8 1)], .addOwner ⟨1000, [(⟨1, 1⟩, set)], [], fun _ => false, []⟩,
       .onSet 0 0 (.register (some foreign)), .onSet 0 0 (.protect false), .onSet 0 0 .commit]
    let apart := locked.run services [.onSet 0 0 (.protect true), .onSet 0 0 .commit]
    let entry (world : World σ) (handle : PoolHandle) :=
      (world.bank.pool? handle).bind fun pool => pool.entry? 1
    entry locked own = some (.zeroed .u8 1) ∧ entry locked other = some (.zeroed .u8 1) ∧
      entry apart own = some (.zeroed .u8 1) ∧ entry apart other = some ⟨.u8, [7], false⟩ := by
  cbv

end World

end Housekeeper
