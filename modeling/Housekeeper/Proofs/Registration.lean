import Housekeeper.Proofs.Checkouts

/-!
# Registered variables and their handles

`SetUse` is what the users of a data set do with it: they register variables, read, commit, switch
the locking, and change a variable through its handle; meanwhile others use the pools.
`SetUse.turn` says what this does to one variable that is registered already. A use changes every
variable by its turn and appends what it registers, and it does nothing else to the variables
(`Scene.accessors_use`). So whatever happens, a handle reaches the variable that was registered
with it (`Scene.followed`), and the indices are given out one after the other.

`Dataset.faults` lists why a registration is rejected; the first reason counts
(`Dataset.register_eq`).
-/

namespace Housekeeper

/-! ## Operations on one accessor -/

theorem Element.length_readEach {type : ElementType} (order : ByteOrder)
    (olds : List (Element type)) (reader : Reader) :
    (readEach order olds reader).2.1.length = olds.length := by
  induction olds generalizing reader with
  | nil => rfl
  | cons old rest ih =>
    unfold readEach
    split
    next x next _ => exact congrArg Nat.succ (ih next)
    next => rfl

namespace AccessorAction

/-- What is put in the place of an accessor has its shape. -/
def Fits (shape : AccessorShape) : AccessorAction → Prop
  | replace other => other.shape = shape
  | _ => True

/-- What is put in the place of an accessor, if anything. -/
def replacement? : AccessorAction → Option Accessor
  | replace other => some other
  | _ => none

end AccessorAction

namespace Accessor

theorem shape_deserialize (accessor : Accessor) (reader : Reader) (order : ByteOrder) :
    (accessor.deserialize reader order).2.1.shape = accessor.shape := by
  obtain ⟨pool, id, mode, type, value | values, valid, changed⟩ := accessor
  · simp only [deserialize, LocalCopy.deserialize]
    split <;> rfl
  · simp only [deserialize, LocalCopy.deserialize]
    split
    · rfl
    · exact congrArg (fun length => AccessorShape.mk type (some length))
        (Element.length_readEach order values reader)

/-- No operation changes the type or the length. -/
theorem shape_act (accessor : Accessor) (bank : PoolBank) {action : AccessorAction}
    (fits : action.Fits accessor.shape) :
    (accessor.act bank action).2.1.shape = accessor.shape := by
  cases action with
  | read => exact accessor.shape_read bank
  | commit | serialize => rfl
  | commitWithValidity valid => exact accessor.shape_withValidity valid
  | setValues type values => exact accessor.shape_withValues type values
  | setFlags valid changed =>
    obtain ⟨pool, id, mode, type, value | values, old, stale⟩ := accessor <;> rfl
  | deserialize reader order => exact accessor.shape_deserialize reader order
  | replace other => exact fits

/-- No operation of the accessor's own binds it to another entry. -/
theorem binding_act (accessor : Accessor) (bank : PoolBank) {action : AccessorAction}
    (own : action.replacement? = none) :
    (accessor.act bank action).2.1.binding = accessor.binding := by
  cases action with
  | read =>
    show (accessor.read bank).2.binding = accessor.binding
    unfold read
    split
    · rfl
    · split
      · exact accessor.binding_readFrom _
      · rfl
  | setValues type values =>
    show (accessor.withValues type values).binding = accessor.binding
    unfold withValues
    split <;> rfl
  | replace other => cases own
  | _ => rfl

end Accessor

/-! ## Registration and handles of any set -/

namespace Dataset

variable (set : Dataset)

/-- What may be wrong with a registration, in the order in which it is looked at. -/
def faults (accessor : Option Accessor) : List (Bool × PoolError) :=
  [(set.state != .idle, .dataSetUninitialised),
   (accessor.isNone, .poolVarNull),
   (!set.lockEach && accessor.any set.isForeign, .foreignPoolVariable),
   (set.capacity ≤ set.fillCount, .dataSetFull)]

/-- The first fault rejects the registration and leaves the set alone. -/
theorem register_eq (accessor : Option Accessor) :
    set.register accessor =
      match (set.faults accessor).find? Prod.fst with
      | some fault => (.error fault.2, set)
      | none =>
        (.ok set.fillCount, { set with accessors := set.accessors ++ accessor.toList }) := by
  unfold faults
  cases hs : set.state with
  | wasRead => cases accessor <;> simp [register, rejection?, hs]
  | idle =>
    cases accessor with
    | none => simp [register, hs]
    | some accessor =>
      by_cases hforeign : (!set.lockEach && set.isForeign accessor) = true
      · simp [register, rejection?, hs, hforeign]
      · by_cases hfull : set.capacity ≤ set.accessors.length
        · simp [register, rejection?, hs, hforeign, hfull, fillCount]
        · simp [register, rejection?, hs, hforeign, hfull, fillCount]

/-- What is registered is appended, and there was room for it. -/
theorem register_cases (accessor : Option Accessor) :
    (∃ e, set.register accessor = (.error e, set)) ∨
      ∃ new, accessor = some new ∧ set.state = .idle ∧
        (set.lockEach = false → new.pool.samePool set.pool = true) ∧
        set.fillCount < set.capacity ∧
        set.register accessor =
          (.ok set.fillCount, { set with accessors := set.accessors ++ [new] }) := by
  cases hfault : (set.faults accessor).find? Prod.fst with
  | some fault => exact .inl ⟨fault.2, by rw [register_eq, hfault]⟩
  | none =>
    have hno := List.find?_eq_none.mp hfault
    simp only [faults, List.mem_cons, List.not_mem_nil, or_false, forall_eq_or_imp, forall_eq,
      bne_iff_ne, ne_eq, not_not, Option.isNone_iff_eq_none, decide_eq_true_eq, Nat.not_le] at hno
    obtain ⟨hidle, hsome, hown, hroom⟩ := hno
    obtain ⟨new, rfl⟩ := Option.ne_none_iff_exists'.mp hsome
    refine .inr ⟨new, rfl, hidle, fun honce => ?_, hroom, by rw [register_eq, hfault]; rfl⟩
    simpa [honce, isForeign] using hown

theorem register_eq_uninitialised_iff (accessor : Option Accessor) :
    (set.register accessor).1 = .error .dataSetUninitialised ↔ set.state = .wasRead := by
  cases hstate : set.state with
  | wasRead => simp [register_eq, faults, hstate]
  | idle =>
    rw [register_eq]
    cases hfault : (set.faults accessor).find? Prod.fst with
    | none => simp
    | some fault =>
      have hmem := List.mem_of_find?_eq_some hfault
      have hfound := List.find?_some hfault
      simp only [faults, hstate, List.mem_cons, List.not_mem_nil, or_false] at hmem
      rcases hmem with rfl | rfl | rfl | rfl
      · cases hfound
      all_goals simp

variable {set} {handle : VariableHandle}

theorem get?_eq_some_iff {accessor : Accessor} :
    set.get? handle = some accessor ↔
      set.accessors[handle.index]? = some accessor ∧ accessor.shape = handle.shape := by
  simp [get?, Option.filter_eq_some_iff]

/-- A handle finds what is at its index, if it is of its shape. -/
theorem get?_eq_some_get_iff {accessor : Accessor} :
    set.get? handle = some accessor ↔
      ∃ h : handle.index < set.fillCount,
        set.accessors.get ⟨handle.index, h⟩ = accessor ∧ accessor.shape = handle.shape := by
  rw [get?_eq_some_iff, List.getElem?_eq_some_iff]
  exact exists_and_right.symm

theorem isSome_modify? (change : Accessor → Accessor) :
    (set.modify? handle change).isSome = (set.get? handle).isSome :=
  Option.isSome_map

/-- A change through a handle reaches no other variable. -/
theorem getElem?_of_modify? {change : Accessor → Accessor} {next : Dataset}
    (h : set.modify? handle change = some next) {index : Nat} (other : index ≠ handle.index) :
    next.accessors[index]? = set.accessors[index]? := by
  obtain ⟨accessor, -, rfl⟩ := Option.map_eq_some_iff.mp h
  exact List.getElem?_set_ne other.symm

end Dataset

/-! ## Uses of a set -/

/-- What the users of a set do with it. -/
inductive SetUse where
  | register (accessor : Option Accessor)
  | read
  | commit
  | protect (lockEach : Bool)
  /-- An operation on the variable that a handle reaches. -/
  | modify (handle : VariableHandle) (action : AccessorAction) (fits : action.Fits handle.shape)
  /-- Others take or release a mutex, or write to a pool. -/
  | others (change : PoolBank → PoolBank)

namespace SetUse

/-- What this is for the set; nothing happens through a handle that reaches nothing. -/
def event (set : Dataset) : SetUse → SceneEvent
  | register accessor => .call (.register accessor)
  | read => .call .read
  | commit => .call .commit
  | protect lockEach => .call (.protect lockEach)
  | modify handle action _ =>
    if (set.get? handle).isSome then .call (.onVariable handle.index action) else .others id
  | others change => .others change

/-- What is put in the place of a variable, if anything. -/
def replacement? : SetUse → Option Accessor
  | modify _ action _ => action.replacement?
  | _ => none

/-- No variable of another pool gets into the set in this way. -/
def StaysIn (pool : PoolHandle) (use : SetUse) : Prop :=
  use ≠ .protect true ∧
    ∀ accessor, use.replacement? = some accessor → accessor.pool.samePool pool = true

end SetUse

namespace Scene

def use (scene : Scene) (use : SetUse) : Scene := (scene.step (use.event scene.set)).2

def useAll (scene : Scene) (uses : List SetUse) : Scene := uses.foldl use scene

/-- The index that is given out, if any. -/
def index? (scene : Scene) : SetUse → Option Nat
  | .register accessor => (scene.set.register accessor).1.toOption
  | _ => none

/-- The indices that are given out, one after the other. -/
def indices (scene : Scene) : List SetUse → List Nat
  | [] => []
  | use :: rest => (scene.index? use).toList ++ (scene.use use).indices rest

/-- The variable that is registered, if any. -/
def added (scene : Scene) : SetUse → List Accessor
  | .register accessor => if (scene.set.register accessor).1.isOk then accessor.toList else []
  | _ => []

/-- What becomes of the variable at an index. -/
def turn (scene : Scene) (index : Nat) : SetUse → Accessor → Accessor
  | .read, accessor =>
    if Dataset.refused (scene.set.read scene.bank).1 then accessor
    else (scene.set.outcome scene.bank accessor).2
  | .modify handle action _, accessor =>
    if handle = ⟨index, accessor.shape⟩ then (accessor.act scene.bank action).2.1 else accessor
  | _, accessor => accessor

/-- What becomes of it in the end. -/
def followed (scene : Scene) (index : Nat) : List SetUse → Accessor → Accessor
  | [], accessor => accessor
  | use :: rest, accessor => (scene.use use).followed index rest (scene.turn index use accessor)

/-- The uses as events of the scene. -/
def events (scene : Scene) : List SetUse → List SceneEvent
  | [] => []
  | use :: rest => use.event scene.set :: (scene.use use).events rest

theorem run_events (scene : Scene) (uses : List SetUse) :
    scene.run (scene.events uses) = scene.useAll uses := by
  induction uses generalizing scene with
  | nil => rfl
  | cons use rest ih => exact ih (scene.use use)

/-! ## One use -/

theorem mapIdx_of_kept {f : Nat → Accessor → Accessor} {accessors : List Accessor}
    (kept : ∀ index v, accessors[index]? = some v → f index v = v) :
    accessors.mapIdx f = accessors := by
  apply List.ext_getElem?
  intro index
  rw [List.getElem?_mapIdx]
  cases hv : accessors[index]? with
  | none => rfl
  | some v => exact congrArg some (kept index v hv)

theorem accessors_read (set : Dataset) (bank : PoolBank) :
    (set.read bank).2.accessors = set.accessors.map fun v =>
      if Dataset.refused (set.read bank).1 then v else (set.outcome bank v).2 := by
  have hdone (failed : Bool) : Dataset.refused
      (if failed then .error .invalidParameterDefinition else .ok ()) = false := by
    cases failed <;> rfl
  unfold Dataset.read
  cases set.state with
  | wasRead => simp [Dataset.refused]
  | idle =>
    rcases set.lockOnce_cases bank with hlock | hlock
    · simp only [hlock, hdone]
      rw [Dataset.readAll_eq, List.map_map]
      rfl
    · simp [hlock, Dataset.refused]

/-- Through a handle the same variable is changed as by `Dataset.modify?`. -/
theorem set_modify (scene : Scene) (handle : VariableHandle) (action : AccessorAction)
    (fits : action.Fits handle.shape) :
    (scene.use (.modify handle action fits)).set =
      (scene.set.modify? handle fun v => (v.act scene.bank action).2.1).getD scene.set := by
  rw [use, SetUse.event, Dataset.modify?]
  cases hget : scene.set.get? handle with
  | none => rfl
  | some accessor =>
    have hindex := (Dataset.get?_eq_some_iff.mp hget).1
    simp [step, Dataset.act, hindex]

theorem accessors_modify (scene : Scene) (handle : VariableHandle) (action : AccessorAction)
    (fits : action.Fits handle.shape) :
    (scene.use (.modify handle action fits)).set.accessors =
      scene.set.accessors.mapIdx fun index v =>
        scene.turn index (.modify handle action fits) v := by
  cases hget : scene.set.get? handle with
  | none =>
    -- Nothing is reached, also not by the turn of any variable.
    have hkept (index : Nat) (v : Accessor) (hv : scene.set.accessors[index]? = some v) :
        scene.turn index (.modify handle action fits) v = v := by
      refine if_neg ?_
      rintro rfl
      rw [Dataset.get?_eq_some_iff.mpr ⟨hv, rfl⟩] at hget
      cases hget
    rw [mapIdx_of_kept hkept, set_modify, Dataset.modify?, hget]
    rfl
  | some accessor =>
    obtain ⟨hindex, hshape⟩ := Dataset.get?_eq_some_iff.mp hget
    rw [set_modify, Dataset.modify?, hget, Option.map_some, Option.getD_some, Dataset.putVariable]
    apply List.ext_getElem?
    intro index
    rw [List.getElem?_mapIdx]
    by_cases hsame : handle.index = index
    · subst hsame
      have hlt := (List.getElem?_eq_some_iff.mp hindex).1
      have hturn : scene.turn handle.index (.modify handle action fits) accessor =
          (accessor.act scene.bank action).2.1 := if_pos (by rw [hshape])
      rw [List.getElem?_set_self hlt, hindex, Option.map_some, hturn]
    · have hturn : (fun v => scene.turn index (.modify handle action fits) v) = id := by
        funext v
        exact if_neg fun heq => hsame (congrArg VariableHandle.index heq)
      rw [List.getElem?_set_ne hsame, hturn, Option.map_id, id]

/-- **A use changes every variable by its turn and appends what it registers.** -/
theorem accessors_use (scene : Scene) (use : SetUse) :
    (scene.use use).set.accessors =
      scene.set.accessors.mapIdx (fun index v => scene.turn index use v) ++ scene.added use := by
  have hkept (hturn : ∀ index v, scene.turn index use v = v) :
      scene.set.accessors = scene.set.accessors.mapIdx fun index v => scene.turn index use v :=
    (mapIdx_of_kept fun index v _ => hturn index v).symm
  cases use with
  | register accessor =>
    rw [← hkept fun _ _ => rfl]
    show (scene.set.register accessor).2.accessors = _
    rcases scene.set.register_cases accessor with ⟨e, heq⟩ | ⟨new, rfl, -, -, -, heq⟩
    · rw [added, heq]
      exact (List.append_nil _).symm
    · rw [added, heq]
      rfl
  | read =>
    refine ((accessors_read scene.set scene.bank).trans ?_).trans (List.append_nil _).symm
    apply List.ext_getElem?
    intro index
    simp [turn]
  | commit =>
    have hafter : (scene.set.commit scene.bank).2.1.accessors = scene.set.accessors := by
      unfold Dataset.commit
      split <;> rfl
    exact (hafter.trans (hkept fun _ _ => rfl)).trans (List.append_nil _).symm
  | protect | others => exact (hkept fun _ _ => rfl).trans (List.append_nil _).symm
  | modify handle action fits =>
    exact (accessors_modify scene handle action fits).trans (List.append_nil _).symm

/-- Uses concern the variables, the state and the locking of the set, and only one of them switches
the locking on. -/
theorem exists_use (scene : Scene) (use : SetUse) :
    ∃ accessors state lockEach,
      (scene.use use).set = { scene.set with accessors, state, lockEach } ∧
        (use ≠ .protect true → scene.set.lockEach = false → lockEach = false) := by
  have hsame {accessors : List Accessor} {state : SetState}
      (h : (scene.use use).set = { scene.set with accessors, state }) :
      ∃ accessors state lockEach,
        (scene.use use).set = { scene.set with accessors, state, lockEach } ∧
          (use ≠ .protect true → scene.set.lockEach = false → lockEach = false) :=
    ⟨accessors, state, scene.set.lockEach, h, fun _ h => h⟩
  cases use with
  | register accessor =>
    rcases scene.set.register_cases accessor with ⟨e, heq⟩ | ⟨new, rfl, -, -, -, heq⟩
    · exact hsame (congrArg Prod.snd heq)
    · exact hsame (congrArg Prod.snd heq)
  | read =>
    cases hstate : scene.set.state with
    | wasRead =>
      have heq : (scene.set.read scene.bank).2 = scene.set := by simp only [Dataset.read, hstate]
      exact hsame heq
    | idle =>
      cases hlock : scene.set.lockOnce scene.bank with
      | error e =>
        have heq : (scene.set.read scene.bank).2 = scene.set := by
          simp only [Dataset.read, hstate, hlock]
        exact hsame heq
      | ok =>
        have heq : (scene.set.read scene.bank).2 =
            { scene.set with
              accessors := (scene.set.readAll scene.bank).map Prod.snd, state := .wasRead } := by
          simp only [Dataset.read, hstate, hlock]
        exact hsame heq
  | commit =>
    cases hlock : scene.set.lockOnce scene.bank with
    | error e =>
      have heq : (scene.set.commit scene.bank).2.1 = scene.set := by
        simp only [Dataset.commit, hlock]
      exact hsame heq
    | ok =>
      have heq : (scene.set.commit scene.bank).2.1 = { scene.set with state := .idle } := by
        simp only [Dataset.commit, hlock]
      exact hsame heq
  | protect lockEach =>
    refine ⟨scene.set.accessors, scene.set.state, lockEach, rfl, fun hno _ => ?_⟩
    exact Bool.eq_false_iff.mpr fun h => hno (by rw [h])
  | modify handle action fits =>
    have heq := scene.set_modify handle action fits
    unfold Dataset.modify? at heq
    cases hget : scene.set.get? handle with
    | none => exact hsame (heq.trans (by rw [hget]; rfl))
    | some accessor => exact hsame (heq.trans (by rw [hget]; rfl))
  | others change => exact hsame rfl

/-! ## What a use keeps -/

variable {scene : Scene}

theorem getElem?_use {index : Nat} {v : Accessor} (h : scene.set.accessors[index]? = some v)
    (use : SetUse) :
    (scene.use use).set.accessors[index]? = some (scene.turn index use v) := by
  have hlt := (List.getElem?_eq_some_iff.mp h).1
  rw [accessors_use, List.getElem?_append_left (by rwa [List.length_mapIdx]), List.getElem?_mapIdx,
    h, Option.map_some]

theorem fillCount_use (scene : Scene) (use : SetUse) :
    (scene.use use).set.fillCount = scene.set.fillCount + (scene.added use).length := by
  rw [Dataset.fillCount, accessors_use, List.length_append, List.length_mapIdx]
  rfl

/-- The index that is given out is the place of what is registered. -/
theorem range_index? (scene : Scene) (use : SetUse) :
    List.range scene.set.fillCount ++ (scene.index? use).toList =
      List.range (scene.use use).set.fillCount := by
  rw [fillCount_use]
  cases use with
  | register accessor =>
    rcases scene.set.register_cases accessor with ⟨e, heq⟩ | ⟨new, rfl, -, -, -, heq⟩
    · rw [index?, added, heq]
      exact List.append_nil _
    · rw [index?, added, heq]
      exact List.range_succ.symm
  | _ => exact List.append_nil _

/-- A variable is left alone, read by the set, or operated on through its handle. -/
theorem turn_cases (scene : Scene) (index : Nat) (use : SetUse) (v : Accessor) :
    scene.turn index use v = v ∨ scene.turn index use v = (scene.set.outcome scene.bank v).2 ∨
      ∃ action : AccessorAction, action.Fits v.shape ∧
        use.replacement? = action.replacement? ∧
        scene.turn index use v = (v.act scene.bank action).2.1 := by
  cases use with
  | read =>
    simp only [turn]
    split
    · exact .inl rfl
    · exact .inr (.inl rfl)
  | modify handle action fits =>
    simp only [turn]
    split
    next hreached =>
      subst hreached
      exact .inr (.inr ⟨action, fits, rfl, rfl⟩)
    · exact .inl rfl
  | _ => exact .inl rfl

theorem shape_turn (scene : Scene) (index : Nat) (use : SetUse) (v : Accessor) :
    (scene.turn index use v).shape = v.shape := by
  rcases scene.turn_cases index use v with h | h | ⟨action, fits, -, h⟩
  · rw [h]
  · rw [h]
    exact scene.set.shape_outcome scene.bank v
  · rw [h]
    exact v.shape_act scene.bank fits

theorem binding_turn (scene : Scene) (index : Nat) {use : SetUse} (own : use.replacement? = none)
    (v : Accessor) : (scene.turn index use v).binding = v.binding := by
  rcases scene.turn_cases index use v with h | h | ⟨action, -, hown, h⟩
  · rw [h]
  · rw [h]
    exact scene.set.binding_outcome scene.bank v
  · rw [h]
    exact v.binding_act scene.bank (hown.symm.trans own)

/-- A variable keeps its pool, or is replaced by one of the given pool. -/
theorem samePool_turn (scene : Scene) (index : Nat) {use : SetUse} {pool : PoolHandle}
    (stays : use.StaysIn pool) {v : Accessor} (h : v.pool.samePool pool = true) :
    (scene.turn index use v).pool.samePool pool = true := by
  have hkept {w : Accessor} (hbinding : w.binding = v.binding) : w.pool.samePool pool = true := by
    rw [show w.pool = v.pool from congrArg Prod.fst hbinding]
    exact h
  rcases scene.turn_cases index use v with hturn | hturn | ⟨action, -, hown, hturn⟩
  · exact hkept (by rw [hturn])
  · exact hkept (by rw [hturn]; exact scene.set.binding_outcome scene.bank v)
  · rw [hturn]
    cases action with
    | replace new => exact stays.2 new hown
    | _ => exact hkept (v.binding_act scene.bank rfl)

/-- All variables are of the pool of the set, which is locked once. -/
structure OwnPool (scene : Scene) (pool : PoolHandle) : Prop where
  pool_eq : scene.set.pool = pool
  once : scene.set.lockEach = false
  own : ∀ v ∈ scene.set.accessors, v.pool.samePool pool = true

theorem OwnPool.use {pool : PoolHandle} (h : scene.OwnPool pool) {use : SetUse}
    (stays : use.StaysIn pool) : (scene.use use).OwnPool pool := by
  obtain ⟨accessors, state, lockEach, heq, honce⟩ := scene.exists_use use
  refine ⟨by rw [heq]; exact h.pool_eq, by rw [heq]; exact honce stays.1 h.once, fun v hmem => ?_⟩
  rw [accessors_use, List.mem_append] at hmem
  rcases hmem with hold | hnew
  · obtain ⟨index, hlt, rfl⟩ := List.mem_mapIdx.mp hold
    exact samePool_turn scene index stays (h.own _ (List.getElem_mem hlt))
  · cases use with
    | register accessor =>
      rcases scene.set.register_cases accessor with ⟨e, heq⟩ | ⟨new, rfl, -, hown, -, heq⟩
      · rw [added, heq] at hnew
        cases hnew
      · rw [added, heq] at hnew
        obtain rfl := List.mem_singleton.mp hnew
        rw [← h.pool_eq]
        exact hown h.once
    | _ => cases hnew

/-- The set has its capacity and keeps to it. -/
structure Within (scene : Scene) (capacity : Nat) : Prop where
  capacity_eq : scene.set.capacity = capacity
  fillCount_le : scene.set.fillCount ≤ capacity

theorem Within.use {capacity : Nat} (h : scene.Within capacity) (use : SetUse) :
    (scene.use use).Within capacity := by
  obtain ⟨accessors, state, lockEach, heq, -⟩ := scene.exists_use use
  refine ⟨by rw [heq]; exact h.capacity_eq, ?_⟩
  rw [fillCount_use]
  cases use with
  | register accessor =>
    rcases scene.set.register_cases accessor with ⟨e, heq⟩ | ⟨new, rfl, -, -, hroom, heq⟩
    · rw [added, heq]
      exact h.fillCount_le
    · rw [added, heq, ← h.capacity_eq]
      exact hroom
  | _ => exact h.fillCount_le

/-! ## Whole histories -/

theorem getElem?_useAll {index : Nat} {v : Accessor} (h : scene.set.accessors[index]? = some v)
    (uses : List SetUse) :
    (scene.useAll uses).set.accessors[index]? = some (scene.followed index uses v) := by
  induction uses generalizing scene v with
  | nil => exact h
  | cons use rest ih => exact ih (getElem?_use h use)

theorem getElem?_register {v : Accessor} {index : Nat}
    (h : (scene.set.register (some v)).1 = .ok index) :
    (scene.use (.register (some v))).set.accessors[index]? = some v := by
  show (scene.set.register (some v)).2.accessors[index]? = some v
  rcases scene.set.register_cases (some v) with ⟨e, heq⟩ | ⟨new, hnew, -, -, -, heq⟩
  · rw [heq] at h
    cases h
  · cases hnew
    rw [heq] at h ⊢
    cases h
    exact List.getElem?_concat_length

theorem shape_followed (scene : Scene) (index : Nat) (uses : List SetUse) (v : Accessor) :
    (scene.followed index uses v).shape = v.shape := by
  induction uses generalizing scene v with
  | nil => rfl
  | cons use rest ih => exact (ih _ _).trans (scene.shape_turn index use v)

theorem binding_followed (scene : Scene) (index : Nat) {uses : List SetUse}
    (own : ∀ use ∈ uses, use.replacement? = none) (v : Accessor) :
    (scene.followed index uses v).binding = v.binding := by
  induction uses generalizing scene v with
  | nil => rfl
  | cons use rest ih =>
    have hrest : ∀ other ∈ rest, other.replacement? = none := fun other hmem =>
      own other (List.mem_cons_of_mem use hmem)
    exact (ih (scene.use use) hrest _).trans
      (scene.binding_turn index (own use List.mem_cons_self) v)

theorem range_indices (scene : Scene) (uses : List SetUse) :
    List.range scene.set.fillCount ++ scene.indices uses =
      List.range (scene.useAll uses).set.fillCount := by
  induction uses generalizing scene with
  | nil => exact List.append_nil _
  | cons use rest ih =>
    rw [indices, ← List.append_assoc, range_index?]
    exact ih (scene.use use)

theorem fillCount_le_useAll (scene : Scene) (uses : List SetUse) :
    scene.set.fillCount ≤ (scene.useAll uses).set.fillCount := by
  have hstep (next : Scene) (h : scene.set.fillCount ≤ next.set.fillCount) (use : SetUse)
      (_ : use ∈ uses) : scene.set.fillCount ≤ (next.use use).set.fillCount := by
    rw [fillCount_use]
    omega
  exact List.foldlRecOn uses use (Nat.le_refl _) hstep

theorem Within.useAll {capacity : Nat} (h : scene.Within capacity) (uses : List SetUse) :
    (scene.useAll uses).Within capacity := by
  refine List.foldlRecOn (motive := fun next => Scene.Within next capacity) uses _ h ?_
  exact fun next hnext use _ => hnext.use use

theorem OwnPool.useAll {pool : PoolHandle} (h : scene.OwnPool pool) {uses : List SetUse}
    (stays : ∀ use ∈ uses, use.StaysIn pool) : (scene.useAll uses).OwnPool pool := by
  refine List.foldlRecOn (motive := fun next => Scene.OwnPool next pool) uses _ h ?_
  exact fun next hnext use hmem => hnext.use (stays use hmem)

/-- The state depends on the last read or commit that was not refused. -/
theorem state_useAll (scene : Scene) (uses : List SetUse) :
    (scene.useAll uses).set.state =
      ((scene.trace (scene.events uses)).filterMap Moment.transition?).getLast?.getD
        scene.set.state := by
  rw [← run_events]
  exact scene.state_run (scene.events uses)

end Scene

/-! ## Handles and variables -/

/-- What holds of a new set of a pool, however it is used. -/
structure Scene.KeepsVariables (new : Scene) (pool : PoolHandle) (capacity : Nat) : Prop where
  fillCount_le : ∀ uses, (new.useAll uses).set.fillCount ≤ capacity
  /-- The indices are given out one after the other. -/
  indices_eq : ∀ uses, new.indices uses = List.range (new.useAll uses).set.fillCount
  fillCount_mono : ∀ uses more,
    (new.useAll uses).set.fillCount ≤ (new.useAll (uses ++ more)).set.fillCount
  /-- From its registration on a variable is found under its index and its shape, with what the set
  and its users have made of it, and it is bound to the same entry unless it is replaced. -/
  reached : ∀ uses v index, ((new.useAll uses).set.register (some v)).1 = .ok index → ∀ more,
    let registered := (new.useAll uses).use (.register (some v))
    let set := (registered.useAll more).set
    let after := registered.followed index more v
    set.get? ⟨index, v.shape⟩ = some after ∧
      (∀ change, set.modify? ⟨index, v.shape⟩ change =
        some (set.putVariable index (change after))) ∧
      ((∀ use ∈ more, use.replacement? = none) → after.binding = v.binding)
  /-- Without the switch to separate locks and without replacements by others. -/
  own_pool : ∀ uses, (∀ use ∈ uses, use.StaysIn pool) →
    ∀ v ∈ (new.useAll uses).set.accessors, v.pool.samePool pool = true
  /-- The set counts as read if its last read or commit that was not refused is a read. -/
  uninitialised_iff : ∀ uses v,
    ((new.useAll uses).set.register v).1 = .error .dataSetUninitialised ↔
      ((new.trace (new.events uses)).filterMap Moment.transition?).getLast? = some .wasRead

/-- What handles find in a set, and what a registration does to it. -/
structure Dataset.HandlesExactly (set : Dataset) : Prop where
  get?_iff : ∀ handle v, set.get? handle = some v ↔ ∃ h : handle.index < set.fillCount,
    set.accessors.get ⟨handle.index, h⟩ = v ∧ v.shape = handle.shape
  isSome_modify? : ∀ handle change, (set.modify? handle change).isSome = (set.get? handle).isSome
  others_stay : ∀ handle change next, set.modify? handle change = some next →
    ∀ index, index ≠ handle.index → next.accessors[index]? = set.accessors[index]?
  /-- A registration is rejected for the first of its faults and leaves the set alone. -/
  register_eq : ∀ v, set.register v =
    match (set.faults v).find? Prod.fst with
    | some fault => (.error fault.2, set)
    | none => (.ok set.fillCount, { set with accessors := set.accessors ++ v.toList })

theorem Dataset.handlesExactly (set : Dataset) : set.HandlesExactly where
  get?_iff _ _ := Dataset.get?_eq_some_get_iff
  isSome_modify? _ change := Dataset.isSome_modify? change
  others_stay _ _ _ h _ other := Dataset.getElem?_of_modify? h other
  register_eq v := set.register_eq v

/-- **A handle reaches the variable it was given out for**, whatever else is done with the set.
However a new set is used, it keeps to its capacity, loses no variable, and finds each of them with
the handle of its registration. In any set, a handle finds what is at its index if that is of its
shape, and changes nothing else. -/
theorem handles_keep_variables (pool : PoolHandle) (sid : Sid) (capacity : Nat)
    (timer : Option CollectionTimer) (bank : PoolBank) :
    Scene.KeepsVariables ⟨{ Dataset.consumer pool sid capacity with timer }, bank⟩ pool capacity ∧
      ∀ set : Dataset, set.HandlesExactly := by
  refine ⟨?_, Dataset.handlesExactly⟩
  let new : Scene := ⟨{ Dataset.consumer pool sid capacity with timer }, bank⟩
  have hwithin : new.Within capacity := ⟨rfl, Nat.zero_le _⟩
  have hown : new.OwnPool pool := ⟨rfl, rfl, fun v hmem => by cases hmem⟩
  refine ⟨fun uses => (hwithin.useAll uses).fillCount_le, new.range_indices, fun uses more => ?_,
    fun uses v index hok more => ?_, fun uses stays => (hown.useAll stays).own, fun uses v => ?_⟩
  · rw [Scene.useAll, Scene.useAll, List.foldl_append]
    exact Scene.fillCount_le_useAll _ more
  · intro registered set after
    have hget : set.get? ⟨index, v.shape⟩ = some after :=
      Dataset.get?_eq_some_iff.mpr
        ⟨Scene.getElem?_useAll (Scene.getElem?_register hok) more, Scene.shape_followed ..⟩
    refine ⟨hget, fun change => ?_, fun own => Scene.binding_followed registered index own v⟩
    rw [Dataset.modify?, hget]
    rfl
  · have hidle : new.set.state = .idle := rfl
    rw [Dataset.register_eq_uninitialised_iff, Scene.state_useAll, hidle]
    cases ((new.trace (new.events uses)).filterMap Moment.transition?).getLast? <;> simp

/-- The second of two variables has to wait for the commit. Its handle still finds it after a read
and a change of the first one. -/
theorem secondHandle_keeps_variable :
    let pool := (PoolBank.empty.add 7 .polling).1
    let set : Dataset := { Dataset.consumer pool ⟨7, 1⟩ 2 with timer := some .new }
    let new : Scene := ⟨set, (PoolBank.empty.add 7 .polling).2⟩
    let v := Accessor.scalar pool 1 .readWrite .u8
    let uses : List SetUse := [.register (some v), .read, .register (some v), .commit]
    let more : List SetUse := [.read, .modify ⟨0, v.shape⟩ (.setValues .u8 [5]) trivial]
    ((new.useAll uses).set.register (some v)).1 = .ok 1 ∧
      ∃ after, (((new.useAll uses).use (.register (some v))).useAll more).set.get? ⟨1, v.shape⟩ =
        some after ∧ after.binding = v.binding := by
  intro pool set new v uses more
  have hfaults : ((new.useAll uses).set.faults (some v)).find? Prod.fst = none := by
    decide +kernel
  have hcount : (new.useAll uses).set.fillCount = 1 := by decide +kernel
  have hok : ((new.useAll uses).set.register (some v)).1 = .ok 1 := by
    rw [Dataset.register_eq, hfaults, hcount]
  obtain ⟨hget, -, hbinding⟩ :=
    (handles_keep_variables pool ⟨7, 1⟩ 2 (some .new) new.bank).1.reached uses v 1 hok more
  refine ⟨hok, _, hget, hbinding fun use hmem => ?_⟩
  simp only [more, List.mem_cons, List.not_mem_nil, or_false] at hmem
  obtain rfl | rfl := hmem
  · rfl
  · rfl

end Housekeeper
