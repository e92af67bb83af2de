import Housekeeper.Proofs.Confinement

/-!
# Reads and commits that time out

A data set is used while others take and release the mutexes of the pools and write to them. A read
or a commit of the set that could not lock its pool has done nothing at all
(`Moment.after_of_timedOut`), so that the events without it are the same history
(`Scene.timeouts_invisible`): every other call finds the same set and the same pools.

This is about a set that locks its pool once (`Moment.timedOut_iff`). A commit together with a
validity is no such commit, since the validity is set before the pool is locked
(`Dataset.commitWithValidity_of_lockTimeout`).
-/

namespace Housekeeper

/-- A data set and the pools. -/
structure Scene where
  set : Dataset
  bank : PoolBank

inductive SceneEvent where
  | call (action : SetAction)
  /-- Others take or release a mutex, or write to a pool. -/
  | others (change : PoolBank → PoolBank)

/-- An event and what it finds. -/
structure Moment where
  before : Scene
  event : SceneEvent

namespace Scene

/-- The result of an event, and what it leaves. -/
def step (scene : Scene) : SceneEvent → Except PoolError Unit × Scene
  | .call action =>
    let (result, set, bank) := scene.set.act scene.bank action
    (result, ⟨set, bank⟩)
  | .others change => (.ok (), ⟨scene.set, change scene.bank⟩)

/-- All that happens, one after the other. -/
def trace (scene : Scene) : List SceneEvent → List Moment
  | [] => []
  | event :: rest => ⟨scene, event⟩ :: trace (scene.step event).2 rest

def run (scene : Scene) (events : List SceneEvent) : Scene :=
  events.foldl (fun scene event => (scene.step event).2) scene

end Scene

namespace Moment

def result (moment : Moment) : Except PoolError Unit := (moment.before.step moment.event).1

def after (moment : Moment) : Scene := (moment.before.step moment.event).2

/-- A read or a commit of the set could not lock its pool. -/
def timedOut (moment : Moment) : Bool :=
  match moment.event, moment.result with
  | .call .read, .error .lockTimeout => true
  | .call .commit, .error .lockTimeout => true
  | _, _ => false

end Moment

/-! ## One call -/

namespace Dataset

variable {set : Dataset} {bank : PoolBank}

theorem lockOnce_cases (set : Dataset) (bank : PoolBank) :
    set.lockOnce bank = .ok () ∨ set.lockOnce bank = .error .lockTimeout := by
  unfold lockOnce PoolBank.lock
  split
  · exact .inl rfl
  · split
    · exact .inl rfl
    · exact .inr rfl

theorem lockOnce_eq_timeout_iff :
    set.lockOnce bank = .error .lockTimeout ↔
      set.lockEach = false ∧ bank.lock set.pool = .error .lockTimeout := by
  unfold lockOnce
  cases set.lockEach with
  | true => simp
  | false => cases bank.lock set.pool <;> simp [Except.map]

/-- A read times out before it reads anything. -/
theorem read_eq_timeout_iff :
    (set.read bank).1 = .error .lockTimeout ↔
      set.state = .idle ∧ set.lockOnce bank = .error .lockTimeout := by
  unfold read
  cases set.state with
  | wasRead => simp
  | idle =>
    rcases set.lockOnce_cases bank with h | h
    · simp only [h]
      split <;> simp
    · simp [h]

theorem read_of_lockTimeout (h : (set.read bank).1 = .error .lockTimeout) :
    (set.read bank).2 = set := by
  obtain ⟨hidle, hlock⟩ := read_eq_timeout_iff.mp h
  simp only [read, hidle, hlock]

theorem commit_eq_timeout_iff :
    (set.commit bank).1 = .error .lockTimeout ↔ set.lockOnce bank = .error .lockTimeout := by
  unfold commit commitResult
  rcases set.lockOnce_cases bank with h | h
  · simp only [h]
    split
    · simp
    · split <;> simp
  · simp [h]

theorem commit_of_lockTimeout (h : (set.commit bank).1 = .error .lockTimeout) :
    (set.commit bank).2 = (set, bank) := by
  have hlock := commit_eq_timeout_iff.mp h
  simp only [commit, hlock]

/-- The validity stays when the commit that comes with it times out. -/
theorem commitWithValidity_of_lockTimeout {valid : Bool}
    (h : (set.act bank (.commitWithValidity valid)).1 = .error .lockTimeout) :
    (set.act bank (.commitWithValidity valid)).2 = (set.withValidityOfAll valid, bank) :=
  commit_of_lockTimeout h

end Dataset

namespace Moment

theorem timedOut_eq_true {moment : Moment} :
    moment.timedOut = true ↔
      (moment.event = .call .read ∨ moment.event = .call .commit) ∧
        moment.result = .error .lockTimeout := by
  unfold timedOut
  split
  next hevent hresult => simp [hevent, hresult]
  next hevent hresult => simp [hevent, hresult]
  next hread hcommit =>
    constructor
    · intro h
      cases h
    · rintro ⟨hevent | hevent, hresult⟩
      · exact absurd hresult (hread hevent)
      · exact absurd hresult (hcommit hevent)

/-- What times out is a read of an idle set or a commit, where the set locks its pool once and
somebody else holds the mutex. -/
theorem timedOut_iff {moment : Moment} :
    moment.timedOut = true ↔
      (moment.event = .call .read ∧ moment.before.set.state = .idle ∨
          moment.event = .call .commit) ∧
        moment.before.set.lockEach = false ∧
        moment.before.bank.lock moment.before.set.pool = .error .lockTimeout := by
  obtain ⟨⟨set, bank⟩, event⟩ := moment
  rw [timedOut_eq_true, ← Dataset.lockOnce_eq_timeout_iff]
  constructor
  · rintro ⟨hevent | hevent, hresult⟩
    · cases hevent
      obtain ⟨hidle, hlock⟩ := Dataset.read_eq_timeout_iff.mp hresult
      exact ⟨.inl ⟨rfl, hidle⟩, hlock⟩
    · cases hevent
      exact ⟨.inr rfl, Dataset.commit_eq_timeout_iff.mp hresult⟩
  · rintro ⟨⟨hevent, hidle⟩ | hevent, hlock⟩
    · cases hevent
      exact ⟨.inl rfl, Dataset.read_eq_timeout_iff.mpr ⟨hidle, hlock⟩⟩
    · cases hevent
      exact ⟨.inr rfl, Dataset.commit_eq_timeout_iff.mpr hlock⟩

theorem after_of_timedOut {moment : Moment} (h : moment.timedOut = true) :
    moment.after = moment.before := by
  obtain ⟨⟨set, bank⟩, event⟩ := moment
  obtain ⟨hevent | hevent, hresult⟩ := timedOut_eq_true.mp h
  · cases hevent
    exact congrArg (fun after => Scene.mk after bank) (Dataset.read_of_lockTimeout hresult)
  · cases hevent
    exact congrArg (fun after => Scene.mk after.1 after.2) (Dataset.commit_of_lockTimeout hresult)

end Moment

/-! ## A whole history -/

namespace Scene

/-- The events but for the reads and commits that time out. -/
def survivors (scene : Scene) (events : List SceneEvent) : List SceneEvent :=
  ((scene.trace events).filter fun moment => !moment.timedOut).map Moment.event

variable {scene : Scene} {event : SceneEvent}

theorem survivors_of_timedOut (h : (Moment.mk scene event).timedOut = true)
    (rest : List SceneEvent) : scene.survivors (event :: rest) = scene.survivors rest := by
  have hafter : (scene.step event).2 = scene := Moment.after_of_timedOut h
  rw [survivors, trace, List.filter_cons_of_neg (by simp [h]), hafter, survivors]

theorem survivors_of_not_timedOut (h : (Moment.mk scene event).timedOut = false)
    (rest : List SceneEvent) :
    scene.survivors (event :: rest) = event :: (scene.step event).2.survivors rest := by
  rw [survivors, trace, List.filter_cons_of_pos (by simp [h]), List.map_cons, survivors]

/-- What is left finds everything as before. -/
theorem trace_survivors (scene : Scene) (events : List SceneEvent) :
    scene.trace (scene.survivors events) =
      (scene.trace events).filter fun moment => !moment.timedOut := by
  induction events generalizing scene with
  | nil => rfl
  | cons event rest ih =>
    cases h : (Moment.mk scene event).timedOut with
    | true =>
      have hafter : (scene.step event).2 = scene := Moment.after_of_timedOut h
      rw [survivors_of_timedOut h, ih, trace, List.filter_cons_of_neg (by simp [h]), hafter]
    | false =>
      rw [survivors_of_not_timedOut h, trace, trace, ih, List.filter_cons_of_pos (by simp [h])]

theorem run_survivors (scene : Scene) (events : List SceneEvent) :
    scene.run (scene.survivors events) = scene.run events := by
  induction events generalizing scene with
  | nil => rfl
  | cons event rest ih =>
    cases h : (Moment.mk scene event).timedOut with
    | true =>
      have hafter : (scene.step event).2 = scene := Moment.after_of_timedOut h
      rw [survivors_of_timedOut h, ih, run, run, List.foldl_cons, hafter]
    | false =>
      rw [survivors_of_not_timedOut h, run, run, List.foldl_cons, List.foldl_cons]
      exact ih (scene.step event).2

/-- **Reads and commits that time out are invisible.** They leave the set and the pools as they
are, and without them all other events find the same, have the same results and leave the same. -/
theorem timeouts_invisible (scene : Scene) (events : List SceneEvent) :
    let visible := fun moment : Moment => !moment.timedOut
    (∀ moment ∈ scene.trace events,
      (moment.timedOut = true ↔
        (moment.event = .call .read ∨ moment.event = .call .commit) ∧
          moment.result = .error .lockTimeout) ∧
      (moment.timedOut = true → moment.after = moment.before)) ∧
      scene.trace (scene.survivors events) = (scene.trace events).filter visible ∧
      (scene.trace (scene.survivors events)).map Moment.result =
        ((scene.trace events).filter visible).map Moment.result ∧
      scene.run (scene.survivors events) = scene.run events := by
  refine ⟨fun moment _ => ⟨Moment.timedOut_eq_true, Moment.after_of_timedOut⟩,
    scene.trace_survivors events, ?_, scene.run_survivors events⟩
  rw [trace_survivors]

end Scene

end Housekeeper
