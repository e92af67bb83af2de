import Housekeeper.Proofs.Confinement
import Housekeeper.Proofs.History

/-!
# What housekeeping leaves alone

`HkState.watch` goes through passes and messages of a manager, whatever the services make of them,
and `Owner.Observed` compares the data of the owner before and after. Of a data set there are only
three things that can be different, and each has its cause among what happened
(`SetObserved`): the changed flag was cleared in a pass, and the manager accepted a command about
this very set that switched its reports or set its collection interval. Of a variable it is the
changed flag alone (`AccessorObserved`).

The pools stay as they are, and so does the manager, but for the number of update subscriptions
that have yet to see a change (`HkState.housekeeping_observes`).
-/

namespace Housekeeper

/-! ## Lists in which one element changes -/

theorem getElem?_updateFirst {α : Type} (p : α → Bool) (change : α → α) (xs : List α)
    (place : Nat) :
    (updateFirst p change xs)[place]? =
      if xs.findIdx? p = some place then xs[place]?.map change else xs[place]? := by
  induction xs generalizing place with
  | nil => rfl
  | cons x rest ih =>
    rw [updateFirst, List.findIdx?_cons]
    by_cases hp : p x
    · cases place <;> simp [hp]
    · cases place with
      | zero => simp [hp]
      | succ place => simp [hp, ih]

/-- The elements of two lists, place by place. -/
def Alongside {α : Type} (R : Nat → α → α → Prop) (before after : List α) : Prop :=
  ∀ place, Option.Rel (R place) before[place]? after[place]?

namespace Alongside

variable {α : Type} {R S : Nat → α → α → Prop} {xs ys zs : List α}

theorem refl (h : ∀ place x, R place x x) (xs : List α) : Alongside R xs xs :=
  fun place => rel_refl (h place) _

theorem trans (h : ∀ place x y z, R place x y → R place y z → R place x z)
    (hxy : Alongside R xs ys) (hyz : Alongside R ys zs) : Alongside R xs zs :=
  fun place => rel_trans (h place) (hxy place) (hyz place)

theorem mono (h : ∀ place x y, R place x y → S place x y) (hxy : Alongside R xs ys) :
    Alongside S xs ys :=
  fun place => rel_mono (h place) (hxy place)

theorem updateFirst {p : α → Bool} {change : α → α} (hrefl : ∀ place x, R place x x)
    (h : ∀ place x, xs.find? p = some x → xs.findIdx? p = some place → R place x (change x)) :
    Alongside R xs (updateFirst p change xs) := by
  intro place
  rw [getElem?_updateFirst]
  split
  next hplace =>
    cases hx : xs[place]? with
    | none => exact .none
    | some x =>
      have hfind : xs.find? p = some x := by
        rw [List.find?_eq_bind_findIdx?_getElem?, hplace, Option.bind_some, hx]
      exact .some (h place x hfind hplace)
  next => exact refl hrefl xs place

theorem exists_of_mem (hxy : Alongside R xs ys) {y : α} (h : y ∈ ys) :
    ∃ place x, x ∈ xs ∧ R place x y := by
  obtain ⟨place, hy⟩ := List.mem_iff_getElem?.mp h
  have hplace := hxy place
  rw [hy] at hplace
  cases hx : xs[place]? with
  | none => rw [hx] at hplace; cases hplace
  | some x =>
    rw [hx] at hplace
    cases hplace with
    | some hR => exact ⟨place, x, List.mem_of_getElem? hx, hR⟩

/-- What is the same of each element is the same of the lists. -/
theorem map_eq {β : Type} {f : α → β} (h : ∀ place x y, R place x y → f y = f x)
    (hxy : Alongside R xs ys) : ys.map f = xs.map f := by
  refine List.ext_getElem? fun place => ?_
  rw [List.getElem?_map, List.getElem?_map]
  have hplace := hxy place
  generalize xs[place]? = before at hplace
  generalize ys[place]? = after at hplace
  cases hplace with
  | none => rfl
  | some hR => rw [Option.map_some, Option.map_some, h place _ _ hR]

end Alongside

/-! ## Calls -/

/-- What a manager does once it is set up. -/
inductive HkCall (σ : Type) where
  | pass (clock : Nat → CdsTime)
  | handle (message : CommandMessage)
  /-- Others use the services, and the owner makes up its mind about snapshots. -/
  | meanwhile (services : σ) (keeps : ChangeNotice → Bool)

/-- A call and what it finds. -/
structure HkMoment (σ : Type) where
  state : HkState σ
  call : HkCall σ

namespace HkState

variable {σ : Type}

/-- The state after a call, and the pools. -/
def perform (services : Services σ) (state : HkState σ) (bank : PoolBank) :
    HkCall σ → HkState σ × PoolBank
  | .pass clock => state.act services bank (.pass clock)
  | .handle message => state.act services bank (.handle message)
  | .meanwhile after keeps => (⟨state.manager, { state.owner with keeps }, after⟩, bank)

/-- All that happens, and the state and the pools after it. -/
def watch (services : Services σ) (state : HkState σ) (bank : PoolBank) :
    List (HkCall σ) → List (HkMoment σ) × HkState σ × PoolBank
  | [] => ([], state, bank)
  | call :: rest =>
    let next := state.perform services bank call
    let later := watch services next.1 next.2 rest
    (⟨state, call⟩ :: later.1, later.2)

end HkState

namespace HkMoment

variable {σ : Type}

def IsPass (moment : HkMoment σ) : Prop := ∃ clock, moment.call = .pass clock

/-- The manager accepts a command about the set that the owner exposes under the id, which is the
first one and stands in this place. -/
def Accepts (services : Services σ) (moment : HkMoment σ) (place : Nat) (sid : Sid)
    (command : Command) : Prop :=
  ∃ message, moment.call = .handle message ∧ message.command = command ∧
    (moment.state.handle services message).1 = .ok () ∧
    moment.state.owner.sets.findIdx? (fun exposed => exposed.1 == sid) = some place

end HkMoment

/-! ## What may be different -/

/-- The flag is as it was, or it was cleared for a reason. -/
def Falls (reason : Prop) (before after : Bool) : Prop :=
  after = before ∨ before = true ∧ after = false ∧ reason

namespace Falls

variable {reason other : Prop} {a b c : Bool}

theorem trans (hab : Falls reason a b) (hbc : Falls reason b c) : Falls reason a c := by
  rcases hab with rfl | ⟨ha, hb, hreason⟩
  · exact hbc
  · rcases hbc with rfl | ⟨hb', -⟩
    · exact .inr ⟨ha, hb, hreason⟩
    · rw [hb] at hb'
      cases hb'

theorem mono (h : reason → other) (hab : Falls reason a b) : Falls other a b :=
  hab.imp_right fun ⟨ha, hb, hreason⟩ => ⟨ha, hb, h hreason⟩

end Falls

namespace Dataset

/-- The set but for its changed flag, and for whether and when it is reported. -/
def core (set : Dataset) : Dataset :=
  { set with changed := false, reporting := false, timer := none }

/-- The timer, wherever its count is. -/
def schedule (set : Dataset) : Option CollectionTimer :=
  set.timer.map fun timer => { timer with counter := 0 }

end Dataset

/-- What may become of the set that an owner exposes in this place. -/
structure SetObserved {σ : Type} (services : Services σ) (moments : List (HkMoment σ))
    (place : Nat) (before after : Sid × Dataset) : Prop where
  sid_eq : after.1 = before.1
  core_eq : after.2.core = before.2.core
  changed : Falls (∃ moment ∈ moments, moment.IsPass) before.2.changed after.2.changed
  reporting : after.2.reporting = before.2.reporting ∨
    ∃ moment ∈ moments, moment.Accepts services place before.1
      (.setReporting before.2.kind after.2.reporting before.1)
  schedule : after.2.schedule = before.2.schedule ∨
    ∃ moment ∈ moments, ∃ seconds,
      moment.Accepts services place before.1 (.setInterval before.2.kind before.1 seconds) ∧
        after.2.schedule = before.2.schedule.map fun timer => timer.setInterval seconds

namespace SetObserved

variable {σ : Type} {services : Services σ} {moments later : List (HkMoment σ)} {place : Nat}
  {a b c : Sid × Dataset}

theorem refl (a : Sid × Dataset) : SetObserved services moments place a a :=
  ⟨rfl, rfl, .inl rfl, .inl rfl, .inl rfl⟩

theorem kind_eq (h : SetObserved services moments place a b) : b.2.kind = a.2.kind := by
  have hkind : b.2.core.kind = a.2.core.kind := congrArg Dataset.kind h.core_eq
  exact hkind

theorem trans (hab : SetObserved services moments place a b)
    (hbc : SetObserved services moments place b c) : SetObserved services moments place a c where
  sid_eq := hbc.sid_eq.trans hab.sid_eq
  core_eq := hbc.core_eq.trans hab.core_eq
  changed := hab.changed.trans hbc.changed
  reporting := by
    rcases hbc.reporting with hsame | haccepted
    · rw [hsame]
      exact hab.reporting
    · rw [hab.sid_eq, hab.kind_eq] at haccepted
      exact .inr haccepted
  schedule := by
    rcases hbc.schedule with hsame | ⟨moment, hmem, seconds, haccepted, hset⟩
    · rw [hsame]
      exact hab.schedule
    · rw [hab.sid_eq, hab.kind_eq] at haccepted
      refine .inr ⟨moment, hmem, seconds, haccepted, ?_⟩
      rcases hab.schedule with hsame | ⟨-, -, earlier, -, hearlier⟩
      · rw [hset, hsame]
      · -- the ticks of an interval do not depend on the interval before
        rw [hset, hearlier, Option.map_map]
        rfl

theorem mono (hsub : ∀ moment ∈ moments, moment ∈ later)
    (h : SetObserved services moments place a b) : SetObserved services later place a b where
  sid_eq := h.sid_eq
  core_eq := h.core_eq
  changed := h.changed.mono fun ⟨moment, hmem, hpass⟩ => ⟨moment, hsub moment hmem, hpass⟩
  reporting := h.reporting.imp_right fun ⟨moment, hmem, haccepted⟩ =>
    ⟨moment, hsub moment hmem, haccepted⟩
  schedule := h.schedule.imp_right fun ⟨moment, hmem, haccepted⟩ =>
    ⟨moment, hsub moment hmem, haccepted⟩

end SetObserved

/-- What may become of a variable. -/
structure AccessorObserved {σ : Type} (moments : List (HkMoment σ))
    (before after : LocalPoolId × Accessor) : Prop where
  id_eq : after.1 = before.1
  core_eq : after.2.withChanged false = before.2.withChanged false
  changed : Falls (∃ moment ∈ moments, moment.IsPass) before.2.changed after.2.changed

namespace AccessorObserved

variable {σ : Type} {moments later : List (HkMoment σ)} {a b c : LocalPoolId × Accessor}

theorem refl (a : LocalPoolId × Accessor) : AccessorObserved moments a a := ⟨rfl, rfl, .inl rfl⟩

theorem trans (hab : AccessorObserved moments a b) (hbc : AccessorObserved moments b c) :
    AccessorObserved moments a c :=
  ⟨hbc.id_eq.trans hab.id_eq, hbc.core_eq.trans hab.core_eq, hab.changed.trans hbc.changed⟩

theorem mono (hsub : ∀ moment ∈ moments, moment ∈ later) (h : AccessorObserved moments a b) :
    AccessorObserved later a b :=
  ⟨h.id_eq, h.core_eq,
    h.changed.mono fun ⟨moment, hmem, hpass⟩ => ⟨moment, hsub moment hmem, hpass⟩⟩

end AccessorObserved

namespace Owner

/-- What may become of the data of an owner. -/
structure Observed {σ : Type} (services : Services σ) (moments : List (HkMoment σ))
    (before after : Owner) : Prop where
  period_eq : after.period = before.period
  sets : Alongside (SetObserved services moments) before.sets after.sets
  accessors : Alongside (fun _ => AccessorObserved moments) before.accessors after.accessors

namespace Observed

variable {σ : Type} {services : Services σ} {moments later : List (HkMoment σ)} {a b c : Owner}

/-- What the owner was told and what it keeps is none of its data. -/
theorem of_same (hperiod : b.period = a.period) (hsets : b.sets = a.sets)
    (haccessors : b.accessors = a.accessors) : Observed services moments a b where
  period_eq := hperiod
  sets := hsets ▸ .refl (fun _ => SetObserved.refl) _
  accessors := haccessors ▸ .refl (fun _ => AccessorObserved.refl) _

theorem refl (a : Owner) : Observed services moments a a := of_same rfl rfl rfl

theorem trans (hab : Observed services moments a b) (hbc : Observed services moments b c) :
    Observed services moments a c :=
  ⟨hbc.period_eq.trans hab.period_eq, hab.sets.trans (fun _ _ _ _ => SetObserved.trans) hbc.sets,
    hab.accessors.trans (fun _ _ _ _ => AccessorObserved.trans) hbc.accessors⟩

theorem mono (hsub : ∀ moment ∈ moments, moment ∈ later) (h : Observed services moments a b) :
    Observed services later a b :=
  ⟨h.period_eq, h.sets.mono fun _ _ _ => SetObserved.mono hsub,
    h.accessors.mono fun _ _ _ => AccessorObserved.mono hsub⟩

/-- One set was changed, the first of this id. -/
theorem modifySet {owner : Owner} {sid : Sid} {change : Dataset → Dataset}
    (h : ∀ place set, owner.set? sid = some set →
      owner.sets.findIdx? (fun exposed => exposed.1 == sid) = some place →
      SetObserved services moments place (sid, set) (sid, change set)) :
    Observed services moments owner (owner.modifySet sid change) := by
  refine ⟨rfl, .updateFirst (fun _ => SetObserved.refl) ?_,
    .refl (fun _ => AccessorObserved.refl) _⟩
  rintro place ⟨own, set⟩ hfind hplace
  have hown : own = sid := by simpa using List.find?_some hfind
  subst hown
  have hset : owner.set? own = some set := by rw [Owner.set?, hfind]; rfl
  exact h place set hset hplace

/-- The changed flag was cleared when the last subscription was served. -/
theorem clearChanged (passed : ∃ moment ∈ moments, moment.IsPass) {owner : Owner} {id : DataId}
    {data : OwnedData} (hdata : owner.getData id = .ok data) (hchanged : data.changed = true) :
    Observed services moments owner (owner.clearChanged id) := by
  cases id with
  | ofSet sid =>
    show Observed _ _ owner (owner.modifySet sid fun set => set.withChanged false)
    refine modifySet fun place set hset _ => ?_
    have hget : owner.getData (.ofSet sid) = .ok (.ofSet sid set) := by
      simp only [getData, getSet, hset, Except.map]
    rw [hget] at hdata
    cases hdata
    exact ⟨rfl, rfl, .inr ⟨hchanged, rfl, passed⟩, .inl rfl, .inl rfl⟩
  | ofVariable id =>
    refine ⟨rfl, .refl (fun _ => SetObserved.refl) _,
      .updateFirst (fun _ => AccessorObserved.refl) ?_⟩
    rintro place ⟨own, accessor⟩ hfind _
    have hget : owner.getData (.ofVariable id) = .ok (.ofVariable id accessor) := by
      simp only [getData, getVariable, variableOf?, hfind, Option.map, Except.map]
    rw [hget] at hdata
    cases hdata
    exact ⟨rfl, rfl, .inr ⟨hchanged, rfl, passed⟩⟩

end Observed

end Owner

/-! ## One call -/

namespace HkState

variable {σ : Type} (services : Services σ)

theorem servePeriodic_observed (moments : List (HkMoment σ)) (sid : Sid) (destination : QueueId)
    (state : HkState σ) :
    state.owner.Observed services moments
      (state.servePeriodic services sid destination).2.owner := by
  cases hget : state.owner.getSet sid with
  | error e =>
    simp only [servePeriodic, hget]
    exact .refl _
  | ok set =>
    have htimer (timer : CollectionTimer) (h : set.timer = some timer) :
        state.owner.Observed services moments
          (state.owner.modifySet sid fun set => set.withTimer timer.check.2) := by
      refine .modifySet fun place found hfound _ => ⟨rfl, rfl, .inl rfl, .inl rfl, .inl ?_⟩
      obtain rfl := Option.some.inj (hfound.symm.trans (Owner.set?_of_getSet hget))
      simp only [Dataset.schedule, Dataset.withTimer, h, Option.map_some, CollectionTimer.check]
      split <;> rfl
    simp only [servePeriodic, hget]
    split
    · exact .refl _
    · split
      · exact .refl _
      next timer hown =>
        split
        · exact htimer timer hown
        · exact htimer timer hown

theorem serve_observed {moments : List (HkMoment σ)}
    (passed : ∃ moment ∈ moments, moment.IsPass) (now : CdsTime) (receiver : Receiver)
    (state : HkState σ) :
    state.owner.Observed services moments (state.serve services now receiver).2.owner := by
  by_cases hu : receiver.delivery.isUpdate
  · rw [serve_of_isUpdate hu]
    cases hdata : state.owner.getData receiver.delivery.data with
    | error e => rw [serveUpdate_of_error hdata]; exact .refl _
    | ok data =>
      cases hchanged : data.changed with
      | false => rw [serveUpdate_of_unchanged hdata hchanged]; exact .refl _
      | true =>
        rw [serveUpdate_of_changed hdata hchanged]
        dsimp only
        split
        · exact .clearChanged passed hdata hchanged
        · exact .refl _
  · cases hdelivery : receiver.delivery with
    | periodicPacket sid =>
      simp only [serve, hdelivery]
      exact servePeriodic_observed services moments sid receiver.destination state
    | _ => simp [hdelivery, Delivery.isUpdate] at hu

theorem serveAll_observed {moments : List (HkMoment σ)}
    (passed : ∃ moment ∈ moments, moment.IsPass) (clock : Nat → CdsTime)
    (receivers : List Receiver) (status : Except PoolError Unit) (state : HkState σ) :
    state.owner.Observed services moments
      (serveAll services clock receivers status state).2.owner := by
  induction receivers generalizing clock status state with
  | nil => exact .refl _
  | cons receiver rest ih =>
    have hserve := serve_observed services passed (clock 0) receiver state
    unfold serveAll
    dsimp only
    split
    next next hs => rw [hs] at hserve; exact hserve.trans (ih _ status next)
    next e next hs => rw [hs] at hserve; exact hserve.trans (ih _ (.error e) next)

theorem pass_observed (state : HkState σ) (clock : Nat → CdsTime) :
    state.owner.Observed services [⟨state, .pass clock⟩] (state.pass services clock).2.owner :=
  serveAll_observed services ⟨_, List.mem_singleton_self _, clock, rfl⟩ clock _ _ state

theorem forward_observed (moments : List (HkMoment σ)) (message : CommandMessage)
    (notice : ChangeNotice) (state : HkState σ) :
    state.owner.Observed services moments (state.forward services message notice).2.owner := by
  unfold forward
  split <;> exact .of_same rfl rfl rfl

theorem applyChange_observed {moments : List (HkMoment σ)} {change : Except PoolError Owner}
    (message : CommandMessage) (sid : Sid) {state : HkState σ}
    (h : ∀ owner, change = .ok owner → state.owner.Observed services moments owner) :
    state.owner.Observed services moments
      (state.applyChange services message sid change).2.owner := by
  cases change with
  | error e => exact .refl _
  | ok owner => exact h owner rfl

/-- A message changes a set only as far as the command in it is accepted. -/
theorem handle_observed (state : HkState σ) (message : CommandMessage) :
    state.owner.Observed services [⟨state, .handle message⟩]
      (state.handle services message).2.owner := by
  obtain ⟨sender, command⟩ := message
  cases command with
  | setReporting kind enabled sid =>
    refine applyChange_observed services _ _ fun owner hchange => ?_
    have hok : (state.handle services ⟨sender, .setReporting kind enabled sid⟩).1 = .ok () := by
      simp only [handle, applyChange_result, hchange, Except.map]
    obtain ⟨⟨set, hset, rfl⟩, rfl⟩ := Owner.setReporting_eq_ok hchange
    refine .modifySet fun place found hfound hplace => ?_
    obtain rfl := Option.some.inj (hfound.symm.trans hset)
    exact ⟨rfl, rfl, .inl rfl,
      .inr ⟨_, List.mem_singleton_self _, _, rfl, rfl, hok, hplace⟩, .inl rfl⟩
  | setInterval kind sid seconds =>
    refine applyChange_observed services _ _ fun owner hchange => ?_
    have hok : (state.handle services ⟨sender, .setInterval kind sid seconds⟩).1 = .ok () := by
      simp only [handle, applyChange_result, hchange, Except.map]
    obtain ⟨set, timer, hset, rfl, htimer, rfl⟩ := Owner.setInterval_eq_ok hchange
    refine .modifySet fun place found hfound hplace => ?_
    obtain rfl := Option.some.inj (hfound.symm.trans hset)
    refine ⟨rfl, rfl, .inl rfl, .inl rfl,
      .inr ⟨_, List.mem_singleton_self _, seconds, ⟨_, rfl, rfl, hok, hplace⟩, ?_⟩⟩
    simp only [Dataset.schedule, Dataset.withTimer, htimer, Option.map_some]
    rfl
  | requestStructure | requestReport =>
    simp only [handle, answerReport_owner]
    exact .refl _
  | setChanged | variableChanged | setSnapshot | variableSnapshot => exact forward_observed ..
  | _ => exact .refl _

/-- One call: the pools and the subscriptions stay, and the data of the owner are observed. -/
theorem perform_observed (state : HkState σ) (bank : PoolBank) (call : HkCall σ) :
    (state.perform services bank call).2 = bank ∧
      state.manager.SameTotals (state.perform services bank call).1.manager ∧
      state.owner.Observed services [⟨state, call⟩]
        (state.perform services bank call).1.owner := by
  cases call with
  | pass clock =>
    obtain ⟨served, hserved, hmanager⟩ := pass_manager services clock state
    refine ⟨rfl, ?_, pass_observed services state clock⟩
    show state.manager.SameTotals (state.pass services clock).2.manager
    rw [hmanager]
    exact hserved.trans served.restartCounts_sameTotals
  | handle message =>
    refine ⟨rfl, ?_, handle_observed services state message⟩
    show state.manager.SameTotals (state.handle services message).2.manager
    rw [handle_manager]
    exact .refl _
  | meanwhile after keeps => exact ⟨rfl, .refl _, .of_same rfl rfl rfl⟩

theorem watch_observed (state : HkState σ) (bank : PoolBank) (calls : List (HkCall σ)) :
    (state.watch services bank calls).2.2 = bank ∧
      state.manager.SameTotals (state.watch services bank calls).2.1.manager ∧
      state.owner.Observed services (state.watch services bank calls).1
        (state.watch services bank calls).2.1.owner := by
  induction calls generalizing state with
  | nil => exact ⟨rfl, .refl _, .refl _⟩
  | cons call rest ih =>
    obtain ⟨hbank, htotals, howner⟩ := perform_observed services state bank call
    obtain ⟨hlast, hlater, hdata⟩ := ih (state.perform services bank call).1
    rw [watch, hbank]
    refine ⟨hlast, htotals.trans hlater, ?_⟩
    refine Owner.Observed.trans (howner.mono fun moment hmem => ?_)
      (hdata.mono fun moment hmem => List.mem_cons_of_mem _ hmem)
    rw [List.mem_singleton.mp hmem]
    exact List.mem_cons_self

/-- **Housekeeping only observes.** Whatever passes, messages and failures come one after the
other: the pools and the subscriptions stay as they are, a changed flag is only ever cleared, and
that in a pass, and whether and when a set is reported changes only as the manager accepts a command
about this very set. Nothing else of the owner's sets and variables changes. -/
theorem housekeeping_observes (state : HkState σ) (bank : PoolBank)
    (calls : List (HkCall σ)) :
    let watched := state.watch services bank calls
    watched.2.2 = bank ∧ watched.2.1.manager.receivers = state.manager.receivers ∧
      state.manager.SameTotals watched.2.1.manager ∧
      state.owner.Observed services watched.1 watched.2.1.owner ∧
      ∀ moment ∈ watched.1, moment.state.owner.Observed services [moment]
        (moment.state.perform services bank moment.call).1.owner := by
  obtain ⟨hbank, htotals, howner⟩ := watch_observed services state bank calls
  refine ⟨hbank, ?_, htotals, howner, ?_⟩
  · obtain ⟨counts, -, hmanager⟩ := htotals
    rw [hmanager]
  · intro moment _
    exact (perform_observed services moment.state bank moment.call).2.2

end HkState

end Housekeeper
