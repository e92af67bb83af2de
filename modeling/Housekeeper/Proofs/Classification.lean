import Housekeeper.Proofs.Observation
import Housekeeper.Proofs.Periods

/-!
# The two classifications of a set

Whether a set is regular or diagnostics stands in two places: the commands about the set go by the
kind of the set, and its timer scales the collection interval by a kind of its own. A periodic
subscription writes both of them, an update subscription only the first, and nothing else that a
manager does writes either (`HkState.classified_step`).

So while a set has a periodic receiver, its kind is that of the latest subscription to its packets,
and the kind of its timer that of the latest periodic one (`HkState.kinds_of_latest`). After an
update subscription of another kind the two are different, and an interval is scaled that should not
be (`HkState.diagnostics_interval_scaled`).
-/

namespace Housekeeper

/-! ## The kinds of a set -/

namespace Dataset

/-- The kind of the set, and that of its timer. -/
def kinds (set : Dataset) : ReportKind × Option ReportKind :=
  (set.kind, set.timer.map CollectionTimer.kind)

end Dataset

theorem SetObserved.kinds_eq {σ : Type} {services : Services σ} {moments : List (HkMoment σ)}
    {place : Nat} {a b : Sid × Dataset} (h : SetObserved services moments place a b) :
    b.2.kinds = a.2.kinds := by
  have hread (set : Dataset) :
      set.timer.map CollectionTimer.kind = set.schedule.map CollectionTimer.kind := by
    rw [Dataset.schedule, Option.map_map]
    rfl
  have htimer : b.2.schedule.map CollectionTimer.kind = a.2.schedule.map CollectionTimer.kind := by
    rcases h.schedule with hsame | ⟨-, -, seconds, -, hset⟩
    · rw [hsame]
    · rw [hset, Option.map_map]
      rfl
  rw [Dataset.kinds, Dataset.kinds, h.kind_eq, hread, hread, htimer]

namespace Owner

/-- The kinds of the set that is exposed under the id. -/
def kinds? (owner : Owner) (sid : Sid) : Option (ReportKind × Option ReportKind) :=
  (owner.set? sid).map Dataset.kinds

theorem kinds?_eq (owner : Owner) (sid : Sid) :
    owner.kinds? sid = ((owner.sets.map fun exposed => (exposed.1, exposed.2.kinds)).find?
      fun exposed => exposed.1 == sid).map Prod.snd := by
  simp [kinds?, set?, List.find?_map, Function.comp_def]

theorem kinds?_modifySet (owner : Owner) (sid other : Sid) (change : Dataset → Dataset) :
    (owner.modifySet other change).kinds? sid =
      if other = sid then (owner.set? sid).map fun set => (change set).kinds
      else owner.kinds? sid := by
  split
  next h =>
    subst h
    rw [kinds?, set?_modifySet, Option.map_map]
    rfl
  next h => rw [kinds?, set?_modifySet_of_ne owner (Ne.symm h), kinds?]

/-- Passes and messages classify nothing. -/
theorem Observed.kinds?_eq {σ : Type} {services : Services σ} {moments : List (HkMoment σ)}
    {a b : Owner} (h : a.Observed services moments b) (sid : Sid) :
    b.kinds? sid = a.kinds? sid := by
  have hsets : (b.sets.map fun exposed => (exposed.1, exposed.2.kinds)) =
      a.sets.map fun exposed => (exposed.1, exposed.2.kinds) :=
    h.sets.map_eq fun _ _ _ hset => by rw [hset.sid_eq, hset.kinds_eq]
  rw [Owner.kinds?_eq, Owner.kinds?_eq, hsets]

end Owner

/-! ## What subscriptions classify -/

namespace Subscription

/-- The kind of a subscription to full packets of the set. -/
def packetKind? (sid : Sid) : Subscription → Option ReportKind
  | periodicPacket request | updatePacket request =>
    if request.sid = sid then some request.kind else none
  | setUpdates .. | variableUpdates .. => none

/-- The kind of a subscription to periodic packets of the set. -/
def periodicKind? (sid : Sid) : Subscription → Option ReportKind
  | periodicPacket request => if request.sid = sid then some request.kind else none
  | updatePacket _ | setUpdates .. | variableUpdates .. => none

theorem packetKind?_of_periodicKind? {sid : Sid} {subscription : Subscription} {kind : ReportKind}
    (h : subscription.periodicKind? sid = some kind) :
    subscription.packetKind? sid = some kind := by
  cases subscription with
  | periodicPacket request => exact h
  | updatePacket request => cases h
  | setUpdates set object queue snapshots => cases h
  | variableUpdates id object queue snapshots => cases h

theorem delivery_ne_of_periodicKind? {sid : Sid} {subscription : Subscription}
    (h : subscription.periodicKind? sid = none) (owner : ObjectId) :
    subscription.delivery owner ≠ .periodicPacket sid := by
  intro hdelivery
  obtain ⟨request, rfl, rfl⟩ := delivery_eq_periodicPacket_iff.mp hdelivery
  simp [periodicKind?] at h

/-- The latest kind of the subscriptions that have one. -/
def latest? (kind? : Subscription → Option ReportKind) (log : List Subscription) :
    Option ReportKind :=
  (log.filterMap kind?).getLast?

theorem latest?_concat (kind? : Subscription → Option ReportKind) (log : List Subscription)
    (subscription : Subscription) :
    latest? kind? (log ++ [subscription]) = (kind? subscription).or (latest? kind? log) := by
  rw [latest?, List.filterMap_append, List.getLast?_append]
  cases h : kind? subscription <;> simp [h, latest?]

end Subscription

namespace HkManager

variable {manager next : HkManager} {owner after : Owner} {sid : Sid}

/-- A periodic subscription writes both kinds, an update subscription that of the set alone, and no
other one writes any. -/
theorem subscribe_kinds? {subscription : Subscription}
    (h : manager.subscribe owner subscription = (.ok (), next, after)) (sid : Sid) :
    match subscription.periodicKind? sid, subscription.packetKind? sid with
    | some kind, _ => after.kinds? sid = some (kind, some kind)
    | none, some kind => after.kinds? sid = (owner.kinds? sid).map fun kinds => (kind, kinds.2)
    | none, none => after.kinds? sid = owner.kinds? sid := by
  cases subscription with
  | periodicPacket request =>
    obtain ⟨set, old, hset, -, rfl⟩ := subscribePeriodic_eq_ok h
    simp only [Subscription.periodicKind?, Subscription.packetKind?, Owner.kinds?_modifySet]
    by_cases hsid : request.sid = sid
    · simp only [if_pos hsid]
      rw [← hsid, hset]
      rfl
    · simp only [if_neg hsid]
  | updatePacket request =>
    rw [subscribeUpdate_eq_ok h]
    simp only [Subscription.periodicKind?, Subscription.packetKind?, Owner.kinds?_modifySet]
    by_cases hsid : request.sid = sid
    · simp only [if_pos hsid]
      rw [Owner.kinds?, Option.map_map]
      rfl
    · simp only [if_neg hsid]
  | setUpdates set object queue snapshots => rw [subscribeData_eq_ok h]; rfl
  | variableUpdates id object queue snapshots => rw [subscribeData_eq_ok h]; rfl

/-- While the set has a periodic receiver, the log tells both of its kinds. -/
def Classified (sid : Sid) (manager : HkManager) (owner : Owner) (log : List Subscription) : Prop :=
  0 < Receiver.countPeriodic sid manager.receivers →
    ∃ kind timerKind, owner.kinds? sid = some (kind, some timerKind) ∧
      Subscription.latest? (Subscription.packetKind? sid) log = some kind ∧
      Subscription.latest? (Subscription.periodicKind? sid) log = some timerKind

variable {log : List Subscription}

theorem Classified.subscribe (hinv : Classified sid manager owner log) {subscription : Subscription}
    (h : manager.subscribe owner subscription = (.ok (), next, after)) :
    Classified sid next after (log ++ [subscription]) := by
  intro hperiodic
  rw [countPeriodic_subscribe h sid] at hperiodic
  have hkinds := subscribe_kinds? h sid
  simp only [Subscription.latest?_concat]
  cases hown : subscription.periodicKind? sid with
  | some kind =>
    -- nothing is known of a set without periodic receivers before, and nothing need be
    rw [Subscription.packetKind?_of_periodicKind? hown]
    rw [hown] at hkinds
    exact ⟨kind, kind, hkinds, rfl, rfl⟩
  | none =>
    rw [if_neg (Subscription.delivery_ne_of_periodicKind? hown manager.owner)] at hperiodic
    rw [hown] at hkinds
    obtain ⟨kind, timerKind, hbefore, hpacket, htimer⟩ := hinv hperiodic
    cases hnew : subscription.packetKind? sid with
    | some other =>
      rw [hnew] at hkinds
      exact ⟨other, timerKind, by rw [hkinds, hbefore]; rfl, rfl, htimer⟩
    | none =>
      rw [hnew] at hkinds
      exact ⟨kind, timerKind, hkinds.trans hbefore, hpacket, htimer⟩

theorem Classified.subscribeAll (hinv : Classified sid manager owner log)
    (subscriptions : List Subscription) :
    Classified sid (manager.subscribeAll owner subscriptions).2.1
      (manager.subscribeAll owner subscriptions).2.2
      (log ++ manager.acceptedOf owner subscriptions) :=
  subscribeAll_induction (P := fun log manager owner => Classified sid manager owner log)
    (fun _ hok hbefore => hbefore.subscribe hok) log hinv

theorem subscribeAll_singleton (manager : HkManager) (owner : Owner)
    (subscription : Subscription) :
    manager.subscribeAll owner [subscription] = manager.subscribe owner subscription := by
  obtain ⟨e, he⟩ | ⟨-, object, destination, after, hok⟩ :=
    subscribe_cases manager owner subscription
  · rw [subscribeAll, he]
  · rw [subscribeAll, hok]
    rfl

theorem Classified.start (hinv : Classified sid manager owner log) (bank : PoolBank)
    (setup : PoolSetup) :
    Classified sid (manager.start owner bank setup).2.1 (manager.start owner bank setup).2.2.1
      (log ++ if manager.started then [] else manager.acceptedOf owner setup.subscriptions) := by
  obtain ⟨hstarted, hsame⟩ | ⟨hnew, result, started, after, hall⟩ :=
    manager.start_cases owner bank setup
  · rw [hsame, if_pos hstarted, List.append_nil]
    exact hinv
  · rw [hall, if_neg (Bool.eq_false_iff.mp hnew)]
    exact hinv.subscribeAll setup.subscriptions

end HkManager

/-! ## Histories -/

namespace HkEvent

variable {σ : Type}

/-- The subscriptions that an event brings. -/
def accepted (state : HkState σ) : HkEvent σ → List Subscription
  | start _ setup =>
    if state.manager.started then []
    else state.manager.acceptedOf state.owner setup.subscriptions
  | subscribe subscription => state.manager.acceptedOf state.owner [subscription]
  | clearReceivers | handle _ | pass _ | meanwhile .. => []

/-- The owner does not classify the set itself while it has a periodic receiver. -/
def LeavesKinds (sid : Sid) (state : HkState σ) : HkEvent σ → Prop
  | meanwhile owner _ _ =>
    0 < Receiver.countPeriodic sid state.manager.receivers →
      owner.kinds? sid = state.owner.kinds? sid
  | start .. | subscribe _ | clearReceivers | handle _ | pass _ => True

end HkEvent

namespace HkState

variable {σ : Type} {services : Services σ} {sid : Sid} {log : List Subscription}
  {state : HkState σ}

/-- **The log stays right through every event.** -/
theorem classified_step (hinv : state.manager.Classified sid state.owner log) {event : HkEvent σ}
    (hleaves : event.LeavesKinds sid state) :
    (state.step services event).manager.Classified sid (state.step services event).owner
      (log ++ event.accepted state) := by
  cases event with
  | start bank setup => exact hinv.start bank setup
  | subscribe subscription =>
    have hall := hinv.subscribeAll [subscription]
    rw [HkManager.subscribeAll_singleton] at hall
    exact hall
  | clearReceivers => exact fun hperiodic => absurd hperiodic (Nat.lt_irrefl 0)
  | handle message =>
    rw [HkEvent.accepted, List.append_nil, step, HkManager.Classified, handle_manager,
      (handle_observed services state message).kinds?_eq sid]
    exact hinv
  | pass clock =>
    rw [HkEvent.accepted, List.append_nil, step, HkManager.Classified, pass_receivers,
      (pass_observed services state clock).kinds?_eq sid]
    exact hinv
  | meanwhile owner after destination =>
    rw [HkEvent.accepted, List.append_nil]
    intro hperiodic
    rw [step, hleaves hperiodic]
    exact hinv hperiodic

/-- What may come of a state, and the subscriptions that were accepted on the way, while the owner
does not classify the set. -/
inductive Logged (services : Services σ) (sid : Sid) (start : HkState σ) :
    List Subscription → HkState σ → Prop
  | refl : Logged services sid start [] start
  | step {log : List Subscription} {state : HkState σ} (h : Logged services sid start log state)
    (event : HkEvent σ) (hleaves : event.LeavesKinds sid state) :
    Logged services sid start (log ++ event.accepted state) (state.step services event)

theorem Logged.classified {start : HkState σ} (h : Logged services sid start log state)
    (hstart : start.manager.receivers = []) : state.manager.Classified sid state.owner log := by
  induction h with
  | refl =>
    intro hperiodic
    rw [hstart] at hperiodic
    exact absurd hperiodic (Nat.lt_irrefl 0)
  | step _ event hleaves ih => exact classified_step ih hleaves

end HkState

/-! ## Commands about the interval -/

namespace CollectionTimer

/-- The ticks of an interval, scaled as for a set of this kind. -/
def ticksAs (timer : CollectionTimer) (kind : ReportKind) (seconds : Binary32) : Nat :=
  match kind with
  | .diagnostics => timer.nominalTicks seconds
  | .regular => min (timer.nominalTicks seconds * timer.factor.toNat) (UInt32.size - 1)

theorem toNat_ticksOf (timer : CollectionTimer) (seconds : Binary32) :
    (timer.ticksOf seconds).toNat = timer.ticksAs timer.kind seconds := by
  rw [ticksOf_eq]
  cases timer.kind with
  | diagnostics => exact UInt32.toNat_ofNat_of_lt' (timer.nominalTicks_lt seconds)
  | regular =>
    have hsize : UInt32.size = 4294967296 := rfl
    exact UInt32.toNat_ofNat_of_lt' (by omega)

end CollectionTimer

namespace HkState

variable {σ : Type} {services : Services σ} {sid : Sid} {log : List Subscription}
  {state : HkState σ}

/-- A command about the interval has to name the kind of the set, and the kind of the timer is the
one that scales. -/
theorem handle_setInterval (services : Services σ) {set : Dataset} {timer : CollectionTimer}
    (hset : state.owner.set? sid = some set) (htimer : set.timer = some timer) (sender : QueueId)
    (kind : ReportKind) (seconds : Binary32) :
    ((state.handle services ⟨sender, .setInterval kind sid seconds⟩).1 = .ok () ↔
        set.kind = kind) ∧
      (set.kind = kind →
        (state.handle services ⟨sender, .setInterval kind sid seconds⟩).2.owner.timer? sid =
          some (timer.setInterval seconds)) := by
  have hhandle : state.handle services ⟨sender, .setInterval kind sid seconds⟩ =
      state.applyChange services ⟨sender, .setInterval kind sid seconds⟩ sid
        (state.owner.setInterval sid seconds kind) := rfl
  rw [hhandle]
  by_cases hkind : set.kind = kind
  · have hchange : state.owner.setInterval sid seconds kind =
        .ok (state.owner.modifySet sid fun set => set.withTimer (timer.setInterval seconds)) := by
      simp only [Owner.setInterval, Owner.getSetOfKind, Owner.getSet, hset, hkind, if_true, htimer]
    have hbefore : state.owner.timer? sid = some timer := by
      rw [Owner.timer?, hset, Option.map_some, htimer]
      rfl
    rw [hchange]
    exact ⟨iff_of_true rfl hkind, fun _ => Owner.timer?_withTimer hbefore _⟩
  · have hchange : state.owner.setInterval sid seconds kind = .error .wrongHkPacketType := by
      simp only [Owner.setInterval, Owner.getSetOfKind, Owner.getSet, hset, hkind, if_false]
    rw [hchange, applyChange_result]
    exact ⟨iff_of_false (fun h => by cases h) hkind, fun h => absurd h hkind⟩

/-- **The kinds of a set with a periodic receiver are those of the latest subscriptions.** They are
the same as long as the latest subscription to its packets was of the kind of the latest periodic
one. -/
theorem kinds_of_latest {bank : PoolBank} {id : ObjectId} {queue : QueueId}
    {queueDefault : Option QueueId} {config : ManagerConfig} {owner : Owner} {initial : σ}
    (h : Logged services sid
      ⟨(HkManager.create bank id queue queueDefault config).1, owner, initial⟩ log state)
    (hperiodic : 0 < Receiver.countPeriodic sid state.manager.receivers) :
    ∃ set timer, state.owner.set? sid = some set ∧ set.timer = some timer ∧
      Subscription.latest? (Subscription.packetKind? sid) log = some set.kind ∧
      Subscription.latest? (Subscription.periodicKind? sid) log = some timer.kind ∧
      (set.kind = timer.kind ↔ Subscription.latest? (Subscription.packetKind? sid) log =
        Subscription.latest? (Subscription.periodicKind? sid) log) ∧
      ∀ sender kind seconds,
        ((state.handle services ⟨sender, .setInterval kind sid seconds⟩).1 = .ok () ↔
          set.kind = kind) ∧
        (set.kind = kind → ∃ current,
          (state.handle services ⟨sender, .setInterval kind sid seconds⟩).2.owner.timer? sid =
            some current ∧
          current.ticks.toNat = timer.ticksAs timer.kind seconds) := by
  obtain ⟨kind, timerKind, hkinds, hpacket, hlatest⟩ := h.classified rfl hperiodic
  obtain ⟨set, hset, hboth⟩ := Option.map_eq_some_iff.mp hkinds
  obtain ⟨rfl, htimerKind⟩ := Prod.mk.inj hboth
  obtain ⟨timer, htimer, rfl⟩ := Option.map_eq_some_iff.mp htimerKind
  refine ⟨set, timer, hset, htimer, hpacket, hlatest, ?_, fun sender kind seconds => ?_⟩
  · rw [hpacket, hlatest, Option.some_inj]
  · obtain ⟨haccepted, hafter⟩ :=
      handle_setInterval services hset htimer sender kind seconds
    exact ⟨haccepted, fun hkind => ⟨_, hafter hkind, timer.toNat_ticksOf seconds⟩⟩

/-- A new manager, and an owner with one set of no variables. -/
def oneSet : HkState Facilities :=
  let manager := (HkManager.create .empty 7 1 none {}).1
  ⟨manager, ⟨1000, [(⟨7, 1⟩, Dataset.creator manager.pool 1 2)], [], fun _ => false, []⟩,
    .ofConfig ⟨[]⟩⟩

/-- Periodic packets of the set as a regular one, and update packets as diagnostics. -/
def mixedSubscriptions : List Subscription :=
  [.periodicPacket ⟨⟨7, 1⟩, false, ⟨0x3f800000⟩, .regular, 1⟩,
    .updatePacket ⟨⟨7, 1⟩, true, ⟨0x3f800000⟩, .diagnostics, 1⟩]

theorem mixed_kinds_of_latest :
    ∃ state : HkState Facilities,
      Logged Facilities.services ⟨7, 1⟩ oneSet mixedSubscriptions state ∧
      0 < Receiver.countPeriodic ⟨7, 1⟩ state.manager.receivers ∧
      ∃ set timer, state.owner.set? ⟨7, 1⟩ = some set ∧ set.timer = some timer ∧
        set.kind = .diagnostics ∧ timer.kind = .regular := by
  let services := Facilities.services
  have hlogged : Logged services ⟨7, 1⟩ oneSet mixedSubscriptions
      (oneSet.run services (mixedSubscriptions.map HkEvent.subscribe)) :=
    (Logged.refl.step (.subscribe mixedSubscriptions[0]) trivial).step
      (.subscribe mixedSubscriptions[1]) trivial
  have hperiodic : 0 < Receiver.countPeriodic ⟨7, 1⟩
      (oneSet.run services (mixedSubscriptions.map HkEvent.subscribe)).manager.receivers := by
    decide +kernel
  obtain ⟨set, timer, hset, htimer, hpacket, hlatest, -⟩ := kinds_of_latest hlogged hperiodic
  exact ⟨_, hlogged, hperiodic, set, timer, hset, htimer,
    (Option.some.inj hpacket).symm, (Option.some.inj hlatest).symm⟩

/-- After the update subscription the set is diagnostics, and its commands are accepted as such. But
an interval of one second, which is one tick of the owner's task, is scaled to five. -/
theorem diagnostics_interval_scaled :
    let state := oneSet.run Facilities.services (mixedSubscriptions.map HkEvent.subscribe)
    let answer := state.handle Facilities.services
      ⟨1, .setInterval .diagnostics ⟨7, 1⟩ ⟨0x3f800000⟩⟩
    Receiver.countPeriodic ⟨7, 1⟩ state.manager.receivers = 1 ∧
      state.owner.kinds? ⟨7, 1⟩ = some (.diagnostics, some .regular) ∧
      answer.1 = .ok () ∧ (answer.2.owner.timer? ⟨7, 1⟩).map CollectionTimer.ticks = some 5 := by
  exact ⟨by decide +kernel, by decide +kernel, rfl, by decide +kernel⟩

end HkState

end Housekeeper
