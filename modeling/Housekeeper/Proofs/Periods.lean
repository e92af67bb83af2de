import Housekeeper.Proofs.Servicing

/-!
# Periodic packets and the ticks of their set

The timer of a set counts how often it is checked, and while reports are on, a pass checks it once
for every periodic receiver of the set. So the receivers share its ticks: with `n` of them, the turn
of the `j`-th one on enabled pass `m` is check `m * n + j` since the last periodic subscription, and
it brings a packet exactly if the tick interval divides `m * n + j + 1`
(`periodic_receivers_share_ticks`). A single receiver gets a packet on every pass whose number the
interval divides; two receivers may both miss their interval (`two_receivers_out_of_step`).
-/

namespace Housekeeper

/-! ## Timers -/

namespace CollectionTimer

section

variable {timer : CollectionTimer}

theorem check_fires_iff : timer.check.1 = true ↔ timer.ticks.toNat ≤ timer.counter.toNat := by
  unfold check
  rw [← UInt32.le_iff_toNat_le]
  split
  next hdue => exact iff_of_true rfl hdue
  next hearly => exact iff_of_false Bool.false_ne_true hearly

@[simp] theorem ticks_check : timer.check.2.ticks = timer.ticks := by
  unfold check
  split <;> rfl

@[simp] theorem factor_check : timer.check.2.factor = timer.factor := by
  unfold check
  split <;> rfl

theorem counter_check_of_fires (h : timer.check.1 = true) : timer.check.2.counter.toNat = 1 := by
  unfold check at h ⊢
  split
  next => rfl
  next hearly => rw [if_neg hearly] at h; cases h

/-- A check that does not fire counts up, which never overflows. -/
theorem counter_check (h : timer.check.1 = false) :
    timer.check.2.counter.toNat = timer.counter.toNat + 1 := by
  unfold check at h ⊢
  split
  next hdue => rw [if_pos hdue] at h; cases h
  next hearly =>
    have hbound := timer.ticks.toNat_lt
    rw [UInt32.le_iff_toNat_le] at hearly
    show (timer.counter + 1).toNat = _
    rw [UInt32.toNat_add]
    exact Nat.mod_eq_of_lt (by simp; omega)

end

/-- The timer has been checked so often since its start, and fires on every `ticks`-th check. -/
structure Ticking (timer : CollectionTimer) (ticks checks : Nat) : Prop where
  ticks_eq : timer.ticks.toNat = ticks
  ticks_pos : 0 < ticks
  counter_eq : timer.counter.toNat = checks % ticks + 1

theorem succ_mod_of_dvd {ticks checks : Nat} (hpos : 0 < ticks) :
    ticks ∣ checks + 1 ↔ checks % ticks + 1 = ticks := by
  have hlt := Nat.mod_lt checks hpos
  rw [Nat.dvd_iff_mod_eq_zero, ← Nat.mod_add_mod]
  constructor
  · intro hzero
    refine Decidable.of_not_not fun hne => ?_
    rw [Nat.mod_eq_of_lt (by omega)] at hzero
    omega
  · intro hfull
    rw [hfull, Nat.mod_self]

/-- One check more, and whether it fires. -/
theorem Ticking.check {timer : CollectionTimer} {ticks checks : Nat}
    (h : timer.Ticking ticks checks) :
    (timer.check.1 = true ↔ ticks ∣ checks + 1) ∧ timer.check.2.Ticking ticks (checks + 1) := by
  obtain ⟨hticks, hpos, hcounter⟩ := h
  have hlt := Nat.mod_lt checks hpos
  have hdue : timer.check.1 = true ↔ ticks ∣ checks + 1 := by
    rw [check_fires_iff, hticks, hcounter, succ_mod_of_dvd hpos]
    omega
  refine ⟨hdue, by rw [ticks_check, hticks], hpos, ?_⟩
  cases hfires : timer.check.1 with
  | true => rw [counter_check_of_fires hfires, Nat.mod_eq_zero_of_dvd (hdue.mp hfires)]
  | false =>
    have hnext : checks % ticks + 1 < ticks := by
      have hno : ¬ ticks ∣ checks + 1 := by
        rw [← hdue, hfires]
        exact Bool.false_ne_true
      have hne := mt (succ_mod_of_dvd hpos).mpr hno
      omega
    rw [counter_check hfires, hcounter, ← Nat.mod_add_mod, Nat.mod_eq_of_lt hnext]

/-! An interval is at least one tick, and not too many for a word. -/

/-- The ticks of an interval before they are scaled. -/
def nominalTicks (timer : CollectionTimer) (seconds : Binary32) : Nat :=
  match intervalMillis? seconds with
  | some millis =>
    if timer.period = 0 then 1
    else max ((millis.toNat + timer.period.toNat - 1) / timer.period.toNat) 1
  | none => 1

theorem ticksOf_eq (timer : CollectionTimer) (seconds : Binary32) :
    timer.ticksOf seconds = match timer.kind with
      | .diagnostics => UInt32.ofNat (timer.nominalTicks seconds)
      | .regular =>
        UInt32.ofNat (min (timer.nominalTicks seconds * timer.factor.toNat) (UInt32.size - 1)) :=
  rfl

theorem nominalTicks_pos (timer : CollectionTimer) (seconds : Binary32) :
    0 < timer.nominalTicks seconds := by
  unfold nominalTicks
  split
  · split <;> omega
  · exact Nat.one_pos

theorem div_ceil_le (millis : Nat) {period : Nat} (hpos : 0 < period) :
    (millis + period - 1) / period ≤ millis := by
  cases millis with
  | zero => exact Nat.le_of_eq (Nat.div_eq_of_lt (by omega))
  | succ rest =>
    apply Nat.div_le_of_le_mul
    have hmul := Nat.le_mul_of_pos_left rest hpos
    rw [Nat.mul_succ]
    omega

theorem nominalTicks_lt (timer : CollectionTimer) (seconds : Binary32) :
    timer.nominalTicks seconds < UInt32.size := by
  unfold nominalTicks
  split
  next millis _ =>
    split
    · decide
    next hperiod =>
      have hpos : 0 < timer.period.toNat := by
        refine Nat.pos_of_ne_zero fun hzero => hperiod ?_
        exact UInt32.toNat_inj.mp hzero
      have hle := div_ceil_le millis.toNat hpos
      have hlt : millis.toNat < UInt32.size := millis.toNat_lt
      exact Nat.max_lt.mpr ⟨Nat.lt_of_le_of_lt hle hlt, by decide⟩
  · decide

theorem ticksOf_pos {timer : CollectionTimer} (hfactor : 0 < timer.factor.toNat)
    (seconds : Binary32) : 0 < (timer.ticksOf seconds).toNat := by
  have hpos := timer.nominalTicks_pos seconds
  rw [ticksOf_eq]
  split
  · rw [UInt32.toNat_ofNat_of_lt' (timer.nominalTicks_lt seconds)]
    exact hpos
  · have hscaled := Nat.mul_pos hpos hfactor
    have hsize : UInt32.size = 4294967296 := rfl
    rw [UInt32.toNat_ofNat_of_lt' (by omega)]
    omega

theorem factor_start_pos (seconds : Binary32) (period : UInt32) (kind : ReportKind)
    (factor : UInt8) : 0 < (start seconds period kind factor).factor.toNat := by
  show 0 < (max factor 1).toNat
  have hmax : max factor 1 = if factor ≤ 1 then 1 else factor := rfl
  rw [hmax]
  split
  · decide
  next hgt =>
    rw [UInt8.le_iff_toNat_le] at hgt
    exact Nat.zero_lt_of_lt (Nat.lt_of_not_le hgt)

theorem start_ticking (seconds : Binary32) (period : UInt32) (kind : ReportKind) (factor : UInt8) :
    (start seconds period kind factor).Ticking
      (start seconds period kind factor).ticks.toNat 0 :=
  ⟨rfl, ticksOf_pos (factor_start_pos seconds period kind factor) seconds,
    (Nat.zero_mod _).symm ▸ rfl⟩

end CollectionTimer

/-! ## The timer of a set -/

namespace Owner

/-- A change of one set that keeps some of its data keeps them of all sets. -/
theorem set?_map_modifySet {β : Type} {f : Dataset → β} {change : Dataset → Dataset}
    (keeps : ∀ set, f (change set) = f set) (owner : Owner) (sid other : Sid) :
    ((owner.modifySet other change).set? sid).map f = (owner.set? sid).map f := by
  by_cases hsame : sid = other
  · subst hsame
    rw [set?_modifySet, Option.map_map]
    exact congrArg (fun g => Option.map g (owner.set? sid)) (funext keeps)
  · rw [set?_modifySet_of_ne owner hsame]

def timer? (owner : Owner) (sid : Sid) : Option CollectionTimer :=
  ((owner.set? sid).map Dataset.timer).join

/-- Are the periodic reports of the set switched on? -/
def reports (owner : Owner) (sid : Sid) : Bool :=
  ((owner.set? sid).map Dataset.reporting).getD false

theorem timer?_eq_some {owner : Owner} {sid : Sid} {timer : CollectionTimer}
    (h : owner.timer? sid = some timer) :
    ∃ set, owner.set? sid = some set ∧ set.timer = some timer ∧
      owner.reports sid = set.reporting := by
  cases hset : owner.set? sid with
  | none => simp [timer?, hset] at h
  | some set =>
    refine ⟨set, rfl, ?_, ?_⟩
    · simpa [timer?, hset] using h
    · simp [reports, hset]

theorem timer?_modifySet {change : Dataset → Dataset} (keeps : ∀ set, (change set).timer = set.timer)
    (owner : Owner) (sid other : Sid) :
    (owner.modifySet other change).timer? sid = owner.timer? sid :=
  congrArg Option.join (set?_map_modifySet keeps owner sid other)

theorem reports_modifySet {change : Dataset → Dataset}
    (keeps : ∀ set, (change set).reporting = set.reporting) (owner : Owner) (sid other : Sid) :
    (owner.modifySet other change).reports sid = owner.reports sid :=
  congrArg (Option.getD · false) (set?_map_modifySet keeps owner sid other)

theorem timer?_modifySet_of_ne (owner : Owner) {sid other : Sid} (hne : sid ≠ other)
    (change : Dataset → Dataset) : (owner.modifySet other change).timer? sid = owner.timer? sid := by
  rw [timer?, set?_modifySet_of_ne owner hne, timer?]

theorem timer?_withTimer {owner : Owner} {sid : Sid} {old : CollectionTimer}
    (h : owner.timer? sid = some old) (timer : CollectionTimer) :
    (owner.modifySet sid fun set => set.withTimer timer).timer? sid = some timer := by
  obtain ⟨set, hset, -, -⟩ := timer?_eq_some h
  rw [timer?, set?_modifySet, hset]
  rfl

@[simp] theorem reports_withTimer (owner : Owner) (sid other : Sid) (timer : CollectionTimer) :
    (owner.modifySet other fun set => set.withTimer timer).reports sid = owner.reports sid := by
  apply reports_modifySet
  intro set; rfl

theorem clearChanged_keeps (owner : Owner) (data : DataId) (sid : Sid) :
    (owner.clearChanged data).timer? sid = owner.timer? sid ∧
      (owner.clearChanged data).reports sid = owner.reports sid := by
  cases data with
  | ofSet other =>
    constructor
    · apply timer?_modifySet
      intro set; rfl
    · apply reports_modifySet
      intro set; rfl
  | ofVariable id => exact ⟨rfl, rfl⟩

/-- The timer of the set has been checked so often since its start. -/
def Ticking (owner : Owner) (sid : Sid) (ticks checks : Nat) : Prop :=
  ∃ timer, owner.timer? sid = some timer ∧ timer.Ticking ticks checks

theorem Ticking.congr {a b : Owner} {sid : Sid} {ticks checks : Nat}
    (h : a.Ticking sid ticks checks) (hsame : b.timer? sid = a.timer? sid) :
    b.Ticking sid ticks checks := by
  obtain ⟨timer, htimer, hticking⟩ := h
  exact ⟨timer, hsame.trans htimer, hticking⟩

end Owner

namespace Receiver

/-- Does it get periodic packets of the set? -/
def isPeriodic (sid : Sid) (receiver : Receiver) : Bool :=
  receiver.delivery = .periodicPacket sid

def countPeriodic (sid : Sid) (receivers : List Receiver) : Nat := receivers.countP (isPeriodic sid)

end Receiver

namespace HkState

variable {σ : Type} (services : Services σ) (now : CdsTime) {state : HkState σ} {sid : Sid}
  {ticks checks : Nat} {receiver : Receiver}

/-! ## Turns -/

/-- The turn of somebody else leaves the timer alone. -/
theorem serve_of_not_periodic (hother : receiver.isPeriodic sid = false) (state : HkState σ) :
    (state.serve services now receiver).2.owner.timer? sid = state.owner.timer? sid ∧
      (state.serve services now receiver).2.owner.reports sid = state.owner.reports sid := by
  by_cases hu : receiver.delivery.isUpdate
  · rw [serve_of_isUpdate hu]
    cases hd : state.owner.getData receiver.delivery.data with
    | error e => rw [serveUpdate_of_error hd]; exact ⟨rfl, rfl⟩
    | ok data =>
      cases hc : data.changed with
      | false => rw [serveUpdate_of_unchanged hd hc]; exact ⟨rfl, rfl⟩
      | true =>
        rw [serveUpdate_of_changed hd hc]
        dsimp only
        split
        · exact state.owner.clearChanged_keeps receiver.delivery.data sid
        · exact ⟨rfl, rfl⟩
  · obtain ⟨other, hdelivery⟩ : ∃ other, receiver.delivery = .periodicPacket other := by
      cases hd : receiver.delivery with
      | periodicPacket other => exact ⟨other, rfl⟩
      | _ => simp [hd, Delivery.isUpdate] at hu
    have hne : sid ≠ other := by
      rintro rfl
      simp [Receiver.isPeriodic, hdelivery] at hother
    have hkeeps (timer : CollectionTimer) :
        (state.owner.modifySet other fun set => set.withTimer timer).timer? sid =
            state.owner.timer? sid ∧
          (state.owner.modifySet other fun set => set.withTimer timer).reports sid =
            state.owner.reports sid :=
      ⟨Owner.timer?_modifySet_of_ne _ hne _, Owner.reports_withTimer ..⟩
    simp only [serve, hdelivery, servePeriodic]
    split
    · exact ⟨rfl, rfl⟩
    · split
      · exact ⟨rfl, rfl⟩
      · split
        · exact ⟨rfl, rfl⟩
        · split
          · exact hkeeps _
          · exact hkeeps _

/-- What the turn of a periodic receiver does, from the services before to those after it. -/
inductive PeriodicTurn (services : Services σ) (state : HkState σ) (sid : Sid)
    (destination : QueueId) (ticks checks : Nat) : Except PoolError Unit × HkState σ → Prop
  /-- Reports are off, and the timer is not checked. -/
  | off (hoff : state.owner.reports sid = false) :
    PeriodicTurn services state sid destination ticks checks (.ok (), state)
  /-- It is not time for a packet. -/
  | early {owner} (hon : state.owner.reports sid = true) (hearly : ¬ ticks ∣ checks + 1)
    (hticking : owner.Ticking sid ticks (checks + 1)) (hreports : owner.reports sid = true) :
    PeriodicTurn services state sid destination ticks checks
      (.ok (), ⟨state.manager, owner, state.services⟩)
  /-- A packet is due, and one attempt is made to deliver it. -/
  | due {owner set result after} (hon : state.owner.reports sid = true)
    (hdue : ticks ∣ checks + 1) (hticking : owner.Ticking sid ticks (checks + 1))
    (hreports : owner.reports sid = true) (hset : state.owner.set? sid = some set)
    (hattempt : Attempt services state.manager.queue state.manager.owner
      (state.manager.resolve destination) (.packet sid set .big) state.services result after) :
    PeriodicTurn services state sid destination ticks checks
      (result, ⟨state.manager, owner, after⟩)

theorem servePeriodic_turn (h : state.owner.Ticking sid ticks checks) (destination : QueueId) :
    PeriodicTurn services state sid destination ticks checks
      (state.servePeriodic services sid destination) := by
  obtain ⟨timer, htimer, hticking⟩ := h
  obtain ⟨set, hset, hown, hreports⟩ := Owner.timer?_eq_some htimer
  obtain ⟨hcheck, hnext⟩ := hticking.check
  cases hon : set.reporting with
  | false =>
    have hturn : state.servePeriodic services sid destination = (.ok (), state) := by
      simp [servePeriodic, Owner.getSet, hset, hon]
    rw [hturn]
    exact .off (hreports.trans hon)
  | true =>
    have hafter : (state.owner.modifySet sid fun set => set.withTimer timer.check.2).Ticking sid
        ticks (checks + 1) := ⟨_, Owner.timer?_withTimer htimer _, hnext⟩
    have hstill : (state.owner.modifySet sid fun set => set.withTimer timer.check.2).reports sid =
        true := by
      rw [Owner.reports_withTimer, hreports, hon]
    simp only [servePeriodic, Owner.getSet, hset, hon, hown, Bool.not_true, Bool.false_eq_true,
      if_false]
    split
    next hdue =>
      exact .due (hreports.trans hon) (hcheck.mp hdue) hafter hstill hset
        (state.manager.sendPacket_attempt services state.services sid set true destination)
    next hearly => exact .early (hreports.trans hon) (mt hcheck.mpr hearly) hafter hstill

theorem serve_of_periodic (hp : receiver.isPeriodic sid) (state : HkState σ) :
    state.serve services now receiver =
      state.servePeriodic services sid receiver.destination := by
  have hdelivery : receiver.delivery = .periodicPacket sid := of_decide_eq_true hp
  simp only [serve, hdelivery]

/-- How often a turn checks the timer. -/
def checksOf (state : HkState σ) (sid : Sid) (receiver : Receiver) : Nat :=
  if receiver.isPeriodic sid && state.owner.reports sid then 1 else 0

theorem serve_ticking (h : state.owner.Ticking sid ticks checks) (receiver : Receiver) :
    (state.serve services now receiver).2.owner.Ticking sid ticks
        (checks + state.checksOf sid receiver) ∧
      (state.serve services now receiver).2.owner.reports sid = state.owner.reports sid := by
  cases hp : receiver.isPeriodic sid with
  | false =>
    obtain ⟨htimer, hreports⟩ := serve_of_not_periodic services now hp state
    refine ⟨?_, hreports⟩
    simpa [checksOf, hp] using h.congr htimer
  | true =>
    rw [serve_of_periodic services now hp]
    have hturn := servePeriodic_turn services h receiver.destination
    generalize state.servePeriodic services sid receiver.destination = outcome at hturn
    cases hturn with
    | off hoff => exact ⟨by simpa [checksOf, hp, hoff] using h, rfl⟩
    | early hon _ hticking hreports =>
      exact ⟨by simpa [checksOf, hp, hon] using hticking, hreports.trans hon.symm⟩
    | due hon _ hticking hreports =>
      exact ⟨by simpa [checksOf, hp, hon] using hticking, hreports.trans hon.symm⟩

/-! ## Passes -/

variable (clock : Nat → CdsTime)

/-- How many checks the first turns of a pass make. -/
def checksUpTo (state : HkState σ) (sid : Sid) (index : Nat) : Nat :=
  if state.owner.reports sid then Receiver.countPeriodic sid (state.manager.receivers.take index) else 0

theorem served_ticking (h : state.owner.Ticking sid ticks checks) (index : Nat) :
    (state.served services clock index).owner.Ticking sid ticks
        (checks + state.checksUpTo sid index) ∧
      (state.served services clock index).owner.reports sid = state.owner.reports sid := by
  induction index with
  | zero =>
    have hnone : state.checksUpTo sid 0 = 0 := by simp [checksUpTo, Receiver.countPeriodic]
    rw [hnone]
    exact ⟨h, rfl⟩
  | succ index ih =>
    obtain ⟨hticking, hreports⟩ := ih
    rw [served_succ, turn, serveAt]
    cases hr : state.manager.receivers[index]? with
    | none =>
      have hsame : state.checksUpTo sid (index + 1) = state.checksUpTo sid index := by
        simp [checksUpTo, Receiver.countPeriodic, List.take_add_one, hr]
      rw [hsame]
      exact ⟨hticking, hreports⟩
    | some receiver =>
      obtain ⟨hnext, hstill⟩ := serve_ticking services (clock index) hticking receiver
      refine ⟨?_, hstill.trans hreports⟩
      have hsum : state.checksUpTo sid (index + 1) = state.checksUpTo sid index +
          (state.served services clock index).checksOf sid receiver := by
        cases hon : state.owner.reports sid <;>
          cases hp : receiver.isPeriodic sid <;>
            simp [checksUpTo, checksOf, Receiver.countPeriodic, List.take_add_one, hr, hreports, hon, hp]
      rw [hsum, ← Nat.add_assoc]
      exact hnext

theorem pass_receivers (state : HkState σ) :
    (state.pass services clock).2.manager.receivers = state.manager.receivers := by
  obtain ⟨served, ⟨counts, -, rfl⟩, hmanager⟩ := pass_manager services clock state
  rw [hmanager]
  rfl

theorem pass_ticking (h : state.owner.Ticking sid ticks checks) :
    (state.pass services clock).2.owner.Ticking sid ticks
      (checks + if state.owner.reports sid then Receiver.countPeriodic sid state.manager.receivers
        else 0) := by
  have hserved := (served_ticking services clock h state.manager.receivers.length).1
  rw [checksUpTo, List.take_length] at hserved
  rw [(pass_eq_served services clock state).1]
  exact hserved

end HkState

/-! ## Subscriptions and requests -/

namespace HkManager

variable {sid : Sid}

/-- A periodic subscription of the set adds one to its periodic receivers. -/
theorem countPeriodic_subscribe {manager next : HkManager} {owner after : Owner}
    {subscription : Subscription}
    (h : manager.subscribe owner subscription = (.ok (), next, after)) (sid : Sid) :
    Receiver.countPeriodic sid next.receivers = Receiver.countPeriodic sid manager.receivers +
      if subscription.delivery manager.owner = .periodicPacket sid then 1 else 0 := by
  obtain ⟨e, he⟩ | ⟨hroom, object, destination, added, hok⟩ :=
    subscribe_cases manager owner subscription
  · rw [he] at h; cases h
  · rw [hok] at h
    cases h
    rw [receivers_addReceiver hroom, Receiver.countPeriodic, List.countP_append,
      List.countP_singleton]
    simp only [Receiver.isPeriodic, decide_eq_true_eq]
    rfl

/-- A subscription that is no periodic one of the set, or fails, leaves its timer alone. -/
theorem subscribe_leaves (manager : HkManager) (owner : Owner) {subscription : Subscription}
    (h : ∀ request, subscription = .periodicPacket request → request.sid = sid →
      (manager.subscribe owner subscription).1 ≠ .ok ()) :
    (manager.subscribe owner subscription).2.2.timer? sid = owner.timer? sid ∧
      Receiver.countPeriodic sid (manager.subscribe owner subscription).2.1.receivers =
        Receiver.countPeriodic sid manager.receivers := by
  obtain ⟨e, he⟩ | ⟨-, object, destination, after, hok⟩ :=
    subscribe_cases manager owner subscription
  · rw [he]; exact ⟨rfl, rfl⟩
  have hother (request : PacketSubscription) (hs : subscription = .periodicPacket request) :
      sid ≠ request.sid := by
    rintro rfl
    exact h request hs rfl (by rw [hok])
  constructor
  · rw [hok]
    cases subscription with
    | periodicPacket request =>
      obtain ⟨set, old, -, -, rfl⟩ := subscribePeriodic_eq_ok hok
      exact Owner.timer?_modifySet_of_ne owner (hother request rfl) _
    | updatePacket request =>
      rw [subscribeUpdate_eq_ok hok]
      apply Owner.timer?_modifySet
      intro set; rfl
    | setUpdates set object queue snapshots => rw [subscribeData_eq_ok hok]
    | variableUpdates id object queue snapshots => rw [subscribeData_eq_ok hok]
  · have hnew : subscription.delivery manager.owner ≠ .periodicPacket sid := by
      intro hdelivery
      obtain ⟨request, hs, hsid⟩ := Subscription.delivery_eq_periodicPacket_iff.mp hdelivery
      exact hother request hs hsid.symm
    have hcount := countPeriodic_subscribe hok sid
    rw [if_neg hnew] at hcount
    rw [hok]
    exact hcount

theorem subscribeAll_leaves (subscriptions : List Subscription) (manager : HkManager)
    (owner : Owner)
    (h : ∀ request, .periodicPacket request ∈ subscriptions → request.sid ≠ sid) :
    (manager.subscribeAll owner subscriptions).2.2.timer? sid = owner.timer? sid ∧
      Receiver.countPeriodic sid (manager.subscribeAll owner subscriptions).2.1.receivers =
        Receiver.countPeriodic sid manager.receivers := by
  refine subscribeAll_induction (P := fun _ next after => after.timer? sid = owner.timer? sid ∧
    Receiver.countPeriodic sid next.receivers = Receiver.countPeriodic sid manager.receivers)
    ?_ [] ⟨rfl, rfl⟩
  intro _ before own subscription next after hmem hok hbefore
  have hnew : ∀ request, subscription = .periodicPacket request → request.sid = sid →
      (before.subscribe own subscription).1 ≠ .ok () :=
    fun request hs hsid => absurd hsid (h request (hs ▸ hmem))
  obtain ⟨htimer, hcount⟩ := before.subscribe_leaves own hnew
  rw [hok] at htimer hcount
  exact ⟨htimer.trans hbefore.1, hcount.trans hbefore.2⟩

theorem start_leaves (manager : HkManager) (owner : Owner) (bank : PoolBank) {setup : PoolSetup}
    (h : ∀ request, .periodicPacket request ∈ setup.subscriptions → request.sid ≠ sid) :
    (manager.start owner bank setup).2.2.1.timer? sid = owner.timer? sid ∧
      Receiver.countPeriodic sid (manager.start owner bank setup).2.1.receivers =
        Receiver.countPeriodic sid manager.receivers := by
  obtain ⟨-, hsame⟩ | ⟨-, result, started, after, hall⟩ := manager.start_cases owner bank setup
  · rw [hsame]; exact ⟨rfl, rfl⟩
  · rw [hall]
    exact subscribeAll_leaves setup.subscriptions manager owner h

end HkManager

namespace HkState

variable {σ : Type} {services : Services σ} {sid : Sid}

theorem applyChange_timer? (message : CommandMessage) (target : Sid)
    {change : Except PoolError Owner} {state : HkState σ}
    (h : ∀ owner, change = .ok owner → owner.timer? sid = state.owner.timer? sid) :
    (state.applyChange services message target change).2.owner.timer? sid =
      state.owner.timer? sid := by
  cases change with
  | error e => rfl
  | ok owner => exact h owner rfl

@[simp] theorem forward_timer? (message : CommandMessage) (notice : ChangeNotice)
    (state : HkState σ) :
    (state.forward services message notice).2.owner.timer? sid = state.owner.timer? sid := by
  unfold forward
  split <;> rfl

end HkState

namespace Owner

theorem setReporting_timer? {owner after : Owner} {target : Sid} {enabled : Bool}
    {kind : ReportKind} (h : owner.setReporting target enabled kind = .ok after) (sid : Sid) :
    after.timer? sid = owner.timer? sid := by
  obtain ⟨-, rfl⟩ := setReporting_eq_ok h
  apply timer?_modifySet
  intro set; rfl

theorem setInterval_timer? {owner after : Owner} {target sid : Sid} {seconds : Binary32}
    {kind : ReportKind} (h : owner.setInterval target seconds kind = .ok after)
    (hne : sid ≠ target) : after.timer? sid = owner.timer? sid := by
  obtain ⟨set, timer, -, -, -, rfl⟩ := setInterval_eq_ok h
  exact timer?_modifySet_of_ne owner hne _

end Owner

namespace HkState

variable {σ : Type} {services : Services σ} {sid : Sid}

/-- A message leaves the timer of a set alone, unless it is about its interval. -/
theorem handle_timer? {state : HkState σ} {message : CommandMessage}
    (h : ∀ kind seconds owner, message.command = .setInterval kind sid seconds →
      state.owner.setInterval sid seconds kind = .ok owner →
      owner.timer? sid = state.owner.timer? sid) :
    (state.handle services message).2.owner.timer? sid = state.owner.timer? sid := by
  obtain ⟨sender, command⟩ := message
  cases command with
  | setReporting kind enabled target =>
    exact applyChange_timer? _ _ fun owner hown => Owner.setReporting_timer? hown sid
  | setInterval kind target seconds =>
    refine applyChange_timer? _ _ fun owner hown => ?_
    by_cases hsame : sid = target
    · subst hsame
      exact h kind seconds owner rfl hown
    · exact Owner.setInterval_timer? hown hsame
  | requestStructure | requestReport => simp [handle]
  | setChanged | variableChanged | setSnapshot | variableSnapshot => simp [handle]
  | _ => rfl

end HkState

/-! ## Histories -/

namespace HkEvent

variable {σ : Type}

/-- The event makes no periodic subscription of the set and keeps its collection interval. -/
def LeavesInterval (sid : Sid) (state : HkState σ) : HkEvent σ → Prop
  | start _ setup => ∀ request, .periodicPacket request ∈ setup.subscriptions → request.sid ≠ sid
  | subscribe subscription =>
    ∀ request, subscription = .periodicPacket request → request.sid = sid →
      (state.manager.subscribe state.owner subscription).1 ≠ .ok ()
  | handle message =>
    ∀ kind seconds owner, message.command = .setInterval kind sid seconds →
      state.owner.setInterval sid seconds kind = .ok owner →
      owner.timer? sid = state.owner.timer? sid
  | meanwhile owner _ _ => owner.timer? sid = state.owner.timer? sid
  | clearReceivers | pass _ => True

/-- One for a pass that begins with the reports of the set switched on. -/
def enabledPasses (sid : Sid) (state : HkState σ) : HkEvent σ → Nat
  | pass _ => if state.owner.reports sid then 1 else 0
  | start .. | subscribe _ | clearReceivers | handle _ | meanwhile .. => 0

end HkEvent

namespace HkState

variable {σ : Type} (services : Services σ) {sid : Sid}

/-- What may come of a state after so many passes with the reports of the set switched on, while
its interval stays and nobody else subscribes to its periodic packets. -/
inductive Since (sid : Sid) (start : HkState σ) : Nat → HkState σ → Prop
  | refl : Since sid start 0 start
  | step {passes state} (h : Since sid start passes state) (event : HkEvent σ)
    (hleaves : event.LeavesInterval sid state) :
    Since sid start (passes + event.enabledPasses sid state) (state.step services event)

/-- The followers of a set, unless they were all removed, checked its timer on every pass. -/
def Sharing (state : HkState σ) (sid : Sid) (ticks followers passes : Nat) : Prop :=
  ∃ checks, state.owner.Ticking sid ticks checks ∧
    (Receiver.countPeriodic sid state.manager.receivers = 0 ∨
      Receiver.countPeriodic sid state.manager.receivers = followers ∧
        checks = passes * followers)

variable {services} {ticks followers passes : Nat} {state : HkState σ}

theorem Sharing.congr (h : state.Sharing sid ticks followers passes) {next : HkState σ}
    (htimer : next.owner.timer? sid = state.owner.timer? sid)
    (hcount : Receiver.countPeriodic sid next.manager.receivers =
      Receiver.countPeriodic sid state.manager.receivers) :
    next.Sharing sid ticks followers passes := by
  obtain ⟨checks, hticking, hshared⟩ := h
  exact ⟨checks, hticking.congr htimer, hcount.symm ▸ hshared⟩

theorem Sharing.pass (h : state.Sharing sid ticks followers passes) (clock : Nat → CdsTime) :
    (state.pass services clock).2.Sharing sid ticks followers
      (passes + if state.owner.reports sid then 1 else 0) := by
  obtain ⟨checks, hticking, hshared⟩ := h
  refine ⟨_, pass_ticking services clock hticking, ?_⟩
  rw [pass_receivers]
  rcases hshared with hnone | ⟨hall, hchecks⟩
  · exact .inl hnone
  · refine .inr ⟨hall, ?_⟩
    rw [hall, hchecks]
    cases state.owner.reports sid with
    | false => rfl
    | true => exact (Nat.succ_mul passes followers).symm

/-- **Every event that leaves the interval alone keeps the sharing.** -/
theorem Sharing.step (h : state.Sharing sid ticks followers passes) {event : HkEvent σ}
    (hleaves : event.LeavesInterval sid state) :
    (state.step services event).Sharing sid ticks followers
      (passes + event.enabledPasses sid state) := by
  cases event with
  | start bank setup =>
    obtain ⟨htimer, hcount⟩ := state.manager.start_leaves state.owner bank hleaves
    exact h.congr htimer hcount
  | subscribe subscription =>
    obtain ⟨htimer, hcount⟩ := state.manager.subscribe_leaves state.owner hleaves
    exact h.congr htimer hcount
  | clearReceivers =>
    obtain ⟨checks, hticking, -⟩ := h
    exact ⟨checks, hticking, .inl rfl⟩
  | handle message =>
    exact h.congr (handle_timer? hleaves) (by rw [HkState.step, handle_manager])
  | pass clock => exact h.pass clock
  | meanwhile owner after destination => exact h.congr hleaves rfl

theorem Since.sharing {start : HkState σ} (h : Since services sid start passes state)
    (hstart : start.Sharing sid ticks followers 0) :
    state.Sharing sid ticks followers passes := by
  induction h with
  | refl => exact hstart
  | step _ event hleaves ih => exact ih.step hleaves

/-! ## Sharing the ticks -/

/-- How a pass serves the periodic receivers of a set whose timer was checked so often. -/
structure SharesTicks (services : Services σ) (clock : Nat → CdsTime) (state : HkState σ)
    (sid : Sid) (ticks checks : Nat) : Prop where
  /-- While reports are off, the turn of a receiver does nothing. -/
  off : state.owner.reports sid = false →
    ∀ index receiver, state.manager.receivers[index]? = some receiver → receiver.isPeriodic sid →
      state.turn services clock index = (.ok (), state.served services clock index)
  /-- A receiver gets one attempt at a full packet, counting those that were served before. -/
  due : state.owner.reports sid = true →
    ∀ index receiver, state.manager.receivers[index]? = some receiver → receiver.isPeriodic sid →
      ticks ∣ checks + Receiver.countPeriodic sid (state.manager.receivers.take index) + 1 →
      ∃ set, (state.served services clock index).owner.set? sid = some set ∧
        Attempt services state.manager.queue state.manager.owner
          (state.manager.resolve receiver.destination) (.packet sid set .big)
          (state.served services clock index).services (state.turn services clock index).1
          (state.served services clock (index + 1)).services
  /-- On all other passes its turn sends and stores nothing. -/
  early : state.owner.reports sid = true →
    ∀ index receiver, state.manager.receivers[index]? = some receiver → receiver.isPeriodic sid →
      ¬ ticks ∣ checks + Receiver.countPeriodic sid (state.manager.receivers.take index) + 1 →
      (state.turn services clock index).1 = .ok () ∧
        (state.served services clock (index + 1)).services =
          (state.served services clock index).services

theorem resolve_of_sameTotals {a b : HkManager} (h : a.SameTotals b) (destination : QueueId) :
    b.resolve destination = a.resolve destination := by
  obtain ⟨counts, -, rfl⟩ := h
  rfl

theorem sharesTicks_of_ticking {checks : Nat} (h : state.owner.Ticking sid ticks checks)
    (clock : Nat → CdsTime) : state.SharesTicks services clock sid ticks checks := by
  have hturn {index : Nat} {receiver : Receiver}
      (hr : state.manager.receivers[index]? = some receiver) (hp : receiver.isPeriodic sid) :
      (state.served services clock index).PeriodicTurn services sid receiver.destination ticks
        (checks + state.checksUpTo sid index) (state.turn services clock index) := by
    rw [turn_of_getElem? services clock hr, serve_of_periodic services (clock index) hp]
    exact servePeriodic_turn services (served_ticking services clock h index).1 receiver.destination
  have hreports (index : Nat) := (served_ticking services clock h index).2
  refine ⟨?_, ?_, ?_⟩
  · intro hoff index receiver hr hp
    have hown := hturn hr hp
    generalize state.turn services clock index = outcome at hown
    cases hown with
    | off => rfl
    | early hon => rw [hreports, hoff] at hon; cases hon
    | due hon => rw [hreports, hoff] at hon; cases hon
  · intro hon index receiver hr hp hdue
    have hown := hturn hr hp
    have hsame := served_sameTotals services clock state index
    rw [checksUpTo, if_pos hon] at hown
    rw [served_succ, ← resolve_of_sameTotals hsame, ← hsame.queue, ← hsame.owner]
    generalize state.turn services clock index = outcome at hown ⊢
    cases hown with
    | off hoff => rw [hreports, hon] at hoff; cases hoff
    | early _ hearly => exact absurd hdue hearly
    | due _ _ _ _ hset hattempt => exact ⟨_, hset, hattempt⟩
  · intro hon index receiver hr hp hearly
    have hown := hturn hr hp
    rw [checksUpTo, if_pos hon] at hown
    rw [served_succ]
    generalize state.turn services clock index = outcome at hown ⊢
    cases hown with
    | off hoff => rw [hreports, hon] at hoff; cases hoff
    | early => exact ⟨rfl, rfl⟩
    | due _ hdue => exact absurd hdue hearly

/-- The first of one follower has nobody before it. -/
theorem countPeriodic_take_of_single {receivers : List Receiver}
    (h : Receiver.countPeriodic sid receivers = 1) {index : Nat} {receiver : Receiver}
    (hr : receivers[index]? = some receiver) (hp : receiver.isPeriodic sid) :
    Receiver.countPeriodic sid (receivers.take index) = 0 := by
  obtain ⟨hindex, rfl⟩ := List.getElem?_eq_some_iff.mp hr
  have hsplit : receivers = receivers.take index ++ receivers[index] :: receivers.drop (index + 1) := by
    rw [← List.drop_eq_getElem_cons hindex, List.take_append_drop]
  rw [hsplit, Receiver.countPeriodic, List.countP_append, List.countP_cons_of_pos hp] at h
  rw [Receiver.countPeriodic]
  omega

/-- A successful periodic subscription sets the timer of the set back. -/
theorem subscribePeriodic_ticking {manager next : HkManager} {owner after : Owner}
    {request : PacketSubscription}
    (h : manager.subscribePeriodic owner request = (.ok (), next, after)) :
    ∃ timer, after.timer? request.sid = some timer ∧ timer.Ticking timer.ticks.toNat 0 := by
  obtain ⟨set, old, hset, -, rfl⟩ := HkManager.subscribePeriodic_eq_ok h
  refine ⟨_, ?_, CollectionTimer.start_ticking request.seconds owner.period request.kind
    manager.regularFactor⟩
  rw [Owner.timer?, Owner.set?_modifySet, hset]
  rfl

theorem sharesTicks_of_none
    (hnone : Receiver.countPeriodic sid state.manager.receivers = 0) (clock : Nat → CdsTime)
    (checks : Nat) : state.SharesTicks services clock sid ticks checks := by
  have hno {index : Nat} {receiver : Receiver}
      (hr : state.manager.receivers[index]? = some receiver) : ¬ receiver.isPeriodic sid :=
    List.countP_eq_zero.mp hnone receiver (List.mem_of_getElem? hr)
  exact ⟨fun _ _ _ hr hp => absurd hp (hno hr), fun _ _ _ hr hp => absurd hp (hno hr),
    fun _ _ _ hr hp => absurd hp (hno hr)⟩

/-- **Periodic receivers of a set share its ticks.** After a periodic subscription of the set, and
as long as nobody makes another one or changes the interval, its receivers take turns in the order
of the list on all passes with reports on, and every `ticks`-th turn brings a packet. So each
receiver gets one on every `ticks`-th pass if it is the only one, or if the interval is one tick. -/
theorem periodic_receivers_share_ticks {before : HkState σ} {request : PacketSubscription}
    {manager : HkManager} {owner : Owner}
    (hsubscribe : before.manager.subscribePeriodic before.owner request =
      (.ok (), manager, owner))
    (hsince : Since services request.sid ⟨manager, owner, before.services⟩ passes state)
    (clock : Nat → CdsTime) :
    let followers := Receiver.countPeriodic request.sid manager.receivers
    ∃ timer, owner.timer? request.sid = some timer ∧ 0 < timer.ticks.toNat ∧
      (∃ current, state.owner.timer? request.sid = some current ∧
        current.ticks = timer.ticks) ∧
      state.SharesTicks services clock request.sid timer.ticks.toNat (passes * followers) ∧
      (followers = 1 ∨ timer.ticks = 1 →
        ∀ index receiver, state.manager.receivers[index]? = some receiver →
          receiver.isPeriodic request.sid →
          (timer.ticks.toNat ∣ passes * followers +
              Receiver.countPeriodic request.sid (state.manager.receivers.take index) + 1 ↔
            timer.ticks.toNat ∣ passes + 1)) := by
  intro followers
  obtain ⟨timer, htimer, hticking⟩ := subscribePeriodic_ticking hsubscribe
  have hstart : (HkState.mk manager owner before.services).Sharing request.sid timer.ticks.toNat
      followers 0 := ⟨0, ⟨timer, htimer, hticking⟩, .inr ⟨rfl, (Nat.zero_mul _).symm⟩⟩
  obtain ⟨checks, ⟨current, hcurrent, hnow⟩, hshared⟩ := hsince.sharing hstart
  refine ⟨timer, htimer, hticking.ticks_pos,
    ⟨current, hcurrent, UInt32.toNat_inj.mp hnow.ticks_eq⟩, ?_, ?_⟩
  · rcases hshared with hnone | ⟨-, rfl⟩
    · exact sharesTicks_of_none hnone clock _
    · exact sharesTicks_of_ticking ⟨current, hcurrent, hnow⟩ clock
  · intro halone index receiver hr hp
    rcases halone with hone | hone
    · rcases hshared with hnone | ⟨hall, -⟩
      · exact absurd hp (List.countP_eq_zero.mp hnone receiver (List.mem_of_getElem? hr))
      · rw [countPeriodic_take_of_single (hall.trans hone) hr hp, hone, Nat.mul_one, Nat.add_zero]
    · rw [hone]
      exact iff_of_true (Nat.one_dvd _) (Nat.one_dvd _)

/-- Two receivers at two ticks, one pass after the second one subscribed. -/
theorem two_receivers_share_ticks :
    ∃ start state : HkState Facilities,
      Receiver.countPeriodic ⟨7, 1⟩ start.manager.receivers = 2 ∧
      (start.owner.timer? ⟨7, 1⟩).map CollectionTimer.ticks = some 2 ∧
      Since Facilities.services ⟨7, 1⟩ start 1 state ∧
      state.SharesTicks Facilities.services (fun _ => ⟨24000, 0⟩) ⟨7, 1⟩ 2 2 := by
  let manager := (HkManager.create .empty 7 3 none {}).1
  let set := Dataset.creator manager.pool 1 0
  let owner : Owner := ⟨1000, [(⟨7, 1⟩, set)], [], fun _ => false, []⟩
  let request (queue : QueueId) : PacketSubscription :=
    ⟨⟨7, 1⟩, true, ⟨0x40000000⟩, .diagnostics, queue⟩
  let first := manager.subscribePeriodic owner (request 1)
  let before : HkState Facilities := ⟨first.2.1, first.2.2, .ofConfig ⟨[]⟩⟩
  let second := before.manager.subscribePeriodic before.owner (request 2)
  have hsubscribe : second = (.ok (), second.2) := rfl
  let start : HkState Facilities := ⟨second.2.1, second.2.2, before.services⟩
  have hsince : Since Facilities.services ⟨7, 1⟩ start 1
      (start.step Facilities.services (.pass fun _ => ⟨24000, 0⟩)) :=
    Since.refl.step (.pass fun _ => ⟨24000, 0⟩) trivial
  have hticks : (start.owner.timer? ⟨7, 1⟩).map CollectionTimer.ticks = some 2 := by
    decide +kernel
  obtain ⟨timer, htimer, -, -, hshares, -⟩ :=
    periodic_receivers_share_ticks hsubscribe hsince fun _ => ⟨24000, 0⟩
  have htwo : timer.ticks = 2 := by
    have hsame : (start.owner.timer? ⟨7, 1⟩).map CollectionTimer.ticks = some timer.ticks :=
      congrArg _ htimer
    exact (Option.some.inj (hticks.symm.trans hsame)).symm
  rw [htwo] at hshares
  exact ⟨start, _, rfl, hticks, hsince, hshares⟩

/-- **Two receivers of a set may both miss its interval.** At two ticks, the second one gets a
packet on the first pass already, and the first one has none after the second. -/
theorem two_receivers_out_of_step :
    ∃ start : HkState Facilities,
      (start.owner.timer? ⟨7, 1⟩).map CollectionTimer.ticks = some 2 ∧
      start.owner.reports ⟨7, 1⟩ = true ∧
      start.manager.receivers = [⟨noObject, .periodicPacket ⟨7, 1⟩, 1⟩,
        ⟨noObject, .periodicPacket ⟨7, 1⟩, 2⟩] ∧
      (start.pass Facilities.services fun _ => ⟨24000, 0⟩).2.services.hub.pending 2 =
        [⟨3, .report .diagnostics ⟨7, 1⟩ ⟨0, 0⟩⟩] ∧
      ((start.pass Facilities.services fun _ => ⟨24000, 0⟩).2.pass
        Facilities.services fun _ => ⟨24000, 0⟩).2.services.hub.pending 1 = [] := by
  let manager := (HkManager.create .empty 7 3 none {}).1
  let set := Dataset.creator manager.pool 1 0
  let owner : Owner := ⟨1000, [(⟨7, 1⟩, set)], [], fun _ => false, []⟩
  let hub := ((QueueHub.empty.create 4).2.create 4).2
  let request (queue : QueueId) : Subscription :=
    .periodicPacket ⟨⟨7, 1⟩, true, ⟨0x40000000⟩, .diagnostics, queue⟩
  let subscribed := manager.subscribeAll owner [request 1, request 2]
  exact ⟨⟨subscribed.2.1, subscribed.2.2, .ofConfig ⟨[⟨4, 16⟩]⟩, hub, .empty⟩, by decide +kernel,
    by decide +kernel, by decide +kernel, by decide +kernel, by decide +kernel⟩

end HkState

end Housekeeper
