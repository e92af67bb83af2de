import Housekeeper.Manager.Request

/-!
# Histories of a manager

`HkEvent` is one thing that happens to a manager at work, and `HkState.run` goes through a history
of such events. Services and owner are arbitrary: adds and sends may fail at any time, and between
its operations the owner and everybody else do as they like (`HkEvent.meanwhile`).

Requests leave the manager alone (`handle_manager`), and what an accepted command does to the owner
is said by `Owner.setReporting_eq_ok` and `Owner.setInterval_eq_ok`. A pass changes only how many
update subscriptions have yet to see a change (`HkManager.SameTotals`), and forgets that at its end.
-/

namespace Housekeeper

inductive HkEvent (σ : Type) where
  | start (bank : PoolBank) (setup : PoolSetup)
  | subscribe (subscription : Subscription)
  | clearReceivers
  | handle (message : CommandMessage)
  | pass (clock : Nat → CdsTime)
  /-- The owner works on its data, others use the services, the destination is set anew. -/
  | meanwhile (owner : Owner) (services : σ) (destination : QueueId)

namespace HkState

variable {σ : Type}

/-- The state after an event, whether the operation succeeds or not. -/
def step (services : Services σ) (state : HkState σ) : HkEvent σ → HkState σ
  | .start bank setup =>
    let (_, manager, owner, _) := state.manager.start state.owner bank setup
    ⟨manager, owner, state.services⟩
  | .subscribe subscription =>
    let (_, manager, owner) := state.manager.subscribe state.owner subscription
    ⟨manager, owner, state.services⟩
  | .clearReceivers => ⟨state.manager.clearReceivers, state.owner, state.services⟩
  | .handle message => (state.handle services message).2
  | .pass clock => (state.pass services clock).2
  | .meanwhile owner after destination => ⟨state.manager.withDestination destination, owner, after⟩

def run (services : Services σ) (events : List (HkEvent σ)) (state : HkState σ) : HkState σ :=
  events.foldl (step services) state

/-- What every event keeps holds after any history. -/
theorem run_induction {services : Services σ} {P : HkState σ → Prop}
    (hstep : ∀ state event, P state → P (state.step services event)) {start : HkState σ}
    (h : P start) (events : List (HkEvent σ)) : P (start.run services events) := by
  induction events generalizing start with
  | nil => exact h
  | cons event rest ih => exact ih (hstep start event h)

end HkState

/-! ## Requests -/

namespace Owner

theorem set?_of_getSet {owner : Owner} {sid : Sid} {set : Dataset} (h : owner.getSet sid = .ok set) :
    owner.set? sid = some set := by
  unfold getSet at h
  split at h
  next hset => cases h; exact hset
  next => cases h

theorem getSetOfKind_eq_ok {owner : Owner} {sid : Sid} {kind : ReportKind} {set : Dataset}
    (h : owner.getSetOfKind sid kind = .ok set) : owner.set? sid = some set ∧ set.kind = kind := by
  unfold getSetOfKind at h
  split at h
  · cases h
  next found hget =>
    split at h
    next hkind => cases h; exact ⟨set?_of_getSet hget, hkind⟩
    next => cases h

theorem setReporting_eq_ok {owner after : Owner} {sid : Sid} {enabled : Bool} {kind : ReportKind}
    (h : owner.setReporting sid enabled kind = .ok after) :
    (∃ set, owner.set? sid = some set ∧ set.kind = kind) ∧
      after = owner.modifySet sid fun set => set.withReporting enabled := by
  unfold setReporting at h
  split at h
  · cases h
  next set hget =>
    split at h
    next => cases h
    next => cases h; exact ⟨⟨set, getSetOfKind_eq_ok hget⟩, rfl⟩

theorem setInterval_eq_ok {owner after : Owner} {sid : Sid} {seconds : Binary32}
    {kind : ReportKind} (h : owner.setInterval sid seconds kind = .ok after) :
    ∃ set timer, owner.set? sid = some set ∧ set.kind = kind ∧ set.timer = some timer ∧
      after = owner.modifySet sid fun set => set.withTimer (timer.setInterval seconds) := by
  unfold setInterval at h
  split at h
  · cases h
  next set hget =>
    split at h
    next => cases h
    next timer htimer =>
      cases h
      obtain ⟨hset, hkind⟩ := getSetOfKind_eq_ok hget
      exact ⟨set, timer, hset, hkind, htimer, rfl⟩

end Owner

namespace HkState

variable {σ : Type} (services : Services σ) (message : CommandMessage)

@[simp] theorem applyChange_manager (sid : Sid) (change : Except PoolError Owner)
    (state : HkState σ) :
    (state.applyChange services message sid change).2.manager = state.manager := by
  cases change <;> rfl

@[simp] theorem answerReport_manager (sid : Sid) (sent : Except PoolError Unit × σ)
    (state : HkState σ) :
    (state.answerReport services message sid sent).2.manager = state.manager := by
  obtain ⟨_ | _, _⟩ := sent <;> rfl

theorem applyChange_result (sid : Sid) (change : Except PoolError Owner) (state : HkState σ) :
    (state.applyChange services message sid change).1 = change.map fun _ => () := by
  cases change <;> rfl

theorem answerReport_result (sid : Sid) (sent : Except PoolError Unit × σ) (state : HkState σ) :
    (state.answerReport services message sid sent).1 = sent.1 := by
  obtain ⟨_ | _, _⟩ := sent <;> rfl

@[simp] theorem answerReport_owner (sid : Sid) (sent : Except PoolError Unit × σ)
    (state : HkState σ) :
    (state.answerReport services message sid sent).2.owner = state.owner := by
  obtain ⟨_ | _, _⟩ := sent <;> rfl

@[simp] theorem forward_manager (notice : ChangeNotice) (state : HkState σ) :
    (state.forward services message notice).2.manager = state.manager := by
  unfold forward
  split <;> rfl

theorem handle_manager (state : HkState σ) :
    (state.handle services message).2.manager = state.manager := by
  unfold handle
  split <;> simp

end HkState

/-! ## Passes -/

namespace UpdateCount

/-- The part of a count that a pass leaves alone. -/
def subscribed (count : UpdateCount) : DataId × UInt8 := (count.data, count.total)

end UpdateCount

namespace HkManager

/-- They differ at most in how many have yet to see a change. -/
def SameTotals (before after : HkManager) : Prop :=
  ∃ counts, counts.map UpdateCount.subscribed = before.counts.map UpdateCount.subscribed ∧
    after = { before with counts }

theorem SameTotals.refl (manager : HkManager) : SameTotals manager manager :=
  ⟨manager.counts, rfl, rfl⟩

theorem SameTotals.trans {a b c : HkManager} (hab : SameTotals a b) (hbc : SameTotals b c) :
    SameTotals a c := by
  obtain ⟨counts, hb, rfl⟩ := hab
  obtain ⟨counts', hc, rfl⟩ := hbc
  exact ⟨counts', hc.trans hb, rfl⟩

theorem SameTotals.queue {a b : HkManager} (h : SameTotals a b) : b.queue = a.queue := by
  obtain ⟨_, _, rfl⟩ := h
  rfl

theorem SameTotals.owner {a b : HkManager} (h : SameTotals a b) : b.owner = a.owner := by
  obtain ⟨_, _, rfl⟩ := h
  rfl

theorem SameTotals.total {a b : HkManager} (h : SameTotals a b) (data : DataId) :
    (b.count? data).map UpdateCount.subscribed = (a.count? data).map UpdateCount.subscribed := by
  obtain ⟨counts, hmap, rfl⟩ := h
  have hfind (xs : List UpdateCount) :
      (xs.find? fun count => count.data == data).map UpdateCount.subscribed =
        (xs.map UpdateCount.subscribed).find? fun pair => pair.1 == data := by
    rw [List.find?_map]
    rfl
  simp only [count?]
  rw [hfind, hfind, hmap]

theorem setWaiting_sameTotals (manager : HkManager) (data : DataId) (waiting : UInt8) :
    SameTotals manager (manager.setWaiting data waiting) := by
  refine ⟨_, ?_, rfl⟩
  apply map_updateFirst
  intro count _; rfl

theorem countDown_sameTotals (manager : HkManager) (data : DataId) :
    SameTotals manager (manager.countDown data).2 := by
  unfold countDown
  split
  · exact .refl manager
  · split
    · exact .refl manager
    · split <;> exact setWaiting_sameTotals ..

theorem restartCounts_sameTotals (manager : HkManager) :
    SameTotals manager manager.restartCounts := by
  refine ⟨_, ?_, rfl⟩
  rw [List.map_map]
  rfl

end HkManager

namespace HkState

variable {σ : Type} {services : Services σ} {now : CdsTime}

theorem servePeriodic_manager (services : Services σ) (sid : Sid) (destination : QueueId)
    (state : HkState σ) :
    (state.servePeriodic services sid destination).2.manager = state.manager := by
  unfold servePeriodic
  repeat' (first | rfl | split)

/-! An update subscription is served in one of three ways. -/

theorem serveUpdate_of_error {delivery : Delivery} {destination : QueueId} {state : HkState σ}
    {e : PoolError} (h : state.owner.getData delivery.data = .error e) :
    state.serveUpdate services now delivery destination = (.error e, state) := by
  simp only [serveUpdate, h]

theorem serveUpdate_of_unchanged {delivery : Delivery} {destination : QueueId} {state : HkState σ}
    {data : OwnedData} (h : state.owner.getData delivery.data = .ok data)
    (hc : data.changed = false) :
    state.serveUpdate services now delivery destination = (.ok (), state) := by
  simp [serveUpdate, h, hc]

theorem serveUpdate_of_changed {delivery : Delivery} {destination : QueueId} {state : HkState σ}
    {data : OwnedData} (h : state.owner.getData delivery.data = .ok data)
    (hc : data.changed = true) :
    state.serveUpdate services now delivery destination =
      ((announce services now state.manager delivery data destination state.services).1,
       ⟨(state.manager.countDown delivery.data).2,
        if (state.manager.countDown delivery.data).1 then state.owner.clearChanged delivery.data
        else state.owner,
        (announce services now state.manager delivery data destination state.services).2⟩) := by
  simp only [serveUpdate, h, hc, if_true]

theorem serve_of_isUpdate {receiver : Receiver} (h : receiver.delivery.isUpdate)
    (state : HkState σ) :
    state.serve services now receiver =
      state.serveUpdate services now receiver.delivery receiver.destination := by
  unfold serve
  split
  next hp => rw [hp] at h; cases h
  next => rfl

theorem serve_sameTotals (services : Services σ) (now : CdsTime) (receiver : Receiver)
    (state : HkState σ) :
    state.manager.SameTotals (state.serve services now receiver).2.manager := by
  by_cases hu : receiver.delivery.isUpdate
  · rw [serve_of_isUpdate hu]
    cases hd : state.owner.getData receiver.delivery.data with
    | error e => rw [serveUpdate_of_error hd]; exact .refl _
    | ok data =>
      cases hc : data.changed with
      | false => rw [serveUpdate_of_unchanged hd hc]; exact .refl _
      | true => rw [serveUpdate_of_changed hd hc]; exact HkManager.countDown_sameTotals ..
  · unfold serve
    split
    · rw [servePeriodic_manager]; exact .refl _
    next hn =>
      cases hd : receiver.delivery with
      | periodicPacket sid => exact absurd hd (hn sid)
      | _ => simp [hd, Delivery.isUpdate] at hu

theorem serveAll_sameTotals (services : Services σ) (clock : Nat → CdsTime)
    (receivers : List Receiver) (status : Except PoolError Unit) (state : HkState σ) :
    state.manager.SameTotals (serveAll services clock receivers status state).2.manager := by
  induction receivers generalizing clock status state with
  | nil => exact .refl _
  | cons receiver rest ih =>
    have h := serve_sameTotals services (clock 0) receiver state
    unfold serveAll
    dsimp only
    split
    next next hs => rw [hs] at h; exact h.trans (ih _ status next)
    next e next hs => rw [hs] at h; exact h.trans (ih _ (.error e) next)

theorem pass_manager (services : Services σ) (clock : Nat → CdsTime) (state : HkState σ) :
    ∃ served, state.manager.SameTotals served ∧
      (state.pass services clock).2.manager = served.restartCounts :=
  ⟨_, serveAll_sameTotals services clock state.manager.receivers (.ok ()) state, rfl⟩

end HkState

end Housekeeper
