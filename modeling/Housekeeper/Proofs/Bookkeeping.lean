import Housekeeper.Proofs.History
import Mathlib.Data.List.Perm.Subperm

/-!
# Subscriptions and their counts

`HkManager.followers` is the number of receivers that are served when some data change.
`HkManager.Tallied` says that the counts of a manager are those numbers; it holds in the middle of
a pass as well, where fewer may be waiting. `HkManager.Rested` says that everybody waits.

`subscribe_of_room` is the argument behind both: a subscription is either refused before anything is
touched, since the owner has not what it takes (`Owner.Lacks`), or there is room for the receiver
and, if it needs one, for a new count. So `pushReceiver` never fails after a set was prepared, and
`countUpdate` never drops a count. What every accepted subscription keeps is kept by any number of
them (`subscribeAll_induction`), and by the set-up of a pool (`start_cases`).
-/

namespace Housekeeper

namespace Receiver

/-- Is it served when the data change? -/
def follows (receiver : Receiver) (data : DataId) : Bool :=
  receiver.delivery.isUpdate && receiver.delivery.data == data

theorem follows_iff {receiver : Receiver} {data : DataId} :
    receiver.follows data ↔ receiver.delivery.isUpdate ∧ receiver.delivery.data = data := by
  simp [follows]

end Receiver

namespace Subscription

/-- What the new receiver gets, if the manager belongs to the given owner. -/
def delivery (owner : ObjectId) : Subscription → Delivery
  | periodicPacket request => .periodicPacket request.sid
  | updatePacket request => .updatePacket request.sid
  | setUpdates set _ _ snapshots =>
    if snapshots then .snapshot (.ofSet ⟨owner, set⟩) else .notice (.ofSet ⟨owner, set⟩)
  | variableUpdates id _ _ snapshots =>
    if snapshots then .snapshot (.ofVariable id) else .notice (.ofVariable id)

theorem delivery_eq_periodicPacket_iff {subscription : Subscription} {owner : ObjectId}
    {sid : Sid} : subscription.delivery owner = .periodicPacket sid ↔
      ∃ request, subscription = .periodicPacket request ∧ request.sid = sid := by
  cases subscription with
  | periodicPacket request => simp [delivery]
  | updatePacket request => simp [delivery]
  | setUpdates set object queue snapshots => cases snapshots <;> simp [delivery]
  | variableUpdates id object queue snapshots => cases snapshots <;> simp [delivery]

end Subscription

namespace HkManager

/-- How many receivers are served when the data change. -/
def followers (manager : HkManager) (data : DataId) : Nat :=
  manager.receivers.countP fun receiver => receiver.follows data

structure Tallied (manager : HkManager) : Prop where
  receivers_le : manager.receivers.length ≤ maxReceivers
  counts_le : manager.counts.length ≤ maxUpdateCounts
  distinct : (manager.counts.map UpdateCount.data).Nodup
  isSome_iff : ∀ data, (manager.count? data).isSome ↔ 0 < manager.followers data
  total_eq : ∀ data count, manager.count? data = some count →
    count.total.toNat = manager.followers data

/-- Nobody has seen a change yet. -/
def Rested (manager : HkManager) : Prop :=
  ∀ data count, manager.count? data = some count → count.waiting = count.total

/-! ## Counts -/

theorem followers_le (manager : HkManager) (data : DataId) :
    manager.followers data ≤ manager.receivers.length := List.countP_le_length

theorem find?_data_of_mem {counts : List UpdateCount} (hd : (counts.map UpdateCount.data).Nodup)
    {count : UpdateCount} (h : count ∈ counts) :
    (counts.find? fun other => other.data == count.data) = some count := by
  induction counts with
  | nil => cases h
  | cons head rest ih =>
    obtain ⟨hne, hd⟩ := List.nodup_cons.mp hd
    rcases List.mem_cons.mp h with rfl | h
    · simp
    · have hhead : head.data ≠ count.data := fun e => hne (e ▸ List.mem_map_of_mem h)
      simp [hhead, ih hd h]

theorem Tallied.count?_of_mem {manager : HkManager} (h : manager.Tallied) {count : UpdateCount}
    (hc : count ∈ manager.counts) : manager.count? count.data = some count :=
  find?_data_of_mem h.distinct hc

theorem saturatingSucc_toNat {value : UInt8} (h : value.toNat < 255) :
    (saturatingSucc value).toNat = value.toNat + 1 := by
  have hne : value ≠ 255 := by rintro rfl; exact absurd h (by decide)
  rw [saturatingSucc, if_neg hne, UInt8.toNat_add]
  exact Nat.mod_eq_of_lt (by simp; omega)

theorem countUpdate_of_some {manager : HkManager} {data : DataId} {count : UpdateCount}
    (h : manager.count? data = some count) :
    manager.countUpdate data =
      { manager with
        counts := updateFirst (fun count => count.data == data)
          (fun count => ⟨data, saturatingSucc count.total, saturatingSucc count.waiting⟩)
          manager.counts } := by
  simp only [countUpdate, h]

theorem countUpdate_of_none {manager : HkManager} {data : DataId}
    (h : manager.count? data = none) (hroom : manager.counts.length < maxUpdateCounts) :
    manager.countUpdate data = { manager with counts := manager.counts ++ [⟨data, 1, 1⟩] } := by
  simp only [countUpdate, h, hroom, if_true]

/-- One more follower of the data, the first or another one. -/
def succCount (data : DataId) : Option UpdateCount → UpdateCount
  | some count => ⟨data, saturatingSucc count.total, saturatingSucc count.waiting⟩
  | none => ⟨data, 1, 1⟩

theorem count?_countUpdate {manager : HkManager} {data : DataId}
    (h : (manager.count? data).isSome ∨ manager.counts.length < maxUpdateCounts) (other : DataId) :
    (manager.countUpdate data).count? other =
      if other = data then some (succCount data (manager.count? data))
      else manager.count? other := by
  have hne (hother : ¬ other = data) : (data == other) = false := by simpa using Ne.symm hother
  cases hc : manager.count? data with
  | some count =>
    rw [countUpdate_of_some hc]
    by_cases hother : other = data
    · subst hother
      rw [if_pos rfl]
      exact (find?_updateFirst (by simp) _).trans (congrArg (Option.map _) hc)
    · rw [if_neg hother]
      apply find?_updateFirst_of_disjoint
      intro x hx
      rw [eq_of_beq hx]
      exact ⟨hne hother, hne hother⟩
  | none =>
    have hroom : manager.counts.length < maxUpdateCounts := by simpa [hc] using h
    rw [countUpdate_of_none hc hroom, count?, List.find?_append]
    by_cases hother : other = data
    · subst hother
      have hnone : (manager.counts.find? fun count => count.data == other) = none := hc
      simp [hnone, succCount]
    · rw [if_neg hother, count?]
      simp [hne hother]

theorem count?_setWaiting (manager : HkManager) (data other : DataId) (waiting : UInt8) :
    (manager.setWaiting data waiting).count? other =
      if other = data then
        (manager.count? data).map fun count => ⟨count.data, count.total, waiting⟩
      else manager.count? other := by
  simp only [setWaiting, count?]
  split
  next hother =>
    subst hother
    apply find?_updateFirst
    intro count h; exact h
  next hother =>
    apply find?_updateFirst_of_disjoint
    intro x hx
    have : (x.data == other) = false := by
      rw [eq_of_beq hx]; simpa using Ne.symm hother
    exact ⟨this, this⟩

theorem count?_restartCounts (manager : HkManager) (data : DataId) :
    manager.restartCounts.count? data =
      (manager.count? data).map fun count => ⟨count.data, count.total, count.total⟩ := by
  simp only [restartCounts, count?, List.find?_map]
  rfl

/-! ## Passes keep the tally -/

theorem Tallied.of_sameTotals {a b : HkManager} (h : a.Tallied) (hab : SameTotals a b) :
    b.Tallied := by
  have htotal := hab.total
  obtain ⟨counts, hmap, rfl⟩ := hab
  have hdata : counts.map UpdateCount.data = a.counts.map UpdateCount.data := by
    simpa [Function.comp_def, UpdateCount.subscribed] using congrArg (List.map Prod.fst) hmap
  have hlength : counts.length = a.counts.length := by
    simpa using congrArg List.length hmap
  refine ⟨h.receivers_le, hlength ▸ h.counts_le, hdata ▸ h.distinct, ?_, ?_⟩
  · intro data
    have hsome := congrArg Option.isSome (htotal data)
    rw [Option.isSome_map, Option.isSome_map] at hsome
    rw [hsome]
    exact h.isSome_iff data
  · intro data count hc
    have hcount := htotal data
    rw [hc] at hcount
    obtain ⟨old, hold, heq⟩ := Option.map_eq_some_iff.mp hcount.symm
    have htot : old.total = count.total := congrArg Prod.snd heq
    rw [← htot]
    exact h.total_eq data old hold

theorem restartCounts_rested (manager : HkManager) : manager.restartCounts.Rested := by
  intro data count hc
  rw [count?_restartCounts] at hc
  obtain ⟨old, -, rfl⟩ := Option.map_eq_some_iff.mp hc
  rfl

/-! ## Subscriptions keep the tally -/

theorem followers_withReceiver (manager : HkManager) (receiver : Receiver) (data : DataId) :
    (manager.withReceiver receiver).followers data =
      manager.followers data + if receiver.follows data then 1 else 0 := by
  simp [followers, withReceiver, List.countP_cons]

@[simp] theorem followers_countUpdate (manager : HkManager) (data other : DataId) :
    (manager.countUpdate data).followers other = manager.followers other := rfl

theorem hasRoom_iff {manager : HkManager} {delivery : Delivery} :
    manager.hasRoom delivery ↔ manager.receivers.length < maxReceivers ∧
      (delivery.isUpdate → (manager.count? delivery.data).isSome ∨
        manager.counts.length < maxUpdateCounts) := by
  cases hu : delivery.isUpdate <;> simp [hasRoom, hu]

/-- There are no more counts than receivers, so that room for a receiver is room for its count. -/
theorem Tallied.hasRoom_iff_length {manager : HkManager} (h : manager.Tallied)
    (delivery : Delivery) : manager.hasRoom delivery ↔ manager.receivers.length < maxReceivers := by
  have hsub : manager.counts.map UpdateCount.data ⊆
      manager.receivers.map fun receiver => receiver.delivery.data := by
    intro data hmem
    obtain ⟨count, hcount, rfl⟩ := List.mem_map.mp hmem
    have hsome : (manager.count? count.data).isSome := by rw [h.count?_of_mem hcount]; rfl
    obtain ⟨receiver, hreceiver, hfollows⟩ :=
      List.countP_pos_iff.mp ((h.isSome_iff count.data).mp hsome)
    exact List.mem_map.mpr ⟨receiver, hreceiver, (Receiver.follows_iff.mp hfollows).2⟩
  have hle : manager.counts.length ≤ manager.receivers.length := by
    simpa using (List.subperm_of_subset h.distinct hsub).length_le
  rw [hasRoom_iff]
  refine ⟨And.left, fun hlt => ⟨hlt, fun _ => .inr ?_⟩⟩
  exact Nat.lt_of_le_of_lt hle hlt

theorem addReceiver_of_hasRoom {manager : HkManager} {delivery : Delivery}
    (h : manager.hasRoom delivery) (object : ObjectId) (destination : QueueId) :
    manager.addReceiver object delivery destination =
      (.ok (),
        if delivery.isUpdate then
          (manager.withReceiver ⟨object, delivery, destination⟩).countUpdate delivery.data
        else manager.withReceiver ⟨object, delivery, destination⟩) := by
  simp only [addReceiver, pushReceiver, (hasRoom_iff.mp h).1, if_true]

theorem length_countUpdate_le {manager : HkManager} {data : DataId}
    (h : manager.counts.length ≤ maxUpdateCounts) :
    (manager.countUpdate data).counts.length ≤ maxUpdateCounts := by
  unfold countUpdate
  split
  · simpa using h
  · split
    · simp only [List.length_append, List.length_singleton]; omega
    · exact h

theorem countUpdate_distinct {manager : HkManager} {data : DataId}
    (h : (manager.counts.map UpdateCount.data).Nodup) :
    ((manager.countUpdate data).counts.map UpdateCount.data).Nodup := by
  unfold countUpdate
  split
  · rw [map_updateFirst]
    · exact h
    · intro count hc; exact (eq_of_beq hc).symm
  next hnone =>
    split
    · rw [List.map_append, List.nodup_append]
      refine ⟨h, by simp, ?_⟩
      intro a ha b hb
      obtain ⟨count, hc, rfl⟩ := List.mem_map.mp ha
      obtain rfl : b = data := by simpa using hb
      simpa using List.find?_eq_none.mp hnone count hc
    · exact h

/-- A receiver that follows nothing needs no count. -/
theorem Tallied.withReceiver {manager : HkManager} (h : manager.Tallied) {receiver : Receiver}
    (hlt : manager.receivers.length < maxReceivers) (hu : receiver.delivery.isUpdate = false) :
    (manager.withReceiver receiver).Tallied := by
  have hsame (data : DataId) :
      (manager.withReceiver receiver).followers data = manager.followers data := by
    rw [followers_withReceiver]; simp [Receiver.follows, hu]
  refine ⟨?_, h.counts_le, h.distinct, ?_, ?_⟩
  · simpa [HkManager.withReceiver] using Nat.succ_le_of_lt hlt
  · intro data; rw [hsame]; exact h.isSome_iff data
  · intro data count hc; rw [hsame]; exact h.total_eq data count hc

/-- A receiver that follows data is counted with it. -/
theorem Tallied.countUpdate {manager : HkManager} (h : manager.Tallied) {receiver : Receiver}
    (hlt : manager.receivers.length < maxReceivers) (hu : receiver.delivery.isUpdate)
    (hcount : (manager.count? receiver.delivery.data).isSome ∨
      manager.counts.length < maxUpdateCounts) :
    ((manager.withReceiver receiver).countUpdate receiver.delivery.data).Tallied := by
  have hfind (other : DataId) :
      ((manager.withReceiver receiver).countUpdate receiver.delivery.data).count? other =
        if other = receiver.delivery.data then
          some (succCount receiver.delivery.data (manager.count? receiver.delivery.data))
        else manager.count? other :=
    count?_countUpdate hcount other
  have hfollow (data : DataId) : receiver.follows data ↔ data = receiver.delivery.data := by
    rw [Receiver.follows_iff, eq_comm (a := data)]; simp [hu]
  refine ⟨?_, length_countUpdate_le h.counts_le, countUpdate_distinct h.distinct, ?_, ?_⟩
  · show (manager.receivers ++ [receiver]).length ≤ maxReceivers
    rw [List.length_append]
    exact Nat.succ_le_of_lt hlt
  · intro data
    rw [hfind, followers_countUpdate, followers_withReceiver]
    by_cases hd : data = receiver.delivery.data
    · simp [hd, (hfollow _).mpr rfl]
    · simpa [hd, mt (hfollow data).mp hd] using h.isSome_iff data
  · intro data count hc
    rw [hfind] at hc
    rw [followers_countUpdate, followers_withReceiver]
    by_cases hd : data = receiver.delivery.data
    · subst hd
      rw [if_pos rfl] at hc
      rw [if_pos ((hfollow _).mpr rfl)]
      cases hold : manager.count? receiver.delivery.data with
      | none =>
        have hzero : ¬ 0 < manager.followers receiver.delivery.data :=
          mt (h.isSome_iff receiver.delivery.data).mpr (by simp [hold])
        rw [hold] at hc
        cases hc
        show 1 = _
        omega
      | some old =>
        have htotal := h.total_eq _ old hold
        have hle := manager.followers_le receiver.delivery.data
        rw [hold] at hc
        cases hc
        show (saturatingSucc old.total).toNat = _
        rw [saturatingSucc_toNat (by unfold maxReceivers at hlt; omega), htotal]
    · rw [if_neg hd] at hc
      rw [if_neg (mt (hfollow data).mp hd)]
      exact h.total_eq data count hc

/-- The first follower waits with the count's start, a later one with the others. -/
theorem Rested.countUpdate {manager : HkManager} (h : manager.Rested) {data : DataId}
    (hcount : (manager.count? data).isSome ∨ manager.counts.length < maxUpdateCounts) :
    (manager.countUpdate data).Rested := by
  intro other count hc
  rw [count?_countUpdate hcount] at hc
  split at hc
  next =>
    cases hold : manager.count? data with
    | none =>
      rw [hold] at hc
      cases hc
      rfl
    | some old =>
      rw [hold] at hc
      cases hc
      show saturatingSucc old.waiting = saturatingSucc old.total
      rw [h data old hold]
  next => exact h other count hc

/-! ## Between two passes -/

/-- The tally is right and everybody waits. -/
def Settled (manager : HkManager) : Prop := manager.Tallied ∧ manager.Rested

theorem Settled.of_empty {manager : HkManager} (hr : manager.receivers = [])
    (hc : manager.counts = []) : manager.Settled := by
  have hnone (data : DataId) : manager.count? data = none := by simp [count?, hc]
  refine ⟨⟨by simp [hr], by simp [hc], by simp [hc], ?_, ?_⟩, ?_⟩
  · intro data; simp [hnone, followers, hr]
  · intro data count h; rw [hnone] at h; cases h
  · intro data count h; rw [hnone] at h; cases h

/-- Only the two lists matter. -/
theorem Settled.congr {a b : HkManager} (h : a.Settled) (hr : b.receivers = a.receivers)
    (hc : b.counts = a.counts) : b.Settled := by
  have hcount : b.count? = a.count? := by funext data; simp only [count?, hc]
  have hfollowers : b.followers = a.followers := by funext data; simp only [followers, hr]
  obtain ⟨ht, hrest⟩ := h
  refine ⟨⟨hr ▸ ht.receivers_le, hc ▸ ht.counts_le, hc ▸ ht.distinct, ?_, ?_⟩, ?_⟩
  · rw [hcount, hfollowers]; exact ht.isSome_iff
  · rw [hcount, hfollowers]; exact ht.total_eq
  · intro data count h
    exact hrest data count (hcount ▸ h)

theorem Settled.addReceiver {manager : HkManager} (h : manager.Settled) {delivery : Delivery}
    (hroom : manager.hasRoom delivery) (object : ObjectId) (destination : QueueId) :
    (manager.addReceiver object delivery destination).2.Settled := by
  obtain ⟨hlt, hcount⟩ := hasRoom_iff.mp hroom
  rw [addReceiver_of_hasRoom hroom]
  split
  next hu =>
    refine ⟨h.1.countUpdate hlt hu (hcount hu), ?_⟩
    have hw : (manager.withReceiver ⟨object, delivery, destination⟩).Rested := h.2
    exact hw.countUpdate (hcount hu)
  next hu =>
    exact ⟨h.1.withReceiver hlt (Bool.eq_false_iff.mpr hu), h.2⟩

theorem receivers_addReceiver {manager : HkManager} {delivery : Delivery}
    (hroom : manager.hasRoom delivery) (object : ObjectId) (destination : QueueId) :
    (manager.addReceiver object delivery destination).2.receivers =
      manager.receivers ++ [⟨object, delivery, destination⟩] := by
  rw [addReceiver_of_hasRoom hroom]
  split <;> rfl

/-! ## What a subscription does -/

end HkManager

/-- What the owner has not, so that it cannot be delivered: it does not expose the data, or the set
has no timer. -/
inductive Owner.Lacks (owner : Owner) (delivery : Delivery) : PoolError → Prop
  | set {sid : Sid} (hdata : delivery.data = .ofSet sid) (missing : owner.set? sid = none) :
    Lacks owner delivery .datasetNotFound
  | variable {id : LocalPoolId} (hdata : delivery.data = .ofVariable id)
    (missing : owner.variableOf? id = none) : Lacks owner delivery .poolObjectNotFound
  | timer {sid : Sid} {set : Dataset} (periodic : delivery = .periodicPacket sid)
    (exposed : owner.set? sid = some set) (missing : set.timer = none) :
    Lacks owner delivery .periodicHelperInvalid

namespace Owner

theorem lacks_of_getData_error {owner : Owner} {delivery : Delivery} {e : PoolError}
    (h : owner.getData delivery.data = .error e) : owner.Lacks delivery e := by
  cases hdata : delivery.data with
  | ofSet sid =>
    rw [hdata] at h
    cases hset : owner.set? sid with
    | none =>
      simp only [getData, getSet, hset, Except.map] at h
      cases h
      exact .set hdata hset
    | some set => simp [getData, getSet, hset, Except.map] at h
  | ofVariable id =>
    rw [hdata] at h
    cases hvariable : owner.variableOf? id with
    | none =>
      simp only [getData, getVariable, hvariable, Except.map] at h
      cases h
      exact .variable hdata hvariable
    | some accessor => simp [getData, getVariable, hvariable, Except.map] at h

/-- An update that the owner exposes can be delivered. -/
theorem not_lacks_of_getData {owner : Owner} {delivery : Delivery} {data : OwnedData}
    (h : owner.getData delivery.data = .ok data)
    (htimer : ∀ sid set, delivery = .periodicPacket sid → owner.set? sid = some set →
      set.timer ≠ none) (e : PoolError) : ¬ owner.Lacks delivery e := by
  rintro (⟨hdata, missing⟩ | ⟨hdata, missing⟩ | ⟨periodic, exposed, missing⟩)
  · simp [hdata, getData, getSet, missing, Except.map] at h
  · simp [hdata, getData, getVariable, missing, Except.map] at h
  · exact htimer _ _ periodic exposed missing

theorem getData_of_getSet (owner : Owner) (sid : Sid) :
    owner.getData (.ofSet sid) = (owner.getSet sid).map (.ofSet sid) := rfl

end Owner

namespace HkManager

variable {manager : HkManager}

theorem subscribePeriodic_of_room (owner : Owner) {request : PacketSubscription}
    (hroom : manager.hasRoom (.periodicPacket request.sid)) :
    (∃ e, owner.Lacks (.periodicPacket request.sid) e ∧
      manager.subscribePeriodic owner request = (.error e, manager, owner)) ∨
    (∀ e, ¬ owner.Lacks (.periodicPacket request.sid) e) ∧ ∃ object destination after,
      manager.subscribePeriodic owner request =
        (.ok (), (manager.addReceiver object (.periodicPacket request.sid) destination).2,
          after) := by
  simp only [subscribePeriodic, hroom, if_true]
  cases hget : owner.getSet request.sid with
  | error e =>
    refine .inl ⟨e, Owner.lacks_of_getData_error ?_, rfl⟩
    simp only [Delivery.data, Owner.getData_of_getSet, hget, Except.map]
  | ok set =>
    have hset := Owner.set?_of_getSet hget
    cases htimer : set.timer with
    | none => exact .inl ⟨_, .timer rfl hset htimer, by simp only [htimer]⟩
    | some timer =>
      have hdata : owner.getData (.ofSet request.sid) = .ok (.ofSet request.sid set) := by
        simp only [Owner.getData_of_getSet, hget, Except.map]
      refine .inr ⟨Owner.not_lacks_of_getData hdata ?_, ?_⟩
      · intro sid found periodic exposed hnone
        cases periodic
        obtain rfl := Option.some.inj (exposed.symm.trans hset)
        rw [htimer] at hnone
        cases hnone
      · exact ⟨_, _, _, by simp only [htimer]; rw [addReceiver_of_hasRoom hroom]⟩

theorem subscribeUpdate_of_room (owner : Owner) {request : PacketSubscription}
    (hroom : manager.hasRoom (.updatePacket request.sid)) :
    (∃ e, owner.Lacks (.updatePacket request.sid) e ∧
      manager.subscribeUpdate owner request = (.error e, manager, owner)) ∨
    (∀ e, ¬ owner.Lacks (.updatePacket request.sid) e) ∧ ∃ object destination after,
      manager.subscribeUpdate owner request =
        (.ok (), (manager.addReceiver object (.updatePacket request.sid) destination).2,
          after) := by
  simp only [subscribeUpdate, hroom, if_true]
  cases hget : owner.getSet request.sid with
  | error e =>
    refine .inl ⟨e, Owner.lacks_of_getData_error ?_, rfl⟩
    simp only [Delivery.data, Owner.getData_of_getSet, hget, Except.map]
  | ok set =>
    have hdata : owner.getData (.ofSet request.sid) = .ok (.ofSet request.sid set) := by
      simp only [Owner.getData_of_getSet, hget, Except.map]
    refine .inr ⟨Owner.not_lacks_of_getData hdata ?_, ?_⟩
    · intro sid found periodic; cases periodic
    · exact ⟨_, _, _, by rw [addReceiver_of_hasRoom hroom]⟩

theorem subscribeData_of_room (owner : Owner) {data : DataId} (object : ObjectId)
    (queue : QueueId) {snapshots : Bool}
    (hroom : manager.hasRoom (if snapshots then .snapshot data else .notice data)) :
    (∃ e, owner.Lacks (if snapshots then .snapshot data else .notice data) e ∧
      manager.subscribeData owner data object queue snapshots = (.error e, manager, owner)) ∨
    (∀ e, ¬ owner.Lacks (if snapshots then .snapshot data else .notice data) e) ∧
      manager.subscribeData owner data object queue snapshots =
        (.ok (), (manager.addReceiver object
          (if snapshots then .snapshot data else .notice data) queue).2, owner) := by
  have hdata : owner.getData (if snapshots then Delivery.snapshot data else .notice data).data =
      owner.getData data := by cases snapshots <;> rfl
  simp only [subscribeData, hroom, if_true]
  cases hget : owner.getData data with
  | error e => exact .inl ⟨e, Owner.lacks_of_getData_error (hdata.trans hget), rfl⟩
  | ok found =>
    refine .inr ⟨Owner.not_lacks_of_getData (hdata.trans hget) ?_, ?_⟩
    · intro sid set periodic; cases snapshots <;> cases periodic
    · rw [addReceiver_of_hasRoom hroom]

/-! What an accepted subscription does to the owner. -/

section Accepted

variable {manager next : HkManager} {owner after : Owner} {request : PacketSubscription}

theorem subscribePeriodic_eq_ok
    (h : manager.subscribePeriodic owner request = (.ok (), next, after)) :
    ∃ set old, owner.set? request.sid = some set ∧ set.timer = some old ∧
      after = owner.modifySet request.sid fun set =>
        { set with
          timer := some (CollectionTimer.start request.seconds owner.period request.kind
            manager.regularFactor)
          reporting := request.enabled
          kind := request.kind
          validityMask := manager.config.validityMask } := by
  unfold subscribePeriodic at h
  split at h
  · split at h
    · cases h
    next set hset =>
      split at h
      · cases h
      next old hold =>
        obtain ⟨-, hafter⟩ := Prod.mk.inj h
        obtain ⟨-, rfl⟩ := Prod.mk.inj hafter
        exact ⟨set, old, Owner.set?_of_getSet hset, hold, rfl⟩
  · cases h

theorem subscribeUpdate_eq_ok
    (h : manager.subscribeUpdate owner request = (.ok (), next, after)) :
    after = owner.modifySet request.sid fun set =>
      { set with
        reporting := true
        kind := request.kind
        validityMask := manager.config.validityMask } := by
  unfold subscribeUpdate at h
  split at h
  · split at h
    · cases h
    next =>
      obtain ⟨-, hafter⟩ := Prod.mk.inj h
      obtain ⟨-, rfl⟩ := Prod.mk.inj hafter
      rfl
  · cases h

theorem subscribeData_eq_ok {data : DataId} {object : ObjectId} {queue : QueueId}
    {snapshots : Bool}
    (h : manager.subscribeData owner data object queue snapshots = (.ok (), next, after)) :
    after = owner := by
  cases hroom : manager.hasRoom (if snapshots then .snapshot data else .notice data) with
  | false => simp [subscribeData, hroom] at h
  | true =>
    obtain ⟨e, -, he⟩ | ⟨-, hok⟩ := subscribeData_of_room owner object queue hroom
    · rw [he] at h; cases h
    · rw [hok] at h; cases h; rfl

end Accepted

/-- A subscription for which there is room is refused before anything is touched, or accepted. -/
theorem subscribe_of_room (owner : Owner) {subscription : Subscription}
    (hroom : manager.hasRoom (subscription.delivery manager.owner)) :
    (∃ e, owner.Lacks (subscription.delivery manager.owner) e ∧
      manager.subscribe owner subscription = (.error e, manager, owner)) ∨
    (∀ e, ¬ owner.Lacks (subscription.delivery manager.owner) e) ∧ ∃ object destination after,
      manager.subscribe owner subscription =
        (.ok (), (manager.addReceiver object (subscription.delivery manager.owner)
          destination).2, after) := by
  cases subscription with
  | periodicPacket request => exact subscribePeriodic_of_room owner hroom
  | updatePacket request => exact subscribeUpdate_of_room owner hroom
  | setUpdates set object queue snapshots =>
    exact (subscribeData_of_room owner object queue hroom).imp_right fun ⟨hcomplete, hok⟩ =>
      ⟨hcomplete, object, queue, owner, hok⟩
  | variableUpdates id object queue snapshots =>
    exact (subscribeData_of_room owner object queue hroom).imp_right fun ⟨hcomplete, hok⟩ =>
      ⟨hcomplete, object, queue, owner, hok⟩

theorem subscribe_of_full (owner : Owner) {subscription : Subscription}
    (hfull : manager.hasRoom (subscription.delivery manager.owner) = false) :
    manager.subscribe owner subscription = (.error .receiverListFull, manager, owner) := by
  cases subscription with
  | periodicPacket request => exact if_neg (Bool.eq_false_iff.mp hfull)
  | updatePacket request => exact if_neg (Bool.eq_false_iff.mp hfull)
  | setUpdates set object queue snapshots => exact if_neg (Bool.eq_false_iff.mp hfull)
  | variableUpdates id object queue snapshots => exact if_neg (Bool.eq_false_iff.mp hfull)

/-- **A subscription is refused before anything is touched, or there is room for all it adds.** -/
theorem subscribe_cases (manager : HkManager) (owner : Owner) (subscription : Subscription) :
    (∃ e, manager.subscribe owner subscription = (.error e, manager, owner)) ∨
      manager.hasRoom (subscription.delivery manager.owner) ∧ ∃ object destination after,
        manager.subscribe owner subscription =
          (.ok (), (manager.addReceiver object (subscription.delivery manager.owner)
            destination).2, after) := by
  cases hroom : manager.hasRoom (subscription.delivery manager.owner) with
  | false => exact .inl ⟨_, subscribe_of_full owner hroom⟩
  | true =>
    obtain ⟨e, -, he⟩ | ⟨-, hok⟩ := subscribe_of_room owner hroom
    · exact .inl ⟨e, he⟩
    · exact .inr ⟨rfl, hok⟩

/-- The subscriptions that are accepted, up to the first that is refused. -/
def acceptedOf (manager : HkManager) (owner : Owner) : List Subscription → List Subscription
  | [] => []
  | subscription :: rest =>
    match manager.subscribe owner subscription with
    | (.ok (), manager, owner) => subscription :: manager.acceptedOf owner rest
    | (.error _, _, _) => []

/-- What every accepted subscription keeps holds after all of them, with those that were accepted. -/
theorem subscribeAll_induction {P : List Subscription → HkManager → Owner → Prop}
    {subscriptions : List Subscription}
    (hstep : ∀ {log manager owner subscription next after}, subscription ∈ subscriptions →
      subscribe manager owner subscription = (.ok (), next, after) → P log manager owner →
      P (log ++ [subscription]) next after)
    (log : List Subscription) {manager : HkManager} {owner : Owner} (h : P log manager owner) :
    P (log ++ manager.acceptedOf owner subscriptions)
      (manager.subscribeAll owner subscriptions).2.1
      (manager.subscribeAll owner subscriptions).2.2 := by
  induction subscriptions generalizing log manager owner with
  | nil => rw [acceptedOf, List.append_nil]; exact h
  | cons subscription rest ih =>
    unfold subscribeAll acceptedOf
    obtain ⟨e, he⟩ | ⟨-, object, destination, after, hok⟩ :=
      subscribe_cases manager owner subscription
    · rw [he]
      dsimp only
      rw [List.append_nil]
      exact h
    · rw [hok]
      dsimp only
      rw [List.append_cons]
      exact ih (fun hmem => hstep (List.mem_cons_of_mem _ hmem)) (log ++ [subscription])
        (hstep (List.mem_cons_self ..) hok h)

theorem Settled.subscribe {manager : HkManager} (h : manager.Settled) (owner : Owner)
    (subscription : Subscription) : (manager.subscribe owner subscription).2.1.Settled := by
  obtain ⟨e, he⟩ | ⟨hroom, object, destination, after, hok⟩ :=
    subscribe_cases manager owner subscription
  · rw [he]; exact h
  · rw [hok]; exact h.addReceiver hroom object destination

theorem Settled.subscribeAll (subscriptions : List Subscription) {manager : HkManager}
    (h : manager.Settled) (owner : Owner) :
    (manager.subscribeAll owner subscriptions).2.1.Settled :=
  subscribeAll_induction (P := fun _ manager _ => manager.Settled)
    (fun {_ _ owner subscription _ _} _ hok hbefore => by
      have hnext := hbefore.subscribe owner subscription
      rwa [hok] at hnext) [] h

/-- Setting up a pool makes its subscriptions, whatever comes of it, unless it was set up before. -/
theorem start_cases (manager : HkManager) (owner : Owner) (bank : PoolBank) (setup : PoolSetup) :
    manager.started = true ∧ manager.start owner bank setup = (.ok (), manager, owner, bank) ∨
      manager.started = false ∧ ∃ result started after,
        manager.start owner bank setup =
          (result, { (manager.subscribeAll owner setup.subscriptions).2.1 with started },
            (manager.subscribeAll owner setup.subscriptions).2.2, after) := by
  unfold HkManager.start
  split
  next hstarted => exact .inl ⟨hstarted, rfl⟩
  next hnew =>
    refine .inr ⟨eq_false_of_ne_true hnew, ?_⟩
    split
    next hs => rw [hs]; exact ⟨_, _, _, rfl⟩
    next hs =>
      rw [hs]
      split
      · exact ⟨_, _, _, rfl⟩
      · split <;> exact ⟨_, _, _, rfl⟩

theorem Settled.start {manager : HkManager} (h : manager.Settled) (owner : Owner) (bank : PoolBank)
    (setup : PoolSetup) : (manager.start owner bank setup).2.1.Settled := by
  obtain ⟨-, hsame⟩ | ⟨-, result, started, after, hall⟩ := manager.start_cases owner bank setup
  · rw [hsame]; exact h
  · rw [hall]
    exact (h.subscribeAll setup.subscriptions owner).congr rfl rfl

end HkManager

namespace HkState

variable {σ : Type}

theorem settled_step (services : Services σ) (state : HkState σ) (event : HkEvent σ)
    (h : state.manager.Settled) : (state.step services event).manager.Settled := by
  cases event with
  | start bank setup => exact h.start state.owner bank setup
  | subscribe subscription => exact h.subscribe state.owner subscription
  | clearReceivers => exact .of_empty rfl rfl
  | handle message =>
    show (state.handle services message).2.manager.Settled
    rw [handle_manager]
    exact h
  | pass clock =>
    obtain ⟨served, hsame, heq⟩ := pass_manager services clock state
    show (state.pass services clock).2.manager.Settled
    rw [heq]
    have ht := h.1.of_sameTotals (hsame.trans (HkManager.restartCounts_sameTotals served))
    exact ⟨ht, HkManager.restartCounts_rested served⟩
  | meanwhile owner after destination => exact h.congr rfl rfl

/-- A manager that came out of `create`, after any history. -/
theorem settled_run (services : Services σ) (bank : PoolBank) (id : ObjectId) (queue : QueueId)
    (queueDefault : Option QueueId) (config : ManagerConfig) (owner : Owner) (initial : σ)
    (events : List (HkEvent σ)) :
    (HkState.run services events
      ⟨(HkManager.create bank id queue queueDefault config).1, owner, initial⟩).manager.Settled := by
  refine run_induction (P := fun state => state.manager.Settled) ?_ ?_ events
  · intro state event h; exact settled_step services state event h
  · exact .of_empty rfl rfl

end HkState

/-! ## The books are right -/

namespace HkManager

/-- What the two lists of a manager say about each other between two passes. -/
structure Bookkept (manager : HkManager) : Prop where
  receivers_le : manager.receivers.length ≤ maxReceivers
  counts_le : manager.counts.length ≤ maxUpdateCounts
  counted_iff : ∀ data, (∃ count ∈ manager.counts, count.data = data) ↔
    ∃ receiver ∈ manager.receivers, receiver.follows data
  distinct : manager.counts.Pairwise fun a b => a.data ≠ b.data
  total_eq : ∀ count ∈ manager.counts, count.total.toNat = manager.followers count.data
  waiting_eq : ∀ count ∈ manager.counts, count.waiting.toNat = manager.followers count.data

theorem Settled.bookkept {manager : HkManager} (h : manager.Settled) : manager.Bookkept := by
  obtain ⟨ht, hrest⟩ := h
  have htotal (count : UpdateCount) (hc : count ∈ manager.counts) :
      count.total.toNat = manager.followers count.data :=
    ht.total_eq _ count (ht.count?_of_mem hc)
  refine ⟨ht.receivers_le, ht.counts_le, ?_, List.pairwise_map.mp ht.distinct, htotal, ?_⟩
  · intro data
    have hsome : (∃ count ∈ manager.counts, count.data = data) ↔ (manager.count? data).isSome := by
      simp [count?]
    rw [hsome, ht.isSome_iff, followers, List.countP_pos_iff]
  · intro count hc
    rw [hrest _ count (ht.count?_of_mem hc)]
    exact htotal count hc

end HkManager

/-- How a subscription may end: refused without a trace, as there are as many receivers as there may
be or the owner lacks something, or else with one more receiver and the books right. So no count was
cut off at its maximum, and no new count was dropped. -/
inductive SubscribeOutcome (manager : HkManager) (owner : Owner) (delivery : Delivery) :
    Except PoolError Unit × HkManager × Owner → Prop
  | full (hfull : manager.receivers.length = maxReceivers) :
      SubscribeOutcome manager owner delivery (.error .receiverListFull, manager, owner)
  | refused (e : PoolError) (hroom : manager.receivers.length < maxReceivers)
      (hlacks : owner.Lacks delivery e) :
      SubscribeOutcome manager owner delivery (.error e, manager, owner)
  | added (receiver : Receiver) (next : HkManager) (after : Owner)
      (hroom : manager.receivers.length < maxReceivers)
      (hcomplete : ∀ e, ¬ owner.Lacks delivery e) (hdelivery : receiver.delivery = delivery)
      (hlast : next.receivers = manager.receivers ++ [receiver]) (hbooks : next.Bookkept) :
      SubscribeOutcome manager owner delivery (.ok (), next, after)

/-- **The books of a new manager stay right, whatever happens to it.** -/
theorem subscriptions_bookkept {σ : Type} (services : Services σ) (bank : PoolBank) (id : ObjectId)
    (queue : QueueId) (queueDefault : Option QueueId) (config : ManagerConfig) (owner : Owner)
    (initial : σ) (events : List (HkEvent σ)) :
    let state := HkState.run services events
      ⟨(HkManager.create bank id queue queueDefault config).1, owner, initial⟩
    state.manager.Bookkept ∧
      ∀ subscription, SubscribeOutcome state.manager state.owner
        (subscription.delivery state.manager.owner)
        (state.manager.subscribe state.owner subscription) := by
  intro state
  have hsettled : state.manager.Settled :=
    HkState.settled_run services bank id queue queueDefault config owner initial events
  refine ⟨hsettled.bookkept, ?_⟩
  intro subscription
  have hiff := hsettled.1.hasRoom_iff_length (subscription.delivery state.manager.owner)
  cases hroom : state.manager.hasRoom (subscription.delivery state.manager.owner) with
  | false =>
    rw [HkManager.subscribe_of_full state.owner hroom]
    have hle := hsettled.1.receivers_le
    have hnot := mt hiff.mpr (Bool.eq_false_iff.mp hroom)
    exact .full (by omega)
  | true =>
    have hlt := hiff.mp hroom
    obtain ⟨e, hlacks, he⟩ | ⟨hcomplete, object, destination, after, hok⟩ :=
      HkManager.subscribe_of_room state.owner hroom
    · rw [he]; exact .refused e hlt hlacks
    · rw [hok]
      have hbooks := (hsettled.addReceiver hroom object destination).bookkept
      exact .added _ _ after hlt hcomplete rfl
        (HkManager.receivers_addReceiver hroom object destination) hbooks

end Housekeeper
