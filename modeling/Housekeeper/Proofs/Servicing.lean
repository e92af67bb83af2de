import Housekeeper.Proofs.Bookkeeping
import Housekeeper.Proofs.Delivery

/-!
# What one pass does for one set or variable

All followers of the same data share its changed flag, and nobody may clear it before the last of
them was served. `Serving` is the invariant that carries this through a pass: the flag is still set
exactly as long as somebody who follows the data remains, and the count of those who wait is the
number of those who remain. A turn of somebody else leaves flag and count alone
(`serve_of_not_follows`), and a turn of a follower counts one down (`Serving.next_of_set`).

`served` is the state after the first turns of a pass, and `pass_eq_served` says that a pass is made
of its turns and nothing else.
-/

namespace Housekeeper

namespace Owner

/-- The changed flag of a set or variable, if the owner exposes it. -/
def changed? (owner : Owner) : DataId → Option Bool
  | .ofSet sid => (owner.set? sid).map Dataset.changed
  | .ofVariable id => (owner.variableOf? id).map Accessor.changed

theorem exists_getData {owner : Owner} {data : DataId} {flag : Bool}
    (h : owner.changed? data = some flag) :
    ∃ found, owner.getData data = .ok found ∧ found.changed = flag := by
  cases data with
  | ofSet sid =>
    obtain ⟨set, hset, hflag⟩ := Option.map_eq_some_iff.mp h
    exact ⟨.ofSet sid set, by simp only [getData, getSet, hset]; rfl, hflag⟩
  | ofVariable id =>
    obtain ⟨accessor, ha, hflag⟩ := Option.map_eq_some_iff.mp h
    exact ⟨.ofVariable id accessor, by simp only [getData, getVariable, ha]; rfl, hflag⟩

theorem changed?_clearChanged (owner : Owner) (data other : DataId) :
    (owner.clearChanged data).changed? other =
      if other = data then (owner.changed? other).map fun _ => false
      else owner.changed? other := by
  cases data with
  | ofSet sid =>
    cases other with
    | ofSet id =>
      by_cases hsame : id = sid
      · subst hsame
        rw [if_pos rfl]
        simp only [changed?, clearChanged]
        rw [set?_modifySet, Option.map_map, Option.map_map]
        rfl
      · simp [clearChanged, changed?, set?_modifySet_of_ne owner hsame, hsame]
    | ofVariable id => rfl
  | ofVariable id =>
    cases other with
    | ofSet sid => rfl
    | ofVariable otherId =>
      by_cases hsame : otherId = id
      · subst hsame
        rw [if_pos rfl]
        simp only [changed?, clearChanged]
        rw [variableOf?_modifyVariable, Option.map_map, Option.map_map]
        rfl
      · simp [clearChanged, changed?, variableOf?_modifyVariable_of_ne owner hsame, hsame]

theorem changed?_modifySet {change : Dataset → Dataset}
    (keeps : ∀ set, (change set).changed = set.changed) (owner : Owner) (sid : Sid)
    (data : DataId) : (owner.modifySet sid change).changed? data = owner.changed? data := by
  cases data with
  | ofSet id =>
    by_cases hsame : id = sid
    · subst hsame
      simp [changed?, set?_modifySet, Function.comp_def, keeps]
    · simp [changed?, set?_modifySet_of_ne owner hsame]
  | ofVariable id => rfl

end Owner

namespace HkManager

/-! ## Counting down -/

theorem count?_countDown_of_ne (manager : HkManager) {data other : DataId} (h : other ≠ data) :
    (manager.countDown data).2.count? other = manager.count? other := by
  unfold countDown
  split
  · rfl
  · split
    · rfl
    · split <;> simp only [count?_setWaiting, if_neg h]

theorem le_one {n : UInt8} (h : n.toNat = 1) : n ≤ 1 := by
  rw [UInt8.le_iff_toNat_le, h]
  decide

theorem not_le_one {n : UInt8} (h : 2 ≤ n.toNat) : ¬ n ≤ 1 := by
  have hone : (1 : UInt8).toNat = 1 := rfl
  rw [UInt8.le_iff_toNat_le, hone]
  omega

/-- A single follower is always the last. -/
theorem countDown_of_single {manager : HkManager} {data : DataId} {count : UpdateCount}
    (h : manager.count? data = some count) (ht : count.total.toNat = 1) :
    manager.countDown data = (true, manager) := by
  have hle := le_one ht
  simp only [countDown, h, hle, if_true]

theorem countDown_of_last {manager : HkManager} {data : DataId} {count : UpdateCount}
    (h : manager.count? data = some count) (ht : 2 ≤ count.total.toNat)
    (hw : count.waiting.toNat = 1) :
    manager.countDown data = (true, manager.setWaiting data 0) := by
  have hgt := not_le_one ht
  have hle := le_one hw
  simp only [countDown, h, hgt, hle, if_true, if_false]

theorem countDown_of_more {manager : HkManager} {data : DataId} {count : UpdateCount}
    (h : manager.count? data = some count) (ht : 2 ≤ count.total.toNat)
    (hw : 2 ≤ count.waiting.toNat) :
    manager.countDown data = (false, manager.setWaiting data (count.waiting - 1)) := by
  have hgt := not_le_one ht
  have hgt' := not_le_one hw
  simp only [countDown, h, hgt, hgt', if_false]

/-- Counting down as long as `left` followers remain: the last is known as such. -/
theorem countDown_of_left {manager : HkManager} {data : DataId} {count : UpdateCount} {left : Nat}
    (h : manager.count? data = some count) (hpos : 0 < left) (hle : left ≤ count.total.toNat)
    (hw : 2 ≤ count.total.toNat → count.waiting.toNat = left) :
    (manager.countDown data).1 = decide (left = 1) ∧
      ∃ after, (manager.countDown data).2.count? data = some after ∧ after.total = count.total ∧
        (2 ≤ count.total.toNat → after.waiting.toNat = left - 1) := by
  have hafter (waiting : UInt8) : (manager.setWaiting data waiting).count? data =
      some ⟨count.data, count.total, waiting⟩ := by
    rw [count?_setWaiting, if_pos rfl, h]
    rfl
  rcases Nat.lt_or_ge count.total.toNat 2 with hone | htwo
  · have hleft : left = 1 := by omega
    rw [countDown_of_single h (by omega)]
    refine ⟨by simp [hleft], count, h, rfl, ?_⟩
    intro htwo; omega
  · have hwait := hw htwo
    rcases Nat.lt_or_ge left 2 with hlast | hmore
    · have hleft : left = 1 := by omega
      rw [countDown_of_last h htwo (by omega)]
      refine ⟨by simp [hleft], _, hafter 0, rfl, ?_⟩
      intro _; simp [hleft]
    · rw [countDown_of_more h htwo (by omega)]
      refine ⟨by simp; omega, _, hafter _, rfl, ?_⟩
      intro _
      have hone : (1 : UInt8) ≤ count.waiting := by
        rw [UInt8.le_iff_toNat_le]; simp; omega
      rw [UInt8.toNat_sub_of_le _ _ hone, hwait]
      rfl

end HkManager

namespace HkState

variable {σ : Type} {services : Services σ} {now : CdsTime}

/-! ## Turns of others -/

theorem servePeriodic_changed? (services : Services σ) (sid : Sid) (destination : QueueId)
    (state : HkState σ) (data : DataId) :
    (state.servePeriodic services sid destination).2.owner.changed? data =
      state.owner.changed? data := by
  have htimer (timer : CollectionTimer) :
      (state.owner.modifySet sid fun set => set.withTimer timer).changed? data =
        state.owner.changed? data := by
    apply Owner.changed?_modifySet
    intro set; rfl
  unfold servePeriodic
  split
  · rfl
  · split
    · rfl
    · split
      · rfl
      · dsimp only
        split <;> exact htimer _

/-- Serving somebody else leaves the flag and the count of the data alone. -/
theorem serve_of_not_follows (services : Services σ) (now : CdsTime) {receiver : Receiver}
    {data : DataId} (hf : receiver.follows data = false) (state : HkState σ) :
    (state.serve services now receiver).2.owner.changed? data = state.owner.changed? data ∧
      (state.serve services now receiver).2.manager.count? data = state.manager.count? data := by
  cases hu : receiver.delivery.isUpdate with
  | true =>
    have hne : data ≠ receiver.delivery.data := by
      rintro rfl
      simp [Receiver.follows, hu] at hf
    rw [serve_of_isUpdate hu]
    cases hd : state.owner.getData receiver.delivery.data with
    | error e => rw [serveUpdate_of_error hd]; exact ⟨rfl, rfl⟩
    | ok found =>
      cases hc : found.changed with
      | false => rw [serveUpdate_of_unchanged hd hc]; exact ⟨rfl, rfl⟩
      | true =>
        rw [serveUpdate_of_changed hd hc]
        refine ⟨?_, HkManager.count?_countDown_of_ne _ hne⟩
        dsimp only
        split
        · rw [Owner.changed?_clearChanged, if_neg hne]
        · rfl
  | false =>
    unfold serve
    split
    next sid hp =>
      refine ⟨servePeriodic_changed? .., ?_⟩
      rw [servePeriodic_manager]
    next hn =>
      cases hd : receiver.delivery with
      | periodicPacket sid => exact absurd hd (hn sid)
      | _ => rw [hd] at hu; cases hu

/-! ## The invariant of a pass -/

/-- How many of those who have yet to be served follow the data. -/
def remaining (data : DataId) (rest : List Receiver) : Nat :=
  rest.countP fun receiver => receiver.follows data

theorem remaining_of_follows {data : DataId} {receiver : Receiver} (hf : receiver.follows data)
    (rest : List Receiver) : remaining data (receiver :: rest) = remaining data rest + 1 :=
  List.countP_cons_of_pos hf

theorem remaining_of_not_follows {data : DataId} {receiver : Receiver}
    (hf : receiver.follows data = false) (rest : List Receiver) :
    remaining data (receiver :: rest) = remaining data rest :=
  List.countP_cons_of_neg (by simp [hf])

/-- Some data in the middle of a pass: the flag was `flag` at the start, `total` receivers follow
the data, and those in `rest` have yet to be served. -/
structure Serving (data : DataId) (flag : Bool) (total : Nat) (rest : List Receiver)
    (state : HkState σ) : Prop where
  changed?_eq : state.owner.changed? data =
    some (flag && decide (total = 0 ∨ 0 < remaining data rest))
  remaining_le : remaining data rest ≤ total
  isSome_iff : (state.manager.count? data).isSome ↔ 0 < total
  total_eq : ∀ count, state.manager.count? data = some count → count.total.toNat = total
  waiting_eq : ∀ count, state.manager.count? data = some count → flag = true → 2 ≤ total →
    0 < remaining data rest → count.waiting.toNat = remaining data rest

theorem Serving.start {state : HkState σ} (h : state.manager.Settled) {data : DataId} {flag : Bool}
    (hflag : state.owner.changed? data = some flag) :
    state.Serving data flag (state.manager.followers data) state.manager.receivers := by
  obtain ⟨ht, hrest⟩ := h
  refine ⟨?_, Nat.le_refl _, ht.isSome_iff data, fun count hc => ht.total_eq data count hc, ?_⟩
  · have hall : state.manager.followers data = 0 ∨
        0 < remaining data state.manager.receivers := Nat.eq_zero_or_pos _
    rw [hflag, decide_eq_true hall, Bool.and_true]
  · intro count hc _ _ _
    rw [hrest data count hc]
    exact ht.total_eq data count hc

variable {data : DataId} {flag : Bool} {total : Nat} {receiver : Receiver} {rest : List Receiver}
  {state : HkState σ}

/-- A follower sees the flag as it was at the start. -/
theorem Serving.changed?_of_follows (h : state.Serving data flag total (receiver :: rest))
    (hf : receiver.follows data) : state.owner.changed? data = some flag := by
  have hpos : total = 0 ∨ 0 < remaining data (receiver :: rest) := by
    rw [remaining_of_follows hf]; omega
  rw [h.changed?_eq, decide_eq_true hpos, Bool.and_true]

/-- If the flag is clear, the turn of a follower does nothing at all. -/
theorem Serving.turn_of_clear (h : state.Serving data false total (receiver :: rest))
    (hf : receiver.follows data) : state.serve services now receiver = (.ok (), state) := by
  obtain ⟨hu, rfl⟩ := Receiver.follows_iff.mp hf
  obtain ⟨found, hd, hc⟩ := Owner.exists_getData (h.changed?_of_follows hf)
  rw [serve_of_isUpdate hu, serveUpdate_of_unchanged hd hc]

/-- If it is set, a follower is sent the news in one attempt. -/
theorem Serving.attempt (services : Services σ) (now : CdsTime)
    (h : state.Serving data true total (receiver :: rest))
    (hf : receiver.follows data) :
    ∃ found route parcel, state.owner.getData data = .ok found ∧ found.changed = true ∧
      state.manager.announcement? now receiver.delivery found receiver.destination =
        some (route, parcel) ∧
      Attempt services state.manager.queue state.manager.owner route parcel state.services
        (state.serve services now receiver).1 (state.serve services now receiver).2.services := by
  obtain ⟨hu, rfl⟩ := Receiver.follows_iff.mp hf
  obtain ⟨found, hd, hc⟩ := Owner.exists_getData (h.changed?_of_follows hf)
  obtain ⟨route, parcel, ha⟩ := state.manager.exists_announcement hu hd now receiver.destination
  refine ⟨found, route, parcel, hd, hc, ha, ?_⟩
  rw [serve_of_isUpdate hu, serveUpdate_of_changed hd hc]
  exact announce_attempt services state.manager ha state.services

theorem Serving.next_of_set (h : state.Serving data true total (receiver :: rest))
    (hf : receiver.follows data) :
    (state.serve services now receiver).2.Serving data true total rest := by
  obtain ⟨hu, rfl⟩ := Receiver.follows_iff.mp hf
  obtain ⟨found, hd, hc⟩ := Owner.exists_getData (h.changed?_of_follows hf)
  have hleft := remaining_of_follows hf rest
  have hle := h.remaining_le
  obtain ⟨count, hcount⟩ := Option.isSome_iff_exists.mp (h.isSome_iff.mpr (by omega))
  have htotal := h.total_eq count hcount
  have hwaiting (htwo : 2 ≤ count.total.toNat) :
      count.waiting.toNat = remaining receiver.delivery.data (receiver :: rest) :=
    h.waiting_eq count hcount rfl (by omega) (by omega)
  obtain ⟨hlast, after, hafter, hsame, hwait⟩ :=
    HkManager.countDown_of_left hcount (by omega) (by omega) hwaiting
  rw [serve_of_isUpdate hu, serveUpdate_of_changed hd hc]
  refine ⟨?_, by omega, ?_, ?_, ?_⟩
  · rw [Bool.true_and, hlast]
    by_cases hr : remaining receiver.delivery.data rest = 0
    · rw [if_pos (by simp [hleft, hr]), Owner.changed?_clearChanged, if_pos rfl,
        h.changed?_of_follows hf, decide_eq_false (by omega)]
      rfl
    · rw [if_neg (by simp [hleft, hr]), h.changed?_of_follows hf, decide_eq_true (by omega)]
  · rw [hafter]
    simp; omega
  · intro other hother
    rw [hafter] at hother
    cases hother
    rw [hsame, htotal]
  · intro other hother _ htwo _
    rw [hafter] at hother
    cases hother
    rw [hwait (by omega), hleft]
    rfl

theorem Serving.next_of_not_follows (h : state.Serving data flag total (receiver :: rest))
    (hf : receiver.follows data = false) :
    (state.serve services now receiver).2.Serving data flag total rest := by
  obtain ⟨hflag, hcount⟩ := serve_of_not_follows services now hf state
  have hsame := remaining_of_not_follows hf rest
  refine ⟨?_, ?_, ?_, ?_, ?_⟩
  · rw [hflag, h.changed?_eq, hsame]
  · rw [← hsame]; exact h.remaining_le
  · rw [hcount]; exact h.isSome_iff
  · rw [hcount]; exact h.total_eq
  · rw [hcount, ← hsame]; exact h.waiting_eq

/-- **One turn keeps the invariant, whosever it is and however it ends.** -/
theorem Serving.next (h : state.Serving data flag total (receiver :: rest)) :
    (state.serve services now receiver).2.Serving data flag total rest := by
  cases hf : receiver.follows data with
  | false => exact h.next_of_not_follows hf
  | true =>
    cases flag with
    | true => exact h.next_of_set hf
    | false =>
      rw [h.turn_of_clear hf]
      have hle := h.remaining_le
      rw [remaining_of_follows hf] at hle
      refine ⟨by rw [h.changed?_eq]; simp, by omega, h.isSome_iff, h.total_eq, ?_⟩
      intro _ _ hclear
      cases hclear

/-! ## The turns of a pass -/

/-- The turn of the receiver at an index of the list, if there is one. -/
def serveAt (services : Services σ) (clock : Nat → CdsTime) (receivers : List Receiver)
    (index : Nat) (state : HkState σ) : Except PoolError Unit × HkState σ :=
  match receivers[index]? with
  | some receiver => state.serve services (clock index) receiver
  | none => (.ok (), state)

/-- The state in which the turn at an index begins, in a pass that begins with the given state. -/
def served (services : Services σ) (clock : Nat → CdsTime) (state : HkState σ) :
    (index : Nat) → HkState σ
  | 0 => state
  | index + 1 =>
    (serveAt services clock state.manager.receivers index (served services clock state index)).2

def turn (services : Services σ) (clock : Nat → CdsTime) (state : HkState σ) (index : Nat) :
    Except PoolError Unit × HkState σ :=
  serveAt services clock state.manager.receivers index (state.served services clock index)

theorem turn_of_getElem? (services : Services σ) (clock : Nat → CdsTime) {index : Nat}
    (h : state.manager.receivers[index]? = some receiver) :
    state.turn services clock index =
      (state.served services clock index).serve services (clock index) receiver := by
  simp only [turn, serveAt, h]

theorem served_succ (services : Services σ) (clock : Nat → CdsTime) (state : HkState σ)
    (index : Nat) :
    state.served services clock (index + 1) = (state.turn services clock index).2 := rfl

theorem served_sameTotals (services : Services σ) (clock : Nat → CdsTime) (state : HkState σ)
    (index : Nat) : state.manager.SameTotals (state.served services clock index).manager := by
  induction index with
  | zero => exact .refl _
  | succ index ih =>
    refine ih.trans ?_
    rw [served_succ, turn, serveAt]
    split
    · exact serve_sameTotals ..
    · exact .refl _

/-- What one turn after the other keeps, as long as receivers remain. -/
theorem Serving.served (h : state.Serving data flag total state.manager.receivers) {index : Nat}
    (hindex : index ≤ state.manager.receivers.length) :
    (state.served services clock index).Serving data flag total
      (state.manager.receivers.drop index) := by
  induction index with
  | zero => exact h
  | succ index ih =>
    have hdrop := List.drop_eq_getElem_cons (l := state.manager.receivers) hindex
    have hserving := ih (Nat.le_of_succ_le hindex)
    rw [hdrop] at hserving
    rw [served_succ, turn_of_getElem? services clock (List.getElem?_eq_getElem hindex)]
    exact hserving.next

/-- The result of the last of the first `count` turns that failed. -/
inductive LastFailure (result : Nat → Except PoolError Unit) (count : Nat) :
    Except PoolError Unit → Prop
  | none (hok : ∀ index < count, result index = .ok ()) : LastFailure result count (.ok ())
  | last {index e} (hindex : index < count) (hfailed : result index = .error e)
    (hok : ∀ later < count, index < later → result later = .ok ()) :
    LastFailure result count (.error e)

theorem LastFailure.succ_of_ok {result : Nat → Except PoolError Unit} {count : Nat}
    {status : Except PoolError Unit} (h : LastFailure result count status)
    (hnew : result count = .ok ()) : LastFailure result (count + 1) status := by
  have hsplit {index : Nat} (hlt : index < count + 1) : index < count ∨ index = count := by omega
  cases h with
  | none hok =>
    refine .none ?_
    intro index hlt
    rcases hsplit hlt with hlt | rfl
    · exact hok index hlt
    · exact hnew
  | last hindex hfailed hok =>
    refine .last (Nat.lt_succ_of_lt hindex) hfailed ?_
    intro later hlt hlater
    rcases hsplit hlt with hlt | rfl
    · exact hok later hlt hlater
    · exact hnew

theorem serveAll_append (clock : Nat → CdsTime) (a b : List Receiver)
    (status : Except PoolError Unit) (state : HkState σ) :
    serveAll services clock (a ++ b) status state =
      serveAll services (fun index => clock (index + a.length)) b
        (serveAll services clock a status state).1 (serveAll services clock a status state).2 := by
  induction a generalizing clock status state with
  | nil => rfl
  | cons receiver rest ih =>
    simp only [List.cons_append, List.length_cons, serveAll]
    split <;> exact ih ..

theorem serveAll_take (services : Services σ) (clock : Nat → CdsTime) (state : HkState σ)
    (count : Nat) :
    (serveAll services clock (state.manager.receivers.take count) (.ok ()) state).2 =
        state.served services clock count ∧
      LastFailure (fun index => (state.turn services clock index).1) count
        (serveAll services clock (state.manager.receivers.take count) (.ok ()) state).1 := by
  induction count with
  | zero => exact ⟨rfl, .none fun index h => absurd h (Nat.not_lt_zero index)⟩
  | succ count ih =>
    obtain ⟨hstate, hstatus⟩ := ih
    rw [List.take_add_one, serveAll_append, hstate]
    generalize (serveAll services clock (state.manager.receivers.take count) (.ok ()) state).1 =
      status at hstatus ⊢
    cases hr : state.manager.receivers[count]? with
    | none =>
      simp only [Option.toList, serveAll]
      refine ⟨by simp only [served, serveAt, hr], hstatus.succ_of_ok ?_⟩
      simp only [turn, serveAt, hr]
    | some receiver =>
      have hturn := turn_of_getElem? services clock hr
      have hindex : 0 + (state.manager.receivers.take count).length = count := by
        rw [Nat.zero_add, List.length_take_of_le (Nat.le_of_lt (List.getElem?_eq_some_iff.mp hr).1)]
      rw [served_succ, hturn]
      simp only [Option.toList, serveAll, hindex]
      split
      next next hs =>
        refine ⟨by rw [hs], hstatus.succ_of_ok ?_⟩
        rw [hturn, hs]
      next e next hs =>
        refine ⟨by rw [hs], .last (Nat.lt_succ_self count) (by rw [hturn, hs]) ?_⟩
        intro later hlt hlater; omega

/-- A pass is made of one turn for every receiver. -/
theorem pass_eq_served (services : Services σ) (clock : Nat → CdsTime) (state : HkState σ) :
    (state.pass services clock).2 =
        { state.served services clock state.manager.receivers.length with
          manager := (state.served services clock
            state.manager.receivers.length).manager.restartCounts } ∧
      LastFailure (fun index => (state.turn services clock index).1) state.manager.receivers.length
        (state.pass services clock).1 := by
  have h := serveAll_take services clock state state.manager.receivers.length
  rw [List.take_length] at h
  obtain ⟨hstate, hstatus⟩ := h
  refine ⟨?_, hstatus⟩
  rw [← hstate]
  rfl

/-! ## Once for every follower -/

/-- How a pass serves the followers of some data whose flag was `flag` when it began. -/
structure ServesOnce (services : Services σ) (clock : Nat → CdsTime) (state : HkState σ)
    (data : DataId) (flag : Bool) : Prop where
  /-- A follower sees the flag as it was at the start when its turn comes. -/
  seen : ∀ index receiver, state.manager.receivers[index]? = some receiver →
    receiver.follows data →
    (state.served services clock index).owner.changed? data = some flag
  /-- If the flag was set, each follower is sent the news in one attempt. -/
  attempted : flag = true → ∀ index receiver, state.manager.receivers[index]? = some receiver →
    receiver.follows data →
    ∃ found route parcel,
      (state.served services clock index).owner.getData data = .ok found ∧
      state.manager.announcement? (clock index) receiver.delivery found receiver.destination =
        some (route, parcel) ∧
      Attempt services state.manager.queue state.manager.owner route parcel
        (state.served services clock index).services (state.turn services clock index).1
        (state.served services clock (index + 1)).services
  /-- If it was clear, the turn of a follower does nothing. -/
  silent : flag = false → ∀ index receiver, state.manager.receivers[index]? = some receiver →
    receiver.follows data →
    state.turn services clock index = (.ok (), state.served services clock index)
  /-- From the last follower on, and so after the pass, the flag is clear. -/
  cleared : (∃ receiver ∈ state.manager.receivers, receiver.follows data) →
    ∀ index ≤ state.manager.receivers.length,
      (∀ receiver ∈ state.manager.receivers.drop index, receiver.follows data = false) →
      (state.served services clock index).owner.changed? data = some false
  /-- Nobody else touches it. -/
  untouched : (∀ receiver ∈ state.manager.receivers, receiver.follows data = false) →
    ∀ index ≤ state.manager.receivers.length,
      (state.served services clock index).owner.changed? data = some flag

theorem servesOnce_of_settled (services : Services σ) (clock : Nat → CdsTime) {state : HkState σ}
    (h : state.manager.Settled) {data : DataId} {flag : Bool}
    (hflag : state.owner.changed? data = some flag) :
    state.ServesOnce services clock data flag := by
  have hstart := Serving.start h hflag
  have hat {index : Nat} {receiver : Receiver}
      (hr : state.manager.receivers[index]? = some receiver) :
      (state.served services clock index).Serving data flag (state.manager.followers data)
        (receiver :: state.manager.receivers.drop (index + 1)) := by
    obtain ⟨hindex, rfl⟩ := List.getElem?_eq_some_iff.mp hr
    rw [← List.drop_eq_getElem_cons hindex]
    exact hstart.served (Nat.le_of_lt hindex)
  refine ⟨?_, ?_, ?_, ?_, ?_⟩
  · intro index receiver hr hf
    exact (hat hr).changed?_of_follows hf
  · rintro rfl index receiver hr hf
    obtain ⟨found, route, parcel, hd, -, ha, hattempt⟩ :=
      Serving.attempt services (clock index) (hat hr) hf
    obtain ⟨counts, -, hmanager⟩ := served_sameTotals services clock state index
    rw [hmanager] at ha hattempt
    refine ⟨found, route, parcel, hd, ha, ?_⟩
    rw [served_succ, turn_of_getElem? services clock hr]
    exact hattempt
  · rintro rfl index receiver hr hf
    rw [turn_of_getElem? services clock hr]
    exact (hat hr).turn_of_clear hf
  · rintro ⟨follower, hmem, hf⟩ index hindex hrest
    have hpos : 0 < state.manager.followers data := List.countP_pos_iff.mpr ⟨follower, hmem, hf⟩
    have hzero : remaining data (state.manager.receivers.drop index) = 0 := by
      rw [remaining, List.countP_eq_zero]
      intro receiver hr; rw [hrest receiver hr]; exact Bool.false_ne_true
    rw [(hstart.served hindex).changed?_eq, decide_eq_false (by omega), Bool.and_false]
  · intro hnone index hindex
    have hzero : state.manager.followers data = 0 := by
      rw [HkManager.followers, List.countP_eq_zero]
      intro receiver hr; rw [hnone receiver hr]; exact Bool.false_ne_true
    rw [(hstart.served hindex).changed?_eq, decide_eq_true (.inl hzero), Bool.and_true]

/-- **After any history, a pass serves every follower of changed data once**, whatever else it
serves in between and whatever fails. Its result is that of the last turn that failed. -/
theorem pass_serves_every_follower_once (services : Services σ) (bank : PoolBank) (id : ObjectId)
    (queue : QueueId) (queueDefault : Option QueueId) (config : ManagerConfig) (owner : Owner)
    (initial : σ) (events : List (HkEvent σ)) (clock : Nat → CdsTime) :
    let state := HkState.run services events
      ⟨(HkManager.create bank id queue queueDefault config).1, owner, initial⟩
    let count := state.manager.receivers.length
    LastFailure (fun index => (state.turn services clock index).1) count
        (state.pass services clock).1 ∧
      (state.pass services clock).2.owner = (state.served services clock count).owner ∧
      (state.pass services clock).2.services = (state.served services clock count).services ∧
      ∀ data flag, state.owner.changed? data = some flag →
        state.ServesOnce services clock data flag := by
  intro state count
  have hsettled : state.manager.Settled :=
    settled_run services bank id queue queueDefault config owner initial events
  obtain ⟨hafter, hstatus⟩ := pass_eq_served services clock state
  refine ⟨hstatus, by rw [hafter], by rw [hafter], ?_⟩
  intro data flag hflag
  exact servesOnce_of_settled services clock hsettled hflag

end HkState

end Housekeeper
