import Housekeeper.Transport.Queue
import Mathlib.Data.List.Induction
import Mathlib.Data.List.Nodup

/-!
# Routing of messages

`HubHistory` goes through everything that queues do: they are made, send, receive and are given up,
in any order, and every action leaves a record. From the records alone one knows which messages a
queue accepted (`HubHistory.accepted`), which of them it handed out (`HubHistory.delivered`), and
which queues there are (`HubHistory.Open`).

`HubHistory.Consistent` ties the records to the hub. What a queue accepted is what it handed out and
then what waits in it, in this order; so the next message it hands out is the first of those that
it accepted and has not handed out yet. As long as the ids last, every action keeps this
(`Consistent.step`), and `messages_routed_in_order` says what follows for every history.
-/

namespace Housekeeper

inductive HubAction where
  | create (depth : Nat)
  /-- The message may name anybody as its sender. -/
  | send (source destination : QueueId) (message : CommandMessage)
  | receive (queue : QueueId)
  | drop (queue : QueueId)

namespace HubAction

/-- The queue that does it. -/
def actor? : HubAction → Option QueueId
  | create _ => none
  | send source _ _ => some source
  | receive queue | drop queue => some queue

def isCreate : HubAction → Bool
  | create _ => true
  | _ => false

end HubAction

/-- An action and its outcome. -/
inductive HubRecord where
  | created (id : QueueId) (depth : Nat)
  | sent (source destination : QueueId) (message : CommandMessage)
    (result : Except PoolError Unit)
  | received (queue : QueueId) (message : Option CommandMessage)
  | dropped (queue : QueueId)

namespace HubRecord

/-- The id of a new queue. -/
def id? : HubRecord → Option QueueId
  | created id _ => some id
  | _ => none

/-- What this adds to the messages that the queue accepted. -/
def accepted? (queue : QueueId) : HubRecord → Option CommandMessage
  | sent source destination message (.ok ()) =>
    if destination = queue then some { message with sender := source } else none
  | _ => none

/-- What this adds to the messages that the queue handed out. -/
def delivered? (queue : QueueId) : HubRecord → Option CommandMessage
  | received own message => if own = queue then message else none
  | _ => none

end HubRecord

/-! ## One call of the hub -/

namespace QueueHub

/-- A queue sends a message as its own, whatever sender the message names. -/
def post (hub : QueueHub) (source destination : QueueId) (message : CommandMessage) :
    Except PoolError Unit × QueueHub :=
  hub.send source destination message.command

def act (hub : QueueHub) : HubAction → HubRecord × QueueHub
  | .create depth =>
    let (id, next) := hub.create depth
    (.created id depth, next)
  | .send source destination message =>
    let (result, next) := hub.post source destination message
    (.sent source destination message result, next)
  | .receive queue =>
    let (message, next) := hub.receive queue
    (.received queue message, next)
  | .drop queue => (.dropped queue, hub.drop queue)

/-- All that can come of sending a message. -/
inductive Posted (hub : QueueHub) (source destination : QueueId) (message : CommandMessage) :
    Except PoolError Unit × QueueHub → Prop where
  | lost (absent : destination = noQueue ∨ hub.queues.get? destination = none) :
    Posted hub source destination message (.error .queueOrDestinationInvalid, hub)
  | refused {queue : MessageQueue} (real : destination ≠ noQueue)
    (there : hub.queues.get? destination = some queue)
    (full : queue.depth ≤ queue.pending.length) :
    Posted hub source destination message (.error .queueFull, hub)
  | queued {queue : MessageQueue} (real : destination ≠ noQueue)
    (there : hub.queues.get? destination = some queue)
    (room : queue.pending.length < queue.depth) :
    Posted hub source destination message (.ok (), ⟨hub.created, hub.queues.put destination
      ⟨queue.depth, queue.pending ++ [{ message with sender := source }]⟩⟩)

theorem posted_post (hub : QueueHub) (source destination : QueueId) (message : CommandMessage) :
    Posted hub source destination message (hub.post source destination message) := by
  unfold post send
  split
  next hno => exact .lost (.inl hno)
  next hreal =>
    split
    next habsent => exact .lost (.inr habsent)
    next queue hthere =>
      split
      next hfull => exact .refused hreal hthere hfull
      next hroom => exact .queued hreal hthere (Nat.not_le.mp hroom)

theorem pending_of_get? {hub : QueueHub} {id : QueueId} {queue : MessageQueue}
    (h : hub.queues.get? id = some queue) : hub.pending id = queue.pending := by
  simp only [pending, h]

theorem receive_fst (hub : QueueHub) (id : QueueId) :
    (hub.receive id).1 = (hub.pending id).head? := by
  unfold receive pending
  rcases hub.queues.get? id with _ | ⟨depth, _ | ⟨message, rest⟩⟩ <;> rfl

/-- Receiving changes what waits in one queue. -/
theorem get?_receive (hub : QueueHub) (own id : QueueId) :
    (hub.receive own).2.queues.get? id =
      (hub.queues.get? id).map fun queue =>
        if id = own then ⟨queue.depth, queue.pending.tail⟩ else queue := by
  unfold receive
  split
  next depth message rest hown =>
    show (hub.queues.put own ⟨depth, rest⟩).get? id = _
    rw [IdTable.get?_put]
    split
    next hid => rw [hid, hown, Option.map_some, List.tail_cons]
    next => simp
  next hempty =>
    rcases hid : hub.queues.get? id with _ | ⟨depth, waiting⟩
    · rfl
    · rw [Option.map_some]
      split
      next hsame =>
        subst hsame
        cases waiting with
        | nil => rfl
        | cons message rest => exact absurd hid (hempty depth message rest)
      next => rfl

/-- The depth of a queue, if there is one. -/
def depth? (hub : QueueHub) (id : QueueId) : Option Nat :=
  (hub.queues.get? id).map MessageQueue.depth

theorem depth?_eq_some {hub : QueueHub} {id : QueueId} {depth : Nat} :
    hub.depth? id = some depth ↔ ∃ waiting, hub.queues.get? id = some ⟨depth, waiting⟩ := by
  rw [depth?]
  rcases hub.queues.get? id with _ | ⟨own, waiting⟩ <;> simp

theorem Posted.depth?_eq {hub : QueueHub} {source destination : QueueId}
    {message : CommandMessage} {outcome : Except PoolError Unit × QueueHub}
    (h : Posted hub source destination message outcome) (id : QueueId) :
    outcome.2.depth? id = hub.depth? id := by
  cases h with
  | lost => rfl
  | refused => rfl
  | queued _ hthere _ =>
    rw [depth?, IdTable.get?_put, depth?]
    split
    next hid => rw [hid, hthere]; rfl
    next => rfl

theorem depth?_receive (hub : QueueHub) (own id : QueueId) :
    (hub.receive own).2.depth? id = hub.depth? id := by
  rw [depth?, get?_receive, Option.map_map, depth?]
  congr 1
  funext queue
  simp only [Function.comp_apply]
  split <;> rfl

theorem created_receive (hub : QueueHub) (own : QueueId) :
    (hub.receive own).2.created = hub.created := by
  unfold receive
  split <;> rfl

end QueueHub

/-! ## Histories -/

/-- A hub, and what was done with its queues, the oldest first. -/
structure HubHistory where
  hub : QueueHub
  records : List HubRecord

namespace HubHistory

def empty : HubHistory := ⟨.empty, []⟩

/-- Whoever acts is there; what a queue does that is gone does not happen. -/
def step (history : HubHistory) (action : HubAction) : HubHistory :=
  if action.actor?.all history.hub.queues.contains then
    let (record, hub) := history.hub.act action
    ⟨hub, history.records ++ [record]⟩
  else history

def run (actions : List HubAction) : HubHistory := actions.foldl step empty

/-- The ids of all queues that were ever made. -/
def ids (history : HubHistory) : List QueueId := history.records.filterMap HubRecord.id?

def accepted (history : HubHistory) (queue : QueueId) : List CommandMessage :=
  history.records.filterMap (HubRecord.accepted? queue)

def delivered (history : HubHistory) (queue : QueueId) : List CommandMessage :=
  history.records.filterMap (HubRecord.delivered? queue)

theorem filterMap_concat {α β : Type} (f : α → Option β) (xs : List α) (x : α) :
    (xs ++ [x]).filterMap f = xs.filterMap f ++ (f x).toList := by
  rw [List.filterMap_append, List.filterMap_cons]
  cases f x <;> rfl

section

variable (history : HubHistory) (hub : QueueHub) (record : HubRecord)

theorem ids_append :
    ids ⟨hub, history.records ++ [record]⟩ = history.ids ++ record.id?.toList := by
  rw [ids, filterMap_concat]
  rfl

theorem accepted_append (queue : QueueId) :
    accepted ⟨hub, history.records ++ [record]⟩ queue =
      history.accepted queue ++ (record.accepted? queue).toList := by
  rw [accepted, filterMap_concat]
  rfl

theorem delivered_append (queue : QueueId) :
    delivered ⟨hub, history.records ++ [record]⟩ queue =
      history.delivered queue ++ (record.delivered? queue).toList := by
  rw [delivered, filterMap_concat]
  rfl

end

/-- A queue of this depth was made under the id, and it was not dropped. -/
def Open (history : HubHistory) (id : QueueId) (depth : Nat) : Prop :=
  .created id depth ∈ history.records ∧ .dropped id ∉ history.records

theorem mem_ids {history : HubHistory} {id : QueueId} :
    id ∈ history.ids ↔ ∃ depth, .created id depth ∈ history.records := by
  simp only [ids, List.mem_filterMap]
  constructor
  · rintro ⟨record, hmem, hid⟩
    cases record <;> cases hid
    exact ⟨_, hmem⟩
  · rintro ⟨depth, hmem⟩
    exact ⟨_, hmem, rfl⟩

/-- The records tell what is in the hub. -/
structure Consistent (history : HubHistory) : Prop where
  created_eq : history.hub.created.toNat = history.ids.length
  distinct : history.ids.Nodup
  numbered : ∀ id ∈ history.ids, 0 < id.toNat ∧ id.toNat ≤ history.ids.length
  /-- Nothing happens to a queue before it is made. -/
  unused : ∀ id, id ∉ history.ids → history.accepted id = [] ∧ history.delivered id = [] ∧
    .dropped id ∉ history.records
  there : ∀ id depth, history.Open id depth ↔
    ∃ waiting, history.hub.queues.get? id = some ⟨depth, waiting⟩
  bounded : ∀ id queue, history.hub.queues.get? id = some queue →
    queue.pending.length ≤ queue.depth
  in_order : ∀ id queue, history.hub.queues.get? id = some queue →
    history.accepted id = history.delivered id ++ queue.pending

namespace Consistent

theorem empty : Consistent HubHistory.empty where
  created_eq := rfl
  distinct := List.nodup_nil
  numbered := by intro id hmem; cases hmem
  unused := fun id _ => ⟨rfl, rfl, List.not_mem_nil⟩
  there := by
    intro id depth
    constructor
    · rintro ⟨hmem, -⟩
      cases hmem
    · rintro ⟨waiting, hget⟩
      cases hget
  bounded := by intro id queue hget; cases hget
  in_order := by intro id queue hget; cases hget

variable {history : HubHistory}

theorem mem_ids_of_get? (h : Consistent history) {id : QueueId} {queue : MessageQueue}
    (hget : history.hub.queues.get? id = some queue) : id ∈ history.ids := by
  obtain ⟨hcreated, -⟩ := (h.there id queue.depth).mpr ⟨queue.pending, hget⟩
  exact mem_ids.mpr ⟨_, hcreated⟩

theorem open_iff_depth (h : Consistent history) {id : QueueId} {queue : MessageQueue}
    (hget : history.hub.queues.get? id = some queue) {depth : Nat} :
    history.Open id depth ↔ queue.depth = depth := by
  rw [h.there id depth, hget]
  constructor
  · rintro ⟨waiting, hqueue⟩
    cases hqueue
    rfl
  · rintro rfl
    exact ⟨queue.pending, rfl⟩

theorem created (h : Consistent history) (depth : Nat)
    (hroom : history.ids.length + 1 < UInt32.size) :
    Consistent ⟨(history.hub.create depth).2,
      history.records ++ [.created (history.hub.created + 1) depth]⟩ := by
  have hid : (history.hub.created + 1).toNat = history.ids.length + 1 := by
    rw [UInt32.toNat_add, h.created_eq]
    exact Nat.mod_eq_of_lt hroom
  generalize hnew : history.hub.created + 1 = new at hid
  have hfresh : new ∉ history.ids := by
    intro hmem
    have hle := (h.numbered new hmem).2
    omega
  obtain ⟨haccepted, hdelivered, hdropped⟩ := h.unused new hfresh
  have hids : ids ⟨(history.hub.create depth).2, history.records ++ [.created new depth]⟩ =
      history.ids ++ [new] := ids_append ..
  have hget (id : QueueId) : (history.hub.create depth).2.queues.get? id =
      if id = new then some ⟨depth, []⟩ else history.hub.queues.get? id := by
    rw [← hnew]
    exact IdTable.get?_put ..
  have hsame (id : QueueId) :
      accepted ⟨(history.hub.create depth).2, history.records ++ [.created new depth]⟩ id =
          history.accepted id ∧
        delivered ⟨(history.hub.create depth).2, history.records ++ [.created new depth]⟩ id =
          history.delivered id := by
    rw [accepted_append, delivered_append]
    exact ⟨List.append_nil _, List.append_nil _⟩
  constructor
  case created_eq =>
    rw [hids, List.length_append, List.length_singleton, ← hid, ← hnew]
    rfl
  case distinct =>
    rw [hids]
    exact List.nodup_append.mpr ⟨h.distinct, List.nodup_singleton new, by
      rintro id hmem other hother rfl
      exact hfresh (List.mem_singleton.mp hother ▸ hmem)⟩
  case numbered =>
    intro id hmem
    rw [hids] at hmem ⊢
    rw [List.length_append, List.length_singleton]
    rcases List.mem_append.mp hmem with hold | hlast
    · have hnumber := h.numbered id hold
      omega
    · rw [List.mem_singleton.mp hlast]
      omega
  case unused =>
    intro id hmem
    rw [hids] at hmem
    have hold : id ∉ history.ids := fun hold => hmem (List.mem_append_left _ hold)
    obtain ⟨ha, hd, hdrop⟩ := h.unused id hold
    exact ⟨(hsame id).1.trans ha, (hsame id).2.trans hd, by simp [hdrop]⟩
  case there =>
    intro id own
    rw [hget]
    by_cases hsame : id = new
    · subst hsame
      have hnone : .created id own ∉ history.records := fun hmem => hfresh (mem_ids.mpr ⟨_, hmem⟩)
      simp [Open, hdropped, hnone, eq_comm]
    · rw [if_neg hsame, ← h.there id own]
      simp [Open, hsame]
  case bounded =>
    intro id queue hqueue
    rw [hget] at hqueue
    split at hqueue
    · cases hqueue
      exact Nat.zero_le _
    · exact h.bounded id queue hqueue
  case in_order =>
    intro id queue hqueue
    rw [(hsame id).1, (hsame id).2]
    rw [hget] at hqueue
    split at hqueue
    next hsame =>
      cases hqueue
      rw [hsame, haccepted, hdelivered]
      rfl
    next => exact h.in_order id queue hqueue

/-- An action that neither makes nor drops a queue, and touches only queues that are there. -/
theorem of_traffic (h : Consistent history) {record : HubRecord} {hub : QueueHub}
    (hcreated : hub.created = history.hub.created) (hid : record.id? = none)
    (hdrop : ∀ id, record ≠ .dropped id)
    (hdepth : ∀ id, hub.depth? id = history.hub.depth? id)
    (habsent : ∀ id, history.hub.queues.get? id = none →
      record.accepted? id = none ∧ record.delivered? id = none)
    (hqueue : ∀ id before after, history.hub.queues.get? id = some before →
      hub.queues.get? id = some after → after.pending.length ≤ after.depth ∧
        before.pending ++ (record.accepted? id).toList =
          (record.delivered? id).toList ++ after.pending) :
    Consistent ⟨hub, history.records ++ [record]⟩ := by
  have hids : ids ⟨hub, history.records ++ [record]⟩ = history.ids := by
    rw [ids_append, hid]
    exact List.append_nil _
  have hdropped (id : QueueId) : .dropped id ∈ history.records ++ [record] ↔
      .dropped id ∈ history.records := by
    simp [(hdrop id).symm]
  have hbefore {id : QueueId} {after : MessageQueue} (hafter : hub.queues.get? id = some after) :
      ∃ before, history.hub.queues.get? id = some before ∧ before.depth = after.depth := by
    have hsame : hub.depth? id = some after.depth := congrArg (Option.map MessageQueue.depth) hafter
    exact Option.map_eq_some_iff.mp ((hdepth id).symm.trans hsame)
  constructor
  case created_eq => rw [hids, hcreated]; exact h.created_eq
  case distinct => rw [hids]; exact h.distinct
  case numbered => rw [hids]; exact h.numbered
  case unused =>
    intro id hmem
    rw [hids] at hmem
    obtain ⟨ha, hd, hdrop⟩ := h.unused id hmem
    have hnone : history.hub.queues.get? id = none := by
      rcases hget : history.hub.queues.get? id with _ | queue
      · rfl
      · exact absurd (h.mem_ids_of_get? hget) hmem
    obtain ⟨hra, hrd⟩ := habsent id hnone
    rw [accepted_append, delivered_append, ha, hd, hra, hrd]
    exact ⟨rfl, rfl, mt (hdropped id).mp hdrop⟩
  case there =>
    intro id depth
    have hopen : Open ⟨hub, history.records ++ [record]⟩ id depth ↔ history.Open id depth := by
      have hother : record ≠ .created id depth := by
        rintro rfl
        cases hid
      simp [Open, hdropped, hother.symm]
    rw [hopen, h.there id depth, ← QueueHub.depth?_eq_some, ← QueueHub.depth?_eq_some, hdepth]
  case bounded =>
    intro id after hafter
    obtain ⟨before, hget, -⟩ := hbefore hafter
    exact (hqueue id before after hget hafter).1
  case in_order =>
    intro id after hafter
    obtain ⟨before, hget, -⟩ := hbefore hafter
    rw [accepted_append, delivered_append, h.in_order id before hget, List.append_assoc,
      (hqueue id before after hget hafter).2, List.append_assoc]

theorem sent (h : Consistent history) (source destination : QueueId) (message : CommandMessage) :
    Consistent ⟨(history.hub.post source destination message).2, history.records ++
      [.sent source destination message (history.hub.post source destination message).1]⟩ := by
  have hposted := history.hub.posted_post source destination message
  have hfailed (e : PoolError) : Consistent ⟨history.hub, history.records ++
      [.sent source destination message (.error e)]⟩ := by
    refine h.of_traffic rfl rfl (by simp) (fun _ => rfl) (fun _ _ => ⟨rfl, rfl⟩) ?_
    intro id before after hget hafter
    rw [hget] at hafter
    cases hafter
    exact ⟨h.bounded id before hget, by simp [HubRecord.accepted?, HubRecord.delivered?]⟩
  generalize history.hub.post source destination message = outcome at hposted
  have hdepth := hposted.depth?_eq
  cases hposted with
  | lost => exact hfailed _
  | refused => exact hfailed _
  | @queued queue _ hthere hroom =>
    refine h.of_traffic rfl rfl (by simp) hdepth (fun id hnone => ?_) ?_
    · have hother : destination ≠ id := by
        rintro rfl
        rw [hthere] at hnone
        cases hnone
      simp [HubRecord.accepted?, HubRecord.delivered?, hother]
    · intro id before after hget hafter
      rw [IdTable.get?_put] at hafter
      split at hafter
      next hsame =>
        subst hsame
        cases hafter
        obtain rfl := Option.some.inj (hget.symm.trans hthere)
        refine ⟨?_, by simp [HubRecord.accepted?, HubRecord.delivered?]⟩
        simp only [List.length_append, List.length_singleton]
        omega
      next hother =>
        rw [hget] at hafter
        cases hafter
        refine ⟨h.bounded id before hget, ?_⟩
        simp [HubRecord.accepted?, HubRecord.delivered?, Ne.symm hother]

theorem received (h : Consistent history) (queue : QueueId) :
    Consistent ⟨(history.hub.receive queue).2, history.records ++
      [.received queue (history.hub.receive queue).1]⟩ := by
  have hget := history.hub.get?_receive queue
  refine h.of_traffic (history.hub.created_receive queue) rfl (by simp)
    (history.hub.depth?_receive queue) (fun id hnone => ?_) ?_
  · refine ⟨rfl, ?_⟩
    simp only [HubRecord.delivered?]
    split
    next hsame =>
      rw [QueueHub.receive_fst, hsame]
      simp [QueueHub.pending, hnone]
    next => rfl
  · intro id before after hbefore hafter
    rw [hget, hbefore, Option.map_some] at hafter
    cases hafter
    have hbound := h.bounded id before hbefore
    by_cases hsame : id = queue
    · subst hsame
      simp only [if_true, HubRecord.accepted?, HubRecord.delivered?, List.length_tail]
      refine ⟨by omega, ?_⟩
      rw [QueueHub.receive_fst, QueueHub.pending_of_get? hbefore]
      cases before.pending <;> simp
    · rw [if_neg hsame]
      exact ⟨hbound, by simp [HubRecord.accepted?, HubRecord.delivered?, Ne.symm hsame]⟩

theorem dropped (h : Consistent history) {queue : QueueId}
    (hthere : (history.hub.queues.contains queue) = true) :
    Consistent ⟨history.hub.drop queue, history.records ++ [.dropped queue]⟩ := by
  obtain ⟨own, hown⟩ := Option.isSome_iff_exists.mp hthere
  have hids : ids ⟨history.hub.drop queue, history.records ++ [.dropped queue]⟩ = history.ids :=
    (ids_append ..).trans (List.append_nil _)
  have hsame (id : QueueId) :
      accepted ⟨history.hub.drop queue, history.records ++ [.dropped queue]⟩ id =
          history.accepted id ∧
        delivered ⟨history.hub.drop queue, history.records ++ [.dropped queue]⟩ id =
          history.delivered id := by
    rw [accepted_append, delivered_append]
    exact ⟨List.append_nil _, List.append_nil _⟩
  have hget (id : QueueId) : (history.hub.drop queue).queues.get? id =
      if id = queue then none else history.hub.queues.get? id := IdTable.get?_erase ..
  constructor
  case created_eq => rw [hids]; exact h.created_eq
  case distinct => rw [hids]; exact h.distinct
  case numbered => rw [hids]; exact h.numbered
  case unused =>
    intro id hmem
    rw [hids] at hmem
    obtain ⟨ha, hd, hdrop⟩ := h.unused id hmem
    have hother : id ≠ queue := by
      rintro rfl
      exact hmem (h.mem_ids_of_get? hown)
    exact ⟨(hsame id).1.trans ha, (hsame id).2.trans hd, by simp [hdrop, hother]⟩
  case there =>
    intro id depth
    rw [hget]
    by_cases hgone : id = queue
    · simp [Open, hgone]
    · rw [if_neg hgone, ← h.there id depth]
      simp [Open, hgone]
  case bounded =>
    intro id other hother
    rw [hget] at hother
    split at hother
    · cases hother
    · exact h.bounded id other hother
  case in_order =>
    intro id other hother
    rw [(hsame id).1, (hsame id).2]
    rw [hget] at hother
    split at hother
    · cases hother
    · exact h.in_order id other hother

/-- Every action keeps this, and only `create` takes an id. -/
theorem step (h : Consistent history) {action : HubAction}
    (hroom : action.isCreate = true → history.ids.length + 1 < UInt32.size) :
    Consistent (history.step action) := by
  unfold HubHistory.step
  split
  next hactor =>
    cases action with
    | create depth => exact h.created depth (hroom rfl)
    | send source destination message => exact h.sent source destination message
    | receive queue => exact h.received queue
    | drop queue => exact h.dropped hactor
  next => exact h

end Consistent

theorem length_ids_step (history : HubHistory) (action : HubAction) :
    (history.step action).ids.length ≤ history.ids.length + action.isCreate.toNat := by
  unfold step
  split
  next h =>
    cases action <;>
      simp [QueueHub.act, ids, List.filterMap_cons, HubRecord.id?, HubAction.isCreate]
  next => exact Nat.le_add_right ..

theorem run_concat (actions : List HubAction) (action : HubAction) :
    run (actions ++ [action]) = (run actions).step action := by
  rw [run, List.foldl_append]
  rfl

/-- The records tell what is in the hub, as long as there were not too many queues. -/
theorem consistent_run (actions : List HubAction)
    (few : actions.countP HubAction.isCreate < UInt32.size) :
    Consistent (run actions) ∧ (run actions).ids.length ≤ actions.countP HubAction.isCreate := by
  induction actions using List.reverseRecOn with
  | nil => exact ⟨.empty, Nat.le_refl 0⟩
  | append_singleton actions action ih =>
    have hcount : (actions ++ [action]).countP HubAction.isCreate =
        actions.countP HubAction.isCreate + action.isCreate.toNat := by
      rw [List.countP_append, List.countP_singleton]
      cases action.isCreate <;> rfl
    rw [hcount] at few ⊢
    obtain ⟨hconsistent, hlength⟩ := ih (by omega)
    have hnext := (run actions).length_ids_step action
    rw [run_concat]
    refine ⟨hconsistent.step fun hcreate => ?_, by omega⟩
    rw [hcreate, Bool.toNat_true] at few
    omega

/-- **Every message goes to its destination, once and in order.** Whatever queues are made and given
up, and whatever they send and receive: no two queues have the same id, and none has that of no
queue. A queue that is there hands out exactly what it accepted, the oldest first, and from the
queue that sent it; and it never holds more than its depth. A message is refused exactly if there is
no such queue (any more), or if the queue is full, and then nothing changes. -/
theorem messages_routed_in_order (actions : List HubAction)
    (few : actions.countP HubAction.isCreate < UInt32.size) :
    let history := run actions
    history.ids.Nodup ∧ noQueue ∉ history.ids ∧
      (∀ id depth, history.Open id depth →
        history.accepted id = history.delivered id ++ history.hub.pending id ∧
        (history.hub.receive id).1 = (history.accepted id)[(history.delivered id).length]? ∧
        (history.hub.pending id).length ≤ depth) ∧
      ∀ source destination message,
        let sent := history.hub.post source destination message
        (sent.1 = .error .queueOrDestinationInvalid ↔ destination = noQueue ∨
          destination ∉ history.ids ∨ .dropped destination ∈ history.records) ∧
        (sent.1 = .error .queueFull ↔ ∃ depth, history.Open destination depth ∧
          (history.hub.pending destination).length = depth) ∧
        (sent.1 = .ok () ↔ ∃ depth, history.Open destination depth ∧
          (history.hub.pending destination).length < depth) ∧
        (sent.1 ≠ .ok () → sent.2 = history.hub) := by
  intro history
  obtain ⟨h, -⟩ : Consistent history ∧ _ := consistent_run actions few
  have hno : noQueue ∉ history.ids := fun hmem => absurd (h.numbered _ hmem).1 (by decide)
  refine ⟨h.distinct, hno, fun id depth hopen => ?_, fun source destination message => ?_⟩
  · obtain ⟨waiting, hget⟩ := (h.there id depth).mp hopen
    have horder := h.in_order id _ hget
    rw [QueueHub.receive_fst, QueueHub.pending_of_get? hget, horder]
    refine ⟨rfl, ?_, h.bounded id _ hget⟩
    rw [List.getElem?_append_right (Nat.le_refl _), Nat.sub_self, List.head?_eq_getElem?]
  · intro sent
    have hgone : (destination = noQueue ∨ destination ∉ history.ids ∨
        .dropped destination ∈ history.records) ↔ ∀ depth, ¬ history.Open destination depth := by
      constructor
      · rintro (rfl | hnew | hdropped) depth ⟨hcreated, hthere⟩
        · exact hno (mem_ids.mpr ⟨depth, hcreated⟩)
        · exact hnew (mem_ids.mpr ⟨depth, hcreated⟩)
        · exact hthere hdropped
      · intro hclosed
        by_cases hmem : destination ∈ history.ids
        · obtain ⟨depth, hcreated⟩ := mem_ids.mp hmem
          refine .inr (.inr ?_)
          exact Classical.byContradiction fun hthere => hclosed depth ⟨hcreated, hthere⟩
        · exact .inr (.inl hmem)
    have hposted : QueueHub.Posted history.hub source destination message sent :=
      history.hub.posted_post source destination message
    rw [hgone]
    generalize sent = outcome at hposted
    cases hposted with
    | lost habsent =>
      have hclosed (depth : Nat) : ¬ history.Open destination depth := by
        intro hopen
        obtain ⟨waiting, hget⟩ := (h.there destination depth).mp hopen
        rcases habsent with rfl | hnone
        · exact hno (h.mem_ids_of_get? hget)
        · rw [hnone] at hget
          cases hget
      simp [hclosed]
    | @refused queue _ hthere hfull =>
      have hlength : (history.hub.pending destination).length = queue.depth := by
        rw [QueueHub.pending_of_get? hthere]
        exact Nat.le_antisymm (h.bounded destination queue hthere) hfull
      have hdepth (depth : Nat) : history.Open destination depth ↔ queue.depth = depth :=
        h.open_iff_depth hthere
      simp [hdepth, hlength]
    | @queued queue _ hthere hroom =>
      have hlength : (history.hub.pending destination).length < queue.depth := by
        rwa [QueueHub.pending_of_get? hthere]
      have hdepth (depth : Nat) : history.Open destination depth ↔ queue.depth = depth :=
        h.open_iff_depth hthere
      simp [hdepth, hlength, (Nat.ne_of_lt hlength).symm]

/-- The first of three queues got two messages, the senders of which are not what they say, and
handed out one; the second is full and the third is gone. -/
theorem three_queues_routed :
    let first : CommandMessage := ⟨7, .success ⟨1, 1⟩⟩
    let second : CommandMessage := ⟨7, .success ⟨1, 2⟩⟩
    let actions : List HubAction := [.create 2, .create 1, .create 1, .send 3 1 first, .drop 3,
      .send 1 2 first, .send 2 1 second, .receive 1]
    actions.countP HubAction.isCreate < UInt32.size ∧
      ((run actions).hub.receive 1).1 = some ⟨2, .success ⟨1, 2⟩⟩ ∧
      ((run actions).hub.post 1 2 second).1 = .error .queueFull ∧
      ((run actions).hub.post 1 3 second).1 = .error .queueOrDestinationInvalid := by
  intro first second actions
  have few : actions.countP HubAction.isCreate < UInt32.size := by decide
  have hrecords : (run actions).records = [.created 1 2, .created 2 1, .created 3 1,
      .sent 3 1 first (.ok ()), .dropped 3, .sent 1 2 first (.ok ()), .sent 2 1 second (.ok ()),
      .received 1 (some ⟨3, .success ⟨1, 1⟩⟩)] := by
    cbv
  have hwaiting : (run actions).hub.pending 2 = [⟨1, .success ⟨1, 1⟩⟩] := by cbv
  have hfirst : (run actions).Open 1 2 := by simp [Open, hrecords]
  have hsecond : (run actions).Open 2 1 := by simp [Open, hrecords]
  obtain ⟨-, -, hqueues, hpost⟩ := messages_routed_in_order actions few
  refine ⟨few, ?_, ?_, ?_⟩
  · rw [(hqueues 1 2 hfirst).2.1]
    rw [accepted, delivered, hrecords]
    rfl
  · exact (hpost 1 2 second).2.1.mpr ⟨1, hsecond, by rw [hwaiting]; rfl⟩
  · exact (hpost 1 3 second).1.mpr (.inr (.inr (by simp [hrecords])))

end HubHistory

end Housekeeper
