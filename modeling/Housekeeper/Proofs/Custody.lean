import Housekeeper.Proofs.Consignments
import Housekeeper.Proofs.Queues
import Housekeeper.Proofs.Slots

/-!
# Who holds the elements of the store

Managers put packet data into the store and hand the elements on with their messages. `Exchange` is
any number of managers and other components that share a store and a queue hub, and
`Exchange.Step` is what may happen among them. `Custody` is the invariant: every live element
belongs to one message that is queued or held by its receiver, and holds what was stored for that
message. It is kept by every delivery attempt, whatever becomes of it (`Custody.attempt`), and so by
all that managers do.
-/

namespace Housekeeper

/-- The store elements that messages refer to. -/
def storeIds (messages : List CommandMessage) : List StoreId :=
  messages.filterMap fun message => message.command.store?

/-- Every live element belongs to one of the messages, which all have what was stored for them. -/
structure Custody (capacity : Nat) (messages : List CommandMessage) (store : PacketStore)
    (calls : List ServiceCall) : Prop where
  addressable : store.Addressable
  distinct : (storeIds messages).Nodup
  live : ∀ message ∈ messages, ∀ id, message.command.store? = some id →
    ∃ bytes, SentWith calls message id bytes ∧ store.get? id = some bytes
  balance : store.freeCount + (storeIds messages).length = capacity

namespace Custody

variable {capacity : Nat} {messages : List CommandMessage} {message : CommandMessage}
  {store after : PacketStore} {calls : List ServiceCall} {id : StoreId} {bytes : Bytes}

theorem storeIds_cons_of_some (messages : List CommandMessage)
    (hid : message.command.store? = some id) :
    storeIds (message :: messages) = id :: storeIds messages :=
  List.filterMap_cons_some hid

theorem storeIds_cons_of_none (messages : List CommandMessage)
    (hplain : message.command.store? = none) :
    storeIds (message :: messages) = storeIds messages :=
  List.filterMap_cons_none hplain

/-- The order of the messages does not matter. -/
theorem perm (h : Custody capacity messages store calls) {others : List CommandMessage}
    (hperm : others.Perm messages) : Custody capacity others store calls := by
  have hids : (storeIds others).Perm (storeIds messages) := hperm.filterMap _
  refine ⟨h.addressable, hids.nodup_iff.mpr h.distinct, ?_, hids.length_eq ▸ h.balance⟩
  intro message hmem
  exact h.live message (hperm.mem_iff.mp hmem)

/-- An id that is free belongs to nobody. -/
theorem not_mem_of_free (h : Custody capacity messages store calls) (hfree : store.get? id = none) :
    id ∉ storeIds messages := by
  intro hmem
  obtain ⟨message, hmessage, hid⟩ := List.mem_filterMap.mp hmem
  obtain ⟨bytes, -, hlive⟩ := h.live message hmessage id hid
  rw [hfree] at hlive
  cases hlive

/-- Calls that add nothing change nothing. -/
theorem append_calls (h : Custody capacity messages store calls) {more : List ServiceCall}
    (hmore : ∀ id ∈ storeIds messages, ∀ data, .add data (.ok id) ∉ more) :
    Custody capacity messages store (calls ++ more) := by
  refine ⟨h.addressable, h.distinct, ?_, h.balance⟩
  intro message hmem id hid
  obtain ⟨bytes, hsent, hlive⟩ := h.live message hmem id hid
  exact ⟨bytes, hsent.append (hmore id (List.mem_filterMap.mpr ⟨message, hmem, hid⟩)), hlive⟩

theorem cons_plain (h : Custody capacity messages store calls)
    (hplain : message.command.store? = none) :
    Custody capacity (message :: messages) store calls := by
  refine ⟨h.addressable, ?_, ?_, ?_⟩
  · rw [storeIds_cons_of_none messages hplain]; exact h.distinct
  · intro other hmem id hid
    rcases List.mem_cons.mp hmem with rfl | hmem
    · rw [hplain] at hid; cases hid
    · exact h.live other hmem id hid
  · rw [storeIds_cons_of_none messages hplain]; exact h.balance

theorem of_cons_plain (h : Custody capacity (message :: messages) store calls)
    (hplain : message.command.store? = none) : Custody capacity messages store calls := by
  have hids := storeIds_cons_of_none messages hplain
  refine ⟨h.addressable, hids ▸ h.distinct, ?_, hids ▸ h.balance⟩
  intro other hmem
  exact h.live other (List.mem_cons_of_mem _ hmem)

/-- Data are stored and the message about them is sent. -/
theorem deliver (h : Custody capacity messages store calls)
    (hadd : store.add bytes = (.ok id, after)) (hid : message.command.store? = some id)
    (destination : QueueId) :
    Custody capacity (message :: messages) after
      (calls ++ [.add bytes (.ok id),
        .send message.sender destination message.command (.ok ())]) := by
  obtain ⟨hfree, hget, hcount, haddr⟩ := h.addressable.add_spec hadd
  have hnew := h.not_mem_of_free hfree
  have hids := storeIds_cons_of_some messages hid
  refine ⟨haddr, ?_, ?_, ?_⟩
  · rw [hids]; exact List.nodup_cons.mpr ⟨hnew, h.distinct⟩
  · intro other hmem id' hid'
    rcases List.mem_cons.mp hmem with rfl | hmem
    · obtain rfl : id' = id := Option.some.inj (hid'.symm.trans hid)
      refine ⟨bytes, ⟨calls, destination, [], rfl, by simp⟩, ?_⟩
      rw [hget, if_pos rfl]
    · obtain ⟨bytes', hsent, hlive⟩ := h.live other hmem id' hid'
      have hne : id' ≠ id := by
        rintro rfl
        rw [hfree] at hlive
        cases hlive
      refine ⟨bytes', hsent.append (by simp [hne]), ?_⟩
      rw [hget, if_neg hne]
      exact hlive
  · have hbalance := h.balance
    rw [hids, List.length_cons]
    omega

/-- The element of a message is released, and the message is no longer of concern. -/
theorem release (h : Custody capacity (message :: messages) store calls)
    (hid : message.command.store? = some id) :
    (store.delete id).1 = .ok () ∧
      Custody capacity messages (store.delete id).2
        (calls ++ [.delete id (store.delete id).1]) := by
  obtain ⟨bytes, -, hlive⟩ := h.live message (List.mem_cons_self ..) id hid
  obtain ⟨hok, hget, hcount, haddr⟩ := h.addressable.delete_spec hlive
  have hids := storeIds_cons_of_some messages hid
  have hdistinct := h.distinct
  rw [hids, List.nodup_cons] at hdistinct
  obtain ⟨hnot, hdistinct⟩ := hdistinct
  refine ⟨hok, haddr, hdistinct, ?_, ?_⟩
  · intro other hmem id' hid'
    obtain ⟨bytes', hsent, hlive'⟩ := h.live other (List.mem_cons_of_mem _ hmem) id' hid'
    have hne : id' ≠ id := by
      rintro rfl
      exact hnot (List.mem_filterMap.mpr ⟨other, hmem, hid'⟩)
    refine ⟨bytes', hsent.append (by simp), ?_⟩
    rw [hget, if_neg hne]
    exact hlive'
  · have hbalance := h.balance
    rw [hids, List.length_cons] at hbalance
    omega

end Custody

/-! ## Attempts -/

namespace Facilities

variable {before after : Traced Facilities} {bytes : Bytes} {source destination : QueueId}
  {command : Command}

theorem of_traced_add {result : Except PoolError StoreId}
    (h : services.traced.add bytes before = (result, after)) :
    ∃ store, before.state.store.add bytes = (result, store) ∧
      after = ⟨{ before.state with store }, before.calls ++ [.add bytes result]⟩ := by
  obtain ⟨next, hadd, rfl⟩ := Services.of_traced_add h
  obtain ⟨store, hstore, rfl⟩ := of_add hadd
  exact ⟨store, hstore, rfl⟩

theorem of_traced_send {result : Except PoolError Unit}
    (h : services.traced.send source destination command before = (result, after)) :
    ∃ hub, before.state.hub.send source destination command = (result, hub) ∧
      after = ⟨{ before.state with hub },
        before.calls ++ [.send source destination command result]⟩ := by
  obtain ⟨next, hsend, rfl⟩ := Services.of_traced_send h
  obtain ⟨hub, hhub, rfl⟩ := of_send hsend
  exact ⟨hub, hhub, rfl⟩

/-- A message that cannot be sent leaves a call behind, and nothing else. -/
theorem of_traced_send_error {e : PoolError}
    (h : services.traced.send source destination command before = (.error e, after)) :
    after = ⟨before.state, before.calls ++ [.send source destination command (.error e)]⟩ := by
  obtain ⟨next, hsend, rfl⟩ := Services.of_traced_send h
  rw [of_send_error hsend]

end Facilities

/-- Custody of all messages that are queued, and of those that are held. -/
def Traced.Custody (capacity : Nat) (held : List CommandMessage) (traced : Traced Facilities) :
    Prop :=
  Housekeeper.Custody capacity (traced.state.hub.queued ++ held) traced.state.store traced.calls

namespace Traced.Custody

variable {capacity : Nat} {held : List CommandMessage} {before after : Traced Facilities}
  {source destination : QueueId} {command : Command}

theorem sent (h : before.Custody capacity held) (hplain : command.store? = none)
    (hsend : Facilities.services.traced.send source destination command before = (.ok (), after)) :
    after.Custody capacity held := by
  obtain ⟨hub, hhub, rfl⟩ := Facilities.of_traced_send hsend
  have hqueued := (QueueHub.queued_of_send hhub).append_right held
  have hcalls : Housekeeper.Custody capacity (before.state.hub.queued ++ held)
      before.state.store (before.calls ++ [.send source destination command (.ok ())]) :=
    h.append_calls (by simp)
  have hmessage : (CommandMessage.mk source command).command.store? = none := hplain
  exact (hcalls.cons_plain hmessage).perm hqueued

theorem unsent (h : before.Custody capacity held) {e : PoolError}
    (hsend : Facilities.services.traced.send source destination command before =
      (.error e, after)) : after.Custody capacity held := by
  rw [Facilities.of_traced_send_error hsend]
  exact h.append_calls (by simp)

theorem delivered (h : before.Custody capacity held) {mid : Traced Facilities} {bytes : Bytes}
    {id : StoreId} (hid : command.store? = some id)
    (hadd : Facilities.services.traced.add bytes before = (.ok id, mid))
    (hsend : Facilities.services.traced.send source destination command mid = (.ok (), after)) :
    after.Custody capacity held := by
  obtain ⟨store, hstore, rfl⟩ := Facilities.of_traced_add hadd
  obtain ⟨hub, hhub, rfl⟩ := Facilities.of_traced_send hsend
  have hqueued := (QueueHub.queued_of_send hhub).append_right held
  have hmessage : (CommandMessage.mk source command).command.store? = some id := hid
  have hnext := h.deliver hstore hmessage destination
  rw [Traced.Custody, List.append_assoc]
  exact hnext.perm hqueued

/-- An element that was added for a message that could not be sent is free again. -/
theorem returned (h : before.Custody capacity held) {mid : Traced Facilities} {bytes : Bytes}
    {id : StoreId} {e : PoolError}
    (hadd : Facilities.services.traced.add bytes before = (.ok id, mid))
    (hsend : Facilities.services.traced.send source destination command mid = (.error e, after)) :
    (Facilities.services.traced.delete id after).2.Custody capacity held := by
  obtain ⟨store, hstore, rfl⟩ := Facilities.of_traced_add hadd
  obtain rfl := Facilities.of_traced_send_error hsend
  obtain ⟨hfree, -⟩ := h.addressable.add_spec hstore
  have hdelete := PacketStore.delete_after_add hstore (h.addressable.not_misplaces bytes)
  have hnew := h.not_mem_of_free hfree
  show Housekeeper.Custody capacity (before.state.hub.queued ++ held) (store.delete id).2
    (before.calls ++ [.add bytes (.ok id)] ++ [.send source destination command (.error e)] ++
      [.delete id (store.delete id).1])
  rw [hdelete, List.append_assoc, List.append_assoc]
  apply h.append_calls
  intro other hmem data
  have hne : other ≠ id := by
    rintro rfl
    exact hnew hmem
  simp [hne]

/-- **Whatever becomes of a delivery, everything stays in custody.** -/
theorem attempt {queue : QueueId} {object : ObjectId} {route : Except PoolError QueueId}
    {parcel : Parcel} {result : Except PoolError Unit} (h : before.Custody capacity held)
    (ha : Attempt Facilities.services.traced queue object route parcel before result after) :
    after.Custody capacity held := by
  cases ha with
  | unroutable => exact h
  | @sent destination command plain _ _ hsend => exact h.sent plain hsend
  | @unsent destination command plain _ e mid hsend =>
    have hnext := h.unsent hsend
    exact hnext
  | unwritten => exact h
  | @unstored destination bytes command refers _ e mid hadd =>
    obtain ⟨store, hstore, rfl⟩ := Facilities.of_traced_add hadd
    obtain rfl := PacketStore.add_of_error hstore
    have hnext : Housekeeper.Custody capacity (before.state.hub.queued ++ held) before.state.store
        (before.calls ++ [.add bytes (.error e)]) := h.append_calls (by simp)
    exact hnext
  | @delivered destination bytes command refers _ id mid _ hadd hsend =>
    exact h.delivered (refers id) hadd hsend
  | @returned destination bytes command refers _ id stored e mid hadd hsend =>
    have hnext := h.returned hadd hsend
    exact hnext

theorem release {message : CommandMessage} (h : before.Custody capacity held)
    (hheld : message ∈ held) :
    (Facilities.services.traced.release message before).1 = .ok () ∧
      (Facilities.services.traced.release message before).2.Custody capacity
        (held.erase message) := by
  have hperm : (message :: (before.state.hub.queued ++ held.erase message)).Perm
      (before.state.hub.queued ++ held) :=
    List.perm_middle.symm.trans ((List.perm_cons_erase hheld).symm.append_left _)
  have hfirst := h.perm hperm
  unfold Services.release
  split
  next id hid =>
    obtain ⟨hok, hnext⟩ := hfirst.release hid
    exact ⟨hok, hnext⟩
  next hplain => exact ⟨rfl, hfirst.of_cons_plain hplain⟩

theorem handle {message : CommandMessage} (h : before.Custody capacity held)
    (hheld : message ∈ held) (manager : HkManager) (owner : Owner) :
    ((HkState.mk manager owner before).handle Facilities.services.traced
      message).2.services.Custody capacity
        (if owner.releases message then held.erase message else held) := by
  cases hrequest : message.command.isRequest with
  | true =>
    have hkept : owner.releases message = false := by
      obtain ⟨sender, command⟩ := message
      cases command <;> first | rfl | cases hrequest
    rw [hkept]
    exact HkState.request_services hrequest (fun _ ha hb => Traced.Custody.attempt hb ha) h
  | false =>
    split
    next hreleases =>
      rw [(HkState.handle_of_releases _ hreleases).2]
      exact (h.release hheld).2
    next hkept =>
      rw [HkState.handle_of_not_releases _ hrequest (Bool.eq_false_iff.mpr hkept)]
      exact h

end Traced.Custody

/-! ## Everybody together -/

namespace Operation

/-- Only messages that are held are handled or released, and only managers send messages that refer
to the store. -/
def Allowed (held : List CommandMessage) : Operation → Prop
  | send _ _ command => command.store? = none
  | handle _ _ message | release message => message ∈ held
  | pass .. | sendPacket .. | sendStructure .. => True

/-- What is held afterwards. -/
def heldAfter (held : List CommandMessage) : Operation → List CommandMessage
  | handle _ owner message => if owner.releases message then held.erase message else held
  | release message => held.erase message
  | pass .. | sendPacket .. | sendStructure .. | send .. => held

variable {capacity : Nat} {held : List CommandMessage} {before : Traced Facilities}

/-- **Whatever somebody does, everything stays in custody.** -/
theorem custody {operation : Operation} (hallowed : operation.Allowed held)
    (h : before.Custody capacity held) :
    (operation.run Facilities.services.traced before).Custody capacity
      (operation.heldAfter held) := by
  cases operation with
  | pass manager owner clock =>
    let state : HkState (Traced Facilities) := ⟨manager, owner, before⟩
    have hpass : (state.pass Facilities.services.traced clock).2.services.Custody capacity held :=
      HkState.pass_services clock (fun _ ha hb => Traced.Custody.attempt hb ha) h
    exact hpass
  | sendPacket manager sid set forDownlink destination =>
    exact h.attempt
      (manager.sendPacket_attempt Facilities.services.traced before sid set forDownlink destination)
  | sendStructure manager owner sid kind destination =>
    cases hs : owner.getSetOfKind sid kind with
    | error e => simpa only [run, heldAfter, HkManager.sendStructure, hs] using h
    | ok set =>
      exact h.attempt
        (manager.sendStructure_attempt Facilities.services.traced before hs destination)
  | send source destination command =>
    rcases hs : Facilities.services.traced.send source destination command before with
      ⟨e | _, after⟩
    · simpa only [run, heldAfter, hs] using h.unsent hs
    · simpa only [run, heldAfter, hs] using h.sent hallowed hs
  | handle manager owner message => exact h.handle hallowed manager owner
  | release message => exact (h.release hallowed).2

end Operation

/-- The store and the queues that all share, the messages that were received and not released, and
all that was done so far. -/
structure Exchange where
  facilities : Facilities
  held : List CommandMessage
  log : OperationLog

namespace Exchange

def empty (config : StoreConfig) : Exchange := ⟨.ofConfig config, [], []⟩

/-- The messages that are queued, and those that are held. -/
def outstanding (exchange : Exchange) : List CommandMessage :=
  exchange.facilities.hub.queued ++ exchange.held

/-- The calls of the services so far. -/
def calls (exchange : Exchange) : List ServiceCall := exchange.log.flatMap Prod.snd

def traced (exchange : Exchange) : Traced Facilities := ⟨exchange.facilities, exchange.calls⟩

/-- Somebody uses the services. -/
def use (exchange : Exchange) (operation : Operation) : Exchange :=
  ⟨operation.run Facilities.services exchange.facilities, operation.heldAfter exchange.held,
    exchange.log ++ [(operation, operation.calls Facilities.services exchange.facilities)]⟩

def withHub (exchange : Exchange) (hub : QueueHub) : Exchange :=
  { exchange with facilities := { exchange.facilities with hub } }

/-- What may happen, step by step. -/
inductive Step (exchange : Exchange) : Exchange → Prop
  /-- A queue is made, under an id that no other queue has. -/
  | createQueue (depth : Nat)
    (hfresh : exchange.facilities.hub.queues.get? (exchange.facilities.hub.created + 1) = none) :
    Step exchange (exchange.withHub (exchange.facilities.hub.create depth).2)
  | use (operation : Operation) (hallowed : operation.Allowed exchange.held) :
    Step exchange (exchange.use operation)
  | receive (queue : QueueId) (message : CommandMessage) (hub : QueueHub)
    (hreceive : exchange.facilities.hub.receive queue = (some message, hub)) :
    Step exchange { exchange.withHub hub with held := message :: exchange.held }

/-- All that can come of an empty store without queues. -/
inductive Reachable (config : StoreConfig) : Exchange → Prop
  | start : Reachable config (empty config)
  | step {exchange next : Exchange} (h : Reachable config exchange) (hstep : exchange.Step next) :
    Reachable config next

variable {exchange next : Exchange} {capacity : Nat}

theorem traced_use (exchange : Exchange) (operation : Operation) :
    (exchange.use operation).traced =
      operation.run Facilities.services.traced exchange.traced := by
  rw [operation.run_traced]
  simp [traced, use, calls]

theorem Step.custody (hstep : exchange.Step next)
    (h : exchange.traced.Custody capacity exchange.held) :
    next.traced.Custody capacity next.held := by
  cases hstep with
  | createQueue depth hfresh =>
    have hqueued := QueueHub.queued_create hfresh depth
    exact h.perm (List.Perm.of_eq (congrArg (· ++ exchange.held) hqueued))
  | use operation hallowed =>
    rw [traced_use]
    exact operation.custody hallowed h
  | receive queue message hub hreceive =>
    have hqueued := (QueueHub.queued_of_receive hreceive).append_right exchange.held
    exact h.perm (List.perm_middle.trans hqueued.symm)

theorem Reachable.custody {config : StoreConfig} (hpages : config.pages.length ≤ UInt16.size)
    (h : Reachable config exchange) : exchange.traced.Custody config.capacity exchange.held := by
  induction h with
  | start =>
    refine ⟨PacketStore.addressable_ofConfig hpages, List.nodup_nil, ?_, ?_⟩
    · intro message hmem; cases hmem
    · exact PacketStore.freeCount_ofConfig config
  | step h hstep ih => exact hstep.custody ih

theorem Step.consigned (hstep : exchange.Step next)
    (h : ∀ entry ∈ exchange.log, Consigned entry.1.Sends entry.2) :
    ∀ entry ∈ next.log, Consigned entry.1.Sends entry.2 := by
  cases hstep with
  | createQueue | receive => exact h
  | use operation hallowed =>
    intro entry hmem
    rcases List.mem_append.mp hmem with hmem | hmem
    · exact h entry hmem
    · rw [List.mem_singleton.mp hmem]
      exact operation.consigned_calls Facilities.services exchange.facilities

theorem Reachable.consigned {config : StoreConfig} (h : Reachable config exchange) :
    ∀ entry ∈ exchange.log, Consigned entry.1.Sends entry.2 := by
  induction h with
  | start => intro entry hmem; cases hmem
  | step h hstep ih => exact hstep.consigned ih

/-- **No element of the store is leaked, and none dangles.** However managers and others work
together, every live element belongs to exactly one message that is queued or held, and holds the
packet, snapshot or structure report that was serialized for that message; whoever holds a message
can release its data. -/
theorem every_element_has_one_message {config : StoreConfig}
    (hpages : config.pages.length ≤ UInt16.size) {exchange : Exchange}
    (h : Reachable config exchange) :
    (storeIds exchange.outstanding).Nodup ∧
      (∀ message ∈ exchange.outstanding, ∀ id, message.command.store? = some id →
        ∃ bytes, SentWith exchange.calls message id bytes ∧ SentBy exchange.log message id bytes ∧
          exchange.facilities.store.get? id = some bytes) ∧
      (∀ message ∈ exchange.held,
        (Facilities.services.release message exchange.facilities).1 = .ok ()) ∧
      (∀ message ∈ exchange.held, ∀ manager owner, owner.releases message →
        ((HkState.mk manager owner exchange.facilities).handle Facilities.services
          message).1 = .ok ()) ∧
      exchange.facilities.store.freeCount + (storeIds exchange.outstanding).length =
        config.capacity := by
  have hcustody := h.custody hpages
  have hrelease (message : CommandMessage) (hheld : message ∈ exchange.held) :
      (Facilities.services.release message exchange.facilities).1 = .ok () := by
    have hsame := HkState.release_map (Services.traced_respects Facilities.services) message
      exchange.traced
    exact (congrArg Prod.fst hsame).trans (hcustody.release hheld).1
  refine ⟨hcustody.distinct, ?_, hrelease, ?_, hcustody.balance⟩
  · intro message hmem id hid
    obtain ⟨bytes, hsent, hlive⟩ := hcustody.live message hmem id hid
    exact ⟨bytes, hsent, hsent.sentBy h.consigned, hlive⟩
  · intro message hheld manager owner hreleases
    let state : HkState Facilities := ⟨manager, owner, exchange.facilities⟩
    have hstate : state.owner.releases message := hreleases
    exact (HkState.handle_of_releases Facilities.services hstate).1.trans (hrelease message hheld)

/-- A set with one valid variable of value 42 is sent: in the store are its ids, its validity, the
variable and the mask. -/
theorem packet_has_one_message :
    ∃ exchange, Reachable ⟨[⟨1, 16⟩]⟩ exchange ∧
      exchange.outstanding = [⟨1, .report .regular ⟨7, 1⟩ ⟨0, 0⟩⟩] ∧
      exchange.facilities.store.get? ⟨0, 0⟩ = some [0, 0, 0, 7, 0, 0, 0, 1, 1, 42, 128] ∧
      SentBy exchange.log ⟨1, .report .regular ⟨7, 1⟩ ⟨0, 0⟩⟩ ⟨0, 0⟩
        [0, 0, 0, 7, 0, 0, 0, 1, 1, 42, 128] ∧
      exchange.facilities.store.freeCount + (storeIds exchange.outstanding).length = 1 := by
  let config : StoreConfig := ⟨[⟨1, 16⟩]⟩
  let manager := (HkManager.create .empty 7 1 none {}).1
  let accessor := (Accessor.scalar manager.pool 1 .readWrite .u8).withValues .u8 [42]
  let set : Dataset :=
    { Dataset.creator manager.pool 1 1 with
      valid := true, accessors := [accessor.withValidity true] }
  let operation : Operation := .sendPacket manager ⟨7, 1⟩ set true 1
  let start := empty config
  let ready := start.withHub (start.facilities.hub.create 1).2
  have hready : Reachable config ready := Reachable.start.step (.createQueue 1 rfl)
  have hsent : Reachable config (ready.use operation) := hready.step (.use operation trivial)
  have hpages : config.pages.length ≤ UInt16.size := by decide
  have houtstanding : (ready.use operation).outstanding =
      [⟨1, .report .regular ⟨7, 1⟩ ⟨0, 0⟩⟩] := by decide +kernel
  have hget : (ready.use operation).facilities.store.get? ⟨0, 0⟩ =
      some [0, 0, 0, 7, 0, 0, 0, 1, 1, 42, 128] := by decide +kernel
  obtain ⟨-, hlive, -, -, hcount⟩ := every_element_has_one_message hpages hsent
  obtain ⟨bytes, -, horigin, hbytes⟩ :=
    hlive _ (houtstanding ▸ List.mem_singleton_self _) ⟨0, 0⟩ rfl
  obtain rfl := Option.some.inj (hbytes.symm.trans hget)
  exact ⟨_, hsent, houtstanding, hget, horigin, hcount⟩

end Exchange

end Housekeeper
