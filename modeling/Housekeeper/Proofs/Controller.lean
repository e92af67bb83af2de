import Housekeeper.Proofs.Provision
import Housekeeper.Proofs.Routing
import Housekeeper.Proofs.StoreMap
import Housekeeper.Proofs.Transactions
import Housekeeper.Simulation.Run

/-!
# The controller of the simulator at work

The controller has two subscriptions to reports, which go to ground, and two to snapshots and
notices, which go to operations. `Busy` says how things are while some of its messages wait: every
element of the store that is not free belongs to one of them, and those that wait for ground are of
the kinds that ground releases. As long as fewer messages wait than a queue holds, the next one
succeeds and leaves things so (`Going.attempt`). A pass of the manager therefore adds at most four
messages (`Running.pass`), an answer to ground at most one (`Running.handle`), and none of their
calls fails. Control in between changes values, but neither the types nor the lengths of variables
(`fits_control`), so that what is sent about a set stays as small as it was.
-/

namespace Housekeeper

namespace QueueHub

theorem length_pending_le (hub : QueueHub) (id : QueueId) :
    (hub.pending id).length ≤ hub.queued.length := by
  cases hget : hub.queues.get? id with
  | none => simp [pending, hget]
  | some queue =>
    obtain ⟨before, after, hqueued, -⟩ := queued_put hget hub.created queue
    rw [pending_of_get? hget, hqueued]
    simp only [List.length_append]
    omega

theorem depth?_of_send {hub after : QueueHub} {source destination : QueueId} {command : Command}
    (h : hub.send source destination command = (.ok (), after)) (id : QueueId) :
    after.depth? id = hub.depth? id := by
  have hposted := hub.posted_post source destination ⟨source, command⟩
  rw [show hub.post source destination ⟨source, command⟩ = (.ok (), after) from h] at hposted
  exact hposted.depth?_eq id

end QueueHub

namespace Simulation

/-! ## The simulator at work -/

def groundQueue : QueueId := 1

def operationsQueue : QueueId := 2

def controllerQueue : QueueId := 3

/-- What comes with the message, if anything, is released by ground. -/
def GroundReleases (command : Command) : Prop :=
  command.store? = none ∨ Simulator.groundReleases command = true

/-- Every element of the store that is not free belongs to one of the messages. -/
structure Holding (messages : List CommandMessage) (store : PacketStore) : Prop where
  built : store.BuiltFrom .standard
  custody : ∃ calls, Custody 56 messages store calls

namespace Holding

variable {messages : List CommandMessage} {message : CommandMessage} {store : PacketStore}

theorem ofConfig : Holding [] (.ofConfig .standard) where
  built := PacketStore.builtFrom_ofConfig (by decide)
  custody := ⟨[], PacketStore.addressable_ofConfig (by decide), List.nodup_nil,
    fun _ hmem => absurd hmem List.not_mem_nil, PacketStore.freeCount_ofConfig .standard⟩

theorem perm (h : Holding messages store) {others : List CommandMessage}
    (hperm : others.Perm messages) : Holding others store :=
  ⟨h.built, h.custody.imp fun _ hcustody => hcustody.perm hperm⟩

theorem cons_plain (h : Holding messages store) (hplain : message.command.store? = none) :
    Holding (message :: messages) store :=
  ⟨h.built, h.custody.imp fun _ hcustody => hcustody.cons_plain hplain⟩

theorem of_cons_plain (h : Holding (message :: messages) store)
    (hplain : message.command.store? = none) : Holding messages store :=
  ⟨h.built, h.custody.imp fun _ hcustody => hcustody.of_cons_plain hplain⟩

theorem add (h : Holding messages store) {bytes : Bytes} {id : StoreId} {after : PacketStore}
    (hadd : store.add bytes = (.ok id, after)) (hid : message.command.store? = some id) :
    Holding (message :: messages) after := by
  obtain ⟨calls, hcustody⟩ := h.custody
  have hafter : after = (store.call (.add bytes)).2 := (congrArg Prod.snd hadd).symm
  refine ⟨?_, _, hcustody.deliver hadd hid noQueue⟩
  rw [hafter]
  exact (h.built.call (by decide) (.add bytes)).2

theorem delete (h : Holding (message :: messages) store) {id : StoreId}
    (hid : message.command.store? = some id) :
    (store.delete id).1 = .ok () ∧ Holding messages (store.delete id).2 := by
  obtain ⟨calls, hcustody⟩ := h.custody
  obtain ⟨hok, hrest⟩ := hcustody.release hid
  exact ⟨hok, (h.built.call (by decide) (.delete id)).2, _, hrest⟩

end Holding

/-- The facilities while at most `count` messages wait, all of them for ground or operations, and
nothing has failed. -/
structure Busy (count : Nat) (facilities : Facilities) : Prop where
  holding : Holding facilities.hub.queued facilities.store
  few : facilities.hub.queued.length ≤ count
  depths : ∀ id ∈ [groundQueue, operationsQueue, controllerQueue],
    facilities.hub.depth? id = some queueDepth
  ground : ∀ message ∈ facilities.hub.pending groundQueue, GroundReleases message.command
  elsewhere : ∀ id, id ≠ groundQueue → id ≠ operationsQueue → facilities.hub.pending id = []
  quiet : facilities.log = .empty

/-- The parcel goes to somebody who releases what comes with it. -/
def Suits (destination : QueueId) (parcel : Parcel) : Prop :=
  destination = operationsQueue ∨
    destination = groundQueue ∧ ∀ command, parcel.Carries command → GroundReleases command

namespace Suits

theorem message {command : Command} (plain : command.store? = none) {destination : QueueId}
    (hmem : destination ∈ [groundQueue, operationsQueue]) :
    Suits destination (.message command plain) := by
  rcases List.mem_pair.mp hmem with rfl | rfl
  · exact .inr ⟨rfl, fun own hown => .inl (hown ▸ plain)⟩
  · exact .inl rfl

theorem stored {data : Except PoolError Bytes} {command : StoreId → Command}
    {refers : ∀ id, (command id).store? = some id}
    (hreleases : ∀ id, Simulator.groundReleases (command id) = true) :
    Suits groundQueue (.stored data command refers) := by
  refine .inr ⟨rfl, ?_⟩
  rintro own ⟨id, rfl⟩
  exact .inr (hreleases id)

end Suits

namespace Busy

variable {count : Nat} {facilities : Facilities}

theorem mono (h : Busy count facilities) {more : Nat} (hle : count ≤ more) :
    Busy more facilities := { h with few := Nat.le_trans h.few hle }

theorem roomFor (h : Busy count facilities) (hcount : count < queueDepth) {destination : QueueId}
    (hmem : destination ∈ [groundQueue, operationsQueue]) :
    facilities.RoomFor 32 destination where
  wide := by
    intro own hown
    obtain ⟨number, hnumber⟩ := List.mem_iff_getElem?.mp hown
    obtain ⟨page, hpage, hshape⟩ := PacketStore.page_of_own h.holding.built.shapes hnumber
    have hmem := StoreConfig.mem_ordered.mp (List.mem_of_getElem? hpage)
    have hwide : ∀ page ∈ StoreConfig.standard.pages, 32 ≤ page.elementSize.toNat := by decide
    rw [← (Prod.mk.inj hshape).1]
    exact hwide page hmem
  free := by
    obtain ⟨calls, hcustody⟩ := h.holding.custody
    have hbalance := hcustody.balance
    have hids : (storeIds facilities.hub.queued).length ≤ facilities.hub.queued.length :=
      List.length_filterMap_le ..
    have hfew := h.few
    simp only [queueDepth] at hcount
    omega
  queue := by
    have hreal : destination ≠ noQueue := by
      rintro rfl
      simp [groundQueue, operationsQueue, noQueue] at hmem
    obtain ⟨queue, hqueue, hdepth⟩ := Option.map_eq_some_iff.mp
      (h.depths destination (List.mem_append_left [controllerQueue] hmem))
    refine ⟨hreal, queue, hqueue, ?_⟩
    have hpending := facilities.hub.length_pending_le destination
    rw [QueueHub.pending_of_get? hqueue] at hpending
    have hfew := h.few
    omega

/-- One more message waits, with an element or without. -/
theorem sent (h : Busy count facilities) {own destination : QueueId} {command : Command}
    {store : PacketStore} {hub : QueueHub}
    (hholding : Holding (⟨own, command⟩ :: facilities.hub.queued) store)
    (hsend : facilities.hub.send own destination command = (.ok (), hub))
    (hsuits : destination = operationsQueue ∨ destination = groundQueue ∧ GroundReleases command) :
    Busy (count + 1) ⟨store, hub, facilities.log⟩ := by
  have hqueued := QueueHub.queued_of_send hsend
  have hpending (id : QueueId) : hub.pending id =
      if id = destination then facilities.hub.pending id ++ [⟨own, command⟩]
      else facilities.hub.pending id := QueueHub.delivers_of_send hsend id
  constructor
  case holding => exact hholding.perm hqueued
  case few =>
    have hfew := h.few
    rw [hqueued.length_eq, List.length_cons]
    omega
  case depths =>
    intro id hmem
    exact (QueueHub.depth?_of_send hsend id).trans (h.depths id hmem)
  case ground =>
    intro message hmem
    dsimp only at hmem
    rw [hpending] at hmem
    split at hmem
    next hground =>
      rcases List.mem_append.mp hmem with hold | hnew
      · exact h.ground message hold
      · cases List.mem_singleton.mp hnew
        rcases hsuits with hoperations | ⟨-, hreleases⟩
        · rw [hoperations] at hground
          cases hground
        · exact hreleases
    next => exact h.ground message hmem
  case elsewhere =>
    intro id hground hoperations
    dsimp only
    rw [hpending, if_neg, h.elsewhere id hground hoperations]
    rintro rfl
    rcases hsuits with hsame | ⟨hsame, -⟩
    · exact hoperations hsame
    · exact hground hsame
  case quiet => exact h.quiet

end Busy

/-- The simulator is busy, and all calls have succeeded. -/
def Going (count : Nat) (traced : Traced Facilities) : Prop :=
  Busy count traced.state ∧ ∀ call ∈ traced.calls, call.Succeeded

namespace Going

variable {count : Nat} {before after : Traced Facilities}

theorem fulfilled (h : Going count before) {own destination : QueueId} {parcel : Parcel}
    (hsuits : Suits destination parcel) (hf : Fulfilled own destination before parcel after) :
    Going (count + 1) after := by
  obtain ⟨hbusy, hcalls⟩ := h
  cases hf with
  | @message command plain hub hsend =>
    have hmessage : (CommandMessage.mk own command).command.store? = none := plain
    refine ⟨hbusy.sent (hbusy.holding.cons_plain hmessage) hsend ?_, ?_⟩
    · exact hsuits.imp_right fun ⟨hground, hreleases⟩ => ⟨hground, hreleases command rfl⟩
    · simp only [List.forall_mem_append, List.forall_mem_singleton]
      exact ⟨hcalls, rfl⟩
  | @stored bytes command refers id store hub hadd hsend =>
    have hmessage : (CommandMessage.mk own (command id)).command.store? = some id := refers id
    refine ⟨hbusy.sent (hbusy.holding.add hadd hmessage) hsend ?_, ?_⟩
    · exact hsuits.imp_right fun ⟨hground, hreleases⟩ => ⟨hground, hreleases _ ⟨id, rfl⟩⟩
    · simp only [List.forall_mem_append, List.forall_mem_cons]
      exact ⟨hcalls, ⟨id, rfl⟩, rfl, by simp⟩

/-- Whatever is sent arrives, and is released in the end. -/
theorem attempt (h : Going count before) (hcount : count < queueDepth) {own : QueueId}
    {object : ObjectId} {destination : QueueId} {parcel : Parcel} {result : Except PoolError Unit}
    (hsuits : Suits destination parcel) (within : parcel.Within 32)
    (ha : Attempt Facilities.services.traced own object (.ok destination) parcel before result
      after) : result = .ok () ∧ Going (count + 1) after := by
  have hmem : destination ∈ [groundQueue, operationsQueue] := by
    rcases hsuits with hsame | ⟨hsame, -⟩ <;> simp [hsame]
  obtain ⟨hok, hfulfilled⟩ := ha.fulfilled (h.1.roomFor hcount hmem) within
  exact ⟨hok, h.fulfilled hsuits hfulfilled⟩

end Going

/-! ## The controller and its manager -/

def controllerReceivers : List Receiver :=
  [⟨noObject, .periodicPacket statusSid, groundQueue⟩,
   ⟨noObject, .periodicPacket diagnosticsSid, groundQueue⟩,
   ⟨noObject, .snapshot (.ofSet statusSid), operationsQueue⟩,
   ⟨noObject, .notice (.ofVariable heaterId), operationsQueue⟩]

/-- What stays the same all the time. -/
structure Managed {σ : Type} (state : HkState σ) : Prop where
  queue_eq : state.manager.queue = controllerQueue
  destination_eq : state.manager.destination = groundQueue
  receivers_eq : state.manager.receivers = controllerReceivers
  fits : state.owner.Fits 32

namespace Managed

variable {σ : Type} {state : HkState σ}

theorem of_sameTotals (h : Managed state) {next : HkState σ}
    (htotals : state.manager.SameTotals next.manager) (hfits : next.owner.Fits 32) :
    Managed next := by
  obtain ⟨counts, -, hmanager⟩ := htotals
  exact ⟨by rw [hmanager]; exact h.queue_eq, by rw [hmanager]; exact h.destination_eq,
    by rw [hmanager]; exact h.receivers_eq, hfits⟩

/-- The services do not matter. -/
theorem withServices {τ : Type} (h : Managed state) (services : τ) :
    Managed (HkState.mk state.manager state.owner services) :=
  ⟨h.queue_eq, h.destination_eq, h.receivers_eq, h.fits⟩

/-- Reports that ground asks for go to ground. -/
theorem requested_suits (h : Managed state) {message : CommandMessage}
    (hsender : message.sender = groundQueue) {route : Except PoolError QueueId} {parcel : Parcel}
    (hasked : state.requested? message = some (route, parcel)) :
    route = .ok groundQueue ∧ Suits groundQueue parcel ∧ parcel.Within 32 := by
  have hreply : state.replyTo message = groundQueue := by
    rw [HkState.replyTo, hsender]
    rfl
  have hreport : state.reportTo message = groundQueue := by
    rw [HkState.reportTo, h.destination_eq]
    rfl
  have hfits {sid : Sid} {kind : ReportKind} {set : Dataset}
      (hset : state.owner.getSetOfKind sid kind = .ok set) : set.Fits 32 :=
    h.fits.set? (Owner.getSetOfKind_eq_ok hset).1
  unfold HkState.requested? at hasked
  rw [hreply, hreport] at hasked
  split at hasked
  next kind sid _ =>
    split at hasked
    next set hset =>
      cases hasked
      exact ⟨rfl, .stored fun _ => rfl, Parcel.within_structure (hfits hset) sid kind⟩
    next => cases hasked
  next kind sid _ =>
    split at hasked
    next set hset =>
      cases hasked
      exact ⟨rfl, .stored fun _ => rfl, Parcel.within_packet (hfits hset) sid .big⟩
    next => cases hasked
  next => cases hasked

/-- Reports go to ground, and snapshots and notices to operations. -/
theorem offer_suits (h : Managed state) {now : CdsTime} {receiver : Receiver}
    (hmem : receiver ∈ controllerReceivers) {route : Except PoolError QueueId} {parcel : Parcel}
    (hoffer : state.Offer now receiver route parcel) :
    ∃ destination, route = .ok destination ∧ Suits destination parcel ∧ parcel.Within 32 := by
  simp only [controllerReceivers, List.mem_cons, List.not_mem_nil, or_false] at hmem
  cases hoffer with
  | @packet sid set periodic exposed =>
    have hground : receiver.destination = groundQueue := by
      rcases hmem with rfl | rfl | rfl | rfl
      · rfl
      · rfl
      · cases periodic
      · cases periodic
    rw [hground]
    exact ⟨groundQueue, rfl, .stored fun _ => rfl,
      Parcel.within_packet (h.fits.set? exposed) sid .big⟩
  | @news data route parcel exposed announced =>
    rcases hmem with rfl | rfl | rfl | rfl
    · cases data <;> cases announced
    · cases data <;> cases announced
    · obtain ⟨set, hset, rfl⟩ := Owner.getData_ofSet exposed
      cases announced
      exact ⟨operationsQueue, rfl, .inl rfl,
        Parcel.within_setSnapshot (h.fits.set? hset) statusSid now⟩
    · cases data <;> cases announced <;> exact ⟨operationsQueue, rfl, .inl rfl, trivial⟩

end Managed

/-- A manager at work on services that note their calls. -/
structure Running (count : Nat) (state : HkState (Traced Facilities)) : Prop where
  managed : Managed state
  going : Going count state.services

namespace Running

variable {count : Nat} {state : HkState (Traced Facilities)}

theorem serve (h : Running count state) (hcount : count < queueDepth) (now : CdsTime)
    {receiver : Receiver} (hmem : receiver ∈ controllerReceivers) :
    Running (count + 1) (state.serve Facilities.services.traced now receiver).2 where
  managed := h.managed.of_sameTotals (HkState.serve_sameTotals ..)
    (h.managed.fits.of_observed (HkState.serve_observed Facilities.services.traced
      ⟨⟨state, .pass fun _ => now⟩, List.mem_singleton_self _, _, rfl⟩ now receiver state))
  going := by
    rcases HkState.serve_offer Facilities.services.traced now receiver state with
      hsame | ⟨route, parcel, hoffer, htries⟩
    · rw [hsame]
      exact ⟨h.going.1.mono (Nat.le_succ count), h.going.2⟩
    · obtain ⟨destination, rfl, hsuits, hwithin⟩ := h.managed.offer_suits hmem hoffer
      exact (h.going.attempt hcount hsuits hwithin htries).2

theorem serveAll (clock : Nat → CdsTime) (receivers : List Receiver)
    (hmem : ∀ receiver ∈ receivers, receiver ∈ controllerReceivers)
    (status : Except PoolError Unit) (h : Running count state)
    (hcount : count + receivers.length ≤ queueDepth) :
    Running (count + receivers.length)
      (HkState.serveAll Facilities.services.traced clock receivers status state).2 := by
  induction receivers generalizing count clock status state with
  | nil => exact h
  | cons receiver rest ih =>
    rw [List.length_cons] at hcount ⊢
    have hnext := h.serve (by omega) (clock 0) (hmem receiver List.mem_cons_self)
    have hrest := fun other hother => hmem other (List.mem_cons_of_mem receiver hother)
    have hlength : count + (rest.length + 1) = count + 1 + rest.length := by omega
    rw [hlength] at hcount ⊢
    unfold HkState.serveAll
    dsimp only
    split
    next next hserve =>
      rw [hserve] at hnext
      exact ih _ hrest status hnext hcount
    next e next hserve =>
      rw [hserve] at hnext
      exact ih _ hrest (.error e) hnext hcount

/-- A pass sends at most one message to each receiver. -/
theorem pass (h : Running count state) (hcount : count + 4 ≤ queueDepth)
    (clock : Nat → CdsTime) :
    Running (count + 4) (state.pass Facilities.services.traced clock).2 := by
  have hserved := h.serveAll clock controllerReceivers (fun _ hmem => hmem) (.ok ()) hcount
  have hpass : (state.pass Facilities.services.traced clock).2 =
      { (HkState.serveAll Facilities.services.traced clock controllerReceivers (.ok ()) state).2 with
        manager := (HkState.serveAll Facilities.services.traced clock controllerReceivers (.ok ())
          state).2.manager.restartCounts } := by
    rw [HkState.pass, h.managed.receivers_eq]
  rw [hpass]
  exact ⟨hserved.managed.of_sameTotals (HkManager.restartCounts_sameTotals _) hserved.managed.fits,
    hserved.going⟩

/-- A request of ground is answered with one report or one reply. -/
theorem handle (h : Running count state) (hcount : count < queueDepth)
    {message : CommandMessage} (hsender : message.sender = groundQueue)
    (hrequest : message.command.isRequest) :
    Running (count + 1) (state.handle Facilities.services.traced message).2 where
  managed := by
    refine h.managed.of_sameTotals ?_ (h.managed.fits.of_observed
      (HkState.handle_observed Facilities.services.traced state message))
    rw [HkState.handle_manager]
    exact .refl _
  going := by
    obtain ⟨sid, hsid⟩ := Command.exists_sid hrequest
    have hground : state.replyTo message = groundQueue := by
      rw [HkState.replyTo, hsender]
      rfl
    have hreply {after : Traced Facilities} {command : Command} {plain : command.store? = none}
        {sent : Except PoolError Unit}
        (htries : state.Tries Facilities.services.traced (.ok (state.replyTo message))
          (.message command plain) state.services sent after) : Going (count + 1) after := by
      rw [hground] at htries
      exact (h.going.attempt hcount (Suits.message plain (by simp)) trivial htries).2
    have hreport {route : Except PoolError QueueId} {parcel : Parcel}
        {sent : Except PoolError Unit} {after : Traced Facilities}
        (hasked : state.requested? message = some (route, parcel))
        (htries : state.Tries Facilities.services.traced route parcel state.services sent after) :
        sent = .ok () ∧ Going (count + 1) after := by
      obtain ⟨rfl, hsuits, hwithin⟩ := h.managed.requested_suits hsender hasked
      exact h.going.attempt hcount hsuits hwithin htries
    have hanswer := HkState.handle_answer Facilities.services.traced state hrequest hsid
    generalize (state.handle Facilities.services.traced message).1 = result at hanswer
    generalize (state.handle Facilities.services.traced message).2 = next at hanswer
    cases hanswer with
    | changed hquiet htries => exact hreply htries
    | reported hasked htries => exact (hreport hasked htries).2
    | refused hnone htries => exact hreply htries
    -- the report is sent, so that no failure is to be told
    | failed hasked htries _ => cases (hreport hasked htries).1

/-- Nothing waits for the manager. -/
theorem processUpTo_eq (h : Running count state) (steps : Nat) :
    HkState.processUpTo Facilities.station.traced steps state = ([], state) := by
  have hnone : (state.services.state.hub.receive state.manager.queue).1 = none := by
    rw [QueueHub.receive_fst, h.managed.queue_eq,
      h.going.1.elsewhere controllerQueue (by decide) (by decide)]
    rfl
  cases steps with
  | zero => rfl
  | succ steps =>
    have hreceive : (Facilities.station.traced.receive state.manager.queue state.services).1 =
        none := hnone
    rw [HkState.processUpTo]
    split
    · rfl
    next hsome =>
      rw [hsome] at hreceive
      cases hreceive

end Running

/-! ## Control -/

/-- The shapes of the variables of a set. -/
def shapes (set : Dataset) : List AccessorShape := set.accessors.map Accessor.shape

theorem fits_of_shapes {size : Nat} {a b : Dataset} (h : a.Fits size)
    (hshapes : shapes b = shapes a) : b.Fits size := by
  have hlayout (accessor : Accessor) : accessor.layout =
      (accessor.shape.type, accessor.shape.vectorLength.getD 1) := by
    obtain ⟨pool, id, mode, type, copy | copy, valid, changed⟩ := accessor <;> rfl
  have hmap (set : Dataset) : set.accessors.map Accessor.layout =
      (shapes set).map fun shape => (shape.type, shape.vectorLength.getD 1) := by
    rw [shapes, List.map_map]
    exact List.map_congr_left fun accessor _ => hlayout accessor
  exact h.of_layout (by rw [hmap, hmap, hshapes])

theorem shapes_measureStatus (temperature : Binary32) (readOk : Bool) (set : Dataset) :
    shapes (measureStatus temperature readOk set) = shapes set := by
  apply List.ext_getElem?
  intro index
  simp only [shapes, measureStatus, Dataset.withChanged, Dataset.withValidityOfAll, List.map_map,
    List.getElem?_map, List.getElem?_mapIdx, Option.map_map]
  congr 1
  funext accessor
  simp only [Function.comp_apply, Accessor.shape_withValidity]
  split
  · exact Accessor.shape_withValues ..
  · split
    · exact Accessor.shape_withValues ..
    · rfl

theorem shapes_countViolation (readOk : Bool) (set : Dataset) :
    shapes (countViolation readOk set) = shapes set := by
  simp only [shapes, countViolation, List.map_map]
  exact List.map_congr_left fun accessor _ =>
    (Accessor.shape_withValidity _ readOk).trans (Accessor.shape_withValues ..)

theorem shapes_commit (set : Dataset) (bank : PoolBank) :
    shapes (set.commit bank).2.1 = shapes set := by
  unfold Dataset.commit
  split <;> rfl

section

variable {size : Nat} {owner : Owner}

theorem fits_switchHeater (h : owner.Fits size) (temperature : Binary32) (bank : PoolBank) :
    (switchHeater temperature owner bank).2.1.Fits size := by
  unfold switchHeater
  split
  · exact h
  next heater _ =>
    dsimp only
    generalize Accessor.withValidity _ true = wanted
    split
    · exact h
    · split <;> exact h

theorem fits_updateSet (h : owner.Fits size) {change : Bool → Dataset → Dataset}
    (hchange : ∀ readOk set, shapes (change readOk set) = shapes set) (sid : Sid)
    (bank : PoolBank) : (updateSet sid change owner bank).2.1.Fits size := by
  unfold updateSet
  split
  · exact h
  next set hset =>
    have hnew (readOk : Bool) :
        ((change readOk (set.read bank).2).commit bank).2.1.Fits size :=
      fits_of_shapes (h.set? hset)
        ((shapes_commit _ bank).trans ((hchange readOk _).trans (set.shapes_read bank)))
    dsimp only
    split <;> exact h.modifySet (fun _ _ => hnew _) sid

/-- Control changes no types and lengths. -/
theorem fits_control (h : owner.Fits size) (temperature : Binary32) (bank : PoolBank) :
    (control temperature owner bank).2.1.Fits size := by
  have hheater := fits_switchHeater h temperature bank
  unfold control
  split
  next hswitched => rw [hswitched] at hheater; exact hheater
  next owner bank hswitched =>
    rw [hswitched] at hheater
    have hstatus := fits_updateSet hheater (shapes_measureStatus temperature) statusSid bank
    split
    next hupdated => rw [hupdated] at hstatus; exact hstatus
    next owner bank hupdated =>
      rw [hupdated] at hstatus
      split
      · exact fits_updateSet hstatus shapes_countViolation diagnosticsSid bank
      · exact hstatus

end

end Simulation

end Housekeeper
