import Housekeeper.Proofs.Controller

/-!
# Steady state of the simulator

Between two cycles all queues are empty and the store is as it was at first (`Resting`); then the
controller has its subscriptions, and its sets are as small as in the beginning
(`Simulator.AtRest`). A cycle that begins so ends so, and none of its calls to the store and the
queues fails (`Simulator.AtRest.cycle`). The calls are those of the cycle itself at a station that
writes them down, which changes nothing else (`Simulator.cycle_eq_traced`).

* the controller answers the command of ground, if there is one, and makes its pass
  (`Simulator.AtRest.work`);
* ground and operations read until their queues are empty, and release every element that came with
  a message (`Simulator.Worked.drained`).

The setup ends at rest (`Simulator.atRest_create`), and so `returns_to_rest` follows for all runs.
-/

namespace Housekeeper

/-! ## Queues that run empty -/

theorem IdTable.get?_of_mem {α : Type} {table : IdTable α} {id : UInt32} {value : α}
    (h : (id, value) ∈ table.rows) : table.get? id = some value := by
  have hrows := table.ascending
  rw [get?]
  generalize table.rows = rows at h hrows
  induction rows with
  | nil => cases h
  | cons row rest ih =>
    obtain ⟨hlt, hrest⟩ := List.pairwise_cons.mp hrows
    rw [lookup]
    rcases List.mem_cons.mp h with rfl | hmem
    · exact if_pos rfl
    · rw [if_neg (UInt32.ne_of_lt (hlt _ hmem))]
      exact ih hmem hrest

namespace QueueHub

theorem queued_eq_nil {hub : QueueHub} (h : ∀ id, hub.pending id = []) : hub.queued = [] := by
  refine List.flatMap_eq_nil_iff.mpr fun row hmem => ?_
  rw [← pending_of_get? (IdTable.get?_of_mem hmem)]
  exact h row.1

/-- All messages of a queue are received. -/
theorem foldl_receive {messages : List CommandMessage} {hub : QueueHub} {own : QueueId}
    (h : hub.pending own = messages) :
    let after := messages.foldl (fun hub _ => (hub.receive own).2) hub
    hub.queued.Perm (messages ++ after.queued) ∧ (∀ id, after.depth? id = hub.depth? id) ∧
      ∀ id, after.pending id = if id = own then [] else hub.pending id := by
  induction messages generalizing hub with
  | nil =>
    refine ⟨.refl _, fun _ => rfl, fun id => ?_⟩
    split
    next hid => rw [hid]; exact h
    next => rfl
  | cons message rest ih =>
    have hfirst : hub.receive own = (some message, (hub.receive own).2) := by
      have hhead := hub.receive_fst own
      rw [h] at hhead
      exact Prod.ext hhead rfl
    have hrest : (hub.receive own).2.pending own = rest := by
      rw [pending_receive, if_pos rfl, h, List.tail_cons]
    obtain ⟨hqueued, hdepth, hpending⟩ := ih hrest
    refine ⟨(queued_of_receive hfirst).trans (hqueued.cons message), fun id => ?_, fun id => ?_⟩
    · exact (hdepth id).trans (hub.depth?_receive own id)
    · rw [List.foldl_cons, hpending, pending_receive]
      split <;> rfl

end QueueHub

/-! ## Stores that are empty again -/

namespace StorePage

theorem freeCount_cleared (page : StorePage) : page.cleared.freeCount = page.slots.size := by
  rw [freeCount, cleared, Array.countP_replicate]
  rfl

theorem freeCount_le_cleared (page : StorePage) : page.freeCount ≤ page.cleared.freeCount := by
  rw [freeCount_cleared]
  exact Array.countP_le_size

theorem cleared_of_free {page : StorePage} (h : page.cleared.freeCount ≤ page.freeCount) :
    page.cleared = page := by
  have hcount : page.freeCount = page.slots.size :=
    (Nat.le_antisymm page.freeCount_le_cleared h).trans page.freeCount_cleared
  have hall : ∀ slot ∈ page.slots, slot = none := fun slot hmem =>
    Option.isNone_iff_eq_none.mp (Array.countP_eq_size.mp hcount slot hmem)
  obtain ⟨elementSize, slots⟩ := page
  rw [cleared, ← Array.eq_replicate_of_mem hall]

end StorePage

namespace PacketStore

theorem freeCount_le_clear (store : PacketStore) : store.freeCount ≤ store.clear.freeCount := by
  obtain ⟨pages⟩ := store
  induction pages with
  | nil => exact Nat.le_refl 0
  | cons page rest ih =>
    have hpage := page.freeCount_le_cleared
    simp only [freeCount, clear, List.map_cons, List.foldr_cons] at ih ⊢
    omega

/-- Where clearing frees nothing it changes nothing. -/
theorem clear_of_free {store : PacketStore} (h : store.clear.freeCount ≤ store.freeCount) :
    store.clear = store := by
  obtain ⟨pages⟩ := store
  have hpages (page : StorePage) (hmem : page ∈ pages) : page.cleared = page := by
    apply StorePage.cleared_of_free
    induction pages with
    | nil => cases hmem
    | cons first rest ih =>
      have hfirst := first.freeCount_le_cleared
      have hrest := freeCount_le_clear ⟨rest⟩
      simp only [freeCount, clear, List.map_cons, List.foldr_cons] at h hrest ih
      rcases List.mem_cons.mp hmem with rfl | hmem
      · omega
      · exact ih (by omega) hmem
  rw [clear]
  exact congrArg PacketStore.mk (List.map_congr_left hpages |>.trans (List.map_id' pages))

/-- Once everything is free again, the store is as it was at first. -/
theorem BuiltFrom.eq_ofConfig {config : StoreConfig} {store : PacketStore}
    (h : store.BuiltFrom config) (hfree : config.capacity ≤ store.freeCount) :
    store = ofConfig config := by
  have hclear : store.clear.freeCount ≤ store.freeCount := by
    rw [h.clear_eq, freeCount_ofConfig]
    exact hfree
  rw [← h.clear_eq, clear_of_free hclear]

end PacketStore

namespace Simulation

/-! ## Rest -/

/-- The facilities as they are before the first cycle. -/
structure Resting (facilities : Facilities) : Prop where
  store_eq : facilities.store = .ofConfig .standard
  pending : ∀ id, facilities.hub.pending id = []
  depths : ∀ id ∈ [groundQueue, operationsQueue, controllerQueue],
    facilities.hub.depth? id = some queueDepth
  quiet : facilities.log = .empty

theorem Resting.busy {facilities : Facilities} (h : Resting facilities) : Busy 0 facilities where
  holding := by
    rw [QueueHub.queued_eq_nil h.pending, h.store_eq]
    exact .ofConfig
  few := by rw [QueueHub.queued_eq_nil h.pending]; exact Nat.le_refl 0
  depths := h.depths
  ground := by
    intro message hmem
    rw [h.pending] at hmem
    cases hmem
  elsewhere := fun id _ _ => h.pending id
  quiet := h.quiet

/-- Without messages that wait, the facilities are as before the first cycle. -/
theorem Busy.resting {count : Nat} {facilities : Facilities} (h : Busy count facilities)
    (hpending : ∀ id, facilities.hub.pending id = []) : Resting facilities where
  store_eq := by
    obtain ⟨hbuilt, calls, hcustody⟩ := h.holding
    have hbalance := hcustody.balance
    rw [QueueHub.queued_eq_nil hpending] at hbalance
    exact hbuilt.eq_ofConfig (Nat.le_of_eq hbalance.symm)
  pending := hpending
  depths := h.depths
  quiet := h.quiet

/-- A message to the controller arrives, and once it is received the queues are empty again. -/
theorem Resting.send {facilities : Facilities} (h : Resting facilities) (source : QueueId)
    (command : Command) :
    ∃ hub after, facilities.hub.send source controllerQueue command = (.ok (), hub) ∧
      hub.pending controllerQueue = [⟨source, command⟩] ∧
      hub.receive controllerQueue = (some ⟨source, command⟩, after) ∧
      Resting { facilities with hub := after } := by
  obtain ⟨queue, hqueue, hdepth⟩ := Option.map_eq_some_iff.mp (h.depths controllerQueue (by simp))
  have hempty := h.pending controllerQueue
  rw [QueueHub.pending_of_get? hqueue] at hempty
  have hroom : facilities.hub.HasRoom controllerQueue := by
    refine ⟨by decide, queue, hqueue, ?_⟩
    rw [hempty, hdepth]
    decide
  have hok := hroom.send_ok source command
  rcases hsend : facilities.hub.send source controllerQueue command with ⟨result, hub⟩
  rw [hsend] at hok
  cases hok
  have hpending (id : QueueId) : hub.pending id =
      if id = controllerQueue then facilities.hub.pending id ++ [⟨source, command⟩]
      else facilities.hub.pending id := QueueHub.delivers_of_send hsend id
  have hwaiting : hub.pending controllerQueue = [⟨source, command⟩] := by
    rw [hpending, if_pos rfl, h.pending]
    rfl
  refine ⟨hub, (hub.receive controllerQueue).2, rfl, hwaiting, ?_, h.store_eq, fun id => ?_,
    fun id hmem => ?_, h.quiet⟩
  · have hreceived := hub.receive_fst controllerQueue
    rw [hwaiting] at hreceived
    exact Prod.ext hreceived rfl
  · dsimp only
    rw [QueueHub.pending_receive]
    split
    next hid => rw [hid, hwaiting]; rfl
    next hid => rw [hpending, if_neg hid, h.pending]
  · exact (hub.depth?_receive controllerQueue id).trans
      ((QueueHub.depth?_of_send hsend id).trans (h.depths id hmem))

/-- The manager answers the request that waits for it, and then nothing waits for it any more. -/
theorem process_request {state : HkState (Traced Facilities)} (managed : Managed state)
    (hcalls : ∀ call ∈ state.services.calls, call.Succeeded)
    {message : CommandMessage} {hub : QueueHub}
    (hwaiting : state.services.state.hub.pending controllerQueue = [message])
    (hreceive : state.services.state.hub.receive controllerQueue = (some message, hub))
    (resting : Resting { state.services.state with hub }) (hsender : message.sender = groundQueue)
    (hrequest : message.command.isRequest) :
    Running 1 (state.process Facilities.station.traced).2 := by
  let received : HkState (Traced Facilities) :=
    { state with services := ⟨{ state.services.state with hub }, state.services.calls⟩ }
  have hready : Running 0 received := ⟨managed.withServices _, resting.busy, hcalls⟩
  have hrunning := hready.handle (by decide) hsender hrequest
  have hreceived : Facilities.station.traced.receive controllerQueue state.services =
      (some message, received.services) := by
    simp only [Station.traced, Facilities.station, hreceive]
    rfl
  have hprocess : (state.process Facilities.station.traced).2 =
      (received.handle Facilities.services.traced message).2 := by
    have hsteps : ((Facilities.station.traced.facilities state.services).hub.pending
        state.manager.queue).length = 1 := by
      rw [managed.queue_eq]
      exact congrArg List.length hwaiting
    rw [HkState.process, hsteps]
    simp only [HkState.processUpTo, managed.queue_eq, hreceived]
    exact congrArg Prod.snd (hrunning.processUpTo_eq 1)
  rw [hprocess]
  exact hrunning

/-! ## Work -/

namespace Simulator

/-- The manager and its owner after the control step. -/
def controlled {σ : Type} (temperature : Binary32) (simulator : Simulator σ) : HkState σ :=
  { simulator.state with owner := (control temperature simulator.state.owner simulator.bank).2.1 }

theorem isRequest_of_groundCommand {number : UInt32} {command : Command}
    (h : groundCommand? number = some command) : command.isRequest := by
  unfold groundCommand? at h
  repeat' split at h
  all_goals cases h
  all_goals rfl

/-- Between two cycles: everything is at rest, the manager and its owner are as they should, and no
call has failed so far. -/
structure AtRest (simulator : Simulator (Traced Facilities)) : Prop where
  ground_eq : simulator.ground = groundQueue
  operations_eq : simulator.operations = operationsQueue
  managed : Managed simulator.state
  resting : Resting simulator.state.services.state
  succeeded : ∀ call ∈ simulator.state.services.calls, call.Succeeded

/-- The controller has done its work, and ground and operations have not read yet. -/
structure Worked (simulator : Simulator (Traced Facilities)) : Prop where
  ground_eq : simulator.ground = groundQueue
  operations_eq : simulator.operations = operationsQueue
  running : Running 5 simulator.state

variable {simulator : Simulator (Traced Facilities)}

theorem managed_controlled (h : Managed simulator.state) (temperature : Binary32) :
    Managed (simulator.controlled temperature) :=
  ⟨h.queue_eq, h.destination_eq, h.receivers_eq, fits_control h.fits temperature simulator.bank⟩

theorem work_of_process {temperature : Binary32}
    (hrunning : Running 1 ((simulator.controlled temperature).process
      Facilities.station.traced).2)
    (hground : simulator.ground = groundQueue)
    (hoperations : simulator.operations = operationsQueue) (clock : Nat → CdsTime) :
    Worked (simulator.work Facilities.station.traced temperature clock) :=
  ⟨hground, hoperations, hrunning.pass (by decide) clock⟩

theorem AtRest.work_idle (h : AtRest simulator) (temperature : Binary32)
    (clock : Nat → CdsTime) :
    Worked (simulator.work Facilities.station.traced temperature clock) := by
  have hready : Running 0 (simulator.controlled temperature) :=
    ⟨managed_controlled h.managed temperature, h.resting.busy, h.succeeded⟩
  refine work_of_process ?_ h.ground_eq h.operations_eq clock
  rw [HkState.process, hready.processUpTo_eq]
  exact ⟨hready.managed, hready.going.1.mono (Nat.zero_le 1), h.succeeded⟩

/-- Ground asks, and the controller answers in the same cycle. -/
theorem AtRest.work_asked (h : AtRest simulator) {command : Command} (hrequest : command.isRequest)
    (temperature : Binary32) (clock : Nat → CdsTime) :
    Worked ((simulator.withServices (Facilities.station.traced.send simulator.ground
      simulator.state.manager.queue command simulator.state.services).2).work
        Facilities.station.traced temperature clock) := by
  obtain ⟨hub, after, hsend, hwaiting, hreceive, hresting⟩ :=
    h.resting.send simulator.ground command
  let sent := simulator.withServices ⟨{ simulator.state.services.state with hub },
    simulator.state.services.calls ++ [.send simulator.ground controllerQueue command (.ok ())]⟩
  have hsent : (Facilities.station.traced.send simulator.ground simulator.state.manager.queue
      command simulator.state.services).2 = sent.state.services := by
    rw [h.managed.queue_eq]
    simp only [Station.traced, Services.traced, Facilities.station, Facilities.services, hsend]
    rfl
  have hcalls : ∀ call ∈ sent.state.services.calls, call.Succeeded := by
    simp only [sent, withServices, List.forall_mem_append, List.forall_mem_singleton]
    exact ⟨h.succeeded, rfl⟩
  rw [hsent]
  have hmanaged : Managed (sent.controlled temperature) :=
    managed_controlled (h.managed.withServices sent.state.services) temperature
  exact work_of_process (process_request hmanaged hcalls hwaiting hreceive hresting h.ground_eq
    hrequest) h.ground_eq h.operations_eq clock

theorem AtRest.work (h : AtRest simulator) (temperature : Binary32) (clock : Nat → CdsTime)
    (number : UInt32) :
    Worked ((simulator.sendGroundCommand Facilities.station.traced number).work
      Facilities.station.traced temperature clock) := by
  rw [sendGroundCommand]
  cases hcommand : groundCommand? number with
  | none => exact h.work_idle temperature clock
  | some command => exact h.work_asked (isRequest_of_groundCommand hcommand) temperature clock

/-! ## Reading -/

/-- Releasing a message frees its element, and does nothing else. -/
theorem release_spec {message : CommandMessage} {rest : List CommandMessage}
    (h : Holding (message :: rest) simulator.state.services.state.store)
    (hcalls : ∀ call ∈ simulator.state.services.calls, call.Succeeded) :
    ∃ store calls, simulator.release Facilities.station.traced message =
        simulator.withServices ⟨{ simulator.state.services.state with store }, calls⟩ ∧
      Holding rest store ∧ ∀ call ∈ calls, call.Succeeded := by
  unfold release Services.release
  cases hid : message.command.store? with
  | none =>
    exact ⟨simulator.state.services.state.store, simulator.state.services.calls, rfl,
      h.of_cons_plain hid, hcalls⟩
  | some id =>
    obtain ⟨hok, hrest⟩ := h.delete hid
    refine ⟨(simulator.state.services.state.store.delete id).2, _, rfl, hrest, ?_⟩
    simp only [List.forall_mem_append, List.forall_mem_singleton]
    exact ⟨hcalls, hok⟩

/-- Whoever reads releases all elements that come with the messages. -/
theorem readMessages_spec (event? : PacketStore → Command → Option Event)
    (released : Command → Bool) (messages rest : List CommandMessage)
    {simulator : Simulator (Traced Facilities)}
    (h : Holding (messages ++ rest) simulator.state.services.state.store)
    (hcalls : ∀ call ∈ simulator.state.services.calls, call.Succeeded)
    (hreleased : ∀ message ∈ messages,
      message.command.store? = none ∨ released message.command = true) :
    ∃ store calls,
      (readMessages Facilities.station.traced event? released messages simulator).2 =
        simulator.withServices ⟨{ simulator.state.services.state with store }, calls⟩ ∧
      Holding rest store ∧ ∀ call ∈ calls, call.Succeeded := by
  induction messages generalizing simulator with
  | nil => exact ⟨_, _, rfl, h, hcalls⟩
  | cons message later ih =>
    have hlater := fun other hmem => hreleased other (List.mem_cons_of_mem message hmem)
    rw [readMessages]
    dsimp only
    by_cases hrelease : released message.command = true
    · obtain ⟨store, calls, hnext, hkept, hmore⟩ := release_spec h hcalls
      rw [if_pos hrelease, hnext]
      have hservices : (simulator.withServices
          ⟨{ simulator.state.services.state with store }, calls⟩).state.services =
            ⟨{ simulator.state.services.state with store }, calls⟩ := rfl
      obtain ⟨last, all, hlast, hall⟩ :=
        ih (by rw [hservices]; exact hkept) (by rw [hservices]; exact hmore) hlater
      exact ⟨last, all, hlast, hall⟩
    · have hplain := (hreleased message List.mem_cons_self).resolve_right hrelease
      rw [if_neg hrelease]
      exact ih (h.of_cons_plain hplain) hcalls hlater

/-- Receiving is no call. -/
theorem foldl_receive_traced (messages : List CommandMessage) (own : QueueId)
    (traced : Traced Facilities) :
    messages.foldl (fun services _ => (Facilities.station.traced.receive own services).2) traced =
      ⟨{ traced.state with
        hub := messages.foldl (fun hub _ => (hub.receive own).2) traced.state.hub },
        traced.calls⟩ := by
  induction messages generalizing traced with
  | nil => rfl
  | cons message rest ih => exact ih _

/-- A queue is read until it is empty, and no element is left behind. -/
theorem drain_spec {count : Nat} (h : Going count simulator.state.services) (own : QueueId)
    (event? : PacketStore → Command → Option Event) (released : Command → Bool)
    (hreleased : ∀ message ∈ simulator.state.services.state.hub.pending own,
      message.command.store? = none ∨ released message.command = true) :
    ∃ services, (simulator.drain Facilities.station.traced own event? released).2 =
        simulator.withServices services ∧ Going count services ∧
      ∀ id, services.state.hub.pending id =
        if id = own then [] else simulator.state.services.state.hub.pending id := by
  obtain ⟨busy, hcalls⟩ := h
  let facilities := simulator.state.services.state
  let messages := facilities.hub.pending own
  obtain ⟨hqueued, hdepth, hpending⟩ := QueueHub.foldl_receive (Eq.refl messages)
  let hub := messages.foldl (fun hub _ => (hub.receive own).2) facilities.hub
  let taken := simulator.withServices ⟨{ facilities with hub }, simulator.state.services.calls⟩
  have htaken : simulator.takeAll Facilities.station.traced own = (messages, taken) := by
    have hfold := foldl_receive_traced messages own simulator.state.services
    exact congrArg (fun services => (messages, simulator.withServices services)) hfold
  have hleft : Holding (messages ++ hub.queued) taken.state.services.state.store :=
    busy.holding.perm hqueued.symm
  obtain ⟨store, calls, hread, hkept, hall⟩ :=
    readMessages_spec event? released messages hub.queued hleft hcalls hreleased
  refine ⟨⟨{ facilities with hub, store }, calls⟩, ?_, ⟨?_, hall⟩, hpending⟩
  · rw [drain, htaken]
    exact hread
  constructor
  case holding => exact hkept
  case few =>
    calc hub.queued.length
      _ ≤ messages.length + hub.queued.length := Nat.le_add_left ..
      _ = facilities.hub.queued.length := by rw [hqueued.length_eq, List.length_append]
      _ ≤ count := busy.few
  case depths => exact fun id hmem => (hdepth id).trans (busy.depths id hmem)
  case ground =>
    intro message hmem
    dsimp only at hmem
    rw [hpending] at hmem
    split at hmem
    · cases hmem
    · exact busy.ground message hmem
  case elsewhere =>
    intro id hground hoperations
    dsimp only
    rw [hpending]
    split
    · rfl
    · exact busy.elsewhere id hground hoperations
  case quiet => exact busy.quiet

/-- Once ground and operations have read, everything is at rest. -/
theorem Worked.drained (h : Worked simulator)
    (groundEvent? operationsEvent? : PacketStore → Command → Option Event) :
    let seen := (simulator.drain Facilities.station.traced simulator.ground groundEvent?
      groundReleases).2
    AtRest (seen.drain Facilities.station.traced seen.operations operationsEvent?
      fun _ => true).2 := by
  obtain ⟨hground, hoperations, hmanaged, hgoing⟩ := h
  obtain ⟨services, hseen, hstill, hleft⟩ := drain_spec hgoing simulator.ground groundEvent?
    groundReleases (by rw [hground]; exact hgoing.1.ground)
  have hreading : Going 5 (simulator.withServices services).state.services := hstill
  obtain ⟨last, hlast, hheard, hnone⟩ := drain_spec hreading
    (simulator.withServices services).operations operationsEvent? (fun _ => true)
    fun _ _ => .inr rfl
  have hempty (id : QueueId) : last.state.hub.pending id = [] := by
    rw [hnone]
    split
    next => rfl
    next hother =>
      refine (hleft id).trans ?_
      split
      next => rfl
      next hthis =>
        exact hgoing.1.elsewhere id (hground ▸ hthis) (hoperations ▸ hother)
  rw [hseen]
  intro seen
  rw [hlast]
  exact ⟨hground, hoperations, hmanaged.withServices last, hheard.1.resting hempty, hheard.2⟩

/-! ## Cycles -/

/-- A cycle that begins at rest ends at rest, and no call of it fails. -/
theorem AtRest.cycle (h : AtRest simulator) (temperature : Binary32) (clock : Nat → CdsTime)
    (number : UInt32) :
    AtRest (simulator.cycle Facilities.station.traced temperature clock number).2 := by
  have hworked := h.work temperature clock number
  rw [Simulator.cycle]
  generalize (simulator.sendGroundCommand Facilities.station.traced number).work
    Facilities.station.traced temperature clock = worked at hworked
  exact hworked.drained _ operationsEvent?

section Map

variable {σ τ : Type} {f : σ → τ} {source : Station σ} {target : Station τ}

/-- The same simulator with other services. -/
def map (f : σ → τ) (simulator : Simulator σ) : Simulator τ :=
  ⟨simulator.state.map f, simulator.bank, simulator.ground, simulator.operations⟩

variable (h : Station.Respects f source target) (simulator : Simulator σ)

include h

theorem sendGroundCommand_map (number : UInt32) :
    (simulator.map f).sendGroundCommand target number =
      (simulator.sendGroundCommand source number).map f := by
  unfold sendGroundCommand
  split
  · rfl
  next command _ =>
    have hsend := h.send simulator.ground simulator.state.manager.queue command
      simulator.state.services
    exact congrArg (fun sent => (simulator.map f).withServices sent.2) hsend

theorem work_map (temperature : Binary32) (clock : Nat → CdsTime) :
    (simulator.map f).work target temperature clock =
      (simulator.work source temperature clock).map f := by
  obtain ⟨⟨manager, owner, services⟩, bank, ground, operations⟩ := simulator
  have hprocess := HkState.process_map h
    ⟨manager, (control temperature owner bank).2.1, services⟩
  simp only [work, map, HkState.map] at hprocess ⊢
  rw [hprocess]
  have hpass := HkState.pass_map h.toRespects clock
    (HkState.process source ⟨manager, (control temperature owner bank).2.1, services⟩).2
  simp only [Prod.map_snd]
  rw [show (HkState.map f (HkState.process source
    ⟨manager, (control temperature owner bank).2.1, services⟩).2).pass target.toServices clock = _
      from hpass]
  rfl

theorem takeAll_map (queue : QueueId) :
    (simulator.map f).takeAll target queue =
      Prod.map id (map f) (simulator.takeAll source queue) := by
  have hfold (messages : List CommandMessage) (services : σ) :
      messages.foldl (fun services _ => (target.receive queue services).2) (f services) =
        f (messages.foldl (fun services _ => (source.receive queue services).2) services) := by
    induction messages generalizing services with
    | nil => rfl
    | cons message rest ih =>
      rw [List.foldl_cons, List.foldl_cons, h.receive]
      exact ih _
  have hmessages : (target.facilities (simulator.map f).state.services).hub.pending queue =
      (source.facilities simulator.state.services).hub.pending queue :=
    congrArg (fun facilities => facilities.hub.pending queue)
      (h.facilities simulator.state.services)
  rw [takeAll, takeAll, hmessages]
  exact congrArg (fun services => (_, (simulator.map f).withServices services))
    (hfold _ simulator.state.services)

theorem release_map (message : CommandMessage) :
    (simulator.map f).release target message = (simulator.release source message).map f :=
  congrArg (fun released : Except PoolError Unit × τ => (simulator.map f).withServices released.2)
    (HkState.release_map h.toRespects message simulator.state.services)

theorem readMessages_map (event? : PacketStore → Command → Option Event)
    (released : Command → Bool) (messages : List CommandMessage) :
    readMessages target event? released messages (simulator.map f) =
      Prod.map id (map f) (readMessages source event? released messages simulator) := by
  induction messages generalizing simulator with
  | nil => rfl
  | cons message rest ih =>
    have hfacilities : target.facilities (simulator.map f).state.services =
        source.facilities simulator.state.services := h.facilities simulator.state.services
    have hrelease := release_map h simulator message
    simp only [readMessages, hfacilities]
    by_cases hreleased : released message.command = true
    · simp only [hreleased, if_true, hrelease, ih]
      rfl
    · simp only [hreleased, Bool.false_eq_true, if_false, ih]
      rfl

theorem drain_map (queue : QueueId) (event? : PacketStore → Command → Option Event)
    (released : Command → Bool) :
    (simulator.map f).drain target queue event? released =
      Prod.map id (map f) (simulator.drain source queue event? released) := by
  rw [drain, takeAll_map h, drain]
  exact readMessages_map h ..

/-- **A cycle does the same at both stations.** -/
theorem cycle_map (temperature : Binary32) (clock : Nat → CdsTime) (number : UInt32) :
    (simulator.map f).cycle target temperature clock number =
      Prod.map id (map f) (simulator.cycle source temperature clock number) := by
  simp only [Simulator.cycle, sendGroundCommand_map h, work_map h]
  generalize (simulator.sendGroundCommand source number).work source temperature clock = worked
  have hseen := drain_map h worked worked.ground
    (fun store command => groundEvent? store number command) groundReleases
  rw [show (worked.map f).ground = worked.ground from rfl, hseen]
  simp only [Prod.map_snd, Prod.map_fst]
  rw [show ∀ seen : Simulator σ, (seen.map f).operations = seen.operations from fun _ => rfl,
    drain_map h]
  rfl

end Map

/-- The simulator when no call has been written down yet. -/
def traced (simulator : Simulator Facilities) : Simulator (Traced Facilities) :=
  simulator.map fun services => ⟨services, []⟩

/-- What a cycle asks of the store and the queues, and with which results. -/
def calls (temperature : Binary32) (clock : Nat → CdsTime) (number : UInt32)
    (simulator : Simulator Facilities) : List ServiceCall :=
  (simulator.traced.cycle Facilities.station.traced temperature clock number).2.state.services.calls

/-- Writing down the calls of a cycle changes nothing else. -/
theorem cycle_eq_traced (temperature : Binary32) (clock : Nat → CdsTime) (number : UInt32)
    (simulator : Simulator Facilities) :
    simulator.cycle Facilities.station temperature clock number =
      Prod.map id (map Traced.state)
        (simulator.traced.cycle Facilities.station.traced temperature clock number) :=
  cycle_map (Station.traced_respects Facilities.station) simulator.traced temperature clock number

theorem AtRest.forget (h : AtRest simulator) : AtRest (simulator.map Traced.state).traced where
  ground_eq := h.ground_eq
  operations_eq := h.operations_eq
  managed := h.managed.withServices _
  resting := h.resting
  succeeded := fun _ hmem => absurd hmem List.not_mem_nil

theorem AtRest.next {simulator : Simulator Facilities} (h : AtRest simulator.traced)
    (temperature : Binary32) (clock : Nat → CdsTime) (number : UInt32) :
    AtRest (simulator.cycle Facilities.station temperature clock number).2.traced := by
  rw [cycle_eq_traced, Prod.map_snd]
  exact (h.cycle temperature clock number).forget

/-! ## Runs -/

theorem fits_of_sizes {size wide count : Nat} {set : Dataset} (hwide : set.variablesSize = wide)
    (hcount : set.accessors.length = count)
    (h : packetHeaderSize + (wide + maskLength count) ≤ size ∧ 16 + 4 * count ≤ size ∧
      count ≤ 255) : set.Fits size := by
  subst hwide hcount
  exact ⟨h.1, h.2.1, h.2.2⟩

theorem fits_statusSet (pool : PoolHandle) : (statusSet pool).Fits 32 := by
  have hwide : (statusSet pool).variablesSize = 17 := rfl
  have hcount : (statusSet pool).accessors.length = 3 := rfl
  exact fits_of_sizes hwide hcount (by decide)

theorem fits_diagnosticsSet (pool : PoolHandle) : (diagnosticsSet pool).Fits 32 := by
  have hwide : (diagnosticsSet pool).variablesSize = 4 := rfl
  have hcount : (diagnosticsSet pool).accessors.length = 1 := rfl
  exact fits_of_sizes hwide hcount (by decide)

theorem fits_create (options : Options) (config : ManagerConfig) :
    (create options config).state.owner.Fits 32 := by
  let pool := (create options config).state.manager.pool
  have hlayouts : (create options config).state.owner.sets.map
      (fun exposed => exposed.2.accessors.map Accessor.layout) =
        [(statusSet pool).accessors.map Accessor.layout,
         (diagnosticsSet pool).accessors.map Accessor.layout] := rfl
  intro exposed hmem
  have hlayout := List.mem_map_of_mem
    (f := fun exposed : Sid × Dataset => exposed.2.accessors.map Accessor.layout) hmem
  rw [hlayouts] at hlayout
  rcases List.mem_pair.mp hlayout with hsame | hsame
  · exact (fits_statusSet pool).of_layout hsame
  · exact (fits_diagnosticsSet pool).of_layout hsame

/-- The controller is set up, and waits for its first cycle. -/
theorem atRest_create (options : Options) (config : ManagerConfig) :
    AtRest (create options config).traced where
  ground_eq := rfl
  operations_eq := rfl
  managed := ⟨rfl, rfl, rfl, fits_create options config⟩
  resting := by
    have hhub : (create options config).state.services.hub =
        (((QueueHub.empty.create queueDepth).2.create queueDepth).2.create queueDepth).2 := rfl
    refine ⟨rfl, fun id => ?_, fun id hmem => ?_, rfl⟩
    · show (create options config).state.services.hub.pending id = []
      rw [hhub]
      simp only [QueueHub.create, QueueHub.pending_put]
      repeat' split
      all_goals rfl
    · show (create options config).state.services.hub.depth? id = some queueDepth
      rw [hhub]
      simp only [List.mem_cons, List.not_mem_nil, or_false] at hmem
      rcases hmem with rfl | rfl | rfl
      all_goals rfl
  succeeded := fun _ hmem => absurd hmem List.not_mem_nil

/-- The simulator after so many cycles, with any temperatures, and with any times when receivers are
served in them. -/
def after (temperature : Nat → Binary32) (clock : Nat → Nat → CdsTime)
    (start : Simulator Facilities) : Nat → Simulator Facilities
  | 0 => start
  | count + 1 =>
    ((after temperature clock start count).cycle Facilities.station (temperature count)
      (clock count) (UInt32.ofNat (count + 1))).2

theorem AtRest.after {start : Simulator Facilities} (h : AtRest start.traced)
    (temperature : Nat → Binary32) (clock : Nat → Nat → CdsTime) (count : Nat) :
    AtRest (start.after temperature clock count).traced := by
  induction count with
  | zero => exact h
  | succ count ih => exact ih.next ..

/-- The cycles of a run are those that `after` counts. -/
theorem snd_cycles (temperature : UInt32 → Binary32) (clock : UInt32 → Nat → CdsTime)
    (start : Simulator Facilities) (count done : Nat) :
    let reached := start.after (fun earlier => temperature (UInt32.ofNat (earlier + 1)))
      fun earlier => clock (UInt32.ofNat (earlier + 1))
    (cycles Facilities.station temperature clock count done (reached done)).2 =
      reached (done + count) := by
  intro reached
  induction count generalizing done with
  | zero => rfl
  | succ count ih =>
    have hnext : reached (done + 1) = ((reached done).cycle Facilities.station
      (temperature (UInt32.ofNat (done + 1))) (clock (UInt32.ofNat (done + 1)))
      (UInt32.ofNat (done + 1))).2 := rfl
    rw [show done + (count + 1) = done + 1 + count by omega, ← ih (done + 1), hnext, cycles]

theorem AtRest.cycles {start : Simulator Facilities} (h : AtRest start.traced)
    (temperature : UInt32 → Binary32) (clock : UInt32 → Nat → CdsTime) (count : Nat) :
    AtRest (start.cycles Facilities.station temperature clock count 0).2.traced := by
  have hcycles := snd_cycles temperature clock start count 0
  rw [show (start.cycles Facilities.station temperature clock count 0).2 = _ from hcycles]
  exact h.after ..

theorem AtRest.freeElements_eq {simulator : Simulator Facilities} (h : AtRest simulator.traced) :
    simulator.freeElements = 56 := by
  have hstore : simulator.state.services.store = .ofConfig .standard := h.resting.store_eq
  rw [freeElements, hstore, PacketStore.freeCount_ofConfig]
  rfl

end Simulator

/-- Nothing that the setup asks for is refused, and then everything is at rest. -/
theorem atRest_of_launch {arguments : List String} {readFile : String → Option String}
    {options : Options} {start : Simulator Facilities}
    (h : launch arguments readFile = .started options start) :
    start.state.manager.started = true ∧ start.traced.AtRest := by
  unfold launch at h
  split at h
  case h_4 =>
    split at h
    · cases h
    next config _ =>
      split at h
      · cases h
      · cases h
        exact ⟨rfl, Simulator.atRest_create options config⟩
  all_goals cases h

theorem finalLine_of_atRest {simulator : Simulator Facilities} (h : simulator.traced.AtRest) :
    finalLine simulator = "🚀 simulation finished, 56 free store elements" :=
  calc finalLine simulator
    _ = "🚀 simulation finished, " ++ toString 56 ++ " free store elements" :=
      congrArg (fun free => "🚀 simulation finished, " ++ toString free ++ " free store elements")
        h.freeElements_eq
    _ = "🚀 simulation finished, 56 free store elements" := by decide +kernel

theorem transcript_of_launch {arguments : List String} {readFile : String → Option String}
    {options : Options} {start : Simulator Facilities}
    (h : launch arguments readFile = .started options start) (clock : UInt32 → Nat → CdsTime)
    (timeText : CdsTime → String) :
    ∃ lines, transcript arguments readFile clock timeText =
      (0, lines ++ [finalLine
        (start.cycles Facilities.station measured clock options.cycles.toNat 0).2]) := by
  rw [transcript, h]
  exact ⟨_, rfl⟩

/-- **After every cycle all queues are empty and the store is as it was at first.** No call of any
cycle fails and nothing is written to the error log, whatever the options, the configuration, and
the temperatures and times of the cycles are, so that a run ends with all elements of the store
free. -/
theorem returns_to_rest {arguments : List String} {readFile : String → Option String}
    {options : Options} {start : Simulator Facilities}
    (hlaunch : launch arguments readFile = .started options start) :
    start.state.manager.started = true ∧
      (∀ (temperature : Nat → Binary32) (clock : Nat → Nat → CdsTime) (count : Nat),
        let reached := start.after temperature clock count
        (∀ id, reached.state.services.hub.pending id = []) ∧
          reached.state.services.store = .ofConfig .standard ∧
          reached.freeElements = 56 ∧ reached.state.services.log = .empty ∧
          ∀ call ∈ reached.calls (temperature count) (clock count) (UInt32.ofNat (count + 1)),
            call.Succeeded) ∧
      ∀ clock timeText, ∃ lines, transcript arguments readFile clock timeText =
        (0, lines ++ ["🚀 simulation finished, 56 free store elements"]) := by
  obtain ⟨hstarted, hstart⟩ := atRest_of_launch hlaunch
  refine ⟨hstarted, fun temperature clock count => ?_, fun clock timeText => ?_⟩
  · have hrest := hstart.after temperature clock count
    exact ⟨hrest.resting.pending, hrest.resting.store_eq, hrest.freeElements_eq,
      hrest.resting.quiet, (hrest.cycle ..).succeeded⟩
  · obtain ⟨lines, htranscript⟩ := transcript_of_launch hlaunch clock timeText
    refine ⟨lines, ?_⟩
    rw [htranscript, finalLine_of_atRest (hstart.cycles ..)]

/-- Three cycles a minute apart, with a configuration of its own. -/
theorem slow_run_returns :
    let arguments := ["--cycles=3", "-p", "60000", "--config", "hk.json"]
    let readFile := fun path =>
      if path = "hk.json" then some "\x7b\"append_validity_buffer\": false\x7d" else none
    ∃ options start lines, launch arguments readFile = .started options start ∧
      options.cycles = 3 ∧ options.period = 60000 ∧
      transcript arguments readFile (fun _ _ => ⟨0, 0⟩) (fun _ => "") =
        (0, lines ++ ["🚀 simulation finished, 56 free store elements"]) := by
  intro arguments readFile
  let options : Options := ⟨3, 60000, 5, some "hk.json"⟩
  have hparse : Options.parse arguments = .ok options := rfl
  have hload : loadConfig? readFile options.config = some { validityMask := false } := by
    decide +kernel
  have hlaunch : launch arguments readFile =
      .started options (.create options { validityMask := false }) := by
    rw [launch, hparse]
    dsimp only
    rw [hload]
    exact if_neg (by decide)
  obtain ⟨lines, hlines⟩ := (returns_to_rest hlaunch).2.2 (fun _ _ => ⟨0, 0⟩) fun _ => ""
  exact ⟨options, _, lines, hlaunch, rfl, rfl, hlines⟩

end Simulation

end Housekeeper
