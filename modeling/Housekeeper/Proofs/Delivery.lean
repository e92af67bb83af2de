import Housekeeper.Proofs.History

/-!
# Delivery attempts

`Attempt` says, call by call, what a manager does to its services in order to deliver one parcel:
either one message, or data that go into the store and one message about them. Its cases are the
ways in which this can end. Every function that sends something makes one attempt
(`send_attempt`, `sendPacket_attempt`, `announce_attempt`). In its turn a receiver gets what it is
offered or nothing (`serve_offer`), a pass sends what the owner exposes as the pass begins
(`Owner.Exposes`), and a request is answered (`Owner.Answers`). Passes and requests do nothing else
to the services, so they keep whatever every attempt at one of these parcels keeps
(`pass_services`, `request_services`).
-/

namespace Housekeeper

/-- Something to be delivered. -/
inductive Parcel where
  /-- A message that refers to nothing in the store. -/
  | message (command : Command) (plain : command.store? = none)
  /-- Data for the store, unless they cannot be written, and the message about them. -/
  | stored (data : Except PoolError Bytes) (command : StoreId → Command)
    (refers : ∀ id, (command id).store? = some id)

namespace Parcel

def packet (sid : Sid) (set : Dataset) (order : ByteOrder) : Parcel :=
  .stored ((HkPacket.mk sid set).toBytes order) (Command.report set.kind sid) fun _ => rfl

def ofStructure (sid : Sid) (kind : ReportKind) (report : StructureReport) : Parcel :=
  .stored (report.toBytes .big) (Command.structureReport kind sid) fun _ => rfl

def setSnapshot (sid : Sid) (set : Dataset) (now : CdsTime) : Parcel :=
  .stored ((Snapshot.mk now (.ofSet set)).toBytes .machine) (Command.setSnapshot sid) fun _ => rfl

def variableSnapshot (gpid : Gpid) (accessor : Accessor) (now : CdsTime) : Parcel :=
  .stored ((Snapshot.mk now (.ofAccessor accessor)).toBytes .machine)
    (Command.variableSnapshot gpid) fun _ => rfl

end Parcel

variable {σ : Type}

/-- One attempt at a delivery from a queue, on behalf of an object: the services before it, its
result and the services after it. -/
inductive Attempt (services : Services σ) (queue : QueueId) (object : ObjectId) :
    Except PoolError QueueId → Parcel → σ → Except PoolError Unit → σ → Prop
  /-- There is no destination, and nothing is tried. -/
  | unroutable {e parcel before} :
    Attempt services queue object (.error e) parcel before (.error e) before
  | sent {destination command plain before after}
    (hsend : services.send queue destination command before = (.ok (), after)) :
    Attempt services queue object (.ok destination) (.message command plain) before (.ok ()) after
  | unsent {destination command plain before e mid}
    (hsend : services.send queue destination command before = (.error e, mid)) :
    Attempt services queue object (.ok destination) (.message command plain) before (.error e)
      (services.record .queueHit object e mid)
  | unwritten {destination e command refers before} :
    Attempt services queue object (.ok destination) (.stored (.error e) command refers) before
      (.error e) before
  | unstored {destination bytes command refers before e mid}
    (hadd : services.add bytes before = (.error e, mid)) :
    Attempt services queue object (.ok destination) (.stored (.ok bytes) command refers) before
      (.error e) (services.record .storeHit object e mid)
  | delivered {destination bytes command refers before id mid after}
    (hadd : services.add bytes before = (.ok id, mid))
    (hsend : services.send queue destination (command id) mid = (.ok (), after)) :
    Attempt services queue object (.ok destination) (.stored (.ok bytes) command refers) before
      (.ok ()) after
  /-- The data were stored, but the message cannot be sent: they are released again. -/
  | returned {destination bytes command refers before id stored e mid}
    (hadd : services.add bytes before = (.ok id, stored))
    (hsend : services.send queue destination (command id) stored = (.error e, mid)) :
    Attempt services queue object (.ok destination) (.stored (.ok bytes) command refers) before
      (.error e)
      (services.record .lostTelemetry object e
        (services.delete id (services.record .queueHit object e mid)).2)

namespace Facilities

variable {before after : Facilities} {bytes : Bytes} {source destination : QueueId}
  {command : Command}

theorem of_add {result : Except PoolError StoreId}
    (h : services.add bytes before = (result, after)) :
    ∃ store, before.store.add bytes = (result, store) ∧ after = { before with store } := by
  rcases hadd : before.store.add bytes with ⟨own, store⟩
  simp only [services, hadd] at h
  cases h
  exact ⟨store, rfl, rfl⟩

theorem of_send {result : Except PoolError Unit}
    (h : services.send source destination command before = (result, after)) :
    ∃ hub, before.hub.send source destination command = (result, hub) ∧
      after = { before with hub } := by
  rcases hsend : before.hub.send source destination command with ⟨own, hub⟩
  simp only [services, hsend] at h
  cases h
  exact ⟨hub, rfl, rfl⟩

/-- A message that cannot be sent changes nothing. -/
theorem of_send_error {e : PoolError}
    (h : services.send source destination command before = (.error e, after)) :
    after = before := by
  obtain ⟨hub, hsend, rfl⟩ := of_send h
  have hsame := QueueHub.send_of_error (congrArg Prod.fst hsend)
  rw [hsend] at hsame
  subst hsame
  rfl

end Facilities

/-! ## Everything that is sent is one attempt -/

namespace HkManager

variable (services : Services σ) (manager : HkManager) (state : σ)

theorem send_attempt (destination : QueueId) (command : Command) (plain : command.store? = none) :
    Attempt services manager.queue manager.owner (.ok destination) (.message command plain) state
      (manager.send services destination command state).1
      (manager.send services destination command state).2 := by
  unfold send
  split
  next hs => exact .sent hs
  next hs => exact .unsent hs

theorem sendData_attempt (destination : QueueId) (data : Except PoolError Bytes)
    (command : StoreId → Command) (refers : ∀ id, (command id).store? = some id) :
    Attempt services manager.queue manager.owner (.ok destination) (.stored data command refers)
      state (manager.sendData services destination data command state).1
      (manager.sendData services destination data command state).2 := by
  cases data with
  | error e => exact .unwritten
  | ok bytes =>
    rcases hadd : services.add bytes state with ⟨e | id, mid⟩
    · simp only [sendData, hadd]
      exact .unstored hadd
    · rcases hsend : services.send manager.queue destination (command id) mid with ⟨e | _, last⟩
      · simp only [sendData, hadd, sendStored, send, hsend]
        exact .returned hadd hsend
      · simp only [sendData, hadd, sendStored, send, hsend]
        exact .delivered hadd hsend

theorem sendPacket_attempt (sid : Sid) (set : Dataset) (forDownlink : Bool)
    (destination : QueueId) :
    Attempt services manager.queue manager.owner (manager.resolve destination)
      (.packet sid set (packetOrder forDownlink)) state
      (manager.sendPacket services sid set forDownlink destination state).1
      (manager.sendPacket services sid set forDownlink destination state).2 := by
  unfold sendPacket
  split
  next e hr => rw [hr]; exact .unroutable
  next queue hr => rw [hr]; exact sendData_attempt ..

theorem sendOnce_attempt {owner : Owner} {sid : Sid} {kind : ReportKind} {set : Dataset}
    (h : owner.getSetOfKind sid kind = .ok set) (destination : QueueId) :
    Attempt services manager.queue manager.owner (manager.resolve destination)
      (.packet sid set .big) state
      (manager.sendOnce services owner sid kind destination state).1
      (manager.sendOnce services owner sid kind destination state).2 := by
  simp only [sendOnce, h]
  exact sendPacket_attempt services manager state sid set true destination

/-- The structure report of a set, with the interval of its timer. -/
def structureOf (set : Dataset) : StructureReport :=
  .ofSet set (match set.timer with | some timer => timer.seconds | none => 0)

theorem sendStructure_attempt {owner : Owner} {sid : Sid} {kind : ReportKind} {set : Dataset}
    (h : owner.getSetOfKind sid kind = .ok set) (destination : QueueId) :
    Attempt services manager.queue manager.owner (manager.resolve destination)
      (.ofStructure sid kind (structureOf set)) state
      (manager.sendStructure services owner sid kind destination state).1
      (manager.sendStructure services owner sid kind destination state).2 := by
  simp only [sendStructure, h]
  split
  next e hr => rw [hr]; exact .unroutable
  next queue hr => rw [hr]; exact sendData_attempt ..

end HkManager

/-! ## What a receiver is sent -/

namespace Owner

/-- What an owner has for the receivers of its manager while the clock shows `now`. -/
inductive Exposes (owner : Owner) (object : ObjectId) (now : CdsTime) : Parcel → Prop
  | message (command : Command) (plain : command.store? = none) :
    Exposes owner object now (.message command plain)
  | packet {sid : Sid} {set : Dataset} (hset : owner.set? sid = some set) :
    Exposes owner object now (.packet sid set .big)
  | setSnapshot {sid : Sid} {set : Dataset} (hset : owner.set? sid = some set) :
    Exposes owner object now (.setSnapshot sid set now)
  | variableSnapshot {id : LocalPoolId} {accessor : Accessor}
    (hvariable : owner.variableOf? id = some accessor) :
    Exposes owner object now (.variableSnapshot ⟨object, id⟩ accessor now)

/-- What is sent because of a command: what it asks for, or a reply. -/
inductive Answers (owner : Owner) : Command → Parcel → Prop
  | reply {request : Command} (command : Command) (plain : command.store? = none) :
    Answers owner request (.message command plain)
  | report {kind : ReportKind} {sid : Sid} {set : Dataset}
    (hset : owner.getSetOfKind sid kind = .ok set) :
    Answers owner (.requestReport kind sid) (.packet sid set .big)
  | structure {kind : ReportKind} {sid : Sid} {set : Dataset}
    (hset : owner.getSetOfKind sid kind = .ok set) :
    Answers owner (.requestStructure kind sid)
      (.ofStructure sid kind (HkManager.structureOf set))

section

variable {owner : Owner} {object : ObjectId} {now : CdsTime} {parcel : Parcel}

/-- Flags and timers do not show in packets and snapshots. -/
theorem Exposes.of_modifySet {own : Sid} {change : Dataset → Dataset}
    (h : (owner.modifySet own change).Exposes object now parcel)
    (hpacket : ∀ sid set order, Parcel.packet sid (change set) order = .packet sid set order)
    (hsnapshot : ∀ sid set now,
      Parcel.setSnapshot sid (change set) now = .setSnapshot sid set now) :
    owner.Exposes object now parcel := by
  have hsource {sid : Sid} {set : Dataset}
      (hset : (owner.modifySet own change).set? sid = some set) :
      ∃ old, owner.set? sid = some old ∧ (set = old ∨ set = change old) := by
    by_cases hsame : sid = own
    · subst hsame
      rw [set?_modifySet] at hset
      obtain ⟨old, hold, rfl⟩ := Option.map_eq_some_iff.mp hset
      exact ⟨old, hold, .inr rfl⟩
    · rw [set?_modifySet_of_ne owner hsame] at hset
      exact ⟨set, hset, .inl rfl⟩
  cases h with
  | message command plain => exact .message command plain
  | packet hset =>
    obtain ⟨old, hold, rfl | rfl⟩ := hsource hset
    · exact .packet hold
    · rw [hpacket]; exact .packet hold
  | setSnapshot hset =>
    obtain ⟨old, hold, rfl | rfl⟩ := hsource hset
    · exact .setSnapshot hold
    · rw [hsnapshot]; exact .setSnapshot hold
  | variableSnapshot hvariable => exact .variableSnapshot hvariable

theorem Exposes.of_clearChanged {data : DataId}
    (h : (owner.clearChanged data).Exposes object now parcel) :
    owner.Exposes object now parcel := by
  cases data with
  | ofSet sid =>
    have hmodified : (owner.modifySet sid fun set => set.withChanged false).Exposes object now
      parcel := h
    exact hmodified.of_modifySet (fun _ _ _ => rfl) fun _ _ _ => rfl
  | ofVariable own =>
    cases h with
    | message command plain => exact .message command plain
    | packet hset => exact .packet hset
    | setSnapshot hset => exact .setSnapshot hset
    | @variableSnapshot id accessor hvariable =>
      by_cases hsame : id = own
      · subst hsame
        rw [clearChanged, variableOf?_modifyVariable] at hvariable
        obtain ⟨old, hold, rfl⟩ := Option.map_eq_some_iff.mp hvariable
        have hexposed : owner.Exposes object now (.variableSnapshot ⟨object, id⟩ old now) :=
          .variableSnapshot hold
        exact hexposed
      · rw [clearChanged, variableOf?_modifyVariable_of_ne owner hsame] at hvariable
        exact .variableSnapshot hvariable

end

theorem getData_ofSet {owner : Owner} {sid : Sid} {data : OwnedData}
    (h : owner.getData (.ofSet sid) = .ok data) :
    ∃ set, owner.set? sid = some set ∧ data = .ofSet sid set := by
  cases hset : owner.set? sid with
  | none => simp [getData, getSet, hset, Except.map] at h
  | some set =>
    refine ⟨set, rfl, ?_⟩
    simpa [getData, getSet, hset, Except.map] using h.symm

theorem getData_ofVariable {owner : Owner} {id : LocalPoolId} {data : OwnedData}
    (h : owner.getData (.ofVariable id) = .ok data) :
    ∃ accessor, owner.variableOf? id = some accessor ∧ data = .ofVariable id accessor := by
  cases hvariable : owner.variableOf? id with
  | none => simp [getData, getVariable, hvariable, Except.map] at h
  | some accessor =>
    refine ⟨accessor, rfl, ?_⟩
    simpa [getData, getVariable, hvariable, Except.map] using h.symm

end Owner

namespace HkManager

variable (manager : HkManager)

/-- Where the news of a change go that a receiver is to get, and what they are. -/
def announcement? (now : CdsTime) (delivery : Delivery) (data : OwnedData)
    (destination : QueueId) : Option (Except PoolError QueueId × Parcel) :=
  match delivery, data with
  | .periodicPacket _, _ | .updatePacket _, .ofVariable _ _ => none
  | .updatePacket sid, .ofSet _ set => some (manager.resolve destination, .packet sid set .big)
  | .notice _, .ofSet sid _ => some (.ok destination, .message (.setChanged sid) rfl)
  | .notice _, .ofVariable id _ =>
    some (.ok destination, .message (.variableChanged ⟨manager.owner, id⟩) rfl)
  | .snapshot _, .ofSet sid set => some (.ok destination, .setSnapshot sid set now)
  | .snapshot _, .ofVariable id accessor =>
    some (.ok destination, .variableSnapshot ⟨manager.owner, id⟩ accessor now)

theorem exists_announcement {owner : Owner} {delivery : Delivery} {data : OwnedData}
    (hu : delivery.isUpdate) (hd : owner.getData delivery.data = .ok data) (now : CdsTime)
    (destination : QueueId) :
    ∃ route parcel, manager.announcement? now delivery data destination = some (route, parcel) := by
  cases delivery with
  | periodicPacket sid => cases hu
  | updatePacket sid =>
    obtain ⟨set, -, rfl⟩ := Owner.getData_ofSet hd
    exact ⟨_, _, rfl⟩
  | notice id => cases data <;> exact ⟨_, _, rfl⟩
  | snapshot id => cases data <;> exact ⟨_, _, rfl⟩

/-- The news are about what the owner exposes. -/
theorem exposes_of_announcement {owner : Owner} {delivery : Delivery} {data : OwnedData}
    {now : CdsTime} {destination : QueueId} {route : Except PoolError QueueId} {parcel : Parcel}
    (hd : owner.getData delivery.data = .ok data)
    (h : manager.announcement? now delivery data destination = some (route, parcel)) :
    owner.Exposes manager.owner now parcel := by
  cases hdata : delivery.data with
  | ofSet sid =>
    rw [hdata] at hd
    obtain ⟨set, hset, rfl⟩ := Owner.getData_ofSet hd
    cases delivery with
    | periodicPacket own => cases h
    | updatePacket own => cases hdata; cases h; exact .packet hset
    | notice own => cases h; exact .message _ _
    | snapshot own => cases h; exact .setSnapshot hset
  | ofVariable id =>
    rw [hdata] at hd
    obtain ⟨accessor, hvariable, rfl⟩ := Owner.getData_ofVariable hd
    cases delivery with
    | periodicPacket own | updatePacket own => cases h
    | notice own => cases h; exact .message _ _
    | snapshot own => cases h; exact .variableSnapshot hvariable

end HkManager

namespace HkState

variable {services : Services σ} {now : CdsTime}

theorem announce_attempt (services : Services σ) (manager : HkManager) {delivery : Delivery}
    {data : OwnedData} {destination : QueueId} {route : Except PoolError QueueId} {parcel : Parcel}
    (h : manager.announcement? now delivery data destination = some (route, parcel)) (state : σ) :
    Attempt services manager.queue manager.owner route parcel state
      (announce services now manager delivery data destination state).1
      (announce services now manager delivery data destination state).2 := by
  unfold HkManager.announcement? at h
  split at h <;> cases h
  · exact manager.sendPacket_attempt services state _ _ true destination
  · exact manager.send_attempt services state destination _ rfl
  · exact manager.send_attempt services state destination _ rfl
  · exact manager.sendData_attempt services state destination _ _ fun _ => rfl
  · exact manager.sendData_attempt services state destination _ _ fun _ => rfl

/-! ## Passes and requests are made of attempts -/

/-- What is there to send after a receiver was served was there before. -/
theorem exposes_of_serve {now later : CdsTime} {receiver : Receiver} {state : HkState σ}
    {object : ObjectId} {parcel : Parcel}
    (h : (state.serve services now receiver).2.owner.Exposes object later parcel) :
    state.owner.Exposes object later parcel := by
  by_cases hu : receiver.delivery.isUpdate
  · rw [serve_of_isUpdate hu] at h
    cases hd : state.owner.getData receiver.delivery.data with
    | error e => rw [serveUpdate_of_error hd] at h; exact h
    | ok data =>
      cases hc : data.changed with
      | false => rw [serveUpdate_of_unchanged hd hc] at h; exact h
      | true =>
        rw [serveUpdate_of_changed hd hc] at h
        dsimp only at h
        split at h
        · exact .of_clearChanged h
        · exact h
  · cases hdelivery : receiver.delivery with
    | periodicPacket sid =>
      have htimer {timer : CollectionTimer}
          (hmodified : (state.owner.modifySet sid fun set => set.withTimer timer).Exposes object
            later parcel) : state.owner.Exposes object later parcel :=
        .of_modifySet hmodified (fun _ _ _ => rfl) fun _ _ _ => rfl
      simp only [serve, hdelivery, servePeriodic] at h
      split at h
      · exact h
      · split at h
        · exact h
        · split at h
          · exact h
          · split at h <;> exact htimer h
    | _ => simp [hdelivery, Delivery.isUpdate] at hu

/-- What a receiver may get in its turn, and where it goes. -/
inductive Offer (now : CdsTime) (state : HkState σ) (receiver : Receiver) :
    Except PoolError QueueId → Parcel → Prop where
  | packet {sid : Sid} {set : Dataset} (periodic : receiver.delivery = .periodicPacket sid)
    (exposed : state.owner.set? sid = some set) :
    Offer now state receiver (state.manager.resolve receiver.destination) (.packet sid set .big)
  | news {data : OwnedData} {route : Except PoolError QueueId} {parcel : Parcel}
    (exposed : state.owner.getData receiver.delivery.data = .ok data)
    (announced : state.manager.announcement? now receiver.delivery data receiver.destination =
      some (route, parcel)) : Offer now state receiver route parcel

theorem Offer.exposes {state : HkState σ} {receiver : Receiver} {route : Except PoolError QueueId}
    {parcel : Parcel} (h : state.Offer now receiver route parcel) :
    state.owner.Exposes state.manager.owner now parcel := by
  cases h with
  | packet periodic exposed => exact .packet exposed
  | news exposed announced => exact state.manager.exposes_of_announcement exposed announced

/-- A receiver gets what it is offered, or nothing. -/
theorem serve_offer (services : Services σ) (now : CdsTime) (receiver : Receiver)
    (state : HkState σ) :
    (state.serve services now receiver).2.services = state.services ∨
      ∃ route parcel, state.Offer now receiver route parcel ∧
        Attempt services state.manager.queue state.manager.owner route parcel state.services
          (state.serve services now receiver).1 (state.serve services now receiver).2.services := by
  by_cases hu : receiver.delivery.isUpdate
  · rw [serve_of_isUpdate hu]
    cases hdata : state.owner.getData receiver.delivery.data with
    | error e => rw [serveUpdate_of_error hdata]; exact .inl rfl
    | ok data =>
      cases hchanged : data.changed with
      | false => rw [serveUpdate_of_unchanged hdata hchanged]; exact .inl rfl
      | true =>
        obtain ⟨route, parcel, hannounced⟩ :=
          state.manager.exists_announcement hu hdata now receiver.destination
        rw [serveUpdate_of_changed hdata hchanged]
        exact .inr ⟨route, parcel, .news hdata hannounced,
          announce_attempt services state.manager hannounced state.services⟩
  · cases hdelivery : receiver.delivery with
    | periodicPacket sid =>
      simp only [serve, hdelivery, servePeriodic]
      cases hset : state.owner.getSet sid with
      | error e => exact .inl rfl
      | ok set =>
        dsimp only
        split
        · exact .inl rfl
        · split
          · exact .inl rfl
          · split
            · exact .inr ⟨_, _, .packet hdelivery (Owner.set?_of_getSet hset),
                state.manager.sendPacket_attempt services _ sid set true receiver.destination⟩
            · exact .inl rfl
    | _ => simp [hdelivery, Delivery.isUpdate] at hu

variable {P : σ → Prop} {queue : QueueId} {object : ObjectId}

theorem serveAll_services (clock : Nat → CdsTime) (receivers : List Receiver)
    (status : Except PoolError Unit) {state : HkState σ} {owner : Owner}
    (hq : state.manager.queue = queue) (ho : state.manager.owner = object)
    (hexposes : ∀ {now parcel}, state.owner.Exposes object now parcel →
      owner.Exposes object now parcel)
    (hattempt : ∀ {index route parcel before result after},
      owner.Exposes object (clock index) parcel →
        Attempt services queue object route parcel before result after → P before → P after)
    (h : P state.services) : P (serveAll services clock receivers status state).2.services := by
  induction receivers generalizing clock status state with
  | nil => exact h
  | cons receiver rest ih =>
    have hsame := serve_sameTotals services (clock 0) receiver state
    have hnext : P (state.serve services (clock 0) receiver).2.services := by
      rcases serve_offer services (clock 0) receiver state with
        hnothing | ⟨route, parcel, hoffer, ha⟩
      · rw [hnothing]; exact h
      · rw [hq, ho] at ha
        exact hattempt (hexposes (ho ▸ hoffer.exposes)) ha h
    have hlater {now : CdsTime} {parcel : Parcel}
        (hexposed : (state.serve services (clock 0) receiver).2.owner.Exposes object now parcel) :
        owner.Exposes object now parcel := hexposes (exposes_of_serve hexposed)
    unfold serveAll
    dsimp only
    split
    next next hs =>
      rw [hs] at hsame hnext hlater
      exact ih _ status (hsame.queue.trans hq) (hsame.owner.trans ho) hlater hattempt hnext
    next e next hs =>
      rw [hs] at hsame hnext hlater
      exact ih _ (.error e) (hsame.queue.trans hq) (hsame.owner.trans ho) hlater hattempt hnext

/-- What every attempt at a parcel of the owner keeps is kept by a pass. -/
theorem pass_services (clock : Nat → CdsTime) {state : HkState σ}
    (hattempt : ∀ {index route parcel before result after},
      state.owner.Exposes state.manager.owner (clock index) parcel →
        Attempt services state.manager.queue state.manager.owner route parcel before result after →
          P before → P after)
    (h : P state.services) : P (state.pass services clock).2.services :=
  serveAll_services clock state.manager.receivers (.ok ()) rfl rfl id hattempt h

theorem reply_services (message : CommandMessage) (sid : Sid) (result : Except PoolError Unit)
    (state : HkState σ)
    (hattempt : ∀ {route command plain before result after},
      Attempt services state.manager.queue state.manager.owner route (.message command plain)
        before result after → P before → P after)
    (h : P state.services) : P (state.reply services message sid result).2.services := by
  cases result with
  | error e =>
    exact hattempt (state.manager.send_attempt services _ (state.replyTo message)
      (.ofError sid e) rfl) h
  | ok =>
    exact hattempt (state.manager.send_attempt services _ (state.replyTo message)
      (.success sid) rfl) h

theorem applyChange_services (message : CommandMessage) (sid : Sid)
    (change : Except PoolError Owner) {state : HkState σ}
    (hattempt : ∀ {route command plain before result after},
      Attempt services state.manager.queue state.manager.owner route (.message command plain)
        before result after → P before → P after)
    (h : P state.services) : P (state.applyChange services message sid change).2.services := by
  cases change with
  | error e => exact reply_services message sid (.error e) state hattempt h
  | ok owner =>
    exact reply_services message sid (.ok ()) { state with owner } hattempt h

theorem answerReport_services (message : CommandMessage) (sid : Sid)
    {sent : Except PoolError Unit × σ} {state : HkState σ}
    (hattempt : ∀ {route command plain before result after},
      Attempt services state.manager.queue state.manager.owner route (.message command plain)
        before result after → P before → P after)
    (h : P sent.2) : P (state.answerReport services message sid sent).2.services := by
  obtain ⟨e | _, after⟩ := sent
  · exact reply_services message sid (.error e) { state with services := after } hattempt h
  · exact h

/-- What every attempt at an answer keeps is kept by a request. -/
theorem request_services {message : CommandMessage} (hrequest : message.command.isRequest)
    {state : HkState σ}
    (hattempt : ∀ {route parcel before result after},
      state.owner.Answers message.command parcel →
        Attempt services state.manager.queue state.manager.owner route parcel before result after →
          P before → P after)
    (h : P state.services) : P (state.handle services message).2.services := by
  have hreply {route : Except PoolError QueueId} {command : Command}
      {plain : command.store? = none} {before after : σ} {result : Except PoolError Unit} :
      Attempt services state.manager.queue state.manager.owner route (.message command plain)
        before result after → P before → P after := hattempt (.reply command plain)
  obtain ⟨sender, command⟩ := message
  cases command with
  | setReporting => exact applyChange_services _ _ _ hreply h
  | setInterval => exact applyChange_services _ _ _ hreply h
  | requestStructure kind sid =>
    apply answerReport_services _ _ hreply
    cases hs : state.owner.getSetOfKind sid kind with
    | error e => simp only [HkManager.sendStructure, hs]; exact h
    | ok set =>
      exact hattempt (.structure hs) (state.manager.sendStructure_attempt services _ hs _) h
  | requestReport kind sid =>
    apply answerReport_services _ _ hreply
    cases hs : state.owner.getSetOfKind sid kind with
    | error e => simp only [HkManager.sendOnce, hs]; exact h
    | ok set => exact hattempt (.report hs) (state.manager.sendOnce_attempt services _ hs _) h
  | _ => cases hrequest

end HkState

/-- Does the owner give up the snapshot of a notice? Then its manager releases the snapshot. -/
def Owner.releases (owner : Owner) (message : CommandMessage) : Bool :=
  match message.command with
  | .setSnapshot sid store => !owner.keeps (.ofSet sid (some store))
  | .variableSnapshot gpid store => !owner.keeps (.ofVariable gpid (some store))
  | _ => false

namespace HkState

/-- A snapshot that is given up is released, and nothing else happens to the services. -/
theorem handle_of_releases (services : Services σ) {message : CommandMessage} {state : HkState σ}
    (h : state.owner.releases message) :
    (state.handle services message).1 = (services.release message state.services).1 ∧
      (state.handle services message).2.services =
        (services.release message state.services).2 := by
  obtain ⟨sender, command⟩ := message
  cases command with
  | setSnapshot sid store =>
    have hk : state.owner.keeps (.ofSet sid (some store)) = false := by
      simpa [Owner.releases] using h
    simp [handle, forward, hk]
  | variableSnapshot gpid store =>
    have hk : state.owner.keeps (.ofVariable gpid (some store)) = false := by
      simpa [Owner.releases] using h
    simp [handle, forward, hk]
  | _ => cases h

/-- Any other message that is no request leaves the services alone. -/
theorem handle_of_not_releases (services : Services σ) {message : CommandMessage}
    {state : HkState σ} (hrequest : message.command.isRequest = false)
    (h : state.owner.releases message = false) :
    (state.handle services message).2.services = state.services := by
  obtain ⟨sender, command⟩ := message
  cases command with
  | setReporting | setInterval | requestStructure | requestReport => cases hrequest
  | setChanged | variableChanged =>
    simp only [handle, forward]
    split <;> rfl
  | setSnapshot sid store =>
    have hk : state.owner.keeps (.ofSet sid (some store)) = true := by
      simpa [Owner.releases] using h
    simp [handle, forward, hk]
  | variableSnapshot gpid store =>
    have hk : state.owner.keeps (.ofVariable gpid (some store)) = true := by
      simpa [Owner.releases] using h
    simp [handle, forward, hk]
  | _ => rfl

end HkState

end Housekeeper
