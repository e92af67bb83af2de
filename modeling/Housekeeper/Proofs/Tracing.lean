import Housekeeper.Manager.Process
import Housekeeper.Proofs.Delivery

/-!
# Traced services

`Services.traced` writes down what is asked of the services, and with which result. That this does
not change what happens is a special case of a general fact: a map between two services that
respects their operations (`Services.Respects`) is respected by whatever a manager does with them
(`pass_map`, `handle_map`, `process_map`).
-/

namespace Housekeeper

inductive ServiceCall where
  | add (data : Bytes) (result : Except PoolError StoreId)
  | delete (id : StoreId) (result : Except PoolError Unit)
  | send (source destination : QueueId) (command : Command) (result : Except PoolError Unit)

/-- The state of services with the calls so far, the oldest first. -/
structure Traced (σ : Type) where
  state : σ
  calls : List ServiceCall

variable {σ τ : Type}

namespace Services

def traced (services : Services σ) : Services (Traced σ) where
  add data before :=
    let (result, after) := services.add data before.state
    (result, ⟨after, before.calls ++ [.add data result]⟩)
  delete id before :=
    let (result, after) := services.delete id before.state
    (result, ⟨after, before.calls ++ [.delete id result]⟩)
  send source destination command before :=
    let (result, after) := services.send source destination command before.state
    (result, ⟨after, before.calls ++ [.send source destination command result]⟩)
  record kind object error before := ⟨services.record kind object error before.state, before.calls⟩

/-- A map of states that respects all operations. -/
structure Respects (f : σ → τ) (source : Services σ) (target : Services τ) : Prop where
  add : ∀ data state, target.add data (f state) = Prod.map id f (source.add data state)
  delete : ∀ store state, target.delete store (f state) = Prod.map id f (source.delete store state)
  send : ∀ own destination command state,
    target.send own destination command (f state) =
      Prod.map id f (source.send own destination command state)
  record : ∀ kind object error state,
    target.record kind object error (f state) = f (source.record kind object error state)

/-- Writing down the calls changes nothing else. -/
theorem traced_respects (services : Services σ) :
    Respects Traced.state services.traced services :=
  ⟨fun _ _ => rfl, fun _ _ => rfl, fun _ _ _ _ => rfl, fun _ _ _ _ => rfl⟩

section

variable {services : Services σ} {before after : Traced σ}

theorem of_traced_add {data : Bytes} {result : Except PoolError StoreId}
    (h : services.traced.add data before = (result, after)) :
    ∃ state, services.add data before.state = (result, state) ∧
      after = ⟨state, before.calls ++ [.add data result]⟩ := by
  rcases hadd : services.add data before.state with ⟨own, state⟩
  simp only [traced, hadd] at h
  cases h
  exact ⟨state, rfl, rfl⟩

theorem of_traced_send {own destination : QueueId} {command : Command}
    {result : Except PoolError Unit}
    (h : services.traced.send own destination command before = (result, after)) :
    ∃ state, services.send own destination command before.state = (result, state) ∧
      after = ⟨state, before.calls ++ [.send own destination command result]⟩ := by
  rcases hsend : services.send own destination command before.state with ⟨other, state⟩
  simp only [traced, hsend] at h
  cases h
  exact ⟨state, rfl, rfl⟩

end

end Services

/-! ## Stations -/

namespace Station

/-- Messages that are received are not written down. -/
def traced (station : Station σ) : Station (Traced σ) where
  toServices := station.toServices.traced
  facilities before := station.facilities before.state
  receive own before :=
    let (message, after) := station.receive own before.state
    (message, ⟨after, before.calls⟩)

structure Respects (f : σ → τ) (source : Station σ) (target : Station τ) : Prop extends
    Services.Respects f source.toServices target.toServices where
  facilities : ∀ state, target.facilities (f state) = source.facilities state
  receive : ∀ own state, target.receive own (f state) = Prod.map id f (source.receive own state)

theorem traced_respects (station : Station σ) : Respects Traced.state station.traced station :=
  ⟨Services.traced_respects station.toServices, fun _ => rfl, fun _ _ => rfl⟩

end Station

variable {f : σ → τ} {source : Services σ} {target : Services τ}

namespace HkManager

variable (h : Services.Respects f source target) (manager : HkManager)

include h

theorem send_map (destination : QueueId) (command : Command) (state : σ) :
    manager.send target destination command (f state) =
      Prod.map id f (manager.send source destination command state) := by
  unfold send record
  rw [h.send]
  rcases source.send manager.queue destination command state with ⟨_ | _, mid⟩
  · simp [h.record]
  · rfl

theorem sendStored_map (destination : QueueId) (command : Command) (store : StoreId) (state : σ) :
    manager.sendStored target destination command store (f state) =
      Prod.map id f (manager.sendStored source destination command store state) := by
  unfold sendStored record
  rw [send_map h]
  rcases manager.send source destination command state with ⟨_ | _, mid⟩
  · simp [h.record, h.delete]
  · rfl

theorem sendData_map (destination : QueueId) (data : Except PoolError Bytes)
    (command : StoreId → Command) (state : σ) :
    manager.sendData target destination data command (f state) =
      Prod.map id f (manager.sendData source destination data command state) := by
  cases data with
  | error e => rfl
  | ok bytes =>
    simp only [sendData, h.add]
    rcases source.add bytes state with ⟨_ | id, mid⟩
    · simp [record, h.record]
    · exact sendStored_map h ..

theorem sendPacket_map (sid : Sid) (set : Dataset) (forDownlink : Bool) (destination : QueueId)
    (state : σ) :
    manager.sendPacket target sid set forDownlink destination (f state) =
      Prod.map id f (manager.sendPacket source sid set forDownlink destination state) := by
  unfold sendPacket
  split
  · rfl
  · exact sendData_map h ..

theorem sendStructure_map (owner : Owner) (sid : Sid) (kind : ReportKind) (destination : QueueId)
    (state : σ) :
    manager.sendStructure target owner sid kind destination (f state) =
      Prod.map id f (manager.sendStructure source owner sid kind destination state) := by
  unfold sendStructure
  split
  · rfl
  · dsimp only
    split
    · rfl
    · exact sendData_map h ..

theorem sendOnce_map (owner : Owner) (sid : Sid) (kind : ReportKind) (destination : QueueId)
    (state : σ) :
    manager.sendOnce target owner sid kind destination (f state) =
      Prod.map id f (manager.sendOnce source owner sid kind destination state) := by
  unfold sendOnce
  split
  · rfl
  · exact sendPacket_map h ..

end HkManager

namespace HkState

/-- The same manager and owner on other services. -/
def map (f : σ → τ) (state : HkState σ) : HkState τ :=
  ⟨state.manager, state.owner, f state.services⟩

variable (h : Services.Respects f source target)

include h

/-! ## Passes -/

theorem servePeriodic_map (sid : Sid) (destination : QueueId) (state : HkState σ) :
    (state.map f).servePeriodic target sid destination =
      Prod.map id (map f) (state.servePeriodic source sid destination) := by
  simp only [servePeriodic, map]
  split
  · rfl
  · split
    · rfl
    · split
      · rfl
      · split
        · rw [HkManager.sendPacket_map h]; rfl
        · rfl

theorem announce_map (now : CdsTime) (manager : HkManager) (delivery : Delivery) (data : OwnedData)
    (destination : QueueId) (state : σ) :
    announce target now manager delivery data destination (f state) =
      Prod.map id f (announce source now manager delivery data destination state) := by
  unfold announce
  split
  · rfl
  · rfl
  · exact HkManager.sendPacket_map h ..
  · exact HkManager.send_map h ..
  · exact HkManager.send_map h ..
  · exact HkManager.sendData_map h ..
  · exact HkManager.sendData_map h ..

theorem serveUpdate_map (now : CdsTime) (delivery : Delivery) (destination : QueueId)
    (state : HkState σ) :
    (state.map f).serveUpdate target now delivery destination =
      Prod.map id (map f) (state.serveUpdate source now delivery destination) := by
  simp only [serveUpdate, map]
  split
  · rfl
  · split
    · rw [announce_map h]; rfl
    · rfl

theorem serve_map (now : CdsTime) (receiver : Receiver) (state : HkState σ) :
    (state.map f).serve target now receiver =
      Prod.map id (map f) (state.serve source now receiver) := by
  unfold serve
  split
  · exact servePeriodic_map h ..
  · exact serveUpdate_map h ..

theorem serveAll_map (clock : Nat → CdsTime) (receivers : List Receiver)
    (status : Except PoolError Unit) (state : HkState σ) :
    serveAll target clock receivers status (state.map f) =
      Prod.map id (map f) (serveAll source clock receivers status state) := by
  induction receivers generalizing clock status state with
  | nil => rfl
  | cons receiver rest ih =>
    unfold serveAll
    rw [serve_map h]
    rcases state.serve source (clock 0) receiver with ⟨e | _, next⟩
    · exact ih ..
    · exact ih ..

/-- A pass does the same on both services. -/
theorem pass_map (clock : Nat → CdsTime) (state : HkState σ) :
    (state.map f).pass target clock = Prod.map id (map f) (state.pass source clock) := by
  unfold pass
  have hall := serveAll_map h clock state.manager.receivers (.ok ()) state
  rw [show (state.map f).manager.receivers = state.manager.receivers from rfl, hall]
  rfl

/-! ## Messages -/

variable (message : CommandMessage)

theorem reply_map (sid : Sid) (result : Except PoolError Unit) (state : HkState σ) :
    (state.map f).reply target message sid result =
      Prod.map id (map f) (state.reply source message sid result) := by
  simp only [reply, map]
  rw [HkManager.send_map h]
  rfl

theorem applyChange_map (sid : Sid) (change : Except PoolError Owner) (state : HkState σ) :
    (state.map f).applyChange target message sid change =
      Prod.map id (map f) (state.applyChange source message sid change) := by
  cases change with
  | error e => exact reply_map h ..
  | ok owner => exact reply_map h message sid (.ok ()) { state with owner }

theorem answerReport_map (sid : Sid) (sent : Except PoolError Unit × σ) (state : HkState σ) :
    (state.map f).answerReport target message sid (Prod.map id f sent) =
      Prod.map id (map f) (state.answerReport source message sid sent) := by
  obtain ⟨e | _, after⟩ := sent
  · exact reply_map h message sid (.error e) { state with services := after }
  · rfl

theorem release_map (state : σ) :
    target.release message (f state) = Prod.map id f (source.release message state) := by
  unfold Services.release
  split
  · exact h.delete ..
  · rfl

theorem forward_map (notice : ChangeNotice) (state : HkState σ) :
    (state.map f).forward target message notice =
      Prod.map id (map f) (state.forward source message notice) := by
  cases hk : state.owner.keeps notice with
  | true => simp [forward, map, hk]
  | false =>
    simp only [forward, map, hk, Bool.false_eq_true, if_false, release_map h]
    rfl

/-- A message is handled in the same way on both services. -/
theorem handle_map (state : HkState σ) :
    (state.map f).handle target message = Prod.map id (map f) (state.handle source message) := by
  obtain ⟨sender, command⟩ := message
  cases command with
  | setReporting => exact applyChange_map h ..
  | setInterval => exact applyChange_map h ..
  | requestStructure kind sid =>
    have hsent := HkManager.sendStructure_map h state.manager state.owner sid kind
      (state.replyTo ⟨sender, .requestStructure kind sid⟩) state.services
    simp only [handle]
    rw [← answerReport_map h, ← hsent]
    rfl
  | requestReport kind sid =>
    have hsent := HkManager.sendOnce_map h state.manager state.owner sid kind
      (state.reportTo ⟨sender, .requestReport kind sid⟩) state.services
    simp only [handle]
    rw [← answerReport_map h, ← hsent]
    rfl
  | setChanged sid => exact forward_map h ⟨sender, .setChanged sid⟩ (.ofSet sid none) state
  | variableChanged gpid =>
    exact forward_map h ⟨sender, .variableChanged gpid⟩ (.ofVariable gpid none) state
  | setSnapshot sid store =>
    exact forward_map h ⟨sender, .setSnapshot sid store⟩ (.ofSet sid (some store)) state
  | variableSnapshot gpid store =>
    exact forward_map h ⟨sender, .variableSnapshot gpid store⟩ (.ofVariable gpid (some store)) state
  | _ => rfl

omit h in
theorem processUpTo_map {source : Station σ} {target : Station τ}
    (h : Station.Respects f source target) (steps : Nat) (state : HkState σ) :
    (state.map f).processUpTo target steps =
      Prod.map id (map f) (state.processUpTo source steps) := by
  induction steps generalizing state with
  | zero => rfl
  | succ steps ih =>
    obtain ⟨manager, owner, before⟩ := state
    simp only [processUpTo, map, h.receive manager.queue before]
    rcases source.receive manager.queue before with ⟨_ | message, after⟩
    · rfl
    · have hhandle : (HkState.mk manager owner (f after)).handle target.toServices message =
          Prod.map id (map f) ((HkState.mk manager owner after).handle source.toServices message) :=
        handle_map h.toRespects message ⟨manager, owner, after⟩
      simp only [Prod.map_apply, id_eq, hhandle]
      rcases (HkState.mk manager owner after).handle source.toServices message with ⟨result, next⟩
      simp only [Prod.map_apply, id_eq, ih]
      rfl

omit h in
/-- Processing does the same at both stations. -/
theorem process_map {source : Station σ} {target : Station τ}
    (h : Station.Respects f source target) (state : HkState σ) :
    (state.map f).process target = Prod.map id (map f) (state.process source) := by
  rw [process, process, show (state.map f).services = f state.services from rfl, h.facilities]
  exact processUpTo_map h ..

end HkState

end Housekeeper
