import Housekeeper.Proofs.Custody
import Housekeeper.Proofs.ErrorHistory

/-!
# Failures are recorded

Every failed call of store or queues leaves its records in the error log, and nothing else does.
`ServiceCall.failures` says what is recorded of one call, and `Accounts` that the log has grown by
the failures among the calls since. Every delivery attempt accounts for itself, however it ends
(`Accounts.attempt`), and so do passes, reports and messages that are handled
(`Operation.accounts`). What is given up before anything is called leaves no record:
`HkManager.packetData` and `HkManager.structureData` say what has to be there first.
-/

namespace Housekeeper

variable {σ : Type}

namespace ServiceCall

/-- What is recorded of a call on behalf of an object. -/
def failures (object : ObjectId) : ServiceCall → List Failure
  | add _ (.error e) => [⟨.storeHit, object, e⟩]
  | send _ _ command (.error e) =>
    ⟨.queueHit, object, e⟩ ::
      if command.store?.isSome then [⟨.lostTelemetry, object, e⟩] else []
  | _ => []

end ServiceCall

namespace Services

/-- The services have an error log, and write to it what they are told to record. -/
structure LogsTo (services : Services σ) (log : σ → ErrorLog) : Prop where
  add : ∀ data state, log (services.add data state).2 = log state
  delete : ∀ id state, log (services.delete id state).2 = log state
  send : ∀ own destination command state,
    log (services.send own destination command state).2 = log state
  record : ∀ kind object error state,
    log (services.record kind object error state) = (log state).call (.record ⟨kind, object, error⟩)

namespace LogsTo

variable {services : Services σ} {log : σ → ErrorLog} {before after : σ}

theorem of_add (logs : services.LogsTo log) {data : Bytes} {result : Except PoolError StoreId}
    (hadd : services.add data before = (result, after)) : log after = log before := by
  have hlog := logs.add data before
  rwa [hadd] at hlog

theorem of_send (logs : services.LogsTo log) {own destination : QueueId} {command : Command}
    {result : Except PoolError Unit}
    (hsend : services.send own destination command before = (result, after)) :
    log after = log before := by
  have hlog := logs.send own destination command before
  rwa [hsend] at hlog

end LogsTo

end Services

theorem Facilities.services_logsTo : Services.LogsTo services Facilities.log :=
  ⟨fun _ _ => rfl, fun _ _ => rfl, fun _ _ _ _ => rfl, fun _ _ _ _ => rfl⟩

/-- The failures among the calls since, and nothing else, were recorded on behalf of an object. -/
def Accounts (log : σ → ErrorLog) (object : ObjectId) (before after : Traced σ) : Prop :=
  ∃ calls, after.calls = before.calls ++ calls ∧
    log after.state = (log before.state).run
      ((calls.flatMap (ServiceCall.failures object)).map LogCall.record)

namespace Accounts

variable {services : Services σ} {log : σ → ErrorLog} {object : ObjectId}
  {before mid after : Traced σ}

theorem refl (before : Traced σ) : Accounts log object before before :=
  ⟨[], (List.append_nil _).symm, rfl⟩

theorem trans (first : Accounts log object before mid) (second : Accounts log object mid after) :
    Accounts log object before after := by
  obtain ⟨calls, hcalls, hlog⟩ := first
  obtain ⟨more, hmore, hlast⟩ := second
  refine ⟨calls ++ more, ?_, ?_⟩
  · rw [hmore, hcalls, List.append_assoc]
  · rw [hlast, hlog, List.flatMap_append, List.map_append, ErrorLog.run, ErrorLog.run, ErrorLog.run,
      List.foldl_append]

theorem of_call {call : ServiceCall} (hcalls : after.calls = before.calls ++ [call])
    (hlog : log after.state =
      (log before.state).run ((call.failures object).map LogCall.record)) :
    Accounts log object before after :=
  ⟨[call], hcalls, by rw [List.flatMap_singleton]; exact hlog⟩

section

variable (logs : services.LogsTo log) (object : ObjectId)

include logs

theorem add_ok {bytes : Bytes} {id : StoreId}
    (hadd : services.traced.add bytes before = (.ok id, after)) :
    Accounts log object before after := by
  obtain ⟨state, hown, rfl⟩ := Services.of_traced_add hadd
  exact of_call rfl (logs.of_add hown)

theorem add_error {bytes : Bytes} {e : PoolError}
    (hadd : services.traced.add bytes before = (.error e, after)) :
    Accounts log object before (services.traced.record .storeHit object e after) := by
  obtain ⟨state, hown, rfl⟩ := Services.of_traced_add hadd
  refine of_call rfl ?_
  show log (services.record .storeHit object e state) = _
  rw [logs.record, logs.of_add hown]
  rfl

theorem send_ok {own destination : QueueId} {command : Command}
    (hsend : services.traced.send own destination command before = (.ok (), after)) :
    Accounts log object before after := by
  obtain ⟨state, hown, rfl⟩ := Services.of_traced_send hsend
  exact of_call rfl (logs.of_send hown)

/-- A message that refers to nothing in the store leaves one record when it cannot be sent. -/
theorem send_error {own destination : QueueId} {command : Command} {e : PoolError}
    (plain : command.store? = none)
    (hsend : services.traced.send own destination command before = (.error e, after)) :
    Accounts log object before (services.traced.record .queueHit object e after) := by
  obtain ⟨state, hown, rfl⟩ := Services.of_traced_send hsend
  refine of_call rfl ?_
  show log (services.record .queueHit object e state) = _
  rw [logs.record, logs.of_send hown, ServiceCall.failures, plain]
  rfl

/-- One that refers to an element leaves a second record, after the element was released. -/
theorem send_stored_error {own destination : QueueId} {command : Command} {id : StoreId}
    {e : PoolError} (refers : command.store? = some id)
    (hsend : services.traced.send own destination command before = (.error e, after)) :
    Accounts log object before
      (services.traced.record .lostTelemetry object e
        (services.traced.delete id (services.traced.record .queueHit object e after)).2) := by
  obtain ⟨state, hown, rfl⟩ := Services.of_traced_send hsend
  let released := (services.delete id (services.record .queueHit object e state)).1
  refine ⟨[.send own destination command (.error e), .delete id released], ?_, ?_⟩
  · exact List.append_assoc ..
  · show log (services.record .lostTelemetry object e
      (services.delete id (services.record .queueHit object e state)).2) = _
    rw [logs.record, logs.delete, logs.record, logs.of_send hown]
    simp only [List.flatMap_cons, ServiceCall.failures, refers]
    rfl

theorem delete (before : Traced σ) (id : StoreId) :
    Accounts log object before (services.traced.delete id before).2 :=
  of_call rfl (logs.delete id before.state)

end

/-- **However a delivery ends, its failures are recorded.** -/
theorem attempt (logs : services.LogsTo log) {queue : QueueId} {route : Except PoolError QueueId}
    {parcel : Parcel} {result : Except PoolError Unit}
    (ha : Attempt services.traced queue object route parcel before result after) :
    Accounts log object before after := by
  cases ha with
  | unroutable | unwritten => exact .refl before
  | sent hsend => exact send_ok logs object hsend
  | @unsent _ _ plain _ _ _ hsend => exact send_error logs object plain hsend
  | unstored hadd => exact add_error logs object hadd
  | delivered hadd hsend => exact (add_ok logs object hadd).trans (send_ok logs object hsend)
  | @returned _ _ _ refers _ id _ _ _ hadd hsend =>
    exact (add_ok logs object hadd).trans (send_stored_error logs object (refers id) hsend)

end Accounts

/-! ## Whatever a manager does -/

namespace Operation

/-- On whose behalf a manager does it. -/
def object? : Operation → Option ObjectId
  | pass manager .. | sendPacket manager .. | sendStructure manager .. | handle manager .. =>
    some manager.owner
  | send .. | release .. => none

variable {services : Services σ} {log : σ → ErrorLog} {object : ObjectId}

theorem accounts (logs : services.LogsTo log) {operation : Operation}
    (h : operation.object? = some object) (before : Traced σ) :
    Accounts log object before (operation.run services.traced before) := by
  have hattempt {queue : QueueId} {route : Except PoolError QueueId} {parcel : Parcel}
      {mid after : Traced σ} {result : Except PoolError Unit}
      (ha : Attempt services.traced queue object route parcel mid result after)
      (hmid : Accounts log object before mid) : Accounts log object before after :=
    hmid.trans (Accounts.attempt logs ha)
  cases operation with
  | pass manager owner clock =>
    cases h
    have hpass : Accounts log manager.owner before
        ((HkState.mk manager owner before).pass services.traced clock).2.services :=
      HkState.pass_services clock (fun _ => hattempt) (.refl before)
    exact hpass
  | sendPacket manager sid set forDownlink destination =>
    cases h
    exact Accounts.attempt logs
      (manager.sendPacket_attempt services.traced before sid set forDownlink destination)
  | sendStructure manager owner sid kind destination =>
    cases h
    cases hs : owner.getSetOfKind sid kind with
    | error e => simp only [run, HkManager.sendStructure, hs]; exact .refl before
    | ok set =>
      exact Accounts.attempt logs
        (manager.sendStructure_attempt services.traced before hs destination)
  | handle manager owner message =>
    cases h
    let state : HkState (Traced σ) := ⟨manager, owner, before⟩
    show Accounts log manager.owner before (state.handle services.traced message).2.services
    cases hrequest : message.command.isRequest with
    | true => exact HkState.request_services hrequest (fun _ => hattempt) (.refl before)
    | false =>
      cases hreleases : state.owner.releases message with
      | true =>
        rw [(HkState.handle_of_releases services.traced hreleases).2, Services.release]
        split
        · exact Accounts.delete logs _ before _
        · exact .refl before
      | false =>
        rw [HkState.handle_of_not_releases services.traced hrequest hreleases]
        exact .refl before
  | send | release => cases h

end Operation

/-! ## What is given up before anything is called -/

namespace HkManager

variable (manager : HkManager)

/-- Where a full packet goes, and its bytes. -/
def packetData (sid : Sid) (set : Dataset) (forDownlink : Bool) (destination : QueueId) :
    Except PoolError (QueueId × Bytes) := do
  let queue ← manager.resolve destination
  let bytes ← (HkPacket.mk sid set).toBytes (packetOrder forDownlink)
  return (queue, bytes)

/-- The same for one packet of a set that is reported as the given kind. -/
def onceData (owner : Owner) (sid : Sid) (kind : ReportKind) (destination : QueueId) :
    Except PoolError (QueueId × Bytes) := do
  let set ← owner.getSetOfKind sid kind
  manager.packetData sid set true destination

/-- The same for its structure report. -/
def structureData (owner : Owner) (sid : Sid) (kind : ReportKind) (destination : QueueId) :
    Except PoolError (QueueId × Bytes) := do
  let set ← owner.getSetOfKind sid kind
  let queue ← manager.resolve destination
  let bytes ← (structureOf set).toBytes .big
  return (queue, bytes)

variable (services : Services σ) (sid : Sid) (destination : QueueId) (state : σ)

theorem sendPacket_eq (set : Dataset) (forDownlink : Bool) :
    manager.sendPacket services sid set forDownlink destination state =
      match manager.packetData sid set forDownlink destination with
      | .error e => (.error e, state)
      | .ok (queue, bytes) =>
        manager.sendData services queue (.ok bytes) (Command.report set.kind sid) state := by
  simp only [sendPacket, packetData, bind, Except.bind]
  cases hr : manager.resolve destination with
  | error e => rfl
  | ok queue =>
    dsimp only
    cases hb : (HkPacket.mk sid set).toBytes (packetOrder forDownlink) <;> rfl

theorem sendOnce_of_error {owner : Owner} {kind : ReportKind} {e : PoolError}
    (h : manager.onceData owner sid kind destination = .error e) :
    manager.sendOnce services owner sid kind destination state = (.error e, state) := by
  simp only [onceData, bind, Except.bind] at h
  unfold sendOnce
  cases hs : owner.getSetOfKind sid kind with
  | error own =>
    rw [hs] at h
    cases h
    rfl
  | ok set =>
    rw [hs] at h
    simp only [sendPacket_eq, h]

theorem sendStructure_eq (owner : Owner) (kind : ReportKind) :
    manager.sendStructure services owner sid kind destination state =
      match manager.structureData owner sid kind destination with
      | .error e => (.error e, state)
      | .ok (queue, bytes) =>
        manager.sendData services queue (.ok bytes) (Command.structureReport kind sid) state := by
  simp only [sendStructure, structureData, bind, Except.bind]
  cases hs : owner.getSetOfKind sid kind with
  | error e => rfl
  | ok set =>
    dsimp only
    cases hr : manager.resolve destination with
    | error e => rfl
    | ok queue =>
      show manager.sendData services queue ((structureOf set).toBytes .big) _ state = _
      dsimp only
      cases hb : (structureOf set).toBytes .big <;> rfl

/-- Sending a plain message is one call. -/
theorem calls_send (manager : HkManager) (services : Services σ) (destination : QueueId)
    (command : Command) (before : Traced σ) :
    (manager.send services.traced destination command before).2.calls =
      before.calls ++ [.send manager.queue destination command
        (services.send manager.queue destination command before.state).1] := by
  rcases hsend : services.send manager.queue destination command before.state with ⟨e | _, state⟩
  · simp only [send, record, Services.traced, hsend]
  · simp only [send, Services.traced, hsend]

end HkManager

namespace HkState

/-- A request that is given up before anything is called, and why. -/
inductive Refuses (state : HkState σ) (sender : QueueId) : Command → Sid → PoolError → Prop
  | reporting {kind enabled sid e} (h : state.owner.setReporting sid enabled kind = .error e) :
    Refuses state sender (.setReporting kind enabled sid) sid e
  | interval {kind sid seconds e} (h : state.owner.setInterval sid seconds kind = .error e) :
    Refuses state sender (.setInterval kind sid seconds) sid e
  | structureReport {kind sid e}
    (h : state.manager.structureData state.owner sid kind
      (state.replyTo ⟨sender, .requestStructure kind sid⟩) = .error e) :
    Refuses state sender (.requestStructure kind sid) sid e
  | report {kind sid e}
    (h : state.manager.onceData state.owner sid kind
      (state.reportTo ⟨sender, .requestReport kind sid⟩) = .error e) :
    Refuses state sender (.requestReport kind sid) sid e

theorem Refuses.handle_eq {state : HkState σ} {message : CommandMessage} {sid : Sid}
    {e : PoolError} (h : state.Refuses message.sender message.command sid e)
    (services : Services σ) :
    state.handle services message = state.reply services message sid (.error e) := by
  obtain ⟨sender, command⟩ := message
  cases h with
  | reporting h => simp only [handle, h]; rfl
  | interval h => simp only [handle, h]; rfl
  | structureReport h => simp only [handle, HkManager.sendStructure_eq, h]; rfl
  | report h => simp only [handle, HkManager.sendOnce_of_error _ services _ _ _ h]; rfl

/-- That it was refused is told to the sender, and nothing else is called. -/
theorem Refuses.calls_eq {state : HkState σ} {message : CommandMessage} {sid : Sid}
    {e : PoolError} (h : state.Refuses message.sender message.command sid e)
    (services : Services σ) :
    (state.handle services message).1 = .error e ∧
      (Operation.handle state.manager state.owner message).calls services state.services =
        [.send state.manager.queue (state.replyTo message) (.ofError sid e)
          (services.send state.manager.queue (state.replyTo message) (.ofError sid e)
            state.services).1] := by
  let traced : HkState (Traced σ) := ⟨state.manager, state.owner, ⟨state.services, []⟩⟩
  have htraced : traced.Refuses message.sender message.command sid e := by
    obtain ⟨sender, command⟩ := message
    cases h with
    | reporting h => exact .reporting h
    | interval h => exact .interval h
    | structureReport h => exact .structureReport h
    | report h => exact .report h
  refine ⟨by rw [h.handle_eq services]; rfl, ?_⟩
  show (traced.handle services.traced message).2.services.calls = _
  rw [htraced.handle_eq services.traced]
  exact state.manager.calls_send services (state.replyTo message) (.ofError sid e)
    ⟨state.services, []⟩

/-- A receiver whose turn ends before anything is called. -/
inductive Skipped (state : HkState σ) (receiver : Receiver) : Prop
  /-- The owner has no such set or variable. -/
  | missing {e} (h : state.owner.getData receiver.delivery.data = .error e) : Skipped state receiver
  | untimed {sid set} (periodic : receiver.delivery = .periodicPacket sid)
    (exposed : state.owner.getSet sid = .ok set) (h : set.timer = none) : Skipped state receiver
  /-- There is no destination, or the packet cannot be written. -/
  | unsendable {sid set e}
    (packets : receiver.delivery = .periodicPacket sid ∨ receiver.delivery = .updatePacket sid)
    (exposed : state.owner.getSet sid = .ok set)
    (h : state.manager.packetData sid set true receiver.destination = .error e) :
    Skipped state receiver

theorem servePeriodic_of_unsendable (services : Services σ) {state : HkState σ} {sid : Sid}
    {set : Dataset} {destination : QueueId} {e : PoolError}
    (exposed : state.owner.getSet sid = .ok set)
    (h : state.manager.packetData sid set true destination = .error e) :
    (state.servePeriodic services sid destination).2.services = state.services := by
  simp only [servePeriodic, exposed, HkManager.sendPacket_eq, h]
  split
  · rfl
  · split
    · rfl
    · split <;> rfl

theorem Skipped.services_eq {state : HkState σ} {receiver : Receiver} (h : state.Skipped receiver)
    (services : Services σ) (now : CdsTime) :
    (state.serve services now receiver).2.services = state.services := by
  obtain ⟨object, delivery, destination⟩ := receiver
  cases h with
  | @missing e h =>
    cases delivery with
    | periodicPacket sid =>
      cases hs : state.owner.getSet sid with
      | error own => simp only [serve, servePeriodic, hs]
      | ok set => simp [Delivery.data, Owner.getData, hs, Except.map] at h
    | _ => rw [serve_of_isUpdate rfl, serveUpdate_of_error h]
  | untimed periodic exposed h =>
    cases periodic
    simp only [serve, servePeriodic, exposed, h]
    split <;> rfl
  | @unsendable sid set e packets exposed h =>
    obtain rfl | rfl := packets
    · exact servePeriodic_of_unsendable services exposed h
    · rw [serve_of_isUpdate rfl]
      have hdata : state.owner.getData (.ofSet sid) = .ok (.ofSet sid set) :=
        congrArg (Except.map (OwnedData.ofSet sid)) exposed
      cases hc : (OwnedData.ofSet sid set).changed with
      | false => rw [serveUpdate_of_unchanged hdata hc]
      | true =>
        rw [serveUpdate_of_changed hdata hc]
        simp only [announce, HkManager.sendPacket_eq, h]

end HkState

/-! ## Nothing is recorded of what succeeds -/

section

variable {services : Services σ} {log : σ → ErrorLog} (logs : services.LogsTo log)

include logs

theorem Attempt.log_of_ok {queue : QueueId} {object : ObjectId} {route : Except PoolError QueueId}
    {parcel : Parcel} {before after : σ}
    (ha : Attempt services queue object route parcel before (.ok ()) after) :
    log after = log before := by
  cases ha with
  | sent hsend => exact logs.of_send hsend
  | delivered hadd hsend => exact (logs.of_send hsend).trans (logs.of_add hadd)

namespace HkManager

variable (manager : HkManager) (sid : Sid) (destination : QueueId) (before : σ)

theorem sendPacket_log_of_ok {set : Dataset} {forDownlink : Bool}
    (h : (manager.sendPacket services sid set forDownlink destination before).1 = .ok ()) :
    log (manager.sendPacket services sid set forDownlink destination before).2 = log before := by
  have ha := manager.sendPacket_attempt services before sid set forDownlink destination
  rw [h] at ha
  exact ha.log_of_ok logs

theorem sendStructure_log_of_ok {owner : Owner} {kind : ReportKind}
    (h : (manager.sendStructure services owner sid kind destination before).1 = .ok ()) :
    log (manager.sendStructure services owner sid kind destination before).2 = log before := by
  cases hs : owner.getSetOfKind sid kind with
  | error e => simp [sendStructure, hs] at h
  | ok set =>
    have ha := manager.sendStructure_attempt services before hs destination
    rw [h] at ha
    exact ha.log_of_ok logs

theorem sendOnce_log_of_ok {owner : Owner} {kind : ReportKind}
    (h : (manager.sendOnce services owner sid kind destination before).1 = .ok ()) :
    log (manager.sendOnce services owner sid kind destination before).2 = log before := by
  cases hs : owner.getSetOfKind sid kind with
  | error e => simp [sendOnce, hs] at h
  | ok set =>
    have ha := manager.sendOnce_attempt services before hs destination
    rw [h] at ha
    exact ha.log_of_ok logs

end HkManager

namespace HkState

variable {now : CdsTime}

theorem serve_log_of_ok {receiver : Receiver} {state : HkState σ}
    (h : (state.serve services now receiver).1 = .ok ()) :
    log (state.serve services now receiver).2.services = log state.services := by
  rcases serve_offer services now receiver state with hnothing | ⟨route, parcel, -, hattempt⟩
  · rw [hnothing]
  · rw [h] at hattempt
    exact hattempt.log_of_ok logs

/-- A pass whose result is success had no failure before, and in none of its turns. -/
theorem serveAll_log_of_ok {clock : Nat → CdsTime} {receivers : List Receiver}
    {status : Except PoolError Unit} {state : HkState σ}
    (h : (serveAll services clock receivers status state).1 = .ok ()) :
    status = .ok () ∧
      log (serveAll services clock receivers status state).2.services = log state.services := by
  induction receivers generalizing clock status state with
  | nil => exact ⟨h, rfl⟩
  | cons receiver rest ih =>
    have hserve (hok : (state.serve services (clock 0) receiver).1 = .ok ()) :
        log (state.serve services (clock 0) receiver).2.services = log state.services :=
      serve_log_of_ok logs hok
    unfold serveAll at h ⊢
    dsimp only at h ⊢
    rcases hs : state.serve services (clock 0) receiver with ⟨e | _, next⟩
    · rw [hs] at h
      cases (ih h).1
    · rw [hs] at h hserve
      exact ⟨(ih h).1, (ih h).2.trans (hserve rfl)⟩

/-- A request was fulfilled: its log is as before, unless the sender cannot be told. -/
theorem reply_log_of_ok (message : CommandMessage) (sid : Sid) (state : HkState σ) :
    log (state.reply services message sid (.ok ())).2.services = log state.services ∨
      ∃ e, (services.send state.manager.queue (state.replyTo message) (.success sid)
        state.services).1 = .error e := by
  rcases hsend : services.send state.manager.queue (state.replyTo message) (.success sid)
    state.services with ⟨e | _, after⟩
  · exact .inr ⟨e, rfl⟩
  · refine .inl ?_
    simp only [reply, HkManager.send, hsend]
    exact logs.of_send hsend

theorem handle_log_of_ok {message : CommandMessage} {state : HkState σ}
    (h : (state.handle services message).1 = .ok ()) :
    log (state.handle services message).2.services = log state.services ∨
      ∃ sid e, (services.send state.manager.queue (state.replyTo message) (.success sid)
        state.services).1 = .error e := by
  have hchange {sid : Sid} {change : Except PoolError Owner}
      (hok : (state.applyChange services message sid change).1 = .ok ()) :
      log (state.applyChange services message sid change).2.services = log state.services ∨
        ∃ sid e, (services.send state.manager.queue (state.replyTo message) (.success sid)
          state.services).1 = .error e := by
    cases change with
    | error e => cases hok
    | ok owner =>
      have hreply := reply_log_of_ok logs message sid { state with owner }
      exact hreply.imp_right fun hsend => ⟨sid, hsend⟩
  have hreport {sid : Sid} {sent : Except PoolError Unit × σ}
      (hsent : sent.1 = .ok () → log sent.2 = log state.services)
      (hok : (state.answerReport services message sid sent).1 = .ok ()) :
      log (state.answerReport services message sid sent).2.services = log state.services := by
    obtain ⟨e | _, after⟩ := sent
    · cases hok
    · exact hsent rfl
  cases hrequest : message.command.isRequest with
  | true =>
    obtain ⟨sender, command⟩ := message
    cases command with
    | setReporting | setInterval => exact hchange h
    | requestStructure kind sid =>
      exact .inl (hreport (state.manager.sendStructure_log_of_ok logs sid _ _) h)
    | requestReport kind sid =>
      exact .inl (hreport (state.manager.sendOnce_log_of_ok logs sid _ _) h)
    | _ => cases hrequest
  | false =>
    cases hreleases : state.owner.releases message with
    | true =>
      rw [(handle_of_releases services hreleases).2, Services.release]
      split
      · exact .inl (logs.delete _ _)
      · exact .inl rfl
    | false => rw [handle_of_not_releases services hrequest hreleases]; exact .inl rfl

end HkState

/-- What the log of these services shows of the work of a manager. -/
structure RecordsFailures (services : Services σ) (log : σ → ErrorLog) : Prop where
  /-- The log receives the failures among the calls of every pass, packet, structure report and
  message, in their order and on behalf of the owner. -/
  recorded : ∀ (operation : Operation) object before, operation.object? = some object →
    log (operation.run services before) =
      (log before).run (((operation.calls services before).flatMap
        (ServiceCall.failures object)).map LogCall.record)
  pass_ok : ∀ (state : HkState σ) clock, (state.pass services clock).1 = .ok () →
    log (state.pass services clock).2.services = log state.services
  packet_ok : ∀ (manager : HkManager) sid set forDownlink destination before,
    (manager.sendPacket services sid set forDownlink destination before).1 = .ok () →
      log (manager.sendPacket services sid set forDownlink destination before).2 = log before
  structure_ok : ∀ (manager : HkManager) owner sid kind destination before,
    (manager.sendStructure services owner sid kind destination before).1 = .ok () →
      log (manager.sendStructure services owner sid kind destination before).2 = log before
  /-- That a request succeeded may be impossible to tell. -/
  handle_ok : ∀ (state : HkState σ) message, (state.handle services message).1 = .ok () →
    log (state.handle services message).2.services = log state.services ∨
      ∃ sid e, (services.send state.manager.queue (state.replyTo message) (.success sid)
        state.services).1 = .error e
  skipped : ∀ (state : HkState σ) receiver now, state.Skipped receiver →
    (state.serve services now receiver).2.services = state.services
  /-- A packet without a destination or that cannot be written is given up before any call. -/
  packet_given_up : ∀ (manager : HkManager) sid set forDownlink destination e before,
    manager.packetData sid set forDownlink destination = .error e →
      manager.sendPacket services sid set forDownlink destination before = (.error e, before)
  /-- So is the report of a set that is missing, of the wrong kind or too large. -/
  structure_given_up : ∀ (manager : HkManager) owner sid kind destination e before,
    manager.structureData owner sid kind destination = .error e →
      manager.sendStructure services owner sid kind destination before = (.error e, before)
  /-- Of a request that is refused the sender is told, and that is all. -/
  refused : ∀ (state : HkState σ) message sid e,
    state.Refuses message.sender message.command sid e →
      (state.handle services message).1 = .error e ∧
      (Operation.handle state.manager state.owner message).calls services state.services =
        [.send state.manager.queue (state.replyTo message) (.ofError sid e)
          (services.send state.manager.queue (state.replyTo message) (.ofError sid e)
            state.services).1]

/-- **Failures are recorded, each in its place, and nothing else is.** What succeeds leaves no
record, and whatever is missing, of the wrong kind, without a destination or too large is given up
before anything is called that could fail. -/
theorem failures_recorded : RecordsFailures services log where
  recorded operation object before hobject := by
    obtain ⟨calls, hcalls, hlog⟩ := operation.accounts logs hobject ⟨before, []⟩
    have hsame := operation.run_map (Services.traced_respects services) ⟨before, []⟩
    rw [show operation.calls services before = calls from hcalls, ← hlog, ← hsame]
  pass_ok _ _ h := (HkState.serveAll_log_of_ok logs h).2
  packet_ok manager sid _ _ destination before h :=
    manager.sendPacket_log_of_ok logs sid destination before h
  structure_ok manager _ sid _ destination before h :=
    manager.sendStructure_log_of_ok logs sid destination before h
  handle_ok state _ h := state.handle_log_of_ok logs h
  skipped _ _ now h := h.services_eq services now
  packet_given_up manager _ _ _ _ _ _ h := by rw [HkManager.sendPacket_eq, h]
  structure_given_up manager _ _ _ _ _ _ h := by rw [HkManager.sendStructure_eq, h]
  refused _ _ _ _ h := h.calls_eq services

end

/-- A structure report for a queue that is gone is released, and the sender cannot be told. -/
theorem lostReport_failures_recorded :
    let manager := (HkManager.create .empty 7 1 none {}).1
    let owner : Owner :=
      ⟨1000, [(⟨7, 1⟩, .consumer manager.pool ⟨7, 1⟩ 0)], [], fun _ => false, []⟩
    let request : Operation := .handle manager owner ⟨9, .requestStructure .regular ⟨7, 1⟩⟩
    (request.run Facilities.services (.ofConfig ⟨[⟨1, 64⟩]⟩)).log.history =
      [⟨1, .queueHit, 7, PoolError.queueOrDestinationInvalid.code⟩,
       ⟨2, .lostTelemetry, 7, PoolError.queueOrDestinationInvalid.code⟩,
       ⟨3, .queueHit, 7, PoolError.queueOrDestinationInvalid.code⟩] := by
  intro manager owner request
  rw [(failures_recorded Facilities.services_logsTo).recorded request 7 _ rfl]
  decide +kernel

end Housekeeper
