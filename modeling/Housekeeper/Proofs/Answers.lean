import Housekeeper.Proofs.Delivery
import Housekeeper.Proofs.Slots

/-!
# Answers to messages

`HkState.Answer` lists the ways in which a request may go, for any services: a set was changed and
success is told, the report that was asked for was sent, or failure is told, perhaps after a report
that failed. With a real store and real queues one can say what comes of it: `Answered` is what
everybody may rely on who sends a request, and `Noticed` is what happens to notices.

A report that cannot be sent is taken out of the store again. Where it had no id of its own
(`PacketStore.Misplaces`), this goes wrong, and nowhere else (`store_of_error`).
-/

namespace Housekeeper

namespace Command

/-- Is the answer to the request a report? -/
def asksReport : Command → Bool
  | requestStructure .. | requestReport .. => true
  | _ => false

/-- The report that was asked for, in an element of the store. -/
def report? (store : StoreId) : Command → Option Command
  | requestStructure kind sid => some (structureReport kind sid store)
  | requestReport kind sid => some (report kind sid store)
  | _ => none

/-- What the owner is told of a message. -/
def notice? : Command → Option ChangeNotice
  | setChanged sid => some (.ofSet sid none)
  | variableChanged gpid => some (.ofVariable gpid none)
  | setSnapshot sid store => some (.ofSet sid (some store))
  | variableSnapshot gpid store => some (.ofVariable gpid (some store))
  | _ => none

theorem exists_sid {command : Command} (h : command.isRequest) :
    ∃ sid, command.sid? = some sid := by
  cases command with
  | setReporting | setInterval | requestStructure | requestReport => exact ⟨_, rfl⟩
  | _ => cases h

/-- Is it a reply to a request, and no report? -/
def isReply : Command → Bool
  | success _ | failure _ _ => true
  | _ => false

end Command

namespace HkState

variable {σ : Type}

/-! ## How a request may go -/

/-- Where the report goes that a message asks for, and the report, if the owner has such a set. -/
def requested? (state : HkState σ) (message : CommandMessage) :
    Option (Except PoolError QueueId × Parcel) :=
  match message.command with
  | .requestStructure kind sid =>
    match state.owner.getSetOfKind sid kind with
    | .ok set =>
      some (state.manager.resolve (state.replyTo message),
        .ofStructure sid kind (HkManager.structureOf set))
    | .error _ => none
  | .requestReport kind sid =>
    match state.owner.getSetOfKind sid kind with
    | .ok set => some (state.manager.resolve (state.reportTo message), .packet sid set .big)
    | .error _ => none
  | _ => none

/-- An attempt of the manager to deliver something. -/
def Tries (services : Services σ) (state : HkState σ) (route : Except PoolError QueueId)
    (parcel : Parcel) (before : σ) (result : Except PoolError Unit) (after : σ) : Prop :=
  Attempt services state.manager.queue state.manager.owner route parcel before result after

/-- The ways in which a request may go, with its result and the state afterwards. -/
inductive Answer (services : Services σ) (state : HkState σ) (message : CommandMessage)
    (sid : Sid) : Except PoolError Unit → HkState σ → Prop
  /-- A set was changed, and success is told. -/
  | changed {owner sent after} (hquiet : message.command.asksReport = false)
    (hreply : state.Tries services (.ok (state.replyTo message)) (.message (.success sid) rfl)
      state.services sent after) :
    Answer services state message sid (.ok ()) ⟨state.manager, owner, after⟩
  /-- The report was sent, and nothing else. -/
  | reported {route parcel after} (hasked : state.requested? message = some (route, parcel))
    (hreport : state.Tries services route parcel state.services (.ok ()) after) :
    Answer services state message sid (.ok ()) ⟨state.manager, state.owner, after⟩
  /-- Nothing was done, and failure is told. -/
  | refused {e sent after} (hnone : state.requested? message = none)
    (hreply : state.Tries services (.ok (state.replyTo message))
      (.message (.ofError sid e) rfl) state.services sent after) :
    Answer services state message sid (.error e) ⟨state.manager, state.owner, after⟩
  /-- The report could not be stored or sent, and failure is told. -/
  | failed {route parcel e mid sent after}
    (hasked : state.requested? message = some (route, parcel))
    (hreport : state.Tries services route parcel state.services (.error e) mid)
    (hreply : state.Tries services (.ok (state.replyTo message))
      (.message (.ofError sid e) rfl) mid sent after) :
    Answer services state message sid (.error e) ⟨state.manager, state.owner, after⟩

variable {services : Services σ} {state : HkState σ} {message : CommandMessage} {sid : Sid}

theorem applyChange_answer (hquiet : message.command.asksReport = false)
    (hnone : state.requested? message = none) (change : Except PoolError Owner) :
    Answer services state message sid (state.applyChange services message sid change).1
      (state.applyChange services message sid change).2 := by
  cases change with
  | error e => exact .refused hnone (state.manager.send_attempt services _ _ _ rfl)
  | ok owner => exact .changed hquiet (state.manager.send_attempt services _ _ _ rfl)

theorem answerReport_answer {route : Except PoolError QueueId} {parcel : Parcel}
    (hasked : state.requested? message = some (route, parcel)) {sent : Except PoolError Unit × σ}
    (hreport : state.Tries services route parcel state.services sent.1 sent.2) :
    Answer services state message sid (state.answerReport services message sid sent).1
      (state.answerReport services message sid sent).2 := by
  obtain ⟨e | _, after⟩ := sent
  · exact .failed hasked hreport (state.manager.send_attempt services _ _ _ rfl)
  · exact .reported hasked hreport

/-- **Every request goes in one of these ways.** -/
theorem handle_answer (services : Services σ) (state : HkState σ)
    (hrequest : message.command.isRequest) (hsid : message.command.sid? = some sid) :
    Answer services state message sid (state.handle services message).1
      (state.handle services message).2 := by
  obtain ⟨sender, command⟩ := message
  cases command with
  | setReporting => cases hsid; exact applyChange_answer rfl rfl _
  | setInterval => cases hsid; exact applyChange_answer rfl rfl _
  | requestStructure kind own =>
    cases hsid
    cases hs : state.owner.getSetOfKind sid kind with
    | error e =>
      have hnone : state.requested? ⟨sender, .requestStructure kind sid⟩ = none := by
        simp only [requested?, hs]
      simp only [handle, HkManager.sendStructure, hs]
      exact .refused hnone (state.manager.send_attempt services _ _ _ rfl)
    | ok set =>
      refine answerReport_answer ?_ (state.manager.sendStructure_attempt services _ hs _)
      simp only [requested?, hs]
  | requestReport kind own =>
    cases hsid
    cases hs : state.owner.getSetOfKind sid kind with
    | error e =>
      have hnone : state.requested? ⟨sender, .requestReport kind sid⟩ = none := by
        simp only [requested?, hs]
      simp only [handle, HkManager.sendOnce, hs]
      exact .refused hnone (state.manager.send_attempt services _ _ _ rfl)
    | ok set =>
      refine answerReport_answer ?_ (state.manager.sendOnce_attempt services _ hs _)
      simp only [requested?, hs]
  | _ => cases hrequest

end HkState

/-! ## The result does not depend on the reply -/

/-- The services differ at most in what becomes of replies. -/
structure Services.SameButReplies {σ : Type} (a b : Services σ) : Prop where
  add : a.add = b.add
  delete : a.delete = b.delete
  record : a.record = b.record
  send : ∀ source destination command state, command.isReply = false →
    a.send source destination command state = b.send source destination command state

namespace HkManager

variable {σ : Type} {a b : Services σ} (h : Services.SameButReplies a b) (manager : HkManager)

include h

theorem sendData_same (destination : QueueId) (data : Except PoolError Bytes)
    {command : StoreId → Command} (hreport : ∀ id, (command id).isReply = false) (state : σ) :
    manager.sendData a destination data command state =
      manager.sendData b destination data command state := by
  have hsend (id : StoreId) (mid : σ) : manager.send a destination (command id) mid =
      manager.send b destination (command id) mid := by
    simp only [send, record, h.record, h.send _ _ _ _ (hreport id)]
  simp only [sendData, sendStored, record, h.add, h.delete, h.record, hsend]

theorem sendStructure_same (owner : Owner) (sid : Sid) (kind : ReportKind) (destination : QueueId)
    (state : σ) :
    manager.sendStructure a owner sid kind destination state =
      manager.sendStructure b owner sid kind destination state := by
  unfold sendStructure
  split
  · rfl
  · dsimp only
    split
    · rfl
    · apply sendData_same h
      intro id; rfl

theorem sendOnce_same (owner : Owner) (sid : Sid) (kind : ReportKind) (destination : QueueId)
    (state : σ) :
    manager.sendOnce a owner sid kind destination state =
      manager.sendOnce b owner sid kind destination state := by
  unfold sendOnce sendPacket
  split
  · rfl
  · split
    · rfl
    · apply sendData_same h
      intro id; rfl

end HkManager

namespace HkState

variable {σ : Type} (services : Services σ) (message : CommandMessage)

/-- What becomes of the reply does not change the result. -/
theorem handle_result_same {a b : Services σ} (h : Services.SameButReplies a b)
    (state : HkState σ) : (state.handle a message).1 = (state.handle b message).1 := by
  obtain ⟨sender, command⟩ := message
  have hforward (notice : ChangeNotice) : (state.forward a ⟨sender, command⟩ notice).1 =
      (state.forward b ⟨sender, command⟩ notice).1 := by
    simp only [forward, Services.release, h.delete]
  cases command with
  | setReporting => simp only [handle, applyChange_result]
  | setInterval => simp only [handle, applyChange_result]
  | requestStructure => simp only [handle, answerReport_result, HkManager.sendStructure_same h]
  | requestReport => simp only [handle, answerReport_result, HkManager.sendOnce_same h]
  | setChanged => exact hforward _
  | variableChanged => exact hforward _
  | setSnapshot => exact hforward _
  | variableSnapshot => exact hforward _
  | _ => rfl

end HkState

/-! ## What comes of an attempt -/

namespace QueueHub

/-- One queue got a message, or none did. -/
def Delivers (before after : QueueHub) : Option (QueueId × CommandMessage) → Prop
  | some (queue, message) => ∀ id, after.pending id =
    if id = queue then before.pending id ++ [message] else before.pending id
  | none => ∀ id, after.pending id = before.pending id

theorem delivers_of_send {before after : QueueHub} {source destination : QueueId}
    {command : Command} (h : before.send source destination command = (.ok (), after)) :
    Delivers before after (some (destination, ⟨source, command⟩)) := by
  intro id
  have hpending := pending_of_send (congrArg Prod.fst h) id
  rw [h] at hpending
  exact hpending

/-- A queue that is alive and has room. -/
def HasRoom (hub : QueueHub) (id : QueueId) : Prop :=
  id ≠ noQueue ∧ ∃ queue, hub.queues.get? id = some queue ∧ queue.pending.length < queue.depth

theorem HasRoom.send_ok {hub : QueueHub} {destination : QueueId} (h : hub.HasRoom destination)
    (source : QueueId) (command : Command) :
    (hub.send source destination command).1 = .ok () := by
  obtain ⟨hreal, queue, hqueue, hroom⟩ := h
  simp only [send, hreal, hqueue, Nat.not_le.mpr hroom, if_false]

end QueueHub

namespace Parcel

/-- A command that may carry the parcel. -/
def Carries (command : Command) : Parcel → Prop
  | message own _ => command = own
  | stored _ own _ => ∃ id, command = own id

/-- The parcel would be stored where no id reaches it. -/
def Misplaced (store : PacketStore) : Parcel → Prop
  | message .. => False
  | stored data _ _ => ∃ bytes, data = .ok bytes ∧ store.Misplaces bytes

end Parcel

namespace Attempt

variable {queue : QueueId} {object : ObjectId} {route : Except PoolError QueueId} {parcel : Parcel}
  {before after : Facilities}

theorem delivers_of_ok
    (h : Attempt Facilities.services queue object route parcel before (.ok ()) after) :
    ∃ destination command, route = .ok destination ∧ parcel.Carries command ∧
      before.hub.Delivers after.hub (some (destination, ⟨queue, command⟩)) := by
  cases h with
  | @sent destination command plain _ _ hsend =>
    obtain ⟨hub, hhub, rfl⟩ := Facilities.of_send hsend
    exact ⟨destination, command, rfl, rfl, QueueHub.delivers_of_send hhub⟩
  | @delivered destination bytes command refers _ id mid _ hadd hsend =>
    obtain ⟨store, hstore, rfl⟩ := Facilities.of_add hadd
    obtain ⟨hub, hhub, rfl⟩ := Facilities.of_send hsend
    exact ⟨destination, command id, rfl, ⟨id, rfl⟩, QueueHub.delivers_of_send hhub⟩

theorem hub_of_error {e : PoolError}
    (h : Attempt Facilities.services queue object route parcel before (.error e) after) :
    after.hub = before.hub := by
  cases h with
  | unroutable | unwritten => rfl
  | @unsent destination command plain _ _ mid hsend =>
    obtain rfl := Facilities.of_send_error hsend
    rfl
  | @unstored destination bytes command refers _ _ mid hadd =>
    obtain ⟨store, hstore, rfl⟩ := Facilities.of_add hadd
    rfl
  | @returned destination bytes command refers _ id stored _ mid hadd hsend =>
    obtain ⟨store, hstore, rfl⟩ := Facilities.of_add hadd
    obtain rfl := Facilities.of_send_error hsend
    rfl

/-- A message that refers to nothing in the store leaves the store alone. -/
theorem store_of_message {command : Command} {plain : command.store? = none}
    {result : Except PoolError Unit}
    (h : Attempt Facilities.services queue object route (.message command plain) before result
      after) : after.store = before.store := by
  cases h with
  | unroutable => rfl
  | @sent destination _ _ _ _ hsend =>
    obtain ⟨hub, hhub, rfl⟩ := Facilities.of_send hsend
    rfl
  | @unsent destination _ _ _ e mid hsend =>
    obtain rfl := Facilities.of_send_error hsend
    rfl

/-- **A failed delivery leaves the store as it was, unless the data had no id of their own.** -/
theorem store_of_error {destination : QueueId} {e : PoolError}
    (h : Attempt Facilities.services queue object (.ok destination) parcel before (.error e)
      after) : after.store = before.store ↔ ¬ parcel.Misplaced before.store := by
  cases h with
  | @unsent _ command plain _ _ mid hsend =>
    obtain rfl := Facilities.of_send_error hsend
    exact ⟨fun _ h => h, fun _ => rfl⟩
  | unwritten =>
    refine ⟨?_, fun _ => rfl⟩
    rintro - ⟨bytes, hbytes, -⟩
    cases hbytes
  | @unstored _ bytes command refers _ _ mid hadd =>
    obtain ⟨store, hstore, rfl⟩ := Facilities.of_add hadd
    obtain rfl := PacketStore.add_of_error hstore
    refine ⟨?_, fun _ => rfl⟩
    rintro - ⟨own, hbytes, page, slot, hplace, -⟩
    cases hbytes
    rw [PacketStore.add_of_place hplace] at hstore
    cases hstore
  | @returned _ bytes command refers _ id stored _ mid hadd hsend =>
    obtain ⟨store, hstore, rfl⟩ := Facilities.of_add hadd
    obtain rfl := Facilities.of_send_error hsend
    show (store.delete id).2 = before.store ↔ _
    constructor
    · rintro hsame ⟨own, hbytes, hmisplaced⟩
      cases hbytes
      exact PacketStore.delete_after_misplaced hstore hmisplaced hsame
    · intro hplaced
      rw [PacketStore.delete_after_add hstore fun h => hplaced ⟨bytes, rfl, h⟩]

/-- If the message about an element cannot be sent, the element is deleted under its id. -/
theorem store_of_unsent {destination : QueueId} {bytes : Bytes} {command : StoreId → Command}
    {refers : ∀ id, (command id).store? = some id} {result : Except PoolError Unit} {id : StoreId}
    {store : PacketStore} {e : PoolError}
    (h : Attempt Facilities.services queue object (.ok destination)
      (.stored (.ok bytes) command refers) before result after)
    (hadd : before.store.add bytes = (.ok id, store))
    (hunsent : (before.hub.send queue destination (command id)).1 = .error e) :
    result = .error e ∧ after.store = (store.delete id).2 := by
  cases h with
  | unstored hown =>
    obtain ⟨own, hstore, -⟩ := Facilities.of_add hown
    rw [hadd] at hstore
    cases hstore
  | delivered hown hsend =>
    obtain ⟨own, hstore, rfl⟩ := Facilities.of_add hown
    obtain ⟨hub, hhub, rfl⟩ := Facilities.of_send hsend
    rw [hadd] at hstore
    cases hstore
    rw [hhub] at hunsent
    cases hunsent
  | returned hown hsend =>
    obtain ⟨own, hstore, rfl⟩ := Facilities.of_add hown
    obtain ⟨hub, hhub, -⟩ := Facilities.of_send hsend
    obtain rfl := Facilities.of_send_error hsend
    rw [hadd] at hstore
    cases hstore
    rw [hhub] at hunsent
    cases hunsent
    exact ⟨rfl, rfl⟩

/-- A message is delivered to its destination or to nobody, and delivered if there is room. -/
theorem delivers_message {destination : QueueId} {command : Command}
    {plain : command.store? = none} {result : Except PoolError Unit}
    (h : Attempt Facilities.services queue object (.ok destination) (.message command plain) before
      result after) :
    ∃ delivered, before.hub.Delivers after.hub delivered ∧
      (∀ arrival, delivered = some arrival → arrival = (destination, ⟨queue, command⟩)) ∧
      (before.hub.HasRoom destination → delivered.isSome) := by
  cases h with
  | sent hsend =>
    obtain ⟨hub, hhub, rfl⟩ := Facilities.of_send hsend
    refine ⟨_, QueueHub.delivers_of_send hhub, ?_, fun _ => rfl⟩
    intro arrival harrival
    exact (Option.some.inj harrival).symm
  | @unsent _ _ _ _ e mid hsend =>
    obtain ⟨hub, hhub, -⟩ := Facilities.of_send hsend
    obtain rfl := Facilities.of_send_error hsend
    refine ⟨none, fun id => rfl, ?_, ?_⟩
    · intro arrival harrival; cases harrival
    · intro hroom
      have hok := hroom.send_ok queue command
      rw [hhub] at hok
      cases hok

end Attempt

/-! ## What a sender of a request may rely on -/

namespace HkState

variable {state : HkState Facilities} {message : CommandMessage} {sid : Sid}

/-- The report that is asked for would be stored where no id reaches it. -/
def Misplaces (state : HkState Facilities) (message : CommandMessage) : Prop :=
  ∃ destination parcel, state.requested? message = some (.ok destination, parcel) ∧
    parcel.Misplaced state.services.store

/-- What was asked for is a report of the set that was asked about, and no reply. -/
theorem carries_report {route : Except PoolError QueueId} {parcel : Parcel} {command : Command}
    (hasked : state.requested? message = some (route, parcel)) (hcarries : parcel.Carries command) :
    ∃ store, message.command.report? store = some command ∧ command.isReply = false := by
  obtain ⟨sender, request⟩ := message
  cases request with
  | requestStructure kind own =>
    cases hs : state.owner.getSetOfKind own kind with
    | error e => simp [requested?, hs] at hasked
    | ok set =>
      simp only [requested?, hs] at hasked
      cases hasked
      obtain ⟨store, rfl⟩ := hcarries
      exact ⟨store, rfl, rfl⟩
  | requestReport kind own =>
    cases hs : state.owner.getSetOfKind own kind with
    | error e => simp [requested?, hs] at hasked
    | ok set =>
      simp only [requested?, hs] at hasked
      cases hasked
      obtain ⟨store, rfl⟩ := hcarries
      obtain ⟨-, rfl⟩ := Owner.getSetOfKind_eq_ok hs
      exact ⟨store, rfl, rfl⟩
  | _ => cases hasked

/-- What comes of a request, with the message that was delivered, if any. -/
structure Answered (state : HkState Facilities) (message : CommandMessage) (sid : Sid)
    (result : Except PoolError Unit) (after : HkState Facilities)
    (delivered : Option (QueueId × CommandMessage)) : Prop where
  course : state.Answer Facilities.services message sid result after
  /-- At most one message is delivered by the whole call. -/
  delivers : state.services.hub.Delivers after.services.hub delivered
  /-- One is, if the sender can take it. -/
  answered : state.services.hub.HasRoom (state.replyTo message) → delivered.isSome
  success : ∀ queue sender own, delivered = some (queue, ⟨sender, .success own⟩) →
    queue = state.replyTo message ∧ own = sid ∧ result = .ok ()
  failure : ∀ queue sender own code, delivered = some (queue, ⟨sender, .failure own code⟩) →
    queue = state.replyTo message ∧ own = sid ∧
      ∃ e, PoolError.ofCode? code = some e ∧ result = .error e
  /-- A report that was asked for is the whole answer. -/
  report : message.command.asksReport → result = .ok () →
    ∃ destination parcel store command,
      state.requested? message = some (.ok destination, parcel) ∧ parcel.Carries command ∧
      message.command.report? store = some command ∧
      delivered = some (destination, ⟨state.manager.queue, command⟩)

theorem answered_of_reply {result : Except PoolError Unit} {after : HkState Facilities}
    {mid : Facilities} {sent : Except PoolError Unit} {command : Command}
    {plain : command.store? = none}
    (hcourse : state.Answer Facilities.services message sid result after)
    (hreply : state.Tries Facilities.services (.ok (state.replyTo message))
      (.message command plain) mid sent after.services)
    (hmid : mid.hub = state.services.hub)
    (hsuccess : ∀ own, command = .success own → own = sid ∧ result = .ok ())
    (hfailure : ∀ own code, command = .failure own code →
      own = sid ∧ ∃ e, PoolError.ofCode? code = some e ∧ result = .error e)
    (hreport : message.command.asksReport → result ≠ .ok ()) :
    ∃ delivered, state.Answered message sid result after delivered := by
  obtain ⟨delivered, hdelivers, honly, hroom⟩ := Attempt.delivers_message hreply
  rw [hmid] at hdelivers hroom
  refine ⟨delivered, hcourse, hdelivers, hroom, ?_, ?_, ?_⟩
  · intro queue sender own hd
    have heq := honly _ hd
    cases heq
    exact ⟨rfl, hsuccess own rfl⟩
  · intro queue sender own code hd
    have heq := honly _ hd
    cases heq
    exact ⟨rfl, hfailure own code rfl⟩
  · intro hasks hok
    exact absurd hok (hreport hasks)

/-- What follows from the way in which a request went. -/
theorem Answer.answered {result : Except PoolError Unit} {after : HkState Facilities}
    (h : state.Answer Facilities.services message sid result after) :
    ∃ delivered, state.Answered message sid result after delivered := by
  have hofError (e : PoolError) (own : Sid) (code : UInt16)
      (hc : Command.ofError sid e = .failure own code) :
      own = sid ∧ ∃ e', PoolError.ofCode? code = some e' ∧
        (.error e : Except PoolError Unit) = .error e' := by
    cases hc
    exact ⟨rfl, e, PoolError.ofCode?_code e, rfl⟩
  have hcourse := h
  cases h with
  | changed hquiet hreply =>
    refine answered_of_reply hcourse hreply rfl ?_ ?_ ?_
    · intro own hc; cases hc; exact ⟨rfl, rfl⟩
    · intro own code hc; cases hc
    · intro hasks; rw [hquiet] at hasks; cases hasks
  | @refused e sent after hnone hreply =>
    refine answered_of_reply hcourse hreply rfl ?_ (hofError e) ?_
    · intro own hc; cases hc
    · intro _ hok; cases hok
  | @failed route parcel e mid sent after hasked hreport hreply =>
    refine answered_of_reply hcourse hreply hreport.hub_of_error ?_ (hofError e) ?_
    · intro own hc; cases hc
    · intro _ hok; cases hok
  | @reported route parcel after hasked hreport =>
    obtain ⟨destination, command, rfl, hcarries, hdelivers⟩ := hreport.delivers_of_ok
    obtain ⟨store, hstore, hnoReply⟩ := carries_report hasked hcarries
    refine ⟨_, hcourse, hdelivers, fun _ => rfl, ?_, ?_, ?_⟩
    · intro queue sender own hd; cases hd; cases hnoReply
    · intro queue sender own code hd; cases hd; cases hnoReply
    · intro _ _
      exact ⟨destination, parcel, store, command, hasked, hcarries, hstore, rfl⟩

/-- A request that fails leaves the store as it was, unless its report had no id of its own. -/
theorem Answer.store_of_error {e : PoolError} {after : HkState Facilities}
    (h : state.Answer Facilities.services message sid (.error e) after) :
    after.owner = state.owner ∧
      (after.services.store = state.services.store ↔ ¬ state.Misplaces message) := by
  cases h with
  | refused hnone hreply =>
    refine ⟨rfl, fun _ => ?_, fun _ => hreply.store_of_message⟩
    rintro ⟨destination, parcel, hasked, -⟩
    rw [hnone] at hasked
    cases hasked
  | @failed route parcel _ mid sent after hasked hreport hreply =>
    refine ⟨rfl, ?_⟩
    show after.store = _ ↔ _
    rw [hreply.store_of_message]
    cases route with
    | error e' =>
      cases hreport
      refine ⟨fun _ => ?_, fun _ => rfl⟩
      rintro ⟨destination, own, hown, -⟩
      rw [hasked] at hown
      cases hown
    | ok destination =>
      rw [hreport.store_of_error]
      constructor
      · rintro hplaced ⟨destination', own, hown, hmisplaced⟩
        rw [hasked] at hown
        cases hown
        exact hplaced hmisplaced
      · intro hplaced hmisplaced
        exact hplaced ⟨destination, parcel, hasked, hmisplaced⟩

theorem asksReport_of_requested {request : Except PoolError QueueId × Parcel}
    (h : state.requested? message = some request) : message.command.asksReport := by
  obtain ⟨sender, command⟩ := message
  cases command with
  | requestStructure | requestReport => rfl
  | _ => cases h

/-- What is left of a report that was stored and cannot be sent. -/
theorem Answer.store_of_unsent {result : Except PoolError Unit} {after : HkState Facilities}
    {destination : QueueId} {bytes : Bytes} {command : StoreId → Command}
    {refers : ∀ id, (command id).store? = some id} {id : StoreId} {store : PacketStore}
    {e : PoolError}
    (h : state.Answer Facilities.services message sid result after)
    (hasked : state.requested? message =
      some (.ok destination, .stored (.ok bytes) command refers))
    (hadd : state.services.store.add bytes = (.ok id, store))
    (hunsent : (state.services.hub.send state.manager.queue destination (command id)).1 =
      .error e) : result = .error e ∧ after.services.store = (store.delete id).2 := by
  cases h with
  | changed hquiet =>
    rw [asksReport_of_requested hasked] at hquiet
    cases hquiet
  | refused hnone => rw [hasked] at hnone; cases hnone
  | reported hown hreport =>
    rw [hasked] at hown
    cases hown
    obtain ⟨herror, -⟩ := hreport.store_of_unsent hadd hunsent
    cases herror
  | failed hown hreport hreply =>
    rw [hasked] at hown
    cases hown
    obtain ⟨herror, hstore⟩ := hreport.store_of_unsent hadd hunsent
    exact ⟨herror, hreply.store_of_message.trans hstore⟩

/-! ## Notices -/

/-- What comes of a notice: the owner is told once, and a snapshot that it gives up is released. -/
structure Noticed (state : HkState Facilities) (message : CommandMessage) (notice : ChangeNotice)
    (result : Except PoolError Unit) (after : HkState Facilities) : Prop where
  manager_eq : after.manager = state.manager
  owner_eq : after.owner = state.owner.tell notice
  /-- Nothing is sent. -/
  services_eq : after.services = { state.services with store := after.services.store }
  released : ∀ store, message.command.store? = some store → state.owner.keeps notice = false →
    (result, after.services.store) = state.services.store.delete store
  kept : message.command.store? = none ∨ state.owner.keeps notice = true →
    result = .ok () ∧ after.services.store = state.services.store

theorem forward_noticed {notice : ChangeNotice} :
    state.Noticed message notice (state.forward Facilities.services message notice).1
      (state.forward Facilities.services message notice).2 := by
  cases hk : state.owner.keeps notice with
  | true =>
    simp only [forward, hk, if_true]
    refine ⟨rfl, rfl, rfl, ?_, fun _ => ⟨rfl, rfl⟩⟩
    intro store _ hnot
    rw [hk] at hnot
    cases hnot
  | false =>
    simp only [forward, hk, Bool.false_eq_true, if_false]
    cases hs : message.command.store? with
    | none =>
      simp only [Services.release, hs]
      refine ⟨rfl, rfl, rfl, ?_, fun _ => ⟨rfl, rfl⟩⟩
      intro store hstore
      rw [hs] at hstore
      cases hstore
    | some store =>
      simp only [Services.release, hs]
      refine ⟨rfl, rfl, rfl, ?_, ?_⟩
      · intro other hother _
        rw [hs] at hother
        cases hother
        rfl
      · rintro (hnone | hkept)
        · rw [hs] at hnone; cases hnone
        · rw [hk] at hkept; cases hkept

theorem handle_noticed (state : HkState Facilities) {notice : ChangeNotice}
    (h : message.command.notice? = some notice) :
    state.Noticed message notice (state.handle Facilities.services message).1
      (state.handle Facilities.services message).2 := by
  obtain ⟨sender, command⟩ := message
  cases command <;> cases h <;> exact forward_noticed

theorem Noticed.store_of_error {notice : ChangeNotice} {e : PoolError}
    {after : HkState Facilities} (h : state.Noticed message notice (.error e) after) :
    after.services.store = state.services.store := by
  cases hs : message.command.store? with
  | none =>
    have hok := (h.kept (.inl hs)).1
    cases hok
  | some store =>
    cases hk : state.owner.keeps notice with
    | true =>
      have hok := (h.kept (.inr hk)).1
      cases hok
    | false =>
      have hdelete := h.released store hs hk
      unfold PacketStore.delete at hdelete
      split at hdelete
      · cases hdelete
      · exact congrArg Prod.snd hdelete

theorem handle_of_other (state : HkState Facilities) (hrequest : message.command.isRequest = false)
    (hnotice : message.command.notice? = none) :
    state.handle Facilities.services message = (.error .unknownCommand, state) := by
  obtain ⟨sender, command⟩ := message
  cases command with
  | setReporting | setInterval | requestStructure | requestReport => cases hrequest
  | setChanged | variableChanged | setSnapshot | variableSnapshot => cases hnotice
  | _ => rfl

/-! ## All messages -/

/-- A message that is handled in vain leaves the owner's data alone, and the store as well, unless a
report was asked for that has no id of its own. -/
theorem handle_of_error {e : PoolError}
    (he : (state.handle Facilities.services message).1 = .error e) :
    (state.handle Facilities.services message).2.owner.sets = state.owner.sets ∧
      (state.handle Facilities.services message).2.owner.accessors = state.owner.accessors ∧
      ((state.handle Facilities.services message).2.services.store = state.services.store ↔
        ¬ state.Misplaces message) := by
  cases hrequest : message.command.isRequest with
  | true =>
    obtain ⟨own, hsid⟩ := Command.exists_sid hrequest
    have hanswer := handle_answer Facilities.services state hrequest hsid
    rw [he] at hanswer
    obtain ⟨howner, hstore⟩ := hanswer.store_of_error
    exact ⟨by rw [howner], by rw [howner], hstore⟩
  | false =>
    have hnone : state.requested? message = none := by
      obtain ⟨sender, command⟩ := message
      cases command with
      | setReporting | setInterval | requestStructure | requestReport => cases hrequest
      | _ => rfl
    have hplaced : ¬ state.Misplaces message := by
      rintro ⟨destination, parcel, hasked, -⟩
      rw [hnone] at hasked
      cases hasked
    cases hnotice : message.command.notice? with
    | none =>
      rw [handle_of_other state hrequest hnotice]
      exact ⟨rfl, rfl, fun _ => hplaced, fun _ => rfl⟩
    | some notice =>
      have hnoticed := handle_noticed state hnotice
      rw [he] at hnoticed
      rw [hnoticed.owner_eq]
      exact ⟨rfl, rfl, fun _ => hplaced, fun _ => hnoticed.store_of_error⟩

/-- **What a manager does with a message, whatever it is and whatever fails.** -/
theorem handle_keeps_protocol (state : HkState Facilities) (message : CommandMessage) :
    let result := (state.handle Facilities.services message).1
    let after := (state.handle Facilities.services message).2
    (∀ sid, message.command.isRequest → message.command.sid? = some sid →
        ∃ delivered, state.Answered message sid result after delivered) ∧
      (∀ notice, message.command.notice? = some notice →
        state.Noticed message notice result after) ∧
      (message.command.isRequest = false → message.command.notice? = none →
        result = .error .unknownCommand ∧ after = state) ∧
      (∀ services, Services.SameButReplies services Facilities.services →
        (state.handle services message).1 = result) ∧
      ∀ e, result = .error e →
        after.owner.sets = state.owner.sets ∧ after.owner.accessors = state.owner.accessors ∧
          (after.services.store = state.services.store ↔ ¬ state.Misplaces message) := by
  intro result after
  refine ⟨?_, fun notice h => handle_noticed state h, ?_, ?_, ?_⟩
  · intro sid hrequest hsid
    exact (handle_answer Facilities.services state hrequest hsid).answered
  · intro hrequest hnotice
    have hother := handle_of_other state hrequest hnotice
    exact ⟨congrArg Prod.fst hother, congrArg Prod.snd hother⟩
  · intro services hsame
    exact handle_result_same message hsame state
  · intro e he
    exact handle_of_error he

/-- **A report that cannot be sent may cost somebody else's data**, in a store with more pages than
there are page numbers. -/
theorem failed_report_deletes_another :
    ∃ (state : HkState Facilities) (message : CommandMessage) (e : PoolError),
      (state.handle Facilities.services message).1 = .error e ∧
      state.services.store.get? ⟨0, 0⟩ = some [1] ∧
      (state.handle Facilities.services message).2.services.store.get? ⟨0, 0⟩ = none := by
  let full : List StorePage := ⟨4, #[some [1]]⟩ :: List.replicate 65535 ⟨4, #[]⟩
  let store : PacketStore := ⟨full ++ [⟨64, #[none]⟩]⟩
  let manager := (HkManager.create .empty 7 1 none {}).1
  let set := Dataset.consumer manager.pool ⟨7, 1⟩ 2
  let owner : Owner := ⟨200, [(⟨7, 1⟩, set)], [], fun _ => false, []⟩
  let state : HkState Facilities := ⟨manager, owner, ⟨store, .empty, .empty⟩⟩
  let message : CommandMessage := ⟨999, .requestStructure .regular ⟨7, 1⟩⟩
  let report : Bytes := [0, 0, 0, 7, 0, 0, 0, 1, 0, 0, 0, 0, 0, 0, 0, 0]
  have hreport : (HkManager.structureOf set).toBytes .big = .ok report := by cbv
  have hlength : full.length = 65536 := by
    rw [List.length_cons, List.length_replicate]
  have hadd : store.add report = (.ok ⟨0, 0⟩, store.setSlot 65536 0 (some report)) := by
    have hplace : store.place? report = some (full.length, 0) := by
      apply PacketStore.place?_append ?_ rfl (by simp [StorePage.freeSlot?])
      intro page hmem hfits
      have hsize : page.elementSize = 4 := by
        rcases List.mem_cons.mp hmem with rfl | hmem
        · rfl
        · rw [List.eq_of_mem_replicate hmem]
      simp [StorePage.fits, hsize, report] at hfits
    rw [PacketStore.add_of_place hplace, hlength]
    rfl
  have hasked : state.requested? message =
      some (.ok 999,
        .stored (.ok report) (Command.structureReport .regular ⟨7, 1⟩) fun _ => rfl) := by
    have hset : state.requested? message =
        some (.ok 999, .ofStructure ⟨7, 1⟩ .regular (HkManager.structureOf set)) := rfl
    rw [hset]
    simp only [Parcel.ofStructure, hreport]
  have hrequest : message.command.isRequest := rfl
  obtain ⟨herror, hstore⟩ :=
    (handle_answer Facilities.services state hrequest rfl).store_of_unsent hasked hadd rfl
  have hlast : store.pages[65536]? = some ⟨64, #[none]⟩ := by
    rw [← hlength]
    exact List.getElem?_concat_length
  have hlive : (store.setSlot 65536 0 (some report)).get? ⟨0, 0⟩ = some [1] := by
    rw [PacketStore.get?_setSlot hlast Nat.one_pos]
    rfl
  refine ⟨state, message, _, herror, rfl, ?_⟩
  have hfirst : (store.setSlot 65536 0 (some report)).pages[0]? = some ⟨4, #[some [1]]⟩ := rfl
  rw [hstore, PacketStore.delete_of_live hlive]
  exact PacketStore.get?_setSlot hfirst Nat.one_pos none ⟨0, 0⟩

end HkState

end Housekeeper
