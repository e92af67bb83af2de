import Housekeeper.Proofs.Tracing

/-!
# What is put into the store, and why

`Operation` is what somebody does with the services, and `Operation.Sends` says which parcels it may
bring on their way: packets, snapshots and structure reports of the data that the owner exposes as
the operation begins. `Consigned` is a list of calls in which every element is added for one of
these parcels and the very next call is to send the message about it. The calls of every operation
are such a list (`Operation.consigned_calls`). So a log of operations with their calls tells for
every message which operation sent it, and what its bytes are (`SentWith.sentBy`).
-/

namespace Housekeeper

variable {σ τ : Type}

/-- What somebody does with the services. Managers and owners are arbitrary, as their states do not
matter for the store. -/
inductive Operation where
  | pass (manager : HkManager) (owner : Owner) (clock : Nat → CdsTime)
  | sendPacket (manager : HkManager) (sid : Sid) (set : Dataset) (forDownlink : Bool)
    (destination : QueueId)
  | sendStructure (manager : HkManager) (owner : Owner) (sid : Sid) (kind : ReportKind)
    (destination : QueueId)
  /-- Anybody sends a message. -/
  | send (source destination : QueueId) (command : Command)
  | handle (manager : HkManager) (owner : Owner) (message : CommandMessage)
  /-- Who received a message releases its data. -/
  | release (message : CommandMessage)

namespace Operation

def run (services : Services σ) (operation : Operation) (state : σ) : σ :=
  match operation with
  | pass manager owner clock => ((HkState.mk manager owner state).pass services clock).2.services
  | sendPacket manager sid set forDownlink destination =>
    (manager.sendPacket services sid set forDownlink destination state).2
  | sendStructure manager owner sid kind destination =>
    (manager.sendStructure services owner sid kind destination state).2
  | send source destination command => (services.send source destination command state).2
  | handle manager owner message =>
    ((HkState.mk manager owner state).handle services message).2.services
  | release message => (services.release message state).2

theorem run_map {f : σ → τ} {source : Services σ} {target : Services τ}
    (h : Services.Respects f source target) (operation : Operation) (state : σ) :
    operation.run target (f state) = f (operation.run source state) := by
  cases operation with
  | pass manager owner clock =>
    exact congrArg (fun result => result.2.services)
      (HkState.pass_map h clock ⟨manager, owner, state⟩)
  | sendPacket manager sid set forDownlink destination =>
    exact congrArg Prod.snd (manager.sendPacket_map h sid set forDownlink destination state)
  | sendStructure manager owner sid kind destination =>
    exact congrArg Prod.snd (manager.sendStructure_map h owner sid kind destination state)
  | send own destination command => exact congrArg Prod.snd (h.send own destination command state)
  | handle manager owner message =>
    exact congrArg (fun result => result.2.services)
      (HkState.handle_map h message ⟨manager, owner, state⟩)
  | release message => exact congrArg Prod.snd (HkState.release_map h message state)

/-- What is called in the course of an operation, with the results. -/
def calls (services : Services σ) (operation : Operation) (state : σ) : List ServiceCall :=
  (operation.run services.traced ⟨state, []⟩).calls

/-- The calls come after those that were made before. -/
theorem run_traced (services : Services σ) (operation : Operation) (before : Traced σ) :
    operation.run services.traced before =
      ⟨operation.run services before.state,
        before.calls ++ operation.calls services before.state⟩ := by
  let f (traced : Traced σ) : Traced σ := ⟨traced.state, before.calls ++ traced.calls⟩
  have hf : Services.Respects f services.traced services.traced := by
    constructor <;> intros <;> simp [f, Services.traced]
  have hstart : f ⟨before.state, []⟩ = before := by simp [f]
  have hstate : (operation.run services.traced ⟨before.state, []⟩).state =
      operation.run services before.state :=
    (operation.run_map (Services.traced_respects services) ⟨before.state, []⟩).symm
  have hrun := operation.run_map hf ⟨before.state, []⟩
  rw [hstart] at hrun
  rw [hrun, ← hstate]
  rfl

/-- The parcels that an operation may bring on their way. -/
def Sends : Operation → Parcel → Prop
  | pass manager owner clock, parcel =>
    ∃ index, owner.Exposes manager.owner (clock index) parcel
  | sendPacket _ sid set forDownlink _, parcel =>
    parcel = .packet sid set (HkManager.packetOrder forDownlink)
  | sendStructure _ owner sid kind _, parcel =>
    ∃ set, owner.getSetOfKind sid kind = .ok set ∧
      parcel = .ofStructure sid kind (HkManager.structureOf set)
  | send _ _ command, parcel => ∃ plain, parcel = .message command plain
  | handle _ owner message, parcel => owner.Answers message.command parcel
  | release _, _ => False

end Operation

/-! ## Calls -/

/-- Every element that is added belongs to one of these parcels, and the next call is to send the
message about it. -/
inductive Consigned (sends : Parcel → Prop) : List ServiceCall → Prop
  | nil : Consigned sends []
  | other {call : ServiceCall} {calls : List ServiceCall}
    (hcall : ∀ data id, call ≠ .add data (.ok id)) (rest : Consigned sends calls) :
    Consigned sends (call :: calls)
  | stored {bytes : Bytes} {command : StoreId → Command}
    {refers : ∀ id, (command id).store? = some id} {id : StoreId} {source destination : QueueId}
    {result : Except PoolError Unit} {calls : List ServiceCall}
    (hsends : sends (.stored (.ok bytes) command refers)) (rest : Consigned sends calls) :
    Consigned sends
      (.add bytes (.ok id) :: .send source destination (command id) result :: calls)

namespace Consigned

variable {sends : Parcel → Prop} {a b : List ServiceCall}

theorem append (ha : Consigned sends a) (hb : Consigned sends b) : Consigned sends (a ++ b) := by
  induction ha with
  | nil => exact hb
  | other hcall _ ih => exact .other hcall ih
  | stored hsends _ ih => exact .stored hsends ih

theorem of_add {before after : List ServiceCall} {bytes : Bytes} {id : StoreId}
    (h : Consigned sends (before ++ .add bytes (.ok id) :: after)) :
    ∃ command refers source destination result rest,
      sends (.stored (.ok bytes) command refers) ∧
        after = .send source destination (command id) result :: rest := by
  generalize hcalls : before ++ .add bytes (.ok id) :: after = calls at h
  induction h generalizing before with
  | nil => cases before <;> cases hcalls
  | other hcall _ ih =>
    cases before with
    | nil =>
      cases hcalls
      exact absurd rfl (hcall bytes id)
    | cons call before =>
      cases hcalls
      exact ih rfl
  | @stored _ command refers _ source destination result _ hsends _ ih =>
    match before with
    | [] =>
      cases hcalls
      exact ⟨command, refers, source, destination, result, _, hsends, rfl⟩
    | [_] => cases hcalls
    | _ :: _ :: before =>
      cases hcalls
      exact ih rfl

/-- An attempt adds and sends what is in its parcel. -/
theorem attempt {services : Services σ} {queue : QueueId} {object : ObjectId}
    {route : Except PoolError QueueId} {parcel : Parcel} {before after : Traced σ}
    {result : Except PoolError Unit}
    (ha : Attempt services.traced queue object route parcel before result after)
    (hsends : sends parcel) (h : Consigned sends before.calls) : Consigned sends after.calls := by
  cases ha with
  | unroutable | unwritten => exact h
  | sent hsend =>
    obtain ⟨state, -, rfl⟩ := Services.of_traced_send hsend
    exact h.append (.other (by simp) .nil)
  | unsent hsend =>
    obtain ⟨state, -, rfl⟩ := Services.of_traced_send hsend
    exact h.append (.other (by simp) .nil)
  | unstored hadd =>
    obtain ⟨state, -, rfl⟩ := Services.of_traced_add hadd
    exact h.append (.other (by simp) .nil)
  | delivered hadd hsend =>
    obtain ⟨state, -, rfl⟩ := Services.of_traced_add hadd
    obtain ⟨state, -, rfl⟩ := Services.of_traced_send hsend
    show Consigned sends (before.calls ++ [_] ++ [_])
    rw [List.append_assoc]
    exact h.append (.stored hsends .nil)
  | returned hadd hsend =>
    obtain ⟨state, -, rfl⟩ := Services.of_traced_add hadd
    obtain ⟨state, -, rfl⟩ := Services.of_traced_send hsend
    show Consigned sends (before.calls ++ [_] ++ [_] ++ [_])
    rw [List.append_assoc, List.append_assoc]
    exact h.append (.stored hsends (.other (by simp) .nil))

theorem release {services : Services σ} {before : Traced σ} (h : Consigned sends before.calls)
    (message : CommandMessage) :
    Consigned sends (services.traced.release message before).2.calls := by
  unfold Services.release
  split
  · exact h.append (.other (by simp) .nil)
  · exact h

end Consigned

namespace Operation

/-- **Whatever somebody does, what goes into the store are its parcels.** -/
theorem consigned (services : Services σ) (operation : Operation) {before : Traced σ}
    (h : Consigned operation.Sends before.calls) :
    Consigned operation.Sends (operation.run services.traced before).calls := by
  cases operation with
  | pass manager owner clock =>
    let state : HkState (Traced σ) := ⟨manager, owner, before⟩
    let P (traced : Traced σ) : Prop := Consigned (pass manager owner clock).Sends traced.calls
    have hpass : P (state.pass services.traced clock).2.services := by
      refine HkState.pass_services clock ?_ h
      intro index route parcel mid result after hexposes ha hmid
      exact hmid.attempt ha ⟨index, hexposes⟩
    exact hpass
  | sendPacket manager sid set forDownlink destination =>
    exact h.attempt
      (manager.sendPacket_attempt services.traced before sid set forDownlink destination) rfl
  | sendStructure manager owner sid kind destination =>
    cases hs : owner.getSetOfKind sid kind with
    | error e => simpa only [run, HkManager.sendStructure, hs] using h
    | ok set =>
      exact h.attempt (manager.sendStructure_attempt services.traced before hs destination)
        ⟨set, hs, rfl⟩
  | send source destination command => exact h.append (.other (by simp) .nil)
  | handle manager owner message =>
    let state : HkState (Traced σ) := ⟨manager, owner, before⟩
    let P (traced : Traced σ) : Prop := Consigned (handle manager owner message).Sends traced.calls
    show P (state.handle services.traced message).2.services
    cases hrequest : message.command.isRequest with
    | true =>
      refine HkState.request_services hrequest ?_ h
      intro route parcel mid result after hanswers ha hmid
      exact hmid.attempt ha hanswers
    | false =>
      cases hreleases : state.owner.releases message with
      | true =>
        rw [(HkState.handle_of_releases services.traced hreleases).2]
        exact h.release message
      | false =>
        rw [HkState.handle_of_not_releases services.traced hrequest hreleases]
        exact h
  | release message => exact h.release message

theorem consigned_calls (services : Services σ) (operation : Operation) (state : σ) :
    Consigned operation.Sends (operation.calls services state) :=
  operation.consigned services .nil

end Operation

/-! ## The origin of a message -/

/-- The message was sent right after its element was added with these bytes, and nothing was added
under the same id since. -/
def SentWith (calls : List ServiceCall) (message : CommandMessage) (id : StoreId) (bytes : Bytes) :
    Prop :=
  ∃ before destination after,
    calls = before ++ .add bytes (.ok id) ::
      .send message.sender destination message.command (.ok ()) :: after ∧
    ∀ data, .add data (.ok id) ∉ after

theorem SentWith.append {calls : List ServiceCall} {message : CommandMessage} {id : StoreId}
    {bytes : Bytes} (h : SentWith calls message id bytes) {more : List ServiceCall}
    (hmore : ∀ data, .add data (.ok id) ∉ more) : SentWith (calls ++ more) message id bytes := by
  obtain ⟨before, destination, after, rfl, hafter⟩ := h
  refine ⟨before, destination, after ++ more, by simp, ?_⟩
  intro data hmem
  rcases List.mem_append.mp hmem with hmem | hmem
  · exact hafter data hmem
  · exact hmore data hmem

/-- Operations with what they called, the first one first. -/
abbrev OperationLog := List (Operation × List ServiceCall)

/-- The message was sent in the course of an operation, about one of its parcels, right after these
bytes of the parcel were added; nothing was added under the same id since. -/
def SentBy (log : OperationLog) (message : CommandMessage) (id : StoreId) (bytes : Bytes) : Prop :=
  ∃ earlier operation calls later command refers,
    log = earlier ++ (operation, calls) :: later ∧
      operation.Sends (.stored (.ok bytes) command refers) ∧ command id = message.command ∧
      SentWith calls message id bytes ∧
      ∀ entry ∈ later, ∀ data, .add data (.ok id) ∉ entry.2

/-- From the calls of all operations back to the one that sent the message. -/
theorem SentWith.sentBy {log : OperationLog} {message : CommandMessage} {id : StoreId}
    {bytes : Bytes} (hlog : ∀ entry ∈ log, Consigned entry.1.Sends entry.2)
    (h : SentWith (log.flatMap Prod.snd) message id bytes) : SentBy log message id bytes := by
  obtain ⟨before, destination, after, hcalls, hafter⟩ := h
  induction log generalizing before with
  | nil => simp at hcalls
  | cons entry log ih =>
    obtain ⟨operation, calls⟩ := entry
    have hlater (before : List ServiceCall)
        (hrest : log.flatMap Prod.snd = before ++ .add bytes (.ok id) ::
          .send message.sender destination message.command (.ok ()) :: after) :
        SentBy ((operation, calls) :: log) message id bytes := by
      obtain ⟨earlier, own, ownCalls, later, command, refers, rfl, horigin⟩ :=
        ih (fun entry hmem => hlog entry (List.mem_cons_of_mem _ hmem)) before hrest
      exact ⟨(operation, calls) :: earlier, own, ownCalls, later, command, refers, rfl, horigin⟩
    rw [List.flatMap_cons] at hcalls
    rcases List.append_eq_append_iff.mp hcalls with ⟨middle, -, hrest⟩ | ⟨rest, rfl, hrest⟩
    · exact hlater middle hrest
    · cases rest with
      | nil => exact hlater [] hrest.symm
      | cons call rest =>
        rw [List.cons_append] at hrest
        obtain ⟨rfl, hnext⟩ := List.cons.inj hrest
        -- the message that this operation sends next is the one
        obtain ⟨command, refers, source, own, result, tail, hsends, rfl⟩ :=
          (hlog _ (List.mem_cons_self ..)).of_add
        rw [List.cons_append] at hnext
        obtain ⟨hsend, rfl⟩ := List.cons.inj hnext
        have hcommand : message.command = command id := by injection hsend
        refine ⟨[], operation, _, log, command, refers, rfl, hsends, hcommand.symm,
          ⟨before, destination, tail, by rw [← hsend], ?_⟩, ?_⟩
        · intro data hmem
          exact hafter data (List.mem_append_left _ hmem)
        · intro entry hentry data hmem
          exact hafter data (List.mem_append_right _ (List.mem_flatMap.mpr ⟨entry, hentry, hmem⟩))

end Housekeeper
