import Housekeeper.Proofs.Answers
import Housekeeper.Proofs.Custody
import Housekeeper.Proofs.WireFormat

/-!
# Reports from a manager to ground

`HkPacket.Faithful` is what the bytes of a packet tell to those who take them apart, be it by the
header and the validity mask alone or with a packet of the same layout. A manager that sends a
packet successfully leaves such bytes in the store and one message about them in the queue of the
destination, and the bytes stay as they are until somebody deletes them (`Spared.get?`).

This needs an element with an id of its own. A store with more pages than there are page numbers
may put the packet elsewhere, and then the message names something else
(`report_names_another`).
-/

namespace Housekeeper

/-! ## Packets on the wire -/

namespace Reader

variable (order : ByteOrder) (position : Nat) (later : Bytes)

theorem readWord_encode (word : UInt32) :
    readWord ⟨position, order.encode 4 word.toNat ++ later⟩ order =
      (.ok word, ⟨position + 4, later⟩) := by
  have hlength : (order.encode 4 word.toNat).length = 4 := order.length_encode 4 word.toNat
  have hroom : 4 ≤ (Reader.mk position (order.encode 4 word.toNat ++ later)).remaining := by
    simp only [remaining, List.length_append]; omega
  rw [readWord, readNat, read_of_le hroom]
  dsimp only
  rw [List.take_left' hlength, List.drop_left' hlength, order.decode_encode word.toNat_lt,
    UInt32.ofNat_toNat]

theorem readByte_cons (byte : UInt8) :
    readByte ⟨position, byte :: later⟩ = (.ok byte, ⟨position + 1, later⟩) := by
  have hroom : 1 ≤ (Reader.mk position (byte :: later)).remaining := by
    simp only [remaining, List.length_cons]; omega
  have hbyte : UInt8.ofNat (ByteOrder.big.decode [byte]) = byte := by
    simp [ByteOrder.decode, Bytes.toNat]
  rw [readByte, readNat, read_of_le hroom]
  simp [hbyte]

theorem readFlag_cons (byte : UInt8) :
    readFlag ⟨position, byte :: later⟩ = (.ok (byte != 0), ⟨position + 1, later⟩) := by
  rw [readFlag, readByte_cons]

theorem readFlag_flagByte (flag : Bool) :
    readFlag ⟨position, HkPacket.flagByte flag :: later⟩ = (.ok flag, ⟨position + 1, later⟩) := by
  rw [readFlag_cons]
  cases flag <;> rfl

end Reader

namespace HkPacket

variable (packet : HkPacket) (order : ByteOrder)

theorem readSid_encode (sid : Sid) (position : Nat) (later : Bytes) :
    readSid ⟨position, order.encode 4 sid.object.toNat ++ (order.encode 4 sid.set.toNat ++ later)⟩
      order = (.ok sid, ⟨position + 4 + 4, later⟩) := by
  rw [readSid, Reader.readWord_encode]
  dsimp only
  rw [Reader.readWord_encode]

/-- The header, and the wire format of the set behind it. -/
def image : Bytes :=
  (headerPieces packet.sid packet.set.valid order).flatten ++ packet.set.image order

theorem image_eq :
    packet.image order = order.encode 4 packet.sid.object.toNat ++
      (order.encode 4 packet.sid.set.toNat ++
        (flagByte packet.set.valid :: packet.set.image order)) := by
  simp [image, headerPieces]

theorem length_headerPieces (sid : Sid) (valid : Bool) :
    (headerPieces sid valid order).flatten.length = packetHeaderSize := by
  simp [headerPieces, packetHeaderSize]

@[simp] theorem length_image : (packet.image order).length = packet.wireSize := by
  rw [image, List.length_append, length_headerPieces, Dataset.length_image, wireSize]

theorem serialize_eq_appended {writer : Writer}
    (h : (packet.image order).length ≤ writer.remaining) :
    packet.serialize writer order = (.ok (), writer.appended (packet.image order) h) := by
  have hroom : ¬ writer.remaining < packet.wireSize := by
    rw [← length_image packet order]; omega
  have hsum := h
  rw [image, List.length_append] at hsum
  have hheader : (headerPieces packet.sid packet.set.valid order).flatten.length ≤
      writer.remaining := by omega
  have hset : (packet.set.image order).length ≤ (writer.appended _ hheader).remaining := by
    rw [Writer.remaining_appended]; omega
  rw [serialize, if_neg hroom, Writer.eq_appended hheader (Writer.writeAll_of_le hheader)]
  dsimp only
  rw [Dataset.serialize_eq_appended _ order hset]
  exact congrArg _ (writer.appended_appended hheader hset h)

/-- A packet can always be written as a whole. -/
theorem toBytes_eq_image : packet.toBytes order = .ok (packet.image order) := by
  rw [toBytes, ← length_image packet order]
  apply Writer.collect_of_appended
  intro writer room
  exact packet.serialize_eq_appended order room

/-- The header is told from the rest without knowing the set. -/
theorem parse_image :
    PacketHeader.parse (packet.image order) order =
      .ok (⟨packet.sid, packet.set.valid⟩, packet.set.image order) := by
  rw [image_eq, PacketHeader.parse, Reader.ofBytes, readSid_encode]
  dsimp only
  rw [Reader.readFlag_flagByte]

theorem deserialize_image {packet other : HkPacket} (h : other.set.layout = packet.set.layout) :
    other.deserialize (.ofBytes (packet.image order)) order =
      (.ok (), ⟨packet.sid,
        (other.set.withValidity packet.set.valid).restored order (packet.set.image order)⟩,
        ⟨(packet.image order).length, []⟩) := by
  have hlayout : (other.set.withValidity packet.set.valid).layout = packet.set.layout := h
  have hsize : (other.set.withValidity packet.set.valid).wireSize =
      (packet.set.image order).length := by
    rw [Dataset.wireSize_of_layout hlayout, Dataset.length_image]
  have hposition : (packet.image order).length = 0 + 4 + 4 + 1 + (packet.set.image order).length := by
    rw [length_image, wireSize, Dataset.length_image, packetHeaderSize]
  rw [hposition, image_eq, deserialize, Reader.ofBytes, readSid_encode]
  dsimp only
  rw [Reader.readFlag_flagByte]
  dsimp only
  rw [Dataset.deserialize_of_le _ order (Nat.le_of_eq hsize), hsize]
  simp [Reader.skip]

/-! ## What packets tell -/

/-- What the bytes of a packet tell. -/
structure Faithful (bytes : Bytes) : Prop where
  /-- Behind the header, the local copies follow each other in the order of their registration, and
  then comes the mask, if any, which gives away the validity of every variable. -/
  parsed : ∃ (pieces : List Bytes) (mask : Bytes),
    packet.set.accessors.map (fun accessor => accessor.toBytes order) = pieces.map .ok ∧
    PacketHeader.parse bytes order =
      .ok (⟨packet.sid, packet.set.valid⟩, pieces.flatten ++ mask) ∧
    (packet.set.validityMask = false → mask = []) ∧
    (packet.set.validityMask = true → packet.set.accessors.length ≤ maxMaskBits →
      decodeMask mask packet.set.accessors.length = .ok packet.set.validityBits)
  /-- A packet of the same layout takes over everything, whatever it was before. -/
  restored : ∀ other : HkPacket, other.set.layout = packet.set.layout →
    ∃ copy, other.deserialize (.ofBytes bytes) order =
        (.ok (), ⟨packet.sid, copy⟩, ⟨bytes.length, []⟩) ∧
      copy.valid = packet.set.valid ∧ copy.elements = packet.set.elements ∧
      (packet.set.validityMask = true → copy.validityBits = packet.set.validityBits)

theorem decodeMask_mask {set : Dataset} (h : set.accessors.length ≤ maxMaskBits) :
    decodeMask set.mask set.accessors.length = .ok set.validityBits := by
  have hcount : ¬ maxMaskBits < set.accessors.length := by omega
  have hlength : set.mask.length = maskLength set.accessors.length := by
    rw [Dataset.mask, length_maskBytes, List.length_map]
  have hbits : set.validityBits.length = set.accessors.length := List.length_map ..
  rw [decodeMask, if_neg hcount, if_neg (by omega)]
  exact congrArg _ (Dataset.maskBit_range hbits)

/-- **The bytes that are written for a packet are faithful.** -/
theorem faithful_image : packet.Faithful order (packet.image order) where
  parsed := by
    refine ⟨packet.set.accessors.map (Accessor.image order),
      if packet.set.validityMask then packet.set.mask else [], ?_, packet.parse_image order, ?_, ?_⟩
    · rw [List.map_map]
      exact List.map_congr_left fun accessor _ => accessor.toBytes_eq_image order
    · intro hoff
      rw [if_neg (by simp [hoff])]
    · intro hon hcount
      rw [if_pos hon]
      exact decodeMask_mask hcount
  restored := by
    intro other h
    have hlayout : (other.set.withValidity packet.set.valid).layout = packet.set.layout := h
    refine ⟨_, deserialize_image order h, ?_, Dataset.elements_restored order hlayout,
      Dataset.validityBits_restored order hlayout⟩
    have hframe := Dataset.sameFrame_restored (other.set.withValidity packet.set.valid) order
      (packet.set.image order)
    rw [hframe.1]
    rfl

end HkPacket

/-! ## Elements that stay -/

/-- Every call of the services keeps this. -/
structure Services.Keeps {σ : Type} (services : Services σ) (P : σ → Prop) : Prop where
  add : ∀ data {state}, P state → P (services.add data state).2
  delete : ∀ id {state}, P state → P (services.delete id state).2
  send : ∀ source destination command {state}, P state →
    P (services.send source destination command state).2
  record : ∀ kind object error {state}, P state → P (services.record kind object error state)

section Keeps

variable {σ : Type} {services : Services σ} {P : σ → Prop} (hkeeps : services.Keeps P)

include hkeeps

theorem Services.Keeps.of_add {data : Bytes} {before after : σ} {result : Except PoolError StoreId}
    (h : services.add data before = (result, after)) (hbefore : P before) : P after := by
  have hafter := hkeeps.add data hbefore
  rw [h] at hafter
  exact hafter

theorem Services.Keeps.of_send {source destination : QueueId} {command : Command}
    {before after : σ} {result : Except PoolError Unit}
    (h : services.send source destination command before = (result, after)) (hbefore : P before) :
    P after := by
  have hafter := hkeeps.send source destination command hbefore
  rw [h] at hafter
  exact hafter

theorem Attempt.keeps {queue : QueueId} {object : ObjectId} {route : Except PoolError QueueId}
    {parcel : Parcel} {before after : σ} {result : Except PoolError Unit}
    (h : Attempt services queue object route parcel before result after) (hbefore : P before) :
    P after := by
  cases h with
  | unroutable | unwritten => exact hbefore
  | sent hsend => exact hkeeps.of_send hsend hbefore
  | unsent hsend => exact hkeeps.record _ _ _ (hkeeps.of_send hsend hbefore)
  | unstored hadd => exact hkeeps.record _ _ _ (hkeeps.of_add hadd hbefore)
  | delivered hadd hsend => exact hkeeps.of_send hsend (hkeeps.of_add hadd hbefore)
  | returned hadd hsend =>
    have hunsent := hkeeps.of_send hsend (hkeeps.of_add hadd hbefore)
    exact hkeeps.record _ _ _ (hkeeps.delete _ (hkeeps.record _ _ _ hunsent))

theorem Services.Keeps.release (message : CommandMessage) {state : σ} (h : P state) :
    P (services.release message state).2 := by
  unfold Services.release
  split
  · exact hkeeps.delete _ h
  · exact h

/-- What every call keeps is kept by all that managers and receivers do. -/
theorem Operation.keeps (operation : Operation) {state : σ} (h : P state) :
    P (operation.run services state) := by
  cases operation with
  | pass manager owner clock =>
    let before : HkState σ := ⟨manager, owner, state⟩
    have hpass : P (before.pass services clock).2.services :=
      HkState.pass_services clock (fun _ ha => ha.keeps hkeeps) h
    exact hpass
  | sendPacket manager sid set forDownlink destination =>
    exact (manager.sendPacket_attempt services state sid set forDownlink destination).keeps hkeeps h
  | sendStructure manager owner sid kind destination =>
    cases hs : owner.getSetOfKind sid kind with
    | error e => simpa only [run, HkManager.sendStructure, hs] using h
    | ok set => exact (manager.sendStructure_attempt services state hs destination).keeps hkeeps h
  | send source destination command => exact hkeeps.send source destination command h
  | handle manager owner message =>
    let before : HkState σ := ⟨manager, owner, state⟩
    show P (before.handle services message).2.services
    cases hrequest : message.command.isRequest with
    | true => exact HkState.request_services hrequest (fun _ ha => ha.keeps hkeeps) h
    | false =>
      cases hreleases : before.owner.releases message with
      | true =>
        rw [(HkState.handle_of_releases services hreleases).2]
        exact hkeeps.release message h
      | false =>
        rw [HkState.handle_of_not_releases services hrequest hreleases]
        exact h
  | release message => exact hkeeps.release message h

end Keeps

/-- Whatever may happen to the store and the queues. -/
inductive Activity where
  /-- What managers do, and those who get their messages. -/
  | operate (operation : Operation)
  /-- Somebody uses the store without any manager. -/
  | add (data : Bytes)
  | delete (id : StoreId)
  | clear
  /-- Queues are made, emptied or dropped. -/
  | requeue (hub : QueueHub)

namespace Activity

def run (facilities : Facilities) : Activity → Facilities
  | operate operation => operation.run Facilities.services facilities
  | add data => (Facilities.services.add data facilities).2
  | delete id => (Facilities.services.delete id facilities).2
  | clear => { facilities with store := facilities.store.clear }
  | requeue hub => { facilities with hub }

/-- Somebody deletes the element, or the whole store is cleared. -/
def Frees (facilities : Facilities) (id : StoreId) : Activity → Prop
  | operate operation =>
    ∃ result, .delete id result ∈
      (operation.run Facilities.services.traced ⟨facilities, []⟩).calls
  | delete own => own = id
  | clear => True
  | add _ | requeue _ => False

end Activity

/-- What may come of the services while nobody deletes an element. -/
inductive Spared (id : StoreId) (before : Facilities) : Facilities → Prop
  | refl : Spared id before before
  | step {mid} (h : Spared id before mid) (activity : Activity)
    (hspares : ¬ activity.Frees mid id) : Spared id before (activity.run mid)

/-- The element is there, or it was deleted by one of the calls. -/
def Traced.Shows (id : StoreId) (bytes : Bytes) (traced : Traced Facilities) : Prop :=
  (∀ result, .delete id result ∉ traced.calls) → traced.state.store.get? id = some bytes

theorem Traced.keeps_shows (id : StoreId) (bytes : Bytes) :
    Facilities.services.traced.Keeps (Traced.Shows id bytes) where
  add data before h hcalls := by
    have hlive := h fun result hmem => hcalls result (List.mem_append_left _ hmem)
    exact PacketStore.get?_add_of_live hlive data
  delete own before h hcalls := by
    have hlive := h fun result hmem => hcalls result (List.mem_append_left _ hmem)
    have hne : own ≠ id := by
      rintro rfl
      exact hcalls _ (List.mem_append_right _ (List.mem_singleton_self _))
    exact (PacketStore.get?_delete_of_ne hne).trans hlive
  send source destination command before h hcalls :=
    h fun result hmem => hcalls result (List.mem_append_left _ hmem)
  record kind object error before h hcalls := h hcalls

theorem Activity.get?_run {facilities : Facilities} {id : StoreId} {bytes : Bytes}
    (hlive : facilities.store.get? id = some bytes) {activity : Activity}
    (hspares : ¬ activity.Frees facilities id) :
    (activity.run facilities).store.get? id = some bytes := by
  cases activity with
  | operate operation =>
    let traced : Traced Facilities := ⟨facilities, []⟩
    have hstart : traced.Shows id bytes := fun _ => hlive
    have hshows := operation.keeps (Traced.keeps_shows id bytes) hstart
    have hsame := operation.run_map (Services.traced_respects Facilities.services) traced
    have hfinal := hshows fun result hmem => hspares ⟨result, hmem⟩
    rw [← hsame] at hfinal
    exact hfinal
  | add data => exact PacketStore.get?_add_of_live hlive data
  | delete own => exact (PacketStore.get?_delete_of_ne hspares).trans hlive
  | clear => exact absurd trivial hspares
  | requeue hub => exact hlive

/-- **Stored bytes stay the same until somebody deletes them.** -/
theorem Spared.get? {id : StoreId} {bytes : Bytes} {before after : Facilities}
    (h : Spared id before after) (hlive : before.store.get? id = some bytes) :
    after.store.get? id = some bytes := by
  induction h with
  | refl => exact hlive
  | step _ activity hspares ih => exact Activity.get?_run ih hspares

/-! ## Sending -/

theorem Attempt.stored_of_ok {queue : QueueId} {object : ObjectId}
    {route : Except PoolError QueueId} {bytes : Bytes} {command : StoreId → Command}
    {refers : ∀ id, (command id).store? = some id} {before after : Facilities}
    (h : Attempt Facilities.services queue object route (.stored (.ok bytes) command refers) before
      (.ok ()) after) :
    ∃ destination id, route = .ok destination ∧
      before.store.add bytes = (.ok id, after.store) ∧
      before.hub.Delivers after.hub (some (destination, ⟨queue, command id⟩)) := by
  cases h with
  | @delivered destination _ _ _ _ id mid _ hadd hsend =>
    obtain ⟨store, hstore, rfl⟩ := Facilities.of_add hadd
    obtain ⟨hub, hhub, rfl⟩ := Facilities.of_send hsend
    exact ⟨destination, id, rfl, hstore, QueueHub.delivers_of_send hhub⟩

namespace HkManager

/-- A packet is sent if the store takes it and the destination takes the message. -/
theorem sendPacket_of_ok {manager : HkManager} {before : Facilities} {sid : Sid} {set : Dataset}
    {forDownlink : Bool} {destination route : QueueId} {id : StoreId} {store : PacketStore}
    {hub : QueueHub} (hroute : manager.resolve destination = .ok route)
    (hadd : before.store.add ((HkPacket.mk sid set).image (packetOrder forDownlink)) =
      (.ok id, store))
    (hsend : before.hub.send manager.queue route (.report set.kind sid id) = (.ok (), hub)) :
    manager.sendPacket Facilities.services sid set forDownlink destination before =
      (.ok (), ⟨store, hub, before.log⟩) := by
  simp only [sendPacket, hroute, HkPacket.toBytes_eq_image, sendData, Facilities.services, hadd,
    sendStored, send, hsend]

/-- **A packet that is sent arrives as it is.** One message goes to the destination, and the element
that it names has the bytes of the packet until somebody deletes them, except where the store has
no id for the packet: then the message names what was there before. -/
theorem sent_packet_arrives {manager : HkManager} {before after : Facilities} {sid : Sid}
    {set : Dataset} {forDownlink : Bool} {destination : QueueId}
    (h : manager.sendPacket Facilities.services sid set forDownlink destination before =
      (.ok (), after)) :
    ∃ route id bytes, manager.resolve destination = .ok route ∧
      before.hub.Delivers after.hub (some (route, ⟨manager.queue, .report set.kind sid id⟩)) ∧
      (HkPacket.mk sid set).Faithful (packetOrder forDownlink) bytes ∧
      (¬ before.store.Misplaces bytes →
        ∀ later, Spared id after later → later.store.get? id = some bytes) ∧
      (before.store.Misplaces bytes → after.store.get? id = before.store.get? id) := by
  have hattempt := manager.sendPacket_attempt Facilities.services before sid set forDownlink
    destination
  rw [h, Parcel.packet] at hattempt
  simp only [HkPacket.toBytes_eq_image] at hattempt
  obtain ⟨route, id, hroute, hadd, hdelivers⟩ := hattempt.stored_of_ok
  refine ⟨route, id, _, hroute, hdelivers, HkPacket.faithful_image _ _, ?_, ?_⟩
  · intro hplaced later hspared
    exact hspared.get? (PacketStore.get?_of_added hadd hplaced)
  · intro hmisplaced
    exact PacketStore.get?_of_misplaced hadd hmisplaced

theorem packet_of_two_arrives :
    ∃ (manager : HkManager) (before after : Facilities) (set : Dataset),
      set.accessors.length = 2 ∧
      manager.sendPacket Facilities.services ⟨7, 1⟩ set true 1 before = (.ok (), after) ∧
      ∃ id bytes, after.hub.pending 1 = [⟨1, .report .regular ⟨7, 1⟩ id⟩] ∧
        (HkPacket.mk ⟨7, 1⟩ set).Faithful .big bytes ∧ after.store.get? id = some bytes := by
  let manager := (HkManager.create .empty 7 1 none {}).1
  let set : Dataset := { Dataset.consumer manager.pool ⟨7, 1⟩ 2 with
    accessors := [.scalar manager.pool 1 .read .u16, .vector manager.pool 2 .read .u8 3] }
  let before : Facilities := ⟨.ofConfig ⟨[⟨1, 16⟩]⟩, (QueueHub.empty.create 1).2, .empty⟩
  have haddressable : before.store.Addressable := PacketStore.addressable_ofConfig (by decide)
  have hdone :
      (manager.sendPacket Facilities.services ⟨7, 1⟩ set true 1 before).1.isOk = true := by
    decide +kernel
  rcases hsent : manager.sendPacket Facilities.services ⟨7, 1⟩ set true 1 before with ⟨_ | _, after⟩
  · rw [hsent] at hdone
    cases hdone
  obtain ⟨route, id, bytes, hroute, hdelivers, hfaithful, hstays, -⟩ := sent_packet_arrives hsent
  cases hroute
  exact ⟨manager, before, after, set, rfl, hsent, id, bytes, hdelivers 1, hfaithful,
    hstays (haddressable.not_misplaces bytes) after .refl⟩

/-- **A report may name somebody else's data**, in a store with more pages than there are page
numbers. -/
theorem report_names_another :
    ∃ (manager : HkManager) (before after : Facilities) (set : Dataset),
      manager.sendPacket Facilities.services ⟨7, 1⟩ set true 1 before = (.ok (), after) ∧
      after.hub.pending 1 = [⟨1, .report .regular ⟨7, 1⟩ ⟨0, 0⟩⟩] ∧
      after.store.get? ⟨0, 0⟩ = some [1] ∧
      PacketHeader.parse [1] .big = .error .streamTooShort := by
  let manager := (HkManager.create .empty 7 1 none {}).1
  let set := Dataset.consumer manager.pool ⟨7, 1⟩ 0
  let before : Facilities := ⟨.oversized, (QueueHub.empty.create 1).2, .empty⟩
  let report : Bytes := [0, 0, 0, 7, 0, 0, 0, 1, 0]
  let stored := PacketStore.oversized.setSlot 65536 0 (some report)
  let message : CommandMessage := ⟨1, .report .regular ⟨7, 1⟩ ⟨0, 0⟩⟩
  let after : Facilities := ⟨stored, (before.hub.send 1 1 message.command).2, .empty⟩
  have hreport : (HkPacket.mk ⟨7, 1⟩ set).image .big = report := by cbv
  have hadd : before.store.add ((HkPacket.mk ⟨7, 1⟩ set).image .big) = (.ok ⟨0, 0⟩, after.store) :=
    hreport ▸ PacketStore.oversized_add (by decide) (by decide)
  have hsend : before.hub.send 1 1 message.command = (.ok (), after.hub) := rfl
  have hroute : manager.resolve 1 = .ok 1 := rfl
  have hsent : manager.sendPacket Facilities.services ⟨7, 1⟩ set true 1 before = (.ok (), after) :=
    sendPacket_of_ok hroute hadd hsend
  exact ⟨manager, before, after, set, hsent, rfl, PacketStore.oversized_get? _, rfl⟩

end HkManager

end Housekeeper
