import Housekeeper.Proofs.Custody
import Housekeeper.Proofs.Observation
import Housekeeper.Proofs.WholeWrites

/-!
# Deliveries that succeed

A delivery needs a free element that holds its data, and room in the queue that it goes to. Given
both, it succeeds, and one knows what it has done (`Attempt.fulfilled`). How much a report or a
snapshot of a set takes depends on the types and lengths of its variables only (`Dataset.Fits`), so
an owner whose sets fit keeps them so through passes and requests.
-/

namespace Housekeeper

/-! ## Bytes -/

namespace Dataset

/-- Whatever is sent about the set takes at most so many bytes, with a validity mask or without. -/
structure Fits (size : Nat) (set : Dataset) : Prop where
  packet : packetHeaderSize + (set.variablesSize + maskLength set.accessors.length) ≤ size
  report : 16 + 4 * set.accessors.length ≤ size
  /-- The number of variables takes one byte of a structure report. -/
  few : set.accessors.length ≤ 255

/-- Only the types and lengths of the variables matter. -/
theorem Fits.of_layout {size : Nat} {a b : Dataset} (h : a.Fits size)
    (hlayout : b.accessors.map Accessor.layout = a.accessors.map Accessor.layout) :
    b.Fits size := by
  have hlength : b.accessors.length = a.accessors.length := by
    simpa using congrArg List.length hlayout
  have hvariables : b.variablesSize = a.variablesSize := by
    rw [variablesSize_eq, variablesSize_eq, totalSize_of_layout hlayout]
  exact ⟨by rw [hvariables, hlength]; exact h.packet, by rw [hlength]; exact h.report,
    by rw [hlength]; exact h.few⟩

end Dataset

namespace Parcel

/-- What is to be stored can be written, in at most so many bytes. -/
def Within (size : Nat) : Parcel → Prop
  | message _ _ => True
  | stored data _ _ => ∃ bytes, data = .ok bytes ∧ bytes.length ≤ size

variable {size : Nat} {set : Dataset}

theorem within_packet (h : set.Fits size) (sid : Sid) (order : ByteOrder) :
    (packet sid set order).Within size := by
  refine ⟨_, HkPacket.toBytes_eq_image _ order, ?_⟩
  rw [HkPacket.length_image, HkPacket.wireSize, Dataset.wireSize]
  have hpacket := h.packet
  dsimp only
  split <;> omega

theorem within_structure (h : set.Fits size) (sid : Sid) (kind : ReportKind) :
    (ofStructure sid kind (HkManager.structureOf set)).Within size := by
  have hids : (HkManager.structureOf set).ids.length = set.accessors.length := List.length_map _
  have hfew : (HkManager.structureOf set).ids.length ≤ 255 := by rw [hids]; exact h.few
  refine ⟨_, StructureReport.toBytes_eq_image .big hfew, ?_⟩
  rw [StructureReport.length_image, StructureReport.wireSize, hids]
  exact h.report

theorem within_setSnapshot (h : set.Fits size) (sid : Sid) (now : CdsTime) :
    (setSnapshot sid set now).Within size := by
  refine ⟨_, Snapshot.toBytes_eq_image .machine ⟨now, .ofSet set⟩, ?_⟩
  have hpacket := h.packet
  simp only [packetHeaderSize] at hpacket
  simp only [Snapshot.length_image, Snapshot.wireSize, SnapshotContent.wireSize, CdsTime.wireSize]
  omega

end Parcel

/-! ## Owners whose sets fit -/

theorem mem_updateFirst {α : Type} {p : α → Bool} {change : α → α} {xs : List α} {x : α}
    (h : x ∈ updateFirst p change xs) : x ∈ xs ∨ ∃ y ∈ xs, x = change y := by
  induction xs with
  | nil => cases h
  | cons first rest ih =>
    rw [updateFirst] at h
    split at h
    · rcases List.mem_cons.mp h with rfl | hrest
      · exact .inr ⟨first, List.mem_cons_self, rfl⟩
      · exact .inl (List.mem_cons_of_mem _ hrest)
    · rcases List.mem_cons.mp h with rfl | hrest
      · exact .inl List.mem_cons_self
      · rcases ih hrest with hold | ⟨y, hy, rfl⟩
        · exact .inl (List.mem_cons_of_mem _ hold)
        · exact .inr ⟨y, List.mem_cons_of_mem _ hy, rfl⟩

namespace Owner

/-- All sets that the owner exposes fit. -/
def Fits (size : Nat) (owner : Owner) : Prop := ∀ exposed ∈ owner.sets, exposed.2.Fits size

namespace Fits

variable {size : Nat} {owner : Owner}

theorem set? (h : owner.Fits size) {sid : Sid} {set : Dataset} (hset : owner.set? sid = some set) :
    set.Fits size := by
  obtain ⟨exposed, hfound, rfl⟩ := Option.map_eq_some_iff.mp hset
  exact h exposed (List.mem_of_find?_eq_some hfound)

theorem modifySet (h : owner.Fits size) {change : Dataset → Dataset}
    (hchange : ∀ set, set.Fits size → (change set).Fits size) (sid : Sid) :
    (owner.modifySet sid change).Fits size := by
  intro exposed hmem
  rcases mem_updateFirst hmem with hold | ⟨old, hold, rfl⟩
  · exact h exposed hold
  · exact hchange old.2 (h old hold)

/-- What a manager does leaves types and lengths alone. -/
theorem of_observed {σ : Type} {services : Services σ} {moments : List (HkMoment σ)}
    {after : Owner} (h : owner.Fits size) (hobserved : owner.Observed services moments after) :
    after.Fits size := by
  intro exposed hmem
  obtain ⟨place, old, hold, hset⟩ := hobserved.sets.exists_of_mem hmem
  have hcore : exposed.2.core.accessors = old.2.core.accessors :=
    congrArg Dataset.accessors hset.core_eq
  exact (h old hold).of_layout (congrArg _ hcore)

end Fits

end Owner

/-! ## Attempts -/

/-- Some page has a free slot, so that data that fit everywhere can be added. -/
theorem PacketStore.exists_add {store : PacketStore} {data : Bytes}
    (wide : ∀ page ∈ store.pages, data.length ≤ page.elementSize) (free : 0 < store.freeCount) :
    ∃ id after, store.add data = (.ok id, after) := by
  cases hplace : store.place? data with
  | some place =>
    obtain ⟨page, slot⟩ := place
    exact ⟨_, _, add_of_place hplace⟩
  | none =>
    have hfull : ∀ page ∈ store.pages, page.freeCount = 0 := by
      intro page hmem
      obtain ⟨index, hindex⟩ := List.mem_iff_getElem?.mp hmem
      have hnone := List.findSome?_eq_none_iff.mp hplace (page, index)
        (List.mem_zipIdx_iff_getElem?.mpr hindex)
      have hfits : page.fits data = true := by simpa [StorePage.fits] using wide page hmem
      simp only [hfits, if_true, Option.map_eq_none_iff] at hnone
      exact Array.countP_eq_zero.mpr fun slot hslot =>
        Bool.eq_false_iff.mp (Array.findIdx?_eq_none_iff.mp hnone slot hslot)
    have hsum (pages : List StorePage) (h : ∀ page ∈ pages, page.freeCount = 0) :
        freeCount ⟨pages⟩ = 0 := by
      induction pages with
      | nil => rfl
      | cons page rest ih =>
        have hrest := ih fun other hmem => h other (List.mem_cons_of_mem _ hmem)
        simp only [freeCount, List.foldr_cons, h page List.mem_cons_self] at hrest ⊢
        omega
    exact absurd (hsum store.pages hfull) (Nat.ne_of_gt free)

namespace ServiceCall

def Succeeded : ServiceCall → Prop
  | add _ result => ∃ id, result = .ok id
  | delete _ result => result = .ok ()
  | send _ _ _ result => result = .ok ()

end ServiceCall

namespace Facilities

/-- There is room for a delivery of at most so many bytes. -/
structure RoomFor (size : Nat) (destination : QueueId) (facilities : Facilities) : Prop where
  wide : ∀ page ∈ facilities.store.pages, size ≤ page.elementSize
  free : 0 < facilities.store.freeCount
  queue : facilities.hub.HasRoom destination

end Facilities

/-- A parcel was delivered from a queue to another one: the services before and after. -/
inductive Fulfilled (own destination : QueueId) (before : Traced Facilities) :
    Parcel → Traced Facilities → Prop where
  | message {command : Command} {plain : command.store? = none} {hub : QueueHub}
    (hsend : before.state.hub.send own destination command = (.ok (), hub)) :
    Fulfilled own destination before (.message command plain)
      ⟨{ before.state with hub }, before.calls ++ [.send own destination command (.ok ())]⟩
  | stored {bytes : Bytes} {command : StoreId → Command}
    {refers : ∀ id, (command id).store? = some id} {id : StoreId} {store : PacketStore}
    {hub : QueueHub} (hadd : before.state.store.add bytes = (.ok id, store))
    (hsend : before.state.hub.send own destination (command id) = (.ok (), hub)) :
    Fulfilled own destination before (.stored (.ok bytes) command refers)
      ⟨⟨store, hub, before.state.log⟩,
        before.calls ++ [.add bytes (.ok id), .send own destination (command id) (.ok ())]⟩

namespace Attempt

variable {size : Nat} {own destination : QueueId} {object : ObjectId} {parcel : Parcel}
  {before after : Traced Facilities} {result : Except PoolError Unit}

/-- **A delivery succeeds for which there is room.** -/
theorem fulfilled
    (h : Attempt Facilities.services.traced own object (.ok destination) parcel before result after)
    (room : before.state.RoomFor size destination) (within : parcel.Within size) :
    result = .ok () ∧ Fulfilled own destination before parcel after := by
  have hqueue (command : Command) :
      ∃ hub, before.state.hub.send own destination command = (.ok (), hub) := by
    have hok := room.queue.send_ok own command
    rcases hsend : before.state.hub.send own destination command with ⟨own, hub⟩
    rw [hsend] at hok
    cases hok
    exact ⟨hub, rfl⟩
  cases h with
  | @sent destination command plain _ _ hsend =>
    obtain ⟨hub, hhub, rfl⟩ := Facilities.of_traced_send hsend
    exact ⟨rfl, .message hhub⟩
  | @unsent destination command plain _ e mid hsend =>
    obtain ⟨hub, hhub, -⟩ := Facilities.of_traced_send hsend
    obtain ⟨other, hother⟩ := hqueue command
    rw [hother] at hhub
    cases hhub
  | unwritten =>
    obtain ⟨bytes, hbytes, -⟩ := within
    cases hbytes
  | @unstored destination bytes command refers _ e mid hadd =>
    obtain ⟨store, hstore, -⟩ := Facilities.of_traced_add hadd
    obtain ⟨own, hown, hlength⟩ := within
    cases hown
    have hwide : ∀ page ∈ before.state.store.pages, bytes.length ≤ page.elementSize :=
      fun page hmem => Nat.le_trans hlength (room.wide page hmem)
    obtain ⟨id, other, hother⟩ := PacketStore.exists_add hwide room.free
    rw [hother] at hstore
    cases hstore
  | @delivered destination bytes command refers _ id mid _ hadd hsend =>
    obtain ⟨store, hstore, rfl⟩ := Facilities.of_traced_add hadd
    obtain ⟨hub, hhub, rfl⟩ := Facilities.of_traced_send hsend
    refine ⟨rfl, ?_⟩
    rw [List.append_assoc]
    exact .stored hstore hhub
  | @returned destination bytes command refers _ id stored e mid hadd hsend =>
    obtain ⟨store, -, rfl⟩ := Facilities.of_traced_add hadd
    obtain ⟨hub, hhub, -⟩ := Facilities.of_traced_send hsend
    obtain ⟨other, hother⟩ := hqueue (command id)
    rw [hother] at hhub
    cases hhub

end Attempt

end Housekeeper
