import Housekeeper.Proofs.StructureReports

/-!
# Writes that happen as a whole

Everything that goes onto the wire checks its size before the first byte, and then writes through
others that check theirs. `Writer.WritesWhole` says that nothing comes of these checks but one: the
bytes are appended if there is room for them all, and the writer is left alone if there is not.
`WireItem` is all that can be written, and `WireItem.written_whole_or_not_at_all` says it of each.
-/

namespace Housekeeper

/-- A serialization appends the bytes if they fit, and leaves the writer alone if they do not. -/
structure Writer.WritesWhole (serialize : Writer → Except PoolError Unit × Writer)
    (bytes : Bytes) : Prop where
  of_le : ∀ writer (h : bytes.length ≤ writer.remaining),
    serialize writer = (.ok (), writer.appended bytes h)
  of_lt : ∀ writer, writer.remaining < bytes.length →
    serialize writer = (.error .bufferTooShort, writer)

/-- There is always enough room where the bytes are collected. -/
theorem Writer.WritesWhole.collect {serialize : Writer → Except PoolError Unit × Writer}
    {bytes : Bytes} (h : WritesWhole serialize bytes) {size : Nat} (hsize : bytes.length = size) :
    Writer.collect size serialize = .ok bytes := by
  subst hsize
  exact Writer.collect_of_appended h.of_le

variable (order : ByteOrder)

/-! ## Variables, sets and reports -/

theorem Accessor.writesWhole (accessor : Accessor) :
    Writer.WritesWhole (accessor.serialize · order) (accessor.image order) where
  of_le _ h := accessor.serialize_eq_appended order h
  of_lt writer h := by
    -- A vector looks at its whole size first, a single element leaves that to the writer.
    cases hcopy : accessor.copy with
    | scalar value =>
      have hone : accessor.image order = value.encode order := by
        simp [image, hcopy, LocalCopy.image, LocalCopy.values]
      rw [hone] at h
      simp only [serialize, hcopy, LocalCopy.serialize, Writer.write_of_lt h]
    | vector values =>
      rw [length_image, wireSize, hcopy] at h
      simp only [serialize, hcopy, LocalCopy.serialize, h, if_true]

theorem Dataset.writesWhole (set : Dataset) :
    Writer.WritesWhole (set.serialize · order) (set.image order) where
  of_le _ h := set.serialize_eq_appended order h
  of_lt writer h := by
    rw [length_image] at h
    exact if_pos h

theorem HkPacket.writesWhole (packet : HkPacket) :
    Writer.WritesWhole (packet.serialize · order) (packet.image order) where
  of_le _ h := packet.serialize_eq_appended order h
  of_lt writer h := by
    rw [length_image] at h
    exact if_pos h

theorem StructureReport.writesWhole {report : StructureReport} (few : report.ids.length ≤ 255) :
    Writer.WritesWhole (report.serialize · order) (report.image order) where
  of_le _ h := serialize_eq_appended order few h
  of_lt writer h := by
    rw [length_image] at h
    show report.serialize writer order = _
    rw [serialize, if_neg (by omega), if_pos h]

theorem StructureReport.serialize_of_many {report : StructureReport}
    (many : 255 < report.ids.length) (writer : Writer) :
    report.serialize writer order = (.error .dataTooLarge, writer) := if_pos many

/-! ## Snapshots -/

namespace SnapshotContent

/-- The elements without any validity mask. -/
def image : SnapshotContent → Bytes
  | ofSet set => Dataset.imageEach order set.accessors
  | ofAccessor accessor => accessor.image order

@[simp] theorem length_image (content : SnapshotContent) :
    (content.image order).length = content.wireSize := by
  cases content with
  | ofSet set => exact (Dataset.length_imageEach ..).trans set.variablesSize_eq.symm
  | ofAccessor accessor => exact accessor.length_image order

theorem serialize_eq_appended (content : SnapshotContent) {writer : Writer}
    (h : (content.image order).length ≤ writer.remaining) :
    content.serialize writer order = (.ok (), writer.appended (content.image order) h) := by
  cases content with
  | ofSet set => exact Dataset.serializeEach_eq_appended order set.accessors h
  | ofAccessor accessor => exact accessor.serialize_eq_appended order h

end SnapshotContent

namespace Snapshot

/-- The stamp, and the elements behind it. -/
def image (snapshot : Snapshot) : Bytes := snapshot.time.toBytes ++ snapshot.content.image order

@[simp] theorem length_image (snapshot : Snapshot) :
    (snapshot.image order).length = snapshot.wireSize := by
  rw [image, List.length_append, CdsTime.length_toBytes, SnapshotContent.length_image, wireSize]

theorem serialize_eq_appended (snapshot : Snapshot) {writer : Writer}
    (h : (snapshot.image order).length ≤ writer.remaining) :
    snapshot.serialize writer order = (.ok (), writer.appended (snapshot.image order) h) := by
  have hroom : ¬ writer.remaining < snapshot.wireSize := by
    rw [← length_image order]; omega
  have hsum := h
  rw [image, List.length_append] at hsum
  have hstamp : snapshot.time.toBytes.length ≤ writer.remaining := by omega
  have hrest : (snapshot.content.image order).length ≤
      (writer.appended _ hstamp).remaining := by
    rw [Writer.remaining_appended]; omega
  rw [serialize, if_neg hroom, Writer.eq_appended hstamp (Writer.write_of_le hstamp)]
  dsimp only
  rw [snapshot.content.serialize_eq_appended order hrest]
  exact congrArg _ (writer.appended_appended hstamp hrest h)

theorem writesWhole (snapshot : Snapshot) :
    Writer.WritesWhole (snapshot.serialize · order) (snapshot.image order) where
  of_le _ h := snapshot.serialize_eq_appended order h
  of_lt writer h := by
    rw [length_image] at h
    exact if_pos h

theorem toBytes_eq_image (snapshot : Snapshot) :
    snapshot.toBytes order = .ok (snapshot.image order) :=
  (snapshot.writesWhole order).collect (snapshot.length_image order)

end Snapshot

/-! ## All that can be written -/

inductive WireItem where
  /-- A single variable or a vector, by its elements. -/
  | ofAccessor (accessor : Accessor)
  | ofSet (set : Dataset)
  | ofPacket (packet : HkPacket)
  | ofStructure (report : StructureReport)
  | ofSnapshot (snapshot : Snapshot)

namespace WireItem

variable (item : WireItem)

def wireSize : WireItem → Nat
  | ofAccessor accessor => accessor.wireSize
  | ofSet set => set.wireSize
  | ofPacket packet => packet.wireSize
  | ofStructure report => report.wireSize
  | ofSnapshot snapshot => snapshot.wireSize

def serialize (writer : Writer) (order : ByteOrder) : Except PoolError Unit × Writer :=
  match item with
  | ofAccessor accessor => accessor.serialize writer order
  | ofSet set => set.serialize writer order
  | ofPacket packet => packet.serialize writer order
  | ofStructure report => report.serialize writer order
  | ofSnapshot snapshot => snapshot.serialize writer order

def toBytes (order : ByteOrder) : Except PoolError Bytes :=
  match item with
  | ofAccessor accessor => accessor.toBytes order
  | ofSet set => set.toBytes order
  | ofPacket packet => packet.toBytes order
  | ofStructure report => report.toBytes order
  | ofSnapshot snapshot => snapshot.toBytes order

def image (order : ByteOrder) : Bytes :=
  match item with
  | ofAccessor accessor => accessor.image order
  | ofSet set => set.image order
  | ofPacket packet => packet.image order
  | ofStructure report => report.image order
  | ofSnapshot snapshot => snapshot.image order

/-- Only a structure report can have too much in it to be written. -/
def Writable : WireItem → Prop
  | ofStructure report => report.ids.length ≤ 255
  | _ => True

theorem length_image (order : ByteOrder) : (item.image order).length = item.wireSize := by
  cases item with
  | ofAccessor accessor => exact accessor.length_image order
  | ofSet set => exact set.length_image order
  | ofPacket packet => exact packet.length_image order
  | ofStructure report => exact report.length_image order
  | ofSnapshot snapshot => exact snapshot.length_image order

theorem toBytes_eq_collect (order : ByteOrder) :
    item.toBytes order = Writer.collect item.wireSize (item.serialize · order) := by
  cases item <;> rfl

variable {item}

theorem writesWhole (h : item.Writable) (order : ByteOrder) :
    Writer.WritesWhole (item.serialize · order) (item.image order) := by
  cases item with
  | ofAccessor accessor => exact accessor.writesWhole order
  | ofSet set => exact set.writesWhole order
  | ofPacket packet => exact packet.writesWhole order
  | ofStructure report => exact StructureReport.writesWhole order h
  | ofSnapshot snapshot => exact snapshot.writesWhole order

theorem serialize_of_not_writable (h : ¬ item.Writable) (writer : Writer) (order : ByteOrder) :
    item.serialize writer order = (.error .dataTooLarge, writer) := by
  cases item with
  | ofStructure report => exact StructureReport.serialize_of_many order (Nat.lt_of_not_le h) writer
  | _ => exact absurd trivial h

variable (item)

/-- **Whatever goes onto the wire is written as a whole or not at all**, in exactly as many bytes as
it announces, and a report is the only thing that can be refused for another reason than a lack of
room. -/
theorem written_whole_or_not_at_all (order : ByteOrder) :
    (∀ writer : Writer,
      ((item.serialize writer order).1 = .ok () ↔
        item.Writable ∧ item.wireSize ≤ writer.remaining) ∧
      ((item.serialize writer order).1 = .ok () →
        ∃ bytes, item.toBytes order = .ok bytes ∧ bytes.length = item.wireSize ∧
          (item.serialize writer order).2.content = writer.content ++ bytes ∧
          (item.serialize writer order).2.capacity = writer.capacity) ∧
      ((item.serialize writer order).1 ≠ .ok () → (item.serialize writer order).2 = writer)) ∧
    item.toBytes order ≠ .error .bufferTooShort ∧
    (∀ bytes, item.toBytes order = .ok bytes → bytes.length = item.wireSize) ∧
    ((∃ bytes, item.toBytes order = .ok bytes) ↔ item.Writable) := by
  have hlength := item.length_image order
  by_cases hwritable : item.Writable
  · have hwhole := writesWhole hwritable order
    have hbytes : item.toBytes order = .ok (item.image order) := by
      rw [toBytes_eq_collect, hwhole.collect hlength]
    refine ⟨fun writer => ?_, by simp [hbytes], ?_, by simp [hbytes, hwritable]⟩
    · rcases Nat.lt_or_ge writer.remaining (item.image order).length with short | room
      · have hrefused := hwhole.of_lt writer short
        have hsize : ¬ item.wireSize ≤ writer.remaining := by omega
        simp [hrefused, hsize]
      · have hdone := hwhole.of_le writer room
        have hsize : item.wireSize ≤ writer.remaining := by omega
        simp [hdone, hsize, hwritable, hbytes, hlength, Writer.appended]
    · rintro bytes hok
      rw [hbytes] at hok
      cases hok
      exact hlength
  · have hrefused (writer : Writer) := serialize_of_not_writable hwritable writer order
    have hbytes : item.toBytes order = .error .dataTooLarge := by
      simp only [toBytes_eq_collect, Writer.collect, hrefused]
    simp [hrefused, hbytes, hwritable]

end WireItem

end Housekeeper
