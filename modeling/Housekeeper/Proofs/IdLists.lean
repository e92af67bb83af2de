import Housekeeper.Proofs.StructureReports

/-!
# Lists of variable ids

A data set writes the ids of its variables after their number, and a structure report ends with the
same list. But the number takes one byte: a report with more than 255 ids is refused, while the list
alone is written with its number cut. So it is read back as a whole if and only if the set has no
more variables than that (`Dataset.ids_read_back`), and a set of 256 variables says that it has none
(`full_list_reads_as_empty`).
-/

namespace Housekeeper

namespace Reader

/-- A number of ids in one byte, and that many ids. -/
def readIdList (reader : Reader) (order : ByteOrder) :
    Except PoolError Unit × List LocalPoolId × Reader :=
  match reader.readByte with
  | (.error e, next) => (.error e, [], next)
  | (.ok count, next) => StructureReport.readIds order count.toNat next

end Reader

namespace StructureReport

variable (order : ByteOrder)

/-- The number of the ids, cut to one byte, and the ids. -/
def idListImage (ids : List LocalPoolId) : Bytes :=
  UInt8.ofNat ids.length :: idsImage order ids

theorem length_idListImage (ids : List LocalPoolId) :
    (idListImage order ids).length = 1 + 4 * ids.length := by
  rw [idListImage, List.length_cons, length_idsImage, Nat.add_comm]

theorem idsImage_append (ids more : List LocalPoolId) :
    idsImage order (ids ++ more) = idsImage order ids ++ idsImage order more :=
  List.flatMap_append

/-- As many ids are read as the byte can tell; the bytes of the others are left. -/
theorem readIdList_image (ids : List LocalPoolId) :
    Reader.readIdList (.ofBytes (idListImage order ids)) order =
      (.ok (), ids.take (ids.length % 256),
        ⟨1 + 4 * (ids.length % 256), idsImage order (ids.drop (ids.length % 256))⟩) := by
  have htold : (UInt8.ofNat ids.length).toNat = (ids.take (ids.length % 256)).length := by
    rw [UInt8.toNat_ofNat', List.length_take]
    exact (Nat.min_eq_left (Nat.mod_le ..)).symm
  have hsplit : idsImage order ids = idsImage order (ids.take (ids.length % 256)) ++
      idsImage order (ids.drop (ids.length % 256)) := by
    rw [← idsImage_append, List.take_append_drop]
  rw [Reader.readIdList, Reader.ofBytes, idListImage, Reader.readByte_cons]
  dsimp only
  rw [htold, hsplit, readIds_image, ← htold, UInt8.toNat_ofNat', Nat.zero_add]

/-- Nothing is left of the list if its number is told, and only then. -/
theorem readIdList_image_iff (ids : List LocalPoolId) :
    Reader.readIdList (.ofBytes (idListImage order ids)) order =
        (.ok (), ids, ⟨1 + 4 * ids.length, []⟩) ↔ ids.length ≤ 255 := by
  rw [readIdList_image]
  constructor
  · intro hread
    have htaken : ids.take (ids.length % 256) = ids := congrArg (fun read => read.2.1) hread
    have hlength := congrArg List.length htaken
    rw [List.length_take] at hlength
    omega
  · intro few
    rw [Nat.mod_eq_of_lt (by omega), List.take_length, List.drop_length]
    rfl

/-- A structure report ends with the list of its ids. -/
theorem drop_image (report : StructureReport) :
    (report.image order).drop 15 = idListImage order report.ids := by
  obtain ⟨head, hlength, himage⟩ : ∃ head : Bytes, head.length = 15 ∧
      report.image order = head ++ idListImage order report.ids := by
    refine ⟨order.encode 4 report.sid.object.toNat ++ (order.encode 4 report.sid.set.toNat ++
      (HkPacket.flagByte report.kind.isDiagnostics :: HkPacket.flagByte report.reporting ::
        HkPacket.flagByte report.valid :: order.encode 4 report.seconds.toNat)), ?_, ?_⟩
    · simp
    · simp [image, StructureFields.image, StructureFields.ofReport, idListImage]
  rw [himage, List.drop_left' hlength]

end StructureReport

/-! ## Writing the list of a set -/

namespace Dataset

variable (set : Dataset) (order : ByteOrder) (writer : Writer)

/-- What is written of the ids of a set, after their number. -/
def idListImage : Bytes := StructureReport.idListImage order set.localPoolIds

theorem length_localPoolIds : set.localPoolIds.length = set.fillCount := List.length_map ..

theorem length_idListImage : (set.idListImage order).length = 1 + 4 * set.fillCount := by
  rw [idListImage, StructureReport.length_idListImage, length_localPoolIds]

theorem serializeIds_eq_writeAll :
    ∃ pieces : List Bytes, pieces.flatten = set.idListImage order ∧
      set.serializeIds writer order true = writer.writeAll pieces := by
  refine ⟨_, ?_, rfl⟩
  rw [idListImage, StructureReport.idListImage, length_localPoolIds]
  simp [StructureReport.idsImage, List.flatMap_def, fillCount]

theorem serializeIds_eq_ok_iff :
    (set.serializeIds writer order true).1 = .ok () ↔ 1 + 4 * set.fillCount ≤ writer.remaining := by
  obtain ⟨pieces, hflat, hwrite⟩ := set.serializeIds_eq_writeAll order writer
  rw [hwrite, Writer.writeAll_eq_ok_iff, hflat, length_idListImage]

/-- What was written with success is the list. -/
theorem content_of_serializeIds (h : (set.serializeIds writer order true).1 = .ok ()) :
    (set.serializeIds writer order true).2.content = writer.content ++ set.idListImage order ∧
      (set.serializeIds writer order true).2.capacity = writer.capacity := by
  obtain ⟨pieces, hflat, hwrite⟩ := set.serializeIds_eq_writeAll order writer
  rw [hwrite] at h ⊢
  rw [← hflat]
  exact (Writer.writeAll_of_le (Writer.writeAll_eq_ok_iff.mp h)).2

/-- **The ids of a set are read back if their number takes one byte**, and otherwise only as many of
them as are left when that is cut. The structure report of the set ends with the same list, or is
refused. -/
theorem ids_read_back (seconds : Binary32) :
    ((set.serializeIds writer order true).1 = .ok () ↔
      1 + 4 * set.fillCount ≤ writer.remaining) ∧
    ((set.serializeIds writer order true).1 = .ok () →
      ∃ bytes, (set.serializeIds writer order true).2.content = writer.content ++ bytes ∧
        bytes.length = 1 + 4 * set.fillCount ∧
        (Reader.readIdList (.ofBytes bytes) order =
            (.ok (), set.localPoolIds, ⟨bytes.length, []⟩) ↔ set.fillCount ≤ 255) ∧
        (∃ next, Reader.readIdList (.ofBytes bytes) order =
            (.ok (), set.localPoolIds.take (set.fillCount % 256), next) ∧
          next.remaining = 4 * (set.fillCount - set.fillCount % 256)) ∧
        (set.fillCount ≤ 255 →
          ∃ report, (StructureReport.ofSet set seconds).toBytes order = .ok report ∧
            report.drop 15 = bytes)) ∧
    ((StructureReport.ofSet set seconds).toBytes order = .error .dataTooLarge ↔
      255 < set.fillCount) := by
  have hcount := set.length_localPoolIds
  refine ⟨set.serializeIds_eq_ok_iff order writer, fun hok => ?_, ?_⟩
  · refine ⟨set.idListImage order, (set.content_of_serializeIds order writer hok).1,
      set.length_idListImage order, ?_, ?_, fun few => ?_⟩
    · rw [length_idListImage, ← hcount]
      exact StructureReport.readIdList_image_iff order set.localPoolIds
    · have hread := StructureReport.readIdList_image order set.localPoolIds
      rw [hcount] at hread
      refine ⟨_, hread, ?_⟩
      rw [Reader.remaining, StructureReport.length_idsImage, List.length_drop, hcount]
    · have hids : (StructureReport.ofSet set seconds).ids.length ≤ 255 := hcount.symm ▸ few
      exact ⟨_, StructureReport.toBytes_eq_image order hids, StructureReport.drop_image order _⟩
  · rw [StructureReport.toBytes_eq_dataTooLarge_iff, ← hcount]
    rfl

/-- A set of 256 variables. -/
def crowded : Dataset :=
  { creator ⟨0, 7, .standard⟩ 1 300 with
    accessors := List.replicate 256 (.scalar ⟨0, 7, .standard⟩ 1 .readWrite .u8) }

theorem fillCount_crowded : crowded.fillCount = 256 := List.length_replicate

/-- A set of 256 variables says that it has none, and all their ids are left behind that. -/
theorem full_list_reads_as_empty :
    crowded.fillCount = 256 ∧
      (crowded.serializeIds (.ofCapacity 4096) .big true).1 = .ok () ∧
      (crowded.serializeIds (.ofCapacity 4096) .big true).2.content.length = 1025 ∧
      Reader.readIdList
          (.ofBytes (crowded.serializeIds (.ofCapacity 4096) .big true).2.content) .big =
        (.ok (), [], ⟨1, StructureReport.idsImage .big crowded.localPoolIds⟩) := by
  have hroom : 1 + 4 * crowded.fillCount ≤ (Writer.ofCapacity 4096).remaining := by
    rw [fillCount_crowded]
    decide
  have hok := (crowded.serializeIds_eq_ok_iff .big (.ofCapacity 4096)).mpr hroom
  have hcontent : (crowded.serializeIds (.ofCapacity 4096) .big true).2.content =
      crowded.idListImage .big :=
    (crowded.content_of_serializeIds .big (.ofCapacity 4096) hok).1
  have hread := StructureReport.readIdList_image .big crowded.localPoolIds
  rw [length_localPoolIds, fillCount_crowded, Nat.mod_self, List.take_zero, List.drop_zero] at hread
  rw [hcontent, length_idListImage, fillCount_crowded]
  exact ⟨rfl, hok, rfl, hread⟩

end Dataset

end Housekeeper
