import Housekeeper.Proofs.Reports

/-!
# Structure reports on the wire

`StructureFields` is a structure report as it stands on the wire, where a flag is any byte. Every
byte string is such a report with something behind it, or it is too short to be read
(`StructureReport.short_or_fields`), and what stands behind a report does not matter
(`StructureReport.parse_image`). So a report that was read is written again as it was, but for its
flags, which are zero or one then (`StructureFields.image_report`).
-/

namespace Housekeeper

/-! ## Fields -/

namespace Reader

variable (order : ByteOrder) (position : Nat)

theorem readWord_of_lt {bytes : Bytes} (h : bytes.length < 4) :
    readWord ⟨position, bytes⟩ order = (.error .streamTooShort, ⟨position, bytes⟩) := by
  rw [readWord, readNat, read_of_lt h]

theorem readByte_nil :
    readByte ⟨position, []⟩ = (.error .streamTooShort, ⟨position, []⟩) := rfl

theorem readFlag_nil :
    readFlag ⟨position, []⟩ = (.error .streamTooShort, ⟨position, []⟩) := rfl

/-- The bytes are too short for a word, or they begin with one. -/
theorem short_or_word (bytes : Bytes) :
    bytes.length < 4 ∨
      ∃ (word : UInt32) (later : Bytes), bytes = order.encode 4 word.toNat ++ later := by
  rcases Nat.lt_or_ge bytes.length 4 with short | long
  · exact .inl short
  · have hlength : (bytes.take 4).length = 4 := by rw [List.length_take]; omega
    have hbound : order.decode (bytes.take 4) < UInt32.size := by
      have hlt := order.decode_lt (bytes.take 4)
      rw [hlength] at hlt
      exact hlt
    refine .inr ⟨UInt32.ofNat (order.decode (bytes.take 4)), bytes.drop 4, ?_⟩
    have hencoded := order.encode_decode (bytes.take 4)
    rw [hlength] at hencoded
    rw [UInt32.toNat_ofNat_of_lt' hbound, hencoded, List.take_append_drop]

end Reader

namespace StructureReport

/-- The ids on the wire. -/
def idsImage (order : ByteOrder) (ids : List LocalPoolId) : Bytes :=
  ids.flatMap fun id => order.encode 4 id.toNat

@[simp] theorem length_idsImage (order : ByteOrder) (ids : List LocalPoolId) :
    (idsImage order ids).length = 4 * ids.length := by
  induction ids with
  | nil => rfl
  | cons id rest ih =>
    rw [idsImage, List.flatMap_cons, List.length_append, ByteOrder.length_encode, List.length_cons]
    have hrest : (rest.flatMap fun id => order.encode 4 id.toNat).length = 4 * rest.length := ih
    omega

theorem readIds_image (order : ByteOrder) (ids : List LocalPoolId) (position : Nat) (later : Bytes) :
    readIds order ids.length ⟨position, idsImage order ids ++ later⟩ =
      (.ok (), ids, ⟨position + 4 * ids.length, later⟩) := by
  induction ids generalizing position with
  | nil => rfl
  | cons id rest ih =>
    rw [List.length_cons, idsImage, List.flatMap_cons, List.append_assoc, readIds,
      Reader.readWord_encode]
    have hrest := ih (position + 4)
    rw [idsImage] at hrest
    simp only [hrest]
    congr 3
    omega

/-- The size of a report with as many ids as the last byte before them says. -/
def announcedSize (bytes : Bytes) : Nat := 16 + 4 * (bytes.getD 15 0).toNat

/-- The bytes with one for every flag that is not zero. -/
def plainFlags (bytes : Bytes) : Bytes :=
  bytes.mapIdx fun index byte => if 8 ≤ index ∧ index ≤ 10 ∧ byte ≠ 0 then 1 else byte

theorem length_plainFlags (bytes : Bytes) : (plainFlags bytes).length = bytes.length :=
  List.length_mapIdx

theorem plainFlags_append {head rest : Bytes} {diagnostics reporting valid : UInt8}
    (h : head.length = 8) :
    plainFlags (head ++ diagnostics :: reporting :: valid :: rest) =
      head ++ HkPacket.flagByte (diagnostics != 0) :: HkPacket.flagByte (reporting != 0) ::
        HkPacket.flagByte (valid != 0) :: rest := by
  have hflag (flag : UInt8) : (if flag ≠ 0 then 1 else flag) = HkPacket.flagByte (flag != 0) := by
    by_cases hzero : flag = 0 <;> simp [hzero, HkPacket.flagByte]
  have hhead : plainFlags head = head := by
    refine List.ext_getElem (length_plainFlags head) fun index hindex hhead => ?_
    simp only [plainFlags, List.getElem_mapIdx]
    rw [if_neg (by omega)]
  have hrest : (rest.mapIdx fun _ byte => byte) = rest :=
    List.ext_getElem List.length_mapIdx fun index _ _ => List.getElem_mapIdx
  rw [plainFlags] at hhead
  rw [plainFlags, List.mapIdx_append, hhead, h]
  simp [List.mapIdx_cons, hflag, hrest]

/-- The bytes are too short for so many ids, or they begin with them. -/
theorem short_or_ids (order : ByteOrder) (count position : Nat) (bytes : Bytes) :
    (bytes.length < 4 * count ∧
        ∃ partly next, readIds order count ⟨position, bytes⟩ =
          (.error .streamTooShort, partly, next)) ∨
      ∃ ids later, ids.length = count ∧ bytes = idsImage order ids ++ later := by
  induction count generalizing position bytes with
  | zero => exact .inr ⟨[], bytes, rfl, rfl⟩
  | succ count ih =>
    obtain short | ⟨id, rest, rfl⟩ := Reader.short_or_word order bytes
    · refine .inl ⟨by omega, [], ⟨position, bytes⟩, ?_⟩
      rw [readIds, Reader.readWord_of_lt order position short]
    obtain ⟨short, partly, next, hread⟩ | ⟨ids, later, hcount, rfl⟩ := ih (position + 4) rest
    · refine .inl ⟨?_, id :: partly, next, ?_⟩
      · rw [List.length_append, ByteOrder.length_encode]
        omega
      · rw [readIds, Reader.readWord_encode]
        simp only [hread]
    · refine .inr ⟨id :: ids, later, by rw [List.length_cons, hcount], ?_⟩
      rw [idsImage, idsImage, List.flatMap_cons, List.append_assoc]

end StructureReport

/-! ## Reports as they stand on the wire -/

/-- The fields of a structure report on the wire, where a flag is any byte. -/
structure StructureFields where
  sid : Sid
  diagnostics : UInt8
  reporting : UInt8
  valid : UInt8
  seconds : UInt32
  ids : List LocalPoolId

namespace StructureFields

variable (fields : StructureFields) (order : ByteOrder)

def image : Bytes :=
  order.encode 4 fields.sid.object.toNat ++ (order.encode 4 fields.sid.set.toNat ++
    (fields.diagnostics :: fields.reporting :: fields.valid ::
      (order.encode 4 fields.seconds.toNat ++
        (UInt8.ofNat fields.ids.length :: StructureReport.idsImage order fields.ids))))

/-- What the fields say. -/
def report : StructureReport :=
  ⟨fields.sid, .ofDiagnostics (fields.diagnostics != 0), fields.reporting != 0, fields.valid != 0,
    fields.seconds.toBitVec, fields.ids⟩

/-- The fields that are written for a report. -/
def ofReport (report : StructureReport) : StructureFields :=
  ⟨report.sid, HkPacket.flagByte report.kind.isDiagnostics, HkPacket.flagByte report.reporting,
    HkPacket.flagByte report.valid, UInt32.ofBitVec report.seconds, report.ids⟩

theorem report_ofReport (report : StructureReport) : (ofReport report).report = report := by
  obtain ⟨sid, kind, reporting, valid, seconds, ids⟩ := report
  cases kind <;> cases reporting <;> cases valid <;> rfl

@[simp] theorem length_image : (fields.image order).length = 16 + 4 * fields.ids.length := by
  simp only [image, List.length_append, List.length_cons, ByteOrder.length_encode,
    StructureReport.length_idsImage]
  omega

theorem length_head :
    (order.encode 4 fields.sid.object.toNat ++ order.encode 4 fields.sid.set.toNat).length = 8 := by
  simp only [List.length_append, ByteOrder.length_encode]

theorem announcedSize_image (few : fields.ids.length ≤ 255) (later : Bytes) :
    StructureReport.announcedSize (fields.image order ++ later) = 16 + 4 * fields.ids.length := by
  have hbyte : (fields.image order ++ later).getD 15 0 = UInt8.ofNat fields.ids.length := by
    simp [image, List.getD_eq_getElem?_getD, List.getElem?_append]
  rw [StructureReport.announcedSize, hbyte, UInt8.toNat_ofNat']
  omega

/-- What was read is written as it was, but for the flags. -/
theorem image_report :
    (ofReport fields.report).image order = StructureReport.plainFlags (fields.image order) := by
  have hkind : (ReportKind.ofDiagnostics (fields.diagnostics != 0)).isDiagnostics =
      (fields.diagnostics != 0) := by
    cases fields.diagnostics != 0 <;> rfl
  rw [image, image, ← List.append_assoc, ← List.append_assoc,
    StructureReport.plainFlags_append (fields.length_head order)]
  simp only [ofReport, report, hkind, UInt32.ofBitVec_toBitVec]

theorem deserialize_image (few : fields.ids.length ≤ 255) (report : StructureReport) (later : Bytes) :
    report.deserialize (.ofBytes (fields.image order ++ later)) order =
      (.ok (), fields.report, ⟨16 + 4 * fields.ids.length, later⟩) := by
  have hcount : (UInt8.ofNat fields.ids.length).toNat = fields.ids.length := by
    rw [UInt8.toNat_ofNat']; omega
  simp only [image, List.append_assoc, List.cons_append]
  rw [StructureReport.deserialize, Reader.ofBytes, HkPacket.readSid_encode]
  dsimp only
  rw [Reader.readFlag_cons]
  dsimp only
  rw [Reader.readFlag_cons]
  dsimp only
  rw [Reader.readFlag_cons]
  dsimp only
  rw [Reader.readWord_encode]
  dsimp only
  rw [Reader.readByte_cons]
  dsimp only
  rw [hcount, StructureReport.readIds_image]
  dsimp only
  rfl

end StructureFields

namespace StructureReport

variable (order : ByteOrder)

/-- What stands before the ids, the number of which is the last byte. -/
theorem short_or_head (bytes : Bytes) :
    (bytes.length < 16 ∧ parse bytes order = .error .streamTooShort) ∨
      ∃ (sid : Sid) (diagnostics reporting valid : UInt8) (seconds : UInt32) (count : UInt8)
          (rest : Bytes),
        bytes = order.encode 4 sid.object.toNat ++ (order.encode 4 sid.set.toNat ++
          (diagnostics :: reporting :: valid ::
            (order.encode 4 seconds.toNat ++ (count :: rest)))) := by
  -- The bytes may end in front of each field. If they do not, the field is taken off.
  obtain short | ⟨object, rest, rfl⟩ := Reader.short_or_word order bytes
  · refine .inl ⟨by omega, ?_⟩
    simp only [parse, deserialize, HkPacket.readSid, Reader.ofBytes,
      Reader.readWord_of_lt order _ short]
  obtain short | ⟨set, rest, rfl⟩ := Reader.short_or_word order rest
  · refine .inl ⟨by simp only [List.length_append, ByteOrder.length_encode]; omega, ?_⟩
    simp only [parse, deserialize, HkPacket.readSid, Reader.ofBytes, Reader.readWord_encode,
      Reader.readWord_of_lt order _ short]
  have hsid (rest : Bytes) := HkPacket.readSid_encode order ⟨object, set⟩ 0 rest
  have hlength (rest : Bytes) :
      (order.encode 4 object.toNat ++ (order.encode 4 set.toNat ++ rest)).length =
        8 + rest.length := by
    simp only [List.length_append, ByteOrder.length_encode]; omega
  dsimp only at hsid
  rcases rest with _ | ⟨diagnostics, rest⟩
  · refine .inl ⟨by rw [hlength, List.length_nil]; omega, ?_⟩
    simp only [parse, deserialize, Reader.ofBytes, hsid, Reader.readFlag_nil]
  rcases rest with _ | ⟨reporting, rest⟩
  · refine .inl ⟨by simp only [hlength, List.length_cons, List.length_nil]; omega, ?_⟩
    simp only [parse, deserialize, Reader.ofBytes, hsid, Reader.readFlag_cons, Reader.readFlag_nil]
  rcases rest with _ | ⟨valid, rest⟩
  · refine .inl ⟨by simp only [hlength, List.length_cons, List.length_nil]; omega, ?_⟩
    simp only [parse, deserialize, Reader.ofBytes, hsid, Reader.readFlag_cons, Reader.readFlag_nil]
  obtain short | ⟨seconds, rest, rfl⟩ := Reader.short_or_word order rest
  · refine .inl ⟨by simp only [hlength, List.length_cons]; omega, ?_⟩
    simp only [parse, deserialize, Reader.ofBytes, hsid, Reader.readFlag_cons,
      Reader.readWord_of_lt order _ short]
  rcases rest with _ | ⟨count, rest⟩
  · refine .inl ⟨?_, ?_⟩
    · simp only [hlength, List.length_cons, List.length_append, ByteOrder.length_encode,
        List.length_nil]
      omega
    · simp only [parse, deserialize, Reader.ofBytes, hsid, Reader.readFlag_cons,
        Reader.readWord_encode, Reader.readByte_nil]
  exact .inr ⟨⟨object, set⟩, diagnostics, reporting, valid, seconds, count, rest, rfl⟩

/-- Every byte string is too short for a report, or it is one with something behind it. -/
theorem short_or_fields (bytes : Bytes) :
    ((bytes.length < 16 ∨ bytes.length < announcedSize bytes) ∧
        parse bytes order = .error .streamTooShort) ∨
      ∃ (fields : StructureFields) (later : Bytes),
        fields.ids.length ≤ 255 ∧ bytes = fields.image order ++ later := by
  obtain ⟨short, hparse⟩ | ⟨sid, diagnostics, reporting, valid, seconds, count, rest, rfl⟩ :=
    short_or_head order bytes
  · exact .inl ⟨.inl short, hparse⟩
  obtain ⟨short, partly, next, hread⟩ | ⟨ids, later, hcount, rfl⟩ :=
    short_or_ids order count.toNat 16 rest
  · refine .inl ⟨.inr ?_, ?_⟩
    · have hbyte : List.getD (order.encode 4 sid.object.toNat ++ (order.encode 4 sid.set.toNat ++
          (diagnostics :: reporting :: valid ::
            (order.encode 4 seconds.toNat ++ (count :: rest))))) 15 0 = count := by
        simp [List.getD_eq_getElem?_getD, List.getElem?_append]
      simp only [announcedSize, hbyte, List.length_append, List.length_cons,
        ByteOrder.length_encode]
      omega
    · simp only [parse, deserialize, Reader.ofBytes, HkPacket.readSid_encode, Reader.readFlag_cons,
        Reader.readWord_encode, Reader.readByte_cons, hread]
  · refine .inr ⟨⟨sid, diagnostics, reporting, valid, seconds, ids⟩, later, ?_, ?_⟩
    · have hlt := count.toNat_lt
      show ids.length ≤ 255
      omega
    · simp [StructureFields.image, hcount]

theorem parse_image {fields : StructureFields} (few : fields.ids.length ≤ 255) (later : Bytes) :
    parse (fields.image order ++ later) order = .ok fields.report := by
  rw [parse, fields.deserialize_image order few]

/-! ## There and back -/

/-- What is written for a report. -/
def image (report : StructureReport) : Bytes := (StructureFields.ofReport report).image order

theorem pieces_flatten (report : StructureReport) :
    (report.pieces order).flatten = report.image order := by
  simp [pieces, image, StructureFields.image, StructureFields.ofReport, idsImage, List.flatMap_def]

theorem length_image (report : StructureReport) :
    (report.image order).length = report.wireSize := StructureFields.length_image ..

theorem serialize_eq_appended {report : StructureReport} (few : report.ids.length ≤ 255)
    {writer : Writer} (h : (report.image order).length ≤ writer.remaining) :
    report.serialize writer order = (.ok (), writer.appended (report.image order) h) := by
  have hroom : ¬ writer.remaining < report.wireSize := by
    rw [← length_image order]; omega
  have hpieces : (report.pieces order).flatten.length ≤ writer.remaining := by
    rwa [pieces_flatten]
  have hwritten := Writer.writeAll_of_le hpieces
  rw [pieces_flatten] at hwritten
  rw [serialize, if_neg (by omega), if_neg hroom]
  exact Writer.eq_appended h hwritten

/-- A report can be written, unless it has too many ids for their number to take one byte. -/
theorem toBytes_eq_image {report : StructureReport} (few : report.ids.length ≤ 255) :
    report.toBytes order = .ok (report.image order) := by
  rw [toBytes, ← length_image order]
  apply Writer.collect_of_appended
  intro writer room
  exact serialize_eq_appended order few room

/-- What was written gives back the report. -/
theorem parse_written {report : StructureReport} (few : report.ids.length ≤ 255) :
    parse (report.image order) order = .ok report := by
  have hids : (StructureFields.ofReport report).ids.length ≤ 255 := few
  have hparse := parse_image order hids []
  rwa [List.append_nil, StructureFields.report_ofReport] at hparse

theorem toBytes_of_many {report : StructureReport} (many : 255 < report.ids.length) :
    report.toBytes order = .error .dataTooLarge := by
  simp only [toBytes, Writer.collect, serialize, many, if_true]

theorem toBytes_eq_dataTooLarge_iff {report : StructureReport} :
    report.toBytes order = .error .dataTooLarge ↔ 255 < report.ids.length := by
  refine ⟨fun h => ?_, toBytes_of_many order⟩
  rcases Nat.lt_or_ge 255 report.ids.length with many | few
  · exact many
  · rw [toBytes_eq_image order few] at h
    cases h

theorem parse_eq_streamTooShort_iff (bytes : Bytes) :
    parse bytes order = .error .streamTooShort ↔
      bytes.length < 16 ∨ bytes.length < announcedSize bytes := by
  obtain ⟨short, hparse⟩ | ⟨fields, later, few, rfl⟩ := short_or_fields order bytes
  · simp only [hparse, short]
  · simp only [parse_image order few, fields.announcedSize_image order few, List.length_append,
      StructureFields.length_image, reduceCtorEq, false_iff]
    omega

theorem eq_streamTooShort_of_parse {bytes : Bytes} {error : PoolError}
    (h : parse bytes order = .error error) : error = .streamTooShort := by
  obtain ⟨-, hshort⟩ | ⟨fields, later, few, rfl⟩ := short_or_fields order bytes
  · rw [hshort] at h
    cases h
    rfl
  · rw [parse_image order few] at h
    cases h

/-- A report that was read is written as it stood there, but for its flags. -/
theorem toBytes_of_parse {bytes : Bytes} {report : StructureReport}
    (h : parse bytes order = .ok report) :
    report.toBytes order = .ok (plainFlags (bytes.take (announcedSize bytes))) ∧
      (bytes.take (announcedSize bytes)).length = announcedSize bytes ∧
      ∀ later, parse (bytes.take (announcedSize bytes) ++ later) order = .ok report := by
  obtain ⟨-, hshort⟩ | ⟨fields, later, few, rfl⟩ := short_or_fields order bytes
  · rw [hshort] at h
    cases h
  · rw [parse_image order few] at h
    cases h
    have hsize : announcedSize (fields.image order ++ later) = (fields.image order).length := by
      rw [fields.announcedSize_image order few, StructureFields.length_image]
    rw [hsize, List.take_left, ← fields.image_report order]
    exact ⟨toBytes_eq_image order few, rfl, parse_image order few⟩

/-- **Structure reports are read as they were written, and written as they were read.** Only the
number of ids can keep a report from being written, and what was written gives back the report. Only
too short bytes cannot be read, and a report that was read is written as it stood there, but for its
flags; nothing behind it matters. -/
theorem codec_both_ways :
    (∀ report : StructureReport,
      (report.toBytes order = .error .dataTooLarge ↔ 255 < report.ids.length) ∧
      (report.ids.length ≤ 255 →
        ∃ bytes, report.toBytes order = .ok bytes ∧ parse bytes order = .ok report)) ∧
    ∀ bytes : Bytes,
      (parse bytes order = .error .streamTooShort ↔
        bytes.length < 16 ∨ bytes.length < announcedSize bytes) ∧
      (∀ error, parse bytes order = .error error → error = .streamTooShort) ∧
      ∀ report, parse bytes order = .ok report →
        ∃ written, report.toBytes order = .ok written ∧
          written.length = announcedSize bytes ∧
          written = plainFlags (bytes.take (announcedSize bytes)) ∧
          ∀ later, parse (bytes.take (announcedSize bytes) ++ later) order = .ok report := by
  refine ⟨fun report => ⟨toBytes_eq_dataTooLarge_iff order, fun few => ?_⟩, fun bytes =>
    ⟨parse_eq_streamTooShort_iff order bytes, fun error => eq_streamTooShort_of_parse order,
      fun report hreport => ?_⟩⟩
  · exact ⟨_, toBytes_eq_image order few, parse_written order few⟩
  · obtain ⟨hwritten, hsize, hlater⟩ := toBytes_of_parse order hreport
    exact ⟨_, hwritten, (length_plainFlags _).trans hsize, rfl, hlater⟩

/-- The flag of a diagnostics set is seven here, and one byte follows. -/
example : parse [0, 0, 0, 7, 0, 0, 0, 1, 7, 0, 1, 63, 128, 0, 0, 1, 0, 0, 0, 9, 255] .big =
    .ok ⟨⟨7, 1⟩, .diagnostics, false, true, 0x3f800000, [9]⟩ := by cbv

end StructureReport

end Housekeeper
