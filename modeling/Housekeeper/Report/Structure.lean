import Housekeeper.Report.Packet

/-!
# Structure reports

A structure report tells how a data set is made up: its id, its flags, its collection interval and
the ids of its variables. The number of variables takes one byte, so that a report of more than
255 of them cannot be written.
-/

namespace Housekeeper

structure StructureReport where
  sid : Sid
  kind : ReportKind
  reporting : Bool
  valid : Bool
  seconds : Binary32
  ids : List LocalPoolId
deriving DecidableEq

namespace StructureReport

def empty : StructureReport := ⟨.invalid, .regular, false, false, 0, []⟩

def ofSet (set : Dataset) (seconds : Binary32) : StructureReport :=
  ⟨set.sid, set.kind, set.reporting, set.valid, seconds, set.localPoolIds⟩

def wireSize (report : StructureReport) : Nat := 16 + 4 * report.ids.length

def pieces (report : StructureReport) (order : ByteOrder) : List Bytes :=
  [order.encode 4 report.sid.object.toNat, order.encode 4 report.sid.set.toNat,
   [HkPacket.flagByte report.kind.isDiagnostics], [HkPacket.flagByte report.reporting],
   [HkPacket.flagByte report.valid], order.encode 4 report.seconds.toNat,
   [UInt8.ofNat report.ids.length]] ++
    report.ids.map fun id => order.encode 4 id.toNat

def serialize (report : StructureReport) (writer : Writer) (order : ByteOrder) :
    Except PoolError Unit × Writer :=
  if 255 < report.ids.length then (.error .dataTooLarge, writer)
  else if writer.remaining < report.wireSize then (.error .bufferTooShort, writer)
  else writer.writeAll (report.pieces order)

def toBytes (report : StructureReport) (order : ByteOrder) : Except PoolError Bytes :=
  Writer.collect report.wireSize fun writer => report.serialize writer order

/-- The ids that could be read, up to the first that is missing. -/
def readIds (order : ByteOrder) : (count : Nat) → Reader →
    Except PoolError Unit × List LocalPoolId × Reader
  | 0, reader => (.ok (), [], reader)
  | count + 1, reader =>
    match reader.readWord order with
    | (.error e, next) => (.error e, [], next)
    | (.ok id, next) =>
      let (result, ids, last) := readIds order count next
      (result, id :: ids, last)

/-- Field by field; what was read before a failure stays. -/
def deserialize (report : StructureReport) (reader : Reader) (order : ByteOrder) :
    Except PoolError Unit × StructureReport × Reader :=
  match HkPacket.readSid reader order with
  | (.error e, next) => (.error e, report, next)
  | (.ok sid, next) =>
  let report := { report with sid }
  match next.readFlag with
  | (.error e, next) => (.error e, report, next)
  | (.ok diagnostics, next) =>
  let report := { report with kind := .ofDiagnostics diagnostics }
  match next.readFlag with
  | (.error e, next) => (.error e, report, next)
  | (.ok reporting, next) =>
  let report := { report with reporting }
  match next.readFlag with
  | (.error e, next) => (.error e, report, next)
  | (.ok valid, next) =>
  let report := { report with valid }
  match next.readWord order with
  | (.error e, next) => (.error e, report, next)
  | (.ok seconds, next) =>
  let report := { report with seconds := seconds.toBitVec }
  match next.readByte with
  | (.error e, next) => (.error e, report, next)
  | (.ok count, next) =>
  let (result, ids, next) := readIds order count.toNat next
  (result, { report with ids }, next)

def parse (bytes : Bytes) (order : ByteOrder) : Except PoolError StructureReport :=
  match empty.deserialize (Reader.ofBytes bytes) order with
  | (.ok (), report, _) => .ok report
  | (.error e, _, _) => .error e

end StructureReport

end Housekeeper
