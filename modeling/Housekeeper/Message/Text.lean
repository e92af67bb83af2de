import Housekeeper.Json.Record
import Housekeeper.Message.Command
import Housekeeper.Number.FloatText

/-!
# Messages as JSON

A message is a record of its sender and its command. A command is an object whose only member is
named for the command and holds the record of its fields.
-/

namespace Housekeeper

/-- How floats are written in JSON. -/
def jsonFloatText : FloatText where
  tie := .even
  positionalFrom := -6
  positionalTo := 12
  signedExponent := true
  nan := "null"
  infinity := "null"
  negativeInfinity := "null"

namespace Binary32

def jsonText (x : Binary32) : String := jsonFloatText.render binary32 x.value

end Binary32

namespace Sid

def jsonText (sid : Sid) : String :=
  Json.objectText
    [("object_id", toString sid.object.toNat), ("set_id", toString sid.set.toNat)]

def ofJson? (value : Json) : Option Sid :=
  match value.allFields? ["object_id", "set_id"] with
  | some [object, set] => return ⟨← object.word?, ← set.word?⟩
  | _ => none

end Sid

namespace Gpid

def jsonText (gpid : Gpid) : String :=
  Json.objectText
    [("object_id", toString gpid.object.toNat), ("local_pool_id", toString gpid.parameter.toNat)]

def ofJson? (value : Json) : Option Gpid :=
  match value.allFields? ["object_id", "local_pool_id"] with
  | some [object, parameter] => return ⟨← object.word?, ← parameter.word?⟩
  | _ => none

end Gpid

namespace StoreId

def jsonText (id : StoreId) : String :=
  Json.objectText
    [("pool_index", toString id.page.toNat), ("packet_index", toString id.slot.toNat)]

def ofJson? (value : Json) : Option StoreId :=
  match value.allFields? ["pool_index", "packet_index"] with
  | some [page, slot] => return ⟨← page.half?, ← slot.half?⟩
  | _ => none

end StoreId

namespace Command

/-- The fields that a command has, in the order in which they are written. -/
def fieldTexts (command : Command) : List (String × String) :=
  [command.sid?.map fun sid => ("sid", sid.jsonText),
   command.gpid?.map fun gpid => ("gpid", gpid.jsonText),
   command.store?.map fun store => ("store_id", store.jsonText),
   command.seconds?.map fun seconds => ("interval_s", seconds.jsonText),
   command.code?.map fun code => ("error_code", toString code.toNat)].reduceOption

def jsonText (command : Command) : String :=
  Json.objectText [(command.name, Json.objectText command.fieldTexts)]

def ofSid? (make : Sid → Command) (fields : Json) : Option Command :=
  match fields.allFields? ["sid"] with
  | some [sid] => (Sid.ofJson? sid).map make
  | _ => none

def ofSidStore? (make : Sid → StoreId → Command) (fields : Json) : Option Command :=
  match fields.allFields? ["sid", "store_id"] with
  | some [sid, store] => return make (← Sid.ofJson? sid) (← StoreId.ofJson? store)
  | _ => none

def ofSidSeconds? (make : Sid → Binary32 → Command) (fields : Json) : Option Command :=
  match fields.allFields? ["sid", "interval_s"] with
  | some [sid, seconds] => return make (← Sid.ofJson? sid) (← seconds.float?)
  | _ => none

/-- The command of a name, from the record of its fields. -/
def ofFields? (name : String) (fields : Json) : Option Command :=
  match name with
  | "EnablePeriodicHkGeneration" => ofSid? (setReporting .regular true) fields
  | "DisablePeriodicHkGeneration" => ofSid? (setReporting .regular false) fields
  | "EnablePeriodicDiagnosticsGeneration" => ofSid? (setReporting .diagnostics true) fields
  | "DisablePeriodicDiagnosticsGeneration" => ofSid? (setReporting .diagnostics false) fields
  | "ReportHkStructures" => ofSid? (requestStructure .regular) fields
  | "ReportDiagnosticsStructures" => ofSid? (requestStructure .diagnostics) fields
  | "HkDefinitionsReport" => ofSidStore? (structureReport .regular) fields
  | "DiagnosticsDefinitionReport" => ofSidStore? (structureReport .diagnostics) fields
  | "HkReport" => ofSidStore? (report .regular) fields
  | "DiagnosticsReport" => ofSidStore? (report .diagnostics) fields
  | "GenerateOneParameterReport" => ofSid? (requestReport .regular) fields
  | "GenerateOneDiagnosticsReport" => ofSid? (requestReport .diagnostics) fields
  | "ModifyParameterReportCollectionInterval" => ofSidSeconds? (setInterval .regular) fields
  | "ModifyDiagnosticsReportCollectionInterval" => ofSidSeconds? (setInterval .diagnostics) fields
  | "HkRequestSuccess" => ofSid? success fields
  | "HkRequestFailure" =>
    match fields.allFields? ["sid", "error_code"] with
    | some [sid, code] => return failure (← Sid.ofJson? sid) (← code.half?)
    | _ => none
  | "UpdateNotificationSet" => ofSid? setChanged fields
  | "UpdateNotificationVariable" =>
    match fields.allFields? ["gpid"] with
    | some [gpid] => (Gpid.ofJson? gpid).map variableChanged
    | _ => none
  | "UpdateSnapshotSet" => ofSidStore? setSnapshot fields
  | "UpdateSnapshotVariable" =>
    match fields.allFields? ["gpid", "store_id"] with
    | some [gpid, store] => return variableSnapshot (← Gpid.ofJson? gpid) (← StoreId.ofJson? store)
    | _ => none
  | _ => none

def ofJson? : Json → Option Command
  | .object [(some name, fields)] => ofFields? name fields
  | _ => none

end Command

namespace CommandMessage

def jsonText (message : CommandMessage) : String :=
  Json.objectText
    [("sender", toString message.sender.toNat), ("command", message.command.jsonText)]

def ofJson? (value : Json) : Option CommandMessage :=
  match value.allFields? ["sender", "command"] with
  | some [sender, command] => return ⟨← sender.word?, ← Command.ofJson? command⟩
  | _ => none

def parse? (text : String) : Option CommandMessage := (Json.parse? text).bind ofJson?

end CommandMessage

end Housekeeper
