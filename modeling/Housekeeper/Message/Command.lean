import Housekeeper.Error
import Housekeeper.Identifier
import Housekeeper.Number.Binary
import Housekeeper.Report.Kind

/-!
# Housekeeping commands

Requests to a manager, its replies and reports, and the notices it sends to subscribers. Every
command has a name, under which it is written as text, and a 16-bit id. Reports and snapshots
refer to an element of the packet store, which belongs to whoever holds the message.
-/

namespace Housekeeper

inductive Command where
  /-- Switches the periodic reports of a set on or off. -/
  | setReporting (kind : ReportKind) (enabled : Bool) (sid : Sid)
  | requestStructure (kind : ReportKind) (sid : Sid)
  | structureReport (kind : ReportKind) (sid : Sid) (store : StoreId)
  | report (kind : ReportKind) (sid : Sid) (store : StoreId)
  /-- Asks for one report at once. -/
  | requestReport (kind : ReportKind) (sid : Sid)
  | setInterval (kind : ReportKind) (sid : Sid) (seconds : Binary32)
  | success (sid : Sid)
  | failure (sid : Sid) (code : UInt16)
  | setChanged (sid : Sid)
  | variableChanged (gpid : Gpid)
  | setSnapshot (sid : Sid) (store : StoreId)
  | variableSnapshot (gpid : Gpid) (store : StoreId)
deriving DecidableEq

namespace Command

def ofError (sid : Sid) (error : PoolError) : Command := failure sid error.code

def name : Command → String
  | setReporting .regular true _ => "EnablePeriodicHkGeneration"
  | setReporting .regular false _ => "DisablePeriodicHkGeneration"
  | setReporting .diagnostics true _ => "EnablePeriodicDiagnosticsGeneration"
  | setReporting .diagnostics false _ => "DisablePeriodicDiagnosticsGeneration"
  | requestStructure .regular _ => "ReportHkStructures"
  | requestStructure .diagnostics _ => "ReportDiagnosticsStructures"
  | structureReport .regular _ _ => "HkDefinitionsReport"
  | structureReport .diagnostics _ _ => "DiagnosticsDefinitionReport"
  | report .regular _ _ => "HkReport"
  | report .diagnostics _ _ => "DiagnosticsReport"
  | requestReport .regular _ => "GenerateOneParameterReport"
  | requestReport .diagnostics _ => "GenerateOneDiagnosticsReport"
  | setInterval .regular _ _ => "ModifyParameterReportCollectionInterval"
  | setInterval .diagnostics _ _ => "ModifyDiagnosticsReportCollectionInterval"
  | success _ => "HkRequestSuccess"
  | failure _ _ => "HkRequestFailure"
  | setChanged _ => "UpdateNotificationSet"
  | variableChanged _ => "UpdateNotificationVariable"
  | setSnapshot _ _ => "UpdateSnapshotSet"
  | variableSnapshot _ _ => "UpdateSnapshotVariable"

/-- The running number of a command within the housekeeping messages. -/
def number : Command → UInt8
  | setReporting .regular true _ => 5
  | setReporting .regular false _ => 6
  | setReporting .diagnostics true _ => 7
  | setReporting .diagnostics false _ => 8
  | requestStructure .regular _ => 9
  | requestStructure .diagnostics _ => 11
  | structureReport .regular _ _ => 10
  | structureReport .diagnostics _ _ => 12
  | report .regular _ _ => 25
  | report .diagnostics _ _ => 26
  | requestReport .regular _ => 27
  | requestReport .diagnostics _ => 28
  | setInterval .regular _ _ => 31
  | setInterval .diagnostics _ _ => 32
  | success _ => 128
  | failure _ _ => 129
  | setChanged _ => 130
  | variableChanged _ => 131
  | setSnapshot _ _ => 132
  | variableSnapshot _ _ => 133

/-- The message type of housekeeping. -/
def messageType : UInt8 := 11

def id (command : Command) : UInt16 :=
  UInt16.ofNat (messageType.toNat * 256 + command.number.toNat)

def sid? : Command → Option Sid
  | setReporting _ _ sid | requestStructure _ sid | structureReport _ sid _ | report _ sid _
  | requestReport _ sid | setInterval _ sid _ | success sid | failure sid _ | setChanged sid
  | setSnapshot sid _ => some sid
  | variableChanged _ | variableSnapshot _ _ => none

def gpid? : Command → Option Gpid
  | variableChanged gpid | variableSnapshot gpid _ => some gpid
  | _ => none

/-- The store element that the command refers to. -/
def store? : Command → Option StoreId
  | structureReport _ _ store | report _ _ store | setSnapshot _ store
  | variableSnapshot _ store => some store
  | _ => none

def seconds? : Command → Option Binary32
  | setInterval _ _ seconds => some seconds
  | _ => none

def code? : Command → Option UInt16
  | failure _ code => some code
  | _ => none

/-- The error that a failure reply carries. -/
def error? (command : Command) : Option PoolError := command.code?.bind PoolError.ofCode?

/-- The requests that a manager answers. -/
def isRequest : Command → Bool
  | setReporting .. | requestStructure .. | requestReport .. | setInterval .. => true
  | _ => false

end Command

/-- A command on its way, with the queue that sent it. -/
structure CommandMessage where
  sender : QueueId
  command : Command
deriving DecidableEq

namespace CommandMessage

/-- The sender is filled in by the sending queue. -/
def ofCommand (command : Command) : CommandMessage := ⟨noQueue, command⟩

end CommandMessage

end Housekeeper
