/-!
# Errors of the local data pool

Every operation of the library fails with one of these causes. Each cause has a 16-bit code
(interface number in the high byte, running number in the low byte), which travels in failure
replies, and a text for people. `ofCode?_code` says that the code names its cause.
-/

namespace Housekeeper

inductive PoolError where
  | poolEntryNotFound
  | poolEntryTypeConflict
  | poolMapAlreadyInitialized
  | lockTimeout
  | dataSetUninitialised
  | poolVarNull
  | dataSetFull
  | setWasAlreadyRead
  | invalidParameterDefinition
  | commitWithoutRead
  | foreignPoolVariable
  | readOnlyVariable
  | queueOrDestinationInvalid
  | wrongHkPacketType
  | reportingStatusUnchanged
  | periodicHelperInvalid
  | poolObjectNotFound
  | datasetNotFound
  | receiverListFull
  | unknownCommand
  | queueFull
  | storeFull
  | dataTooLarge
  | dataDoesNotExist
  | bufferTooShort
  | streamTooShort
  | objectNotFound
deriving DecidableEq, Inhabited

namespace PoolError

def all : List PoolError :=
  [poolEntryNotFound, poolEntryTypeConflict, poolMapAlreadyInitialized, lockTimeout,
   dataSetUninitialised, poolVarNull, dataSetFull, setWasAlreadyRead, invalidParameterDefinition,
   commitWithoutRead, foreignPoolVariable, readOnlyVariable, queueOrDestinationInvalid,
   wrongHkPacketType, reportingStatusUnchanged, periodicHelperInvalid, poolObjectNotFound,
   datasetNotFound, receiverListFull, unknownCommand, queueFull, storeFull, dataTooLarge,
   dataDoesNotExist, bufferTooShort, streamTooShort, objectNotFound]

def code : PoolError → UInt16
  | poolEntryNotFound => 0x0D00
  | poolEntryTypeConflict => 0x0D01
  | poolMapAlreadyInitialized => 0x0D02
  | lockTimeout => 0x0D03
  | dataSetUninitialised => 0x0E01
  | poolVarNull => 0x0E02
  | dataSetFull => 0x0E03
  | setWasAlreadyRead => 0x0E04
  | invalidParameterDefinition => 0x0E05
  | commitWithoutRead => 0x0E06
  | foreignPoolVariable => 0x0E07
  | readOnlyVariable => 0x0F01
  | queueOrDestinationInvalid => 0x1000
  | wrongHkPacketType => 0x1001
  | reportingStatusUnchanged => 0x1002
  | periodicHelperInvalid => 0x1003
  | poolObjectNotFound => 0x1004
  | datasetNotFound => 0x1005
  | receiverListFull => 0x1006
  | unknownCommand => 0x1007
  | queueFull => 0x1102
  | storeFull => 0x1202
  | dataTooLarge => 0x1203
  | dataDoesNotExist => 0x1207
  | bufferTooShort => 0x1301
  | streamTooShort => 0x1302
  | objectNotFound => 0x1401

/-- The cause with the given code, if there is one. -/
def ofCode? (code : UInt16) : Option PoolError :=
  all.find? fun error => error.code == code

def message : PoolError → String
  | poolEntryNotFound => "pool entry not found"
  | poolEntryTypeConflict => "pool entry type conflict"
  | poolMapAlreadyInitialized => "pool map was already initialized"
  | lockTimeout => "pool mutex lock timed out"
  | dataSetUninitialised => "data set is not in the uninitialised state"
  | poolVarNull => "pool variable is null"
  | dataSetFull => "data set is full"
  | setWasAlreadyRead => "data set was already read"
  | invalidParameterDefinition => "invalid parameter definition"
  | commitWithoutRead => "commit without read on a readable variable"
  | foreignPoolVariable => "variable belongs to a different pool owner"
  | readOnlyVariable => "variable is read-only"
  | queueOrDestinationInvalid => "queue or destination not set"
  | wrongHkPacketType => "wrong housekeeping packet type"
  | reportingStatusUnchanged => "reporting status unchanged"
  | periodicHelperInvalid => "periodic helper invalid"
  | poolObjectNotFound => "pool object not found"
  | datasetNotFound => "data set not found"
  | receiverListFull => "housekeeping receiver list is full"
  | unknownCommand => "unknown command"
  | queueFull => "message queue full"
  | storeFull => "store is full"
  | dataTooLarge => "data too large for any store page"
  | dataDoesNotExist => "store data does not exist"
  | bufferTooShort => "buffer too short"
  | streamTooShort => "stream too short"
  | objectNotFound => "object not found"

/-- Errors that a correctly configured component never meets. -/
def isConfiguration : PoolError → Bool
  | poolEntryNotFound | poolEntryTypeConflict | poolMapAlreadyInitialized | dataSetUninitialised
  | poolVarNull | dataSetFull | commitWithoutRead | foreignPoolVariable | datasetNotFound
  | poolObjectNotFound | periodicHelperInvalid => true
  | _ => false

theorem ofCode?_code (error : PoolError) : ofCode? error.code = some error := by
  cases error <;> rfl

end PoolError

end Housekeeper
