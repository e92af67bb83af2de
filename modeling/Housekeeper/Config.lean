import Housekeeper.Identifier
import Housekeeper.Json.Record

/-!
# Configuration

Settings of a housekeeping manager and of the packet store, and their JSON form. Settings of the
manager that are not given keep their defaults; the pages of the store must be given.
-/

namespace Housekeeper

/-- How many subscriptions a manager holds. -/
def maxReceivers : Nat := 32

/-- How many sets and variables with update subscriptions a manager keeps count of. -/
def maxUpdateCounts : Nat := 32

structure ManagerConfig where
  /-- How much slower regular reports are than diagnostics. -/
  regularFactor : UInt8 := 5
  /-- Do the reports of subscribed sets end with a validity mask? -/
  validityMask : Bool := true
  /-- Where reports go; otherwise to the default destination of the manager's queue. -/
  destination : Option QueueId := none
  lockMillis : UInt32 := 20
deriving DecidableEq

namespace ManagerConfig

def fieldNames : List String :=
  ["non_diagnostic_interval_factor", "append_validity_buffer", "hk_destination",
   "lock_timeout_ms"]

/-- A field that is not given has its default. -/
def setting? {α : Type} (read : Json → Option α) (default : α) : Option Json → Option α
  | some value => read value
  | none => some default

def destination? : Json → Option (Option QueueId)
  | .null => some none
  | value => value.word?.map some

def ofJson? (value : Json) : Option ManagerConfig :=
  let default : ManagerConfig := {}
  match value.fields? fieldNames with
  | some [factor, mask, destination, lock] => return {
      regularFactor := ← setting? Json.byte? default.regularFactor factor
      validityMask := ← setting? Json.bool? default.validityMask mask
      destination := ← setting? destination? default.destination destination
      lockMillis := ← setting? Json.word? default.lockMillis lock }
  | _ => none

def parse? (text : String) : Option ManagerConfig := (Json.parse? text).bind ofJson?

def jsonText (config : ManagerConfig) : String :=
  Json.objectText <| fieldNames.zip
    [toString config.regularFactor.toNat,
     toString config.validityMask,
     match config.destination with
     | some destination => toString destination.toNat
     | none => "null",
     toString config.lockMillis.toNat]

end ManagerConfig

structure PageConfig where
  elements : UInt16
  /-- Bytes per element. -/
  elementSize : UInt64
deriving DecidableEq

namespace PageConfig

def ofJson? (value : Json) : Option PageConfig :=
  match value.allFields? ["number_of_elements", "element_size"] with
  | some [elements, size] =>
    return ⟨← elements.half?, (← size.nat? UInt64.size).toUInt64⟩
  | _ => none

def jsonText (config : PageConfig) : String :=
  Json.objectText
    [("number_of_elements", toString config.elements.toNat),
     ("element_size", toString config.elementSize.toNat)]

end PageConfig

structure StoreConfig where
  pages : List PageConfig
deriving DecidableEq

namespace StoreConfig

def standard : StoreConfig := ⟨[⟨32, 32⟩, ⟨16, 256⟩, ⟨8, 1024⟩]⟩

def ofJson? (value : Json) : Option StoreConfig :=
  match value.allFields? ["pages"] with
  | some [.array pages] => (pages.mapM PageConfig.ofJson?).map StoreConfig.mk
  | _ => none

def parse? (text : String) : Option StoreConfig := (Json.parse? text).bind ofJson?

def jsonText (config : StoreConfig) : String :=
  Json.objectText [("pages", Json.arrayText (config.pages.map PageConfig.jsonText))]

end StoreConfig

end Housekeeper
