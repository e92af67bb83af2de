import Housekeeper.Message.Text
import Housekeeper.Simulation.Options
import Housekeeper.Simulation.Thermal

/-!
# Runs of the simulator

The controller, a ground segment and an operations component share one queue hub and one packet
store. In every cycle ground may send a command, the controller works, and then ground and
operations read all that came in and release the store data that belongs to it, ground only that
of reports. What they saw is a list of events.
-/

namespace Housekeeper.Simulation

def queueDepth : Nat := 32

structure Simulator (σ : Type) where
  state : HkState σ
  bank : PoolBank
  ground : QueueId
  operations : QueueId

/-- What ground made of a packet. -/
structure PacketRecord where
  cycle : UInt32
  kind : String
  sid : Sid
  valid : Bool
  /-- Ids and collection interval of a structure report. -/
  structureFields : Option (List LocalPoolId × Binary32)
  payload : Bytes

namespace PacketRecord

def jsonText (record : PacketRecord) : String :=
  let structureFields :=
    match record.structureFields with
    | none => []
    | some (ids, seconds) =>
      [("local_pool_ids", Json.arrayText (ids.map fun id => toString id.toNat)),
       ("collection_interval_s", seconds.jsonText)]
  Json.objectText
    ([("cycle", toString record.cycle.toNat), ("kind", "\"" ++ record.kind ++ "\""),
      ("sid", "\"" ++ record.sid.text ++ "\""), ("valid", toString record.valid)] ++
      structureFields ++
      [("payload", Json.arrayText (record.payload.map fun byte => toString byte.toNat))])

end PacketRecord

inductive Event where
  | packet (record : PacketRecord)
  | success (sid : Sid)
  | failure (sid : Sid) (code : UInt16)
  | snapshot (sid : Sid) (time : CdsTime)
  | changed (gpid : Gpid)

namespace Event

/-- One line of output; times are written by the given function. -/
def text (timeText : CdsTime → String) : Event → String
  | packet record => "📡 " ++ record.jsonText
  | success sid => "✅ request succeeded for " ++ sid.text
  | failure sid code =>
    "❌ request failed for " ++ sid.text ++ " (0x" ++
      (ByteOrder.big.encode 2 code.toNat).hexText ++ ")"
  | snapshot sid time => "📸 snapshot of " ++ sid.text ++ " taken at " ++ timeText time
  | changed gpid => "🔔 " ++ gpid.text ++ " changed"

end Event

namespace Simulator

variable {σ : Type}

/-- The controller with its pool filled and its subscriptions made. -/
def create (options : Options) (config : ManagerConfig) : Simulator Facilities :=
  let facilities := Facilities.ofConfig .standard
  let (ground, hub) := facilities.hub.create queueDepth
  let (operations, hub) := hub.create queueDepth
  let (queue, hub) := hub.create queueDepth
  let config : ManagerConfig :=
    { config with regularFactor := options.factor, destination := some ground }
  let (manager, bank) := HkManager.create .empty controllerId queue none config
  let owner := controller manager.pool options.period
  let (_, manager, owner, bank) :=
    manager.start owner bank (controllerSetup options.period operations)
  ⟨⟨manager, owner, { facilities with hub }⟩, bank, ground, operations⟩

/-- The command that ground sends at the beginning of a cycle. -/
def groundCommand? (cycle : UInt32) : Option Command :=
  if cycle = 3 then some (.requestStructure .regular statusSid)
  else if cycle = 6 then some (.requestReport .diagnostics diagnosticsSid)
  else if cycle = 8 then some (.requestReport .diagnostics statusSid)
  else if cycle = 10 then some (.setReporting .diagnostics false diagnosticsSid)
  else none

def withServices (simulator : Simulator σ) (services : σ) : Simulator σ :=
  { simulator with state := { simulator.state with services } }

def sendGroundCommand (station : Station σ) (simulator : Simulator σ) (cycle : UInt32) :
    Simulator σ :=
  match groundCommand? cycle with
  | none => simulator
  | some command =>
    simulator.withServices (station.send simulator.ground simulator.state.manager.queue command
      simulator.state.services).2

/-- Control, then the requests that wait, then a housekeeping pass. -/
def work (station : Station σ) (temperature : Binary32) (clock : Nat → CdsTime)
    (simulator : Simulator σ) : Simulator σ :=
  let (_, owner, bank) := control temperature simulator.state.owner simulator.bank
  let (_, state) := { simulator.state with owner }.process station
  let (_, state) := state.pass station.toServices clock
  { simulator with state, bank }

/-- Takes all messages out of a queue. -/
def takeAll (station : Station σ) (simulator : Simulator σ) (queue : QueueId) :
    List CommandMessage × Simulator σ :=
  let messages := (station.facilities simulator.state.services).hub.pending queue
  let services :=
    messages.foldl (fun services _ => (station.receive queue services).2) simulator.state.services
  (messages, simulator.withServices services)

def release (station : Station σ) (simulator : Simulator σ) (message : CommandMessage) :
    Simulator σ :=
  simulator.withServices (station.release message simulator.state.services).2

/-- The packet of a report that can be read. -/
def recordReport? (store : PacketStore) (cycle : UInt32) (kind : ReportKind) (id : StoreId) :
    Option PacketRecord :=
  match (store.get id).bind fun data => PacketHeader.parse data .big with
  | .error _ => none
  | .ok (header, payload) =>
    some ⟨cycle, if kind.isDiagnostics then "diagnostics" else "hk", header.sid, header.valid, none,
      payload⟩

def recordStructure? (store : PacketStore) (cycle : UInt32) (id : StoreId) : Option PacketRecord :=
  match (store.get id).bind fun data => StructureReport.parse data .big with
  | .error _ => none
  | .ok report =>
    some ⟨cycle, "structure", report.sid, report.valid, some (report.ids, report.seconds), []⟩

/-- What ground makes of a message. -/
def groundEvent? (store : PacketStore) (cycle : UInt32) : Command → Option Event
  | .report kind _ id => (recordReport? store cycle kind id).map Event.packet
  | .structureReport _ _ id => (recordStructure? store cycle id).map Event.packet
  | .success sid => some (.success sid)
  | .failure sid code => some (.failure sid code)
  | _ => none

/-- What operations make of a message. -/
def operationsEvent? (store : PacketStore) : Command → Option Event
  | .setSnapshot sid id =>
    match (store.get id).bind CdsTime.ofBytes with
    | .ok time => some (.snapshot sid time)
    | .error _ => none
  | .variableChanged gpid => some (.changed gpid)
  | _ => none

/-- Ground releases what comes with reports and leaves anything else alone. -/
def groundReleases : Command → Bool
  | .report .. | .structureReport .. => true
  | _ => false

/-- Reads the messages one by one, and releases what belongs to those that are `released`. -/
def readMessages (station : Station σ) (event? : PacketStore → Command → Option Event)
    (released : Command → Bool) : List CommandMessage → Simulator σ → List Event × Simulator σ
  | [], simulator => ([], simulator)
  | message :: rest, simulator =>
    let event := event? (station.facilities simulator.state.services).store message.command
    let simulator :=
      if released message.command then simulator.release station message else simulator
    let (events, simulator) := readMessages station event? released rest simulator
    (event.toList ++ events, simulator)

/-- Takes all messages out of a queue and reads them. -/
def drain (station : Station σ) (queue : QueueId) (event? : PacketStore → Command → Option Event)
    (released : Command → Bool) (simulator : Simulator σ) : List Event × Simulator σ :=
  let (messages, simulator) := simulator.takeAll station queue
  readMessages station event? released messages simulator

def cycle (station : Station σ) (temperature : Binary32) (clock : Nat → CdsTime)
    (number : UInt32) (simulator : Simulator σ) : List Event × Simulator σ :=
  let simulator := (simulator.sendGroundCommand station number).work station temperature clock
  let (seen, simulator) := simulator.drain station simulator.ground
    (fun store command => groundEvent? store number command) groundReleases
  let (heard, simulator) :=
    simulator.drain station simulator.operations operationsEvent? fun _ => true
  (seen ++ heard, simulator)

/-- The cycles with the numbers after `done`. -/
def cycles (station : Station σ) (temperature : UInt32 → Binary32)
    (clock : UInt32 → Nat → CdsTime) :
    (count done : Nat) → Simulator σ → List Event × Simulator σ
  | 0, _, simulator => ([], simulator)
  | count + 1, done, simulator =>
    let number := UInt32.ofNat (done + 1)
    let (events, simulator) := simulator.cycle station (temperature number) (clock number) number
    let (later, simulator) := cycles station temperature clock count (done + 1) simulator
    (events ++ later, simulator)

def freeElements (simulator : Simulator Facilities) : Nat :=
  simulator.state.services.store.freeCount

end Simulator

/-! ## Output -/

def banner : List String :=
  ["🛰️  satpool housekeeping simulator", "================================"]

def finalLine (simulator : Simulator Facilities) : String :=
  "🚀 simulation finished, " ++ toString simulator.freeElements ++ " free store elements"

/-- The configuration of a run, if it can be read. -/
def loadConfig? (readFile : String → Option String) : Option String → Option ManagerConfig
  | none => some {}
  | some path => (readFile path).bind ManagerConfig.parse?

/-- A call of the simulator, up to its first cycle. -/
inductive Launch where
  /-- It ends with this exit code and output. -/
  | ended (code : UInt32) (lines : List String)
  /-- The banner is out, and the cycles of the options follow. -/
  | started (options : Options) (simulator : Simulator Facilities)

/-- A task without period cannot be scheduled, which ends the program abnormally. -/
def launch (arguments : List String) (readFile : String → Option String) : Launch :=
  match Options.parse arguments with
  | .error .help => .ended 0 helpText
  | .error .version => .ended 0 versionText
  | .error .invalid => .ended 1 []
  | .ok options =>
    match loadConfig? readFile options.config with
    | none => .ended 1 banner
    | some config =>
      if options.period = 0 then .ended 134 banner
      else .started options (Simulator.create options config)

/-- Exit code and output of a run, with what the clock shows in every cycle. -/
def transcript (arguments : List String) (readFile : String → Option String)
    (clock : UInt32 → Nat → CdsTime) (timeText : CdsTime → String) : UInt32 × List String :=
  match launch arguments readFile with
  | .ended code lines => (code, lines)
  | .started options simulator =>
    let (events, simulator) :=
      simulator.cycles Facilities.station measured clock options.cycles.toNat 0
    (0, banner ++ events.map (Event.text timeText) ++ [finalLine simulator])

end Housekeeper.Simulation
