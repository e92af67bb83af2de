import Housekeeper.Dataset.Transaction
import Housekeeper.Manager.Process

/-!
# Thermal controller

The component that the simulator runs: a temperature that swings around twenty degrees, a heater
that is switched by it, three panel temperatures and a count of limit violations. The status set
is reported as regular housekeeping, the violations as diagnostics.
-/

namespace Housekeeper.Simulation

def controllerId : ObjectId := 0x44000001

def temperatureId : LocalPoolId := 1

def heaterId : LocalPoolId := 2

def panelsId : LocalPoolId := 3

def violationsId : LocalPoolId := 10

def statusSid : Sid := ⟨controllerId, 1⟩

def diagnosticsSid : Sid := ⟨controllerId, 2⟩

/-! ## Temperatures -/

def sine (x : Binary32) : Binary32 := (Float32.ofBits (UInt32.ofBitVec x)).sin.toBits.toBitVec

/-- The measured temperature of a cycle. -/
def measured (cycle : UInt32) : Binary32 :=
  let step := (Binary32.ofRat (35 / 100)).toRat
  let angle := Binary32.ofRat ((Binary32.ofRat cycle.toNat).toRat * step)
  let swing := Binary32.ofRat (6 * (sine angle).toRat)
  Binary32.ofRat (20 + swing.toRat)

/-- Every panel is a degree and a half colder than the one before. -/
def panelTemperatures (temperature : Binary32) : List Binary32 :=
  [0, 1, 2].map fun (panel : Nat) => Binary32.ofRat (temperature.toRat - 3 / 2 * panel)

def needsHeating (temperature : Binary32) : Bool := temperature.toRat < 17

def isViolation (temperature : Binary32) : Bool :=
  temperature.toRat < 16 || 25 < temperature.toRat

/-! ## The component -/

def statusSet (pool : PoolHandle) : Dataset :=
  { Dataset.creator pool statusSid.set 4 with
    accessors :=
      [.scalar pool temperatureId .readWrite .f32, .scalar pool heaterId .read .u8,
       .vector pool panelsId .readWrite .f32 3] }

def diagnosticsSet (pool : PoolHandle) : Dataset :=
  { Dataset.creator pool diagnosticsSid.set 2 with
    accessors := [.scalar pool violationsId .readWrite .u32] }

def controller (pool : PoolHandle) (period : UInt32) : Owner where
  period := period
  sets := [(statusSid, statusSet pool), (diagnosticsSid, diagnosticsSet pool)]
  accessors := [(heaterId, .scalar pool heaterId .readWrite .u8)]
  keeps := fun _ => false
  notices := []

/-- Status and violations go to ground, status snapshots and heater switches to operations. -/
def controllerSetup (period : UInt32) (operations : QueueId) : PoolSetup where
  entries :=
    [(temperatureId, .zeroed .f32 1), (heaterId, .zeroed .u8 1), (panelsId, .zeroed .f32 3),
     (violationsId, ⟨.u32, [0], true⟩)]
  subscriptions :=
    let seconds := Binary32.ofRat ((Binary32.ofRat period.toNat).toRat / 1000)
    [.periodicPacket ⟨statusSid, true, seconds, .regular, noQueue⟩,
     .periodicPacket
       ⟨diagnosticsSid, true, Binary32.ofRat (seconds.toRat * 2), .diagnostics, noQueue⟩,
     .setUpdates statusSid.set noObject operations true,
     .variableUpdates heaterId noObject operations false]
  refusal := none

/-! ## Control -/

/-- Switches the heater where its state differs from the wanted one or is not known yet. -/
def switchHeater (temperature : Binary32) (owner : Owner) (bank : PoolBank) :
    Except PoolError Unit × Owner × PoolBank :=
  match owner.variableOf? heaterId with
  | none => (.error .poolObjectNotFound, owner, bank)
  | some heater =>
    let wanted : Accessor :=
      (heater.withValues .u8 [if needsHeating temperature then 1 else 0]).withValidity true
    if wanted.copy.values.map BitVec.toNat = heater.copy.values.map BitVec.toNat ∧ heater.valid then
      (.ok (), owner, bank)
    else
      match wanted.commit bank with
      | (.error e, bank) => (.error e, owner.modifyVariable heaterId fun _ => wanted, bank)
      | (.ok (), bank) =>
        (.ok (), owner.modifyVariable heaterId fun _ => wanted.withChanged true, bank)

/-- Reads a set, changes its local copies and commits it, also after a read that failed. -/
def updateSet (sid : Sid) (change : Bool → Dataset → Dataset) (owner : Owner) (bank : PoolBank) :
    Except PoolError Unit × Owner × PoolBank :=
  match owner.set? sid with
  | none => (.error .datasetNotFound, owner, bank)
  | some set =>
    let (readResult, set) := set.read bank
    let (commitResult, set, bank) := (change (!Dataset.failed readResult) set).commit bank
    match commitResult with
    | .error e => (.error e, owner.modifySet sid fun _ => set, bank)
    | .ok () => (readResult, owner.modifySet sid fun _ => set, bank)

def measureStatus (temperature : Binary32) (readOk : Bool) (set : Dataset) : Dataset :=
  let accessors := set.accessors.mapIdx fun index accessor =>
    if index = 0 then accessor.withValues .f32 [temperature]
    else if index = 2 then accessor.withValues .f32 (panelTemperatures temperature)
    else accessor
  ({ set with accessors }.withValidityOfAll readOk).withChanged true

def countViolation (readOk : Bool) (set : Dataset) : Dataset :=
  let accessors := set.accessors.map fun accessor =>
    (accessor.withValues .u32
      (accessor.copy.values.map fun count => BitVec.ofNat 32 (count.toNat + 1))).withValidity readOk
  { set with accessors }

/-- One step of control; it ends at the first failure. -/
def control (temperature : Binary32) (owner : Owner) (bank : PoolBank) :
    Except PoolError Unit × Owner × PoolBank :=
  match switchHeater temperature owner bank with
  | (.error e, owner, bank) => (.error e, owner, bank)
  | (.ok (), owner, bank) =>
    match updateSet statusSid (measureStatus temperature) owner bank with
    | (.error e, owner, bank) => (.error e, owner, bank)
    | (.ok (), owner, bank) =>
      if isViolation temperature then updateSet diagnosticsSid countViolation owner bank
      else (.ok (), owner, bank)

end Housekeeper.Simulation
