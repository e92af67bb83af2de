import Housekeeper.Simulation.Run
import Std.Time.DateTime.Timestamp

/-!
# Command line

The simulator in real time: one cycle per period of the controller's task, each one stamped with
the time of the day.
-/

namespace Housekeeper.Simulation

def currentTime : IO CdsTime := do
  let nanos := (← Std.Time.Timestamp.now).toNanosecondsSinceUnixEpoch.val
  return .ofInstant ⟨nanos / 1000000000, (nanos % 1000000000).toNat⟩

/-- The content of the file that the arguments name, if there is one that can be read. -/
def readConfig (arguments : List String) : IO (Option String) := do
  match Options.parse arguments with
  | .ok ⟨_, _, _, some path⟩ =>
    try
      return some (← IO.FS.readFile path)
    catch _ =>
      return none
  | _ => return none

def printAll (lines : List String) : IO Unit := do
  for line in lines do
    IO.println line

def runCycles (options : Options) (simulator : Simulator Facilities) :
    IO (Simulator Facilities) := do
  let mut simulator := simulator
  for number in [1:options.cycles.toNat + 1] do
    if number ≠ 1 then IO.sleep options.period
    let cycle := UInt32.ofNat number
    let now ← currentTime
    let (events, next) :=
      simulator.cycle Facilities.station (measured cycle) (fun _ => now) cycle
    simulator := next
    printAll (events.map (Event.text fun time => time.toInstant.text))
    (← IO.getStdout).flush
  return simulator

/-- A call of the simulator, with its exit code. -/
def run (arguments : List String) : IO UInt32 := do
  let content ← readConfig arguments
  match launch arguments fun _ => content with
  | .ended code lines =>
    printAll lines
    return code
  | .started options simulator =>
    printAll banner
    let simulator ← runCycles options simulator
    IO.println (finalLine simulator)
    return 0

end Housekeeper.Simulation

def main (arguments : List String) : IO UInt32 := Housekeeper.Simulation.run arguments
