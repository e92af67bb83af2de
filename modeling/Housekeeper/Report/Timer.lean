import Housekeeper.Number.Binary
import Housekeeper.Report.Kind

/-!
# Collection timers

A timer decides on which passes a periodic report is due. The collection interval is turned into
whole ticks of the owner's task, rounded up; for regular reports the ticks are multiplied by the
interval factor. `check` counts the passes and fires on every `ticks`-th one.
-/

namespace Housekeeper

structure CollectionTimer where
  /-- Period of the owner's task in milliseconds. -/
  period : UInt32
  kind : ReportKind
  factor : UInt8
  ticks : UInt32
  /-- The number of the coming pass since the last firing. -/
  counter : UInt32
deriving DecidableEq

/-- The nearest integer, halves going up, cut off at the ends of the 32-bit range. -/
def saturatingWord (value : Rat) : UInt32 :=
  UInt32.ofNat (min (value + 1 / 2).floor.toNat (UInt32.size - 1))

/-- The milliseconds of an interval, unless it is zero or negative. What is no number counts as
no milliseconds. -/
def intervalMillis? (seconds : Binary32) : Option UInt32 :=
  match seconds.value with
  | .nan => some 0
  | .infinite true => none
  | .infinite false => some 0xFFFFFFFF
  | .finite .. =>
    if seconds.toRat ≤ 0 then none
    else match (Binary32.ofRat (seconds.toRat * 1000)).value.toRat? with
      | some millis => some (saturatingWord millis)
      | none => some 0xFFFFFFFF

namespace CollectionTimer

/-- Fires on every pass. -/
def new : CollectionTimer := ⟨0, .diagnostics, 1, 1, 1⟩

/-- The ticks of an interval, at least one. -/
def ticksOf (timer : CollectionTimer) (seconds : Binary32) : UInt32 :=
  let nominal :=
    match intervalMillis? seconds with
    | some millis =>
      if timer.period = 0 then 1
      else max ((millis.toNat + timer.period.toNat - 1) / timer.period.toNat) 1
    | none => 1
  match timer.kind with
  | .diagnostics => UInt32.ofNat nominal
  | .regular => UInt32.ofNat (min (nominal * timer.factor.toNat) (UInt32.size - 1))

/-- Starts over with the given interval. A factor of zero counts as one. -/
def start (seconds : Binary32) (period : UInt32) (kind : ReportKind) (factor : UInt8) :
    CollectionTimer :=
  let timer : CollectionTimer := ⟨period, kind, max factor 1, 1, 1⟩
  ⟨period, kind, max factor 1, timer.ticksOf seconds, 1⟩

/-- The count goes on under the new interval. -/
def setInterval (timer : CollectionTimer) (seconds : Binary32) : CollectionTimer :=
  ⟨timer.period, timer.kind, timer.factor, timer.ticksOf seconds, timer.counter⟩

/-- Counts one pass and says whether the report is due on it. -/
def check (timer : CollectionTimer) : Bool × CollectionTimer :=
  if timer.ticks ≤ timer.counter then
    (true, ⟨timer.period, timer.kind, timer.factor, timer.ticks, 1⟩)
  else
    (false, ⟨timer.period, timer.kind, timer.factor, timer.ticks, timer.counter + 1⟩)

/-- On which of the next `count` passes the report is due. -/
def run (timer : CollectionTimer) : (count : Nat) → List Bool × CollectionTimer
  | 0 => ([], timer)
  | count + 1 =>
    let (due, next) := timer.check
    let (later, last) := next.run count
    (due :: later, last)

/-- The interval in seconds, as the ticks came to round it. -/
def seconds (timer : CollectionTimer) : Binary32 :=
  let nominal : Nat :=
    match timer.kind with
    | .diagnostics => timer.ticks.toNat
    | .regular => timer.ticks.toNat / timer.factor.toNat
  let ticks := (Binary32.ofRat nominal).toRat
  let period := (Binary32.ofRat timer.period.toNat).toRat
  Binary32.ofRat ((Binary32.ofRat (ticks * period)).toRat / 1000)

end CollectionTimer

end Housekeeper
