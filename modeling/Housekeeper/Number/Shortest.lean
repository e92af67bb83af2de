import Housekeeper.Number.Binary

/-!
# Shortest decimals

`FloatFormat.shortest` is the decimal with the fewest digits that still reads back as the given
number, and of those the one nearest to it. A decimal reads back if it lies in the interval of
rationals that round to the number; the ends belong to it exactly for an even significand. The
search goes from coarse to fine powers of ten and looks at the two neighbours of the number on
each grid.
-/

namespace Housekeeper

/-- The number `digits * 10 ^ exponent`. -/
structure Decimal where
  digits : Nat
  exponent : Int
deriving DecidableEq

/-- Where a number goes that is as far from one neighbour as from the other. -/
inductive Tie where
  | even
  | up
deriving DecidableEq

namespace Tie

/-- The neighbour of `value` on the grid of multiples of `grid` that is nearer, by its count. -/
def nearer (tie : Tie) (value grid : Rat) (below : Nat) : Nat :=
  let rest := value - below * grid
  if 2 * rest < grid then below
  else if grid < 2 * rest then below + 1
  else match tie with
    | even => below + below % 2
    | up => below + 1

end Tie

/-- The rationals that round to a number. -/
structure RoundingInterval where
  low : Rat
  high : Rat
  closed : Bool

namespace RoundingInterval

def contains (interval : RoundingInterval) (x : Rat) : Bool :=
  if interval.closed then interval.low ≤ x && x ≤ interval.high
  else interval.low < x && x < interval.high

end RoundingInterval

namespace FloatFormat

/-- Below a power of two the neighbour is only half as far away. -/
def interval (format : FloatFormat) (significand : Nat) (quantum : Int) : RoundingInterval :=
  let unit : Rat := (2 : Rat) ^ quantum
  let value : Rat := significand * unit
  let gap : Rat :=
    if significand = 1 <<< format.fraction ∧ format.minQuantum < quantum then unit / 4 else unit / 2
  ⟨value - gap, value + unit / 2, significand % 2 == 0⟩

/-- The multiple of `10 ^ exponent` nearest to the number, of those that read back. -/
def onGrid? (format : FloatFormat) (tie : Tie) (significand : Nat) (quantum exponent : Int) :
    Option Decimal :=
  let value : Rat := significand * (2 : Rat) ^ quantum
  let grid : Rat := (10 : Rat) ^ exponent
  let interval := format.interval significand quantum
  let below := (value / grid).floor.toNat
  match interval.contains (below * grid), interval.contains ((below + 1 : Nat) * grid) with
  | true, true => some ⟨tie.nearer value grid below, exponent⟩
  | true, false => some ⟨below, exponent⟩
  | false, true => some ⟨below + 1, exponent⟩
  | false, false => none

/-- A power of ten above `significand * 2 ^ quantum`, by its exponent. -/
def coarsest (significand : Nat) (quantum : Int) : Int :=
  ((significand.log2 + 1 : Nat) + quantum) * 30103 / 100000 + 2

/-- Seventeen digits always suffice, so that the search ends well within its range. -/
def shortest (format : FloatFormat) (tie : Tie) (significand : Nat) (quantum : Int) : Decimal :=
  let top := coarsest significand quantum
  ((List.range 24).findSome? fun (step : Nat) =>
    format.onGrid? tie significand quantum (top - step)).getD ⟨0, 0⟩

end FloatFormat

end Housekeeper
