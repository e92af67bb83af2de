import Housekeeper.Number.Binary

/-!
# Numerals

A numeral keeps the digits of a number as they stand in the text. It is read as a natural number
only if it is written as one; read as a float, its digits are gathered into a 64-bit significand
as long as they fit and then scaled by a power of ten, with one rounding per step.
-/

namespace Housekeeper

structure Numeral where
  negative : Bool
  whole : List Nat
  fraction : List Nat
  exponent : Option Int
deriving DecidableEq

namespace Numeral

def isInteger (numeral : Numeral) : Bool := numeral.fraction.isEmpty && numeral.exponent.isNone

def wholeValue (numeral : Numeral) : Nat := numeral.whole.foldl (fun value d => value * 10 + d) 0

/-- The number, if it is written without sign, point and exponent. -/
def toNat? (numeral : Numeral) : Option Nat :=
  if numeral.isInteger && !numeral.negative then some numeral.wholeValue else none

/-- Appends digits to a significand until one does not fit into 64 bits; returns the rest. -/
def gather (significand : Nat) : List Nat → Nat × List Nat
  | [] => (significand, [])
  | d :: rest =>
    if significand * 10 + d < UInt64.size then gather (significand * 10 + d) rest
    else (significand, d :: rest)

/-- The significand and its power of ten. -/
def scaled (numeral : Numeral) : Nat × Int :=
  let (whole, dropped) := gather 0 numeral.whole
  let (significand, unread) := gather whole numeral.fraction
  let places : Int := dropped.length - (numeral.fraction.length - unread.length : Nat)
  (significand, places + numeral.exponent.getD 0)

/-- Multiplies by a power of ten in steps that a 64-bit float can hold; `none` if the result is
too large. After `steps` divisions nothing is left. -/
def scale : (steps : Nat) → (value : Rat) → (exponent : Int) → Option Rat
  | 0, _, _ => some 0
  | steps + 1, value, exponent =>
    let power (n : Nat) : Rat := (binary64.round? ((10 : Rat) ^ n)).getD 0
    if exponent.natAbs ≤ 308 then
      if 0 ≤ exponent then binary64.round? (value * power exponent.natAbs)
      else binary64.round? (value / power exponent.natAbs)
    else if value = 0 then some 0
    else if 0 ≤ exponent then none
    else (binary64.round? (value / power 308)).bind fun smaller =>
      scale steps smaller (exponent + 308)

/-- The size of the number as a 64-bit float, or `none` if it is too large. -/
def size64? (numeral : Numeral) : Option Rat :=
  let (significand, exponent) := numeral.scaled
  (binary64.round? significand).bind fun value => scale 4 value exponent

/-- The size from which a 32-bit float is made: integers of up to 64 bits are taken exactly. -/
def size32? (numeral : Numeral) : Option Rat :=
  let bound := if numeral.negative then UInt64.size / 2 + 1 else UInt64.size
  if numeral.isInteger && decide (numeral.wholeValue < bound) then some numeral.wholeValue
  else numeral.size64?

def toBinary32? (numeral : Numeral) : Option Binary32 :=
  numeral.size32?.map fun size =>
    BitVec.ofNat 32
      ((if numeral.negative then binary32.signWeight else 0) + binary32.magnitudeOf size)

end Numeral

end Housekeeper
