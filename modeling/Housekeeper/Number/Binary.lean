/-!
# Binary floating-point numbers

A pattern is a sign bit, a biased exponent and a stored fraction. `decode` reads it as a sign, an
integer significand and the exponent of its last place; `ofRat` is the pattern nearest to an exact
rational, halves going to the even neighbour. Arithmetic elsewhere is exact arithmetic on
rationals followed by `ofRat`, so that every result is rounded once.
-/

namespace Housekeeper

/-- How many bits hold the fraction and how many the exponent. -/
structure FloatFormat where
  fraction : Nat
  exponent : Nat
deriving DecidableEq

def binary32 : FloatFormat := ⟨23, 8⟩

def binary64 : FloatFormat := ⟨52, 11⟩

/-- What a pattern stands for; a finite number is `significand * 2 ^ quantum`. -/
inductive FloatValue where
  | nan
  | infinite (negative : Bool)
  | finite (negative : Bool) (significand : Nat) (quantum : Int)
deriving DecidableEq

/-- A half goes to the even neighbour. -/
def roundQuotient (num den : Nat) : Nat :=
  let down := num / den
  let rest := num % den
  if 2 * rest < den then down
  else if den < 2 * rest then down + 1
  else down + down % 2

/-- The largest `e` with `2 ^ e ≤ num / den`. -/
def floorLog2 (num den : Nat) : Int :=
  let guess : Int := num.log2 - den.log2
  if num <<< (-guess).toNat < den <<< guess.toNat then guess - 1 else guess

namespace FloatValue

/-- The exact value of a finite number. -/
def toRat? : FloatValue → Option Rat
  | finite negative significand quantum =>
    let size : Rat := (significand : Rat) * (2 : Rat) ^ quantum
    some (if negative then -size else size)
  | _ => none

end FloatValue

namespace FloatFormat

/-- The weight of the sign bit. -/
def signWeight (format : FloatFormat) : Nat := 1 <<< (format.exponent + format.fraction)

/-- The pattern of infinity, without sign. -/
def infinity (format : FloatFormat) : Nat := (1 <<< format.exponent - 1) <<< format.fraction

/-- The exponent of the last place of the smallest numbers. -/
def minQuantum (format : FloatFormat) : Int :=
  2 - (1 <<< (format.exponent - 1) : Nat) - format.fraction

def decode (format : FloatFormat) (pattern : Nat) : FloatValue :=
  let negative := format.signWeight ≤ pattern
  let magnitude := pattern % format.signWeight
  let biased := magnitude >>> format.fraction
  let stored := magnitude % 1 <<< format.fraction
  if biased = 1 <<< format.exponent - 1 then
    if stored = 0 then .infinite negative else .nan
  else if biased = 0 then .finite negative stored format.minQuantum
  else .finite negative (1 <<< format.fraction + stored) (format.minQuantum + (biased - 1))

/-- The pattern nearest to the size of a rational; too large a size is infinity. -/
def magnitudeOf (format : FloatFormat) (value : Rat) : Nat :=
  let num := value.num.natAbs
  let den := value.den
  if num = 0 then 0
  else
    let quantum := max (floorLog2 num den - format.fraction) format.minQuantum
    let significand := roundQuotient (num <<< (-quantum).toNat) (den <<< quantum.toNat)
    min ((quantum - format.minQuantum).toNat <<< format.fraction + significand) format.infinity

/-- The pattern nearest to a rational. -/
def ofRat (format : FloatFormat) (value : Rat) : Nat :=
  (if value < 0 then format.signWeight else 0) + format.magnitudeOf value

/-- The value nearest to a rational, or `none` if it is too large. -/
def round? (format : FloatFormat) (value : Rat) : Option Rat :=
  (format.decode (format.ofRat value)).toRat?

end FloatFormat

abbrev Binary32 := BitVec 32

namespace Binary32

def value (x : Binary32) : FloatValue := binary32.decode x.toNat

def ofRat (value : Rat) : Binary32 := BitVec.ofNat 32 (binary32.ofRat value)

/-- The exact value, zero for infinities and what is no number. -/
def toRat (x : Binary32) : Rat := x.value.toRat?.getD 0

end Binary32

end Housekeeper
