import Housekeeper.Number.Shortest

/-!
# Text of floating-point numbers

A `FloatText` says how the shortest digits are laid out: for which decimal exponents of the
leading digit the number is written positionally, and how the exponent and the values that are
not finite are spelled.
-/

namespace Housekeeper

structure FloatText where
  tie : Tie
  /-- Exponents of the leading digit from here on, -/
  positionalFrom : Int
  /-- up to here, are written positionally. -/
  positionalTo : Int
  /-- Is a positive exponent written with its sign? -/
  signedExponent : Bool
  nan : String
  infinity : String
  negativeInfinity : String

namespace FloatText

def zeros (count : Nat) : List Char := List.replicate count '0'

/-- Without exponent, and always with a digit on both sides of the point. -/
def positional (digits : List Char) (exponent : Int) : List Char :=
  let leading := exponent + digits.length
  if 0 ≤ exponent then digits ++ zeros exponent.toNat ++ ['.', '0']
  else if 0 < leading then digits.take leading.toNat ++ '.' :: digits.drop leading.toNat
  else ['0', '.'] ++ zeros (-leading).toNat ++ digits

/-- One digit before the point, and no point if it is the only one. -/
def scientific (text : FloatText) (digits : List Char) (leading : Int) : List Char :=
  let mantissa := match digits with
    | [] => []
    | [digit] => [digit]
    | digit :: rest => digit :: '.' :: rest
  let sign := if leading < 0 then ['-'] else if text.signedExponent then ['+'] else []
  mantissa ++ 'e' :: sign ++ Nat.toDigits 10 leading.natAbs

def decimal (text : FloatText) (number : Decimal) : List Char :=
  let digits := Nat.toDigits 10 number.digits
  let leading := number.exponent + digits.length - 1
  if text.positionalFrom ≤ leading ∧ leading ≤ text.positionalTo then
    positional digits number.exponent
  else text.scientific digits leading

def render (text : FloatText) (format : FloatFormat) (value : FloatValue) : String :=
  match value with
  | .nan => text.nan
  | .infinite negative => if negative then text.negativeInfinity else text.infinity
  | .finite negative significand quantum =>
    let size :=
      if significand = 0 then ['0', '.', '0']
      else text.decimal (format.shortest text.tie significand quantum)
    String.ofList (if negative then '-' :: size else size)

end FloatText

end Housekeeper
