import Housekeeper.Json.Value

/-!
# Records as JSON

A record is written as an object. It is read from an object, in which each of its fields stands
at most once and members of other names are ignored, or from an array of its fields in their
order.
-/

namespace Housekeeper.Json

/-- The values of the named fields, as far as they are given. -/
def fields? (names : List String) : Json → Option (List (Option Json))
  | object members =>
    if members.all fun (member, _) => member.isSome then
      names.mapM fun name =>
        match members.filter fun (member, _) => member == some name with
        | [] => some none
        | [(_, value)] => some (some value)
        | _ => none
    else none
  | array elements =>
    if elements.length ≤ names.length then
      some (elements.map some ++ List.replicate (names.length - elements.length) none)
    else none
  | _ => none

/-- All of the named fields. -/
def allFields? (names : List String) (value : Json) : Option (List Json) :=
  (value.fields? names).bind fun fields => fields.mapM id

/-- A natural number below a bound. -/
def nat? (bound : Nat) : Json → Option Nat
  | number numeral => numeral.toNat?.filter (· < bound)
  | _ => none

def byte? (value : Json) : Option UInt8 := (value.nat? UInt8.size).map UInt8.ofNat

def half? (value : Json) : Option UInt16 := (value.nat? UInt16.size).map UInt16.ofNat

def word? (value : Json) : Option UInt32 := (value.nat? UInt32.size).map UInt32.ofNat

def bool? : Json → Option Bool
  | bool value => some value
  | _ => none

def float? : Json → Option Binary32
  | number numeral => numeral.toBinary32?
  | _ => none

/-- An object with the given members, which are texts of values already. -/
def objectText (members : List (String × String)) : String :=
  "\x7b" ++ ",".intercalate (members.map fun (name, value) => "\"" ++ name ++ "\":" ++ value) ++
    "\x7d"

def arrayText (elements : List String) : String := "[" ++ ",".intercalate elements ++ "]"

end Housekeeper.Json
