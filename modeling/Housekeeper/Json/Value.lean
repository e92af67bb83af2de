import Housekeeper.Json.Numeral
import Housekeeper.Wire.Hex

/-!
# JSON texts

`Json.parse?` reads a text that is one JSON value with blanks around it. Numbers stay numerals,
and a string that holds half of a surrogate pair has no characters to show.
-/

namespace Housekeeper

inductive Json where
  | null
  | bool (value : Bool)
  | number (numeral : Numeral)
  | string (text : Option String)
  | array (elements : List Json)
  | object (members : List (Option String × Json))

namespace Json

def isBlank (c : Char) : Bool := c == ' ' || c == '\n' || c == '\t' || c == '\r'

def skipBlanks (text : List Char) : List Char := text.dropWhile isBlank

/-! ## Strings -/

/-- What a letter after a backslash stands for. -/
def escaped? : Char → Option Char
  | '"' => some '"'
  | '\\' => some '\\'
  | '/' => some '/'
  | 'b' => some '\x08'
  | 'f' => some '\x0c'
  | 'n' => some '\n'
  | 'r' => some '\r'
  | 't' => some '\t'
  | _ => none

/-- The code units of a string up to its closing quote, and the text after it. -/
def units? : List Char → Option (List Nat × List Char)
  | [] => none
  | '"' :: rest => some ([], rest)
  | '\\' :: 'u' :: a :: b :: c :: d :: rest =>
    match hexDigit? a, hexDigit? b, hexDigit? c, hexDigit? d with
    | some a, some b, some c, some d =>
      (units? rest).map fun (units, after) => ((((a * 16 + b) * 16 + c) * 16 + d) :: units, after)
    | _, _, _, _ => none
  | '\\' :: letter :: rest =>
    match escaped? letter with
    | some c => (units? rest).map fun (units, after) => (c.toNat :: units, after)
    | none => none
  | c :: rest =>
    if c.toNat < 32 ∨ c = '\\' then none
    else (units? rest).map fun (units, after) => (c.toNat :: units, after)

def isHighSurrogate (unit : Nat) : Bool := 0xD800 ≤ unit && unit < 0xDC00

def isLowSurrogate (unit : Nat) : Bool := 0xDC00 ≤ unit && unit < 0xE000

/-- Joins surrogate pairs; half of a pair is no character. -/
def characters : List Nat → List (Option Char)
  | [] => []
  | [unit] =>
    [if isHighSurrogate unit || isLowSurrogate unit then none else some (Char.ofNat unit)]
  | unit :: next :: rest =>
    if isHighSurrogate unit then
      if isLowSurrogate next then
        some (Char.ofNat (0x10000 + (unit - 0xD800) * 1024 + (next - 0xDC00))) :: characters rest
      else none :: characters (next :: rest)
    else if isLowSurrogate unit then none :: characters (next :: rest)
    else some (Char.ofNat unit) :: characters (next :: rest)

/-- A string after its opening quote. -/
def string? (text : List Char) : Option (Option String × List Char) :=
  (units? text).map fun (units, after) => (((characters units).mapM id).map String.ofList, after)

/-! ## Numbers -/

def digits (text : List Char) : List Nat :=
  (text.takeWhile Char.isDigit).map fun c => c.toNat - '0'.toNat

def skipDigits (text : List Char) : List Char := text.dropWhile Char.isDigit

/-- The sign and the digits after the letter of an exponent. -/
def exponent? (text : List Char) : Option (Int × List Char) :=
  let (negative, rest) := match text with
    | '-' :: rest => (true, rest)
    | '+' :: rest => (false, rest)
    | rest => (false, rest)
  match digits rest with
  | [] => none
  | ds =>
    let size : Nat := ds.foldl (fun value d => value * 10 + d) 0
    some (if negative then -(size : Int) else size, skipDigits rest)

/-- No further digit follows a leading zero. -/
def wholePart? (text : List Char) : Option (List Nat × List Char) :=
  match digits text with
  | [] => none
  | [0] => some ([0], skipDigits text)
  | 0 :: _ => none
  | ds => some (ds, skipDigits text)

/-- A digit must follow the point. -/
def fractionPart? : List Char → Option (List Nat × List Char)
  | '.' :: rest =>
    match digits rest with
    | [] => none
    | ds => some (ds, skipDigits rest)
  | rest => some ([], rest)

def exponentPart? : List Char → Option (Option Int × List Char)
  | 'e' :: rest | 'E' :: rest => (exponent? rest).map fun (value, after) => (some value, after)
  | rest => some (none, rest)

def numeral? (text : List Char) : Option (Numeral × List Char) :=
  let (negative, unsigned) := match text with
    | '-' :: rest => (true, rest)
    | rest => (false, rest)
  (wholePart? unsigned).bind fun (whole, text) =>
  (fractionPart? text).bind fun (fraction, text) =>
  (exponentPart? text).map fun (exponent, text) =>
    (⟨negative, whole, fraction, exponent⟩, text)

/-! ## Values -/

/-- The text after a literal. -/
def after? (literal text : List Char) : Option (List Char) :=
  if literal.isPrefixOf text then some (text.drop literal.length) else none

mutual

/-- One value, of at most `depth` nested steps. -/
def value? : (depth : Nat) → List Char → Option (Json × List Char)
  | 0, _ => none
  | depth + 1, text =>
    match skipBlanks text with
    | '{' :: rest =>
      match skipBlanks rest with
      | '}' :: after => some (object [], after)
      | _ => (members? depth rest).map fun (members, after) => (object members, after)
    | '[' :: rest =>
      match skipBlanks rest with
      | ']' :: after => some (array [], after)
      | _ => (elements? depth rest).map fun (elements, after) => (array elements, after)
    | '"' :: rest => (string? rest).map fun (text, after) => (string text, after)
    | 't' :: rest => (after? ['r', 'u', 'e'] rest).map fun after => (bool true, after)
    | 'f' :: rest => (after? ['a', 'l', 's', 'e'] rest).map fun after => (bool false, after)
    | 'n' :: rest => (after? ['u', 'l', 'l'] rest).map fun after => (null, after)
    | text => (numeral? text).map fun (numeral, after) => (number numeral, after)

/-- The elements up to the closing bracket. -/
def elements? : (depth : Nat) → List Char → Option (List Json × List Char)
  | 0, _ => none
  | depth + 1, text =>
    match value? depth text with
    | none => none
    | some (element, text) =>
      match skipBlanks text with
      | ']' :: after => some ([element], after)
      | ',' :: rest =>
        (elements? depth rest).map fun (elements, after) => (element :: elements, after)
      | _ => none

/-- The members up to the closing brace. -/
def members? : (depth : Nat) → List Char → Option (List (Option String × Json) × List Char)
  | 0, _ => none
  | depth + 1, text =>
    match skipBlanks text with
    | '"' :: rest =>
      match string? rest with
      | none => none
      | some (name, text) =>
        match skipBlanks text with
        | ':' :: rest =>
          match value? depth rest with
          | none => none
          | some (element, text) =>
            match skipBlanks text with
            | '}' :: after => some ([(name, element)], after)
            | ',' :: rest =>
              (members? depth rest).map fun (members, after) => ((name, element) :: members, after)
            | _ => none
        | _ => none
    | _ => none

end

/-- The value that the whole text is. No text has more nested steps than two per character. -/
def parse? (text : String) : Option Json :=
  match value? (2 * text.length + 2) text.toList with
  | some (value, rest) => if (skipBlanks rest).isEmpty then some value else none
  | none => none

end Json

end Housekeeper
