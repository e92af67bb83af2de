import Housekeeper.Wire.ByteOrder

/-!
# Hexadecimal text

Two digits per byte, the higher one first. Written digits are lower case, read digits may be of
either case. `ofHex?_hexText` says that what was written reads back.
-/

namespace Housekeeper

def hexDigit? (c : Char) : Option Nat :=
  if '0' ≤ c ∧ c ≤ '9' then some (c.toNat - '0'.toNat)
  else if 'a' ≤ c ∧ c ≤ 'f' then some (c.toNat - 'a'.toNat + 10)
  else if 'A' ≤ c ∧ c ≤ 'F' then some (c.toNat - 'A'.toNat + 10)
  else none

theorem hexDigit?_digitChar (digit : Fin 16) : hexDigit? (Nat.digitChar digit) = some digit.val := by
  revert digit
  decide

namespace Bytes

def hexDigits : Bytes → List Char
  | [] => []
  | byte :: rest =>
    Nat.digitChar (byte.toNat / 16) :: Nat.digitChar (byte.toNat % 16) :: hexDigits rest

def ofHexDigits? : List Char → Option Bytes
  | [] => some []
  | [_] => none
  | high :: low :: rest =>
    match hexDigit? high, hexDigit? low, ofHexDigits? rest with
    | some high, some low, some bytes => some (UInt8.ofNat (high * 16 + low) :: bytes)
    | _, _, _ => none

def hexText (bytes : Bytes) : String := String.ofList bytes.hexDigits

def ofHex? (text : String) : Option Bytes := ofHexDigits? text.toList

theorem ofHexDigits?_hexDigits (bytes : Bytes) : ofHexDigits? bytes.hexDigits = some bytes := by
  induction bytes with
  | nil => rfl
  | cons byte rest ih =>
    have bound : byte.toNat < 256 := byte.toNat_lt
    have high := hexDigit?_digitChar ⟨byte.toNat / 16, by omega⟩
    have low := hexDigit?_digitChar ⟨byte.toNat % 16, by omega⟩
    have whole : byte.toNat / 16 * 16 + byte.toNat % 16 = byte.toNat := by omega
    simp only at high low
    rw [hexDigits, ofHexDigits?, high, low, ih]
    simp only [whole, UInt8.ofNat_toNat]

theorem ofHex?_hexText (bytes : Bytes) : ofHex? bytes.hexText = some bytes := by
  simp [ofHex?, hexText, ofHexDigits?_hexDigits]

end Bytes

end Housekeeper
