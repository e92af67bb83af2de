import Housekeeper.Number.FloatText
import Housekeeper.Wire.Reader
import Housekeeper.Wire.Writer

/-!
# Pool elements

A pool entry holds elements of one of ten types. An element is kept as the bits of its machine
word, so that every float passes through unchanged, whatever it stands for; the type says how the
bits are read as a number and how many bytes they take on the wire.
-/

namespace Housekeeper

inductive ElementType where
  | u8
  | i8
  | u16
  | i16
  | u32
  | i32
  | u64
  | i64
  | f32
  | f64
deriving DecidableEq, Inhabited

namespace ElementType

/-- Bytes of one element. -/
def width : ElementType → Nat
  | u8 | i8 => 1
  | u16 | i16 => 2
  | u32 | i32 | f32 => 4
  | u64 | i64 | f64 => 8

abbrev bits (type : ElementType) : Nat := 8 * type.width

def name : ElementType → String
  | u8 => "uint8"
  | i8 => "int8"
  | u16 => "uint16"
  | i16 => "int16"
  | u32 => "uint32"
  | i32 => "int32"
  | u64 => "uint64"
  | i64 => "int64"
  | f32 => "float"
  | f64 => "double"

end ElementType

abbrev Element (type : ElementType) := BitVec type.bits

namespace Element

variable {type : ElementType}

def encode (order : ByteOrder) (x : Element type) : Bytes :=
  order.encode type.width x.toNat

def decode (order : ByteOrder) (bytes : Bytes) : Element type :=
  BitVec.ofNat type.bits (order.decode bytes)

@[simp] theorem length_encode (order : ByteOrder) (x : Element type) :
    (x.encode order).length = type.width := by
  simp [encode]

theorem toNat_lt_bound (x : Element type) : x.toNat < Bytes.bound type.width :=
  Nat.lt_of_lt_of_eq x.isLt (by cases type <;> rfl)

theorem decode_encode (order : ByteOrder) (x : Element type) :
    decode order (x.encode order) = x := by
  rw [decode, encode, order.decode_encode x.toNat_lt_bound, BitVec.ofNat_toNat, BitVec.setWidth_eq]

theorem encode_decode (order : ByteOrder) {bytes : Bytes} (h : bytes.length = type.width) :
    (decode order bytes : Element type).encode order = bytes := by
  rw [encode, decode, BitVec.toNat_ofNat, Nat.mod_eq_of_lt, ← h, order.encode_decode]
  exact Nat.lt_of_lt_of_eq (h ▸ order.decode_lt bytes) (by cases type <;> rfl)

/-- Takes one element off the stream. -/
def read (type : ElementType) (order : ByteOrder) (reader : Reader) :
    Except PoolError (Element type) × Reader :=
  match reader.read type.width with
  | (.ok bytes, next) => (.ok (decode order bytes), next)
  | (.error e, next) => (.error e, next)

/-- Takes one element after the other for the given ones, up to the first that is missing. -/
def readEach (order : ByteOrder) :
    List (Element type) → Reader → Except PoolError Unit × List (Element type) × Reader
  | [], reader => (.ok (), [], reader)
  | old :: rest, reader =>
    match read type order reader with
    | (.ok x, next) =>
      let (result, xs, last) := readEach order rest next
      (result, x :: xs, last)
    | (.error e, next) => (.error e, old :: rest, next)

/-- How floats are written in the text of an entry. -/
def floatText : FloatText where
  tie := .up
  positionalFrom := -4
  positionalTo := 15
  signedExponent := false
  nan := "NaN"
  infinity := "inf"
  negativeInfinity := "-inf"

def text (x : Element type) : String :=
  match type with
  | .u8 | .u16 | .u32 | .u64 => toString x.toNat
  | .i8 | .i16 | .i32 | .i64 => toString x.toInt
  | .f32 => floatText.render binary32 (binary32.decode x.toNat)
  | .f64 => floatText.render binary64 (binary64.decode x.toNat)

end Element

end Housekeeper
