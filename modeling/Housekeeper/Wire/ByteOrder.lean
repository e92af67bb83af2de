/-!
# Byte orders

A number is written in a fixed count of bytes, most significant byte first or last. Packets that
leave the spacecraft are big endian; data that stays in the process uses the machine's order,
which is little endian. `decode_encode` and `encode_decode` say that the two directions are
inverse on numbers that fit.
-/

namespace Housekeeper

abbrev Bytes := List UInt8

namespace Bytes

/-- The `width` low bytes of a number, least significant byte first. -/
def ofNat : (width : Nat) → (value : Nat) → Bytes
  | 0, _ => []
  | width + 1, value => UInt8.ofNat value :: ofNat width (value / 256)

/-- The number whose bytes these are, least significant byte first. -/
def toNat : Bytes → Nat
  | [] => 0
  | byte :: rest => byte.toNat + 256 * toNat rest

@[simp] theorem length_ofNat (width value : Nat) : (ofNat width value).length = width := by
  induction width generalizing value with
  | zero => rfl
  | succ width ih => simp [ofNat, ih]

/-- The numbers of `width` bytes are those below this one. -/
def bound : (width : Nat) → Nat
  | 0 => 1
  | width + 1 => 256 * bound width

theorem toNat_lt (bytes : Bytes) : toNat bytes < bound bytes.length := by
  induction bytes with
  | nil => decide
  | cons byte rest ih =>
    have b := byte.toNat_lt
    simp only [toNat, List.length_cons, bound]
    omega

theorem toNat_ofNat (width value : Nat) : toNat (ofNat width value) = value % bound width := by
  induction width generalizing value with
  | zero => simp [ofNat, toNat, bound, Nat.mod_one]
  | succ width ih =>
    have low : (UInt8.ofNat value).toNat = value % 256 := by simp
    rw [ofNat, toNat, ih, low, bound, Nat.mod_mul]

theorem ofNat_toNat (bytes : Bytes) : ofNat bytes.length (toNat bytes) = bytes := by
  induction bytes with
  | nil => rfl
  | cons byte rest ih =>
    have b : byte.toNat < 256 := byte.toNat_lt
    have low : UInt8.ofNat (byte.toNat + 256 * toNat rest) = byte := by
      apply UInt8.toNat_inj.mp
      rw [UInt8.toNat_ofNat', Nat.add_mul_mod_self_left, Nat.mod_eq_of_lt b]
    have high : (byte.toNat + 256 * toNat rest) / 256 = toNat rest := by omega
    rw [List.length_cons, toNat, ofNat, low, high, ih]

end Bytes

inductive ByteOrder where
  | big
  | little
  | machine
deriving DecidableEq

namespace ByteOrder

def encode (order : ByteOrder) (width value : Nat) : Bytes :=
  match order with
  | big => (Bytes.ofNat width value).reverse
  | little | machine => Bytes.ofNat width value

def decode (order : ByteOrder) (bytes : Bytes) : Nat :=
  match order with
  | big => Bytes.toNat bytes.reverse
  | little | machine => Bytes.toNat bytes

@[simp] theorem length_encode (order : ByteOrder) (width value : Nat) :
    (order.encode width value).length = width := by
  cases order <;> simp [encode]

theorem decode_encode (order : ByteOrder) {width value : Nat} (h : value < Bytes.bound width) :
    order.decode (order.encode width value) = value := by
  cases order <;>
    simp [encode, decode, Bytes.toNat_ofNat, Nat.mod_eq_of_lt h]

theorem encode_decode (order : ByteOrder) (bytes : Bytes) :
    order.encode bytes.length (order.decode bytes) = bytes := by
  cases order with
  | big =>
    have h := Bytes.ofNat_toNat bytes.reverse
    rw [List.length_reverse] at h
    simp [encode, decode, h]
  | little | machine => exact Bytes.ofNat_toNat bytes

theorem decode_lt (order : ByteOrder) (bytes : Bytes) :
    order.decode bytes < Bytes.bound bytes.length := by
  cases order with
  | big => simpa [decode] using Bytes.toNat_lt bytes.reverse
  | little | machine => exact Bytes.toNat_lt bytes

end ByteOrder

end Housekeeper
