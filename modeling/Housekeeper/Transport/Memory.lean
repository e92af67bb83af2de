import Housekeeper.Wire.ByteOrder

/-!
# Memory

Sizes and positions in memory have 64 bits. A product or a sum that needs more either ends the
program or loses its high bits, as the program was built; everything here holds of both builds. No
piece of memory may have more than `maxBytes` bytes. Where the program can end, a result is
optional, and `none` stands for its end.
-/

namespace Housekeeper

/-- What becomes of a size that does not fit into 64 bits. -/
inductive Overflow where
  /-- The program ends. -/
  | stop
  /-- The high bits are dropped. -/
  | wrap
deriving DecidableEq

namespace Overflow

def size? (overflow : Overflow) (exact : Nat) : Option UInt64 :=
  if exact < UInt64.size ∨ overflow = .wrap then some (UInt64.ofNat exact) else none

def mul? (overflow : Overflow) (a b : UInt64) : Option UInt64 := overflow.size? (a.toNat * b.toNat)

def add? (overflow : Overflow) (a b : UInt64) : Option UInt64 := overflow.size? (a.toNat + b.toNat)

variable (overflow : Overflow) {exact : Nat} {size : UInt64}

theorem size?_of_lt (h : exact < UInt64.size) :
    overflow.size? exact = some (UInt64.ofNat exact) := if_pos (.inl h)

theorem toNat_of_size? (h : overflow.size? exact = some size) :
    size.toNat = exact % UInt64.size := by
  unfold size? at h
  split at h
  · cases h
    exact UInt64.toNat_ofNat'
  · cases h

end Overflow

/-- The most bytes that a piece of memory can have. -/
def maxBytes : Nat := 9223372036854775807

namespace Bytes

/-- A new piece of memory. -/
def allocate? (size : UInt64) : Option Bytes :=
  if size.toNat ≤ maxBytes then some (List.replicate size.toNat 0) else none

/-- Some bytes written over others, from the given position on. -/
def overwrite (bytes : Bytes) (start : Nat) (data : Bytes) : Bytes :=
  bytes.take start ++ (data ++ bytes.drop (start + data.length))

/-- `length` bytes from the given position on. -/
def slice (bytes : Bytes) (start length : Nat) : Bytes := (bytes.drop start).take length

variable {bytes data : Bytes} {start : Nat}

theorem length_overwrite (room : start + data.length ≤ bytes.length) :
    (bytes.overwrite start data).length = bytes.length := by
  simp only [overwrite, List.length_append, List.length_take, List.length_drop]
  omega

theorem slice_overwrite (room : start + data.length ≤ bytes.length) :
    (bytes.overwrite start data).slice start data.length = data := by
  have hstart : (bytes.take start).length = start := List.length_take_of_le (by omega)
  rw [slice, overwrite, List.drop_left' hstart, List.take_left' rfl]

theorem getElem?_overwrite_of_outside (room : start + data.length ≤ bytes.length) {index : Nat}
    (outside : index < start ∨ start + data.length ≤ index) :
    (bytes.overwrite start data)[index]? = bytes[index]? := by
  have hstart : (bytes.take start).length = start := List.length_take_of_le (by omega)
  rcases outside with before | behind
  · rw [overwrite, List.getElem?_append_left (by omega), List.getElem?_take_of_lt before]
  · rw [overwrite, List.getElem?_append_right (by omega), List.getElem?_append_right (by omega),
      List.getElem?_drop]
    congr 1
    omega

/-- A slice that lies before or behind what is written stays as it is. -/
theorem slice_overwrite_of_disjoint (room : start + data.length ≤ bytes.length) {other length : Nat}
    (disjoint : other + length ≤ start ∨ start + data.length ≤ other) :
    (bytes.overwrite start data).slice other length = bytes.slice other length := by
  apply List.ext_getElem?
  intro index
  by_cases bound : index < length
  · simp only [slice, List.getElem?_take_of_lt bound, List.getElem?_drop]
    exact getElem?_overwrite_of_outside room (by omega)
  · simp only [slice, List.getElem?_take, bound, if_false]

end Bytes

end Housekeeper
