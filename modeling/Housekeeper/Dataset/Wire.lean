import Housekeeper.Dataset.Basic

/-!
# Wire format of data sets

The variables follow each other in the order of their registration. If the set has its validity
mask switched on, one bit per variable follows, the first one in the highest bit of the first
byte, and the last byte is filled up with zeros. `maskBit_maskBytes` says that the mask gives back
every bit.
-/

namespace Housekeeper

/-! ## Validity masks -/

def maskLength (count : Nat) : Nat := (count + 7) / 8

/-- Up to eight bits, the first one highest. -/
def maskByte (bits : List Bool) : UInt8 :=
  UInt8.ofNat ((List.range 8).foldl
    (fun value position => 2 * value + (bits.getD position false).toNat) 0)

def maskBytes : List Bool → Bytes
  | [] => []
  | bit :: bits => maskByte ((bit :: bits).take 8) :: maskBytes ((bit :: bits).drop 8)
termination_by bits => bits.length
decreasing_by simp only [List.length_drop, List.length_cons]; omega

/-- The bit of the variable with the given index. -/
def maskBit (mask : Bytes) (index : Nat) : Bool :=
  (mask.getD (index / 8) 0).toNat.testBit (7 - index % 8)

theorem testBit_maskByte (bits : List Bool) {position : Nat} (h : position < 8) :
    (maskByte bits).toNat.testBit (7 - position) = bits.getD position false := by
  have folded : ∀ (a b c d e f g i : Bool) (position : Fin 8),
      (UInt8.ofNat ([a, b, c, d, e, f, g, i].foldl (fun value bit => 2 * value + bit.toNat) 0)).toNat.testBit
        (7 - position.val) = [a, b, c, d, e, f, g, i].getD position.val false := by
    decide
  have spelled : maskByte bits =
      UInt8.ofNat (((List.range 8).map fun k => bits.getD k false).foldl
        (fun value bit => 2 * value + bit.toNat) 0) := by
    rw [maskByte, List.foldl_map]
  have eight := folded (bits.getD 0 false) (bits.getD 1 false) (bits.getD 2 false)
    (bits.getD 3 false) (bits.getD 4 false) (bits.getD 5 false) (bits.getD 6 false)
    (bits.getD 7 false) ⟨position, h⟩
  rw [spelled]
  refine eight.trans ?_
  change ((List.range 8).map fun k => bits.getD k false).getD position false = _
  simp [List.getD_eq_getElem?_getD, h]

@[simp] theorem length_maskBytes (bits : List Bool) :
    (maskBytes bits).length = maskLength bits.length := by
  fun_induction maskBytes bits with
  | case1 => rfl
  | case2 bit bits ih =>
    simp only [List.length_cons, List.length_drop, maskLength] at ih ⊢
    omega

/-- The mask gives back every bit, and zeros after the last one. -/
theorem maskBit_maskBytes (bits : List Bool) (index : Nat) :
    maskBit (maskBytes bits) index = bits.getD index false := by
  fun_induction maskBytes bits generalizing index with
  | case1 => simp [maskBit]
  | case2 bit bits ih =>
    rcases Nat.lt_or_ge index 8 with first | later
    · have zero : index / 8 = 0 := Nat.div_eq_of_lt first
      rw [maskBit, zero, Nat.mod_eq_of_lt first, List.getD_cons_zero, testBit_maskByte _ first]
      rw [List.getD_eq_getElem?_getD, List.getElem?_take_of_lt first, List.getD_eq_getElem?_getD]
    · obtain ⟨rest, rfl⟩ := Nat.exists_eq_add_of_le later
      have byte : (8 + rest) / 8 = rest / 8 + 1 := by omega
      have position : (8 + rest) % 8 = rest % 8 := by omega
      have tail := ih rest
      rw [maskBit] at tail ⊢
      rw [byte, position, List.getD_cons_succ, tail, List.getD_eq_getElem?_getD,
        List.getElem?_drop, List.getD_eq_getElem?_getD]

namespace Dataset

/-! ## Writing -/

def variablesSize (set : Dataset) : Nat :=
  set.accessors.foldr (fun accessor size => accessor.wireSize + size) 0

def wireSize (set : Dataset) : Nat :=
  set.variablesSize + if set.validityMask then maskLength set.accessors.length else 0

/-- Writes one variable after the other and stops at the first that does not fit. -/
def serializeEach (order : ByteOrder) :
    List Accessor → Writer → Except PoolError Unit × Writer
  | [], writer => (.ok (), writer)
  | accessor :: rest, writer =>
    match accessor.serialize writer order with
    | (.ok (), next) => serializeEach order rest next
    | (.error e, next) => (.error e, next)

def serializeVariables (set : Dataset) (writer : Writer) (order : ByteOrder) :
    Except PoolError Unit × Writer :=
  serializeEach order set.accessors writer

def mask (set : Dataset) : Bytes := maskBytes (set.accessors.map Accessor.valid)

def serialize (set : Dataset) (writer : Writer) (order : ByteOrder) :
    Except PoolError Unit × Writer :=
  if writer.remaining < set.wireSize then (.error .bufferTooShort, writer)
  else
    match set.serializeVariables writer order with
    | (.ok (), next) => if set.validityMask then next.write set.mask else (.ok (), next)
    | (.error e, next) => (.error e, next)

def toBytes (set : Dataset) (order : ByteOrder) : Except PoolError Bytes :=
  Writer.collect set.wireSize fun writer => set.serialize writer order

/-- The ids of the variables, after their number if asked for; the number is cut to one byte. -/
def serializeIds (set : Dataset) (writer : Writer) (order : ByteOrder) (withCount : Bool) :
    Except PoolError Unit × Writer :=
  writer.writeAll
    ((if withCount then [[UInt8.ofNat set.accessors.length]] else []) ++
      set.localPoolIds.map fun id => order.encode 4 id.toNat)

/-! ## Reading -/

/-- Reads one variable after the other, up to the first that is missing. -/
def deserializeEach (order : ByteOrder) :
    List Accessor → Reader → Except PoolError Unit × List Accessor × Reader
  | [], reader => (.ok (), [], reader)
  | accessor :: rest, reader =>
    match accessor.deserialize reader order with
    | (.ok (), accessor, next) =>
      let (result, accessors, last) := deserializeEach order rest next
      (result, accessor :: accessors, last)
    | (.error e, accessor, next) => (.error e, accessor :: rest, next)

def deserializeVariables (set : Dataset) (reader : Reader) (order : ByteOrder) :
    Except PoolError Unit × Dataset × Reader :=
  let (result, accessors, next) := deserializeEach order set.accessors reader
  (result, { set with accessors }, next)

/-- Gives every variable its bit of the mask. -/
def applyMask (set : Dataset) (mask : Bytes) : Dataset :=
  { set with accessors := set.accessors.mapIdx fun index v => v.withValidity (maskBit mask index) }

def deserialize (set : Dataset) (reader : Reader) (order : ByteOrder) :
    Except PoolError Unit × Dataset × Reader :=
  match set.deserializeVariables reader order with
  | (.error e, next, rest) => (.error e, next, rest)
  | (.ok (), next, rest) =>
    if next.validityMask then
      match rest.read (maskLength next.accessors.length) with
      | (.ok mask, last) => (.ok (), next.applyMask mask, last)
      | (.error e, last) => (.error e, next, last)
    else (.ok (), next, rest)

end Dataset

end Housekeeper
