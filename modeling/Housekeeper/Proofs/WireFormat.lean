import Housekeeper.Dataset.Wire

/-!
# The wire format of data sets, both ways

`Dataset.image` is what a data set looks like on the wire: the elements of its variables one after
the other, and the validity mask. Writing a set into a writer with enough room appends its image
(`serialize_eq_appended`). Reading takes the elements off the stream by `Element.decodeEach`, in
any stream that is long enough (`deserialize_of_le`), and fails on all others
(`deserialize_of_lt`).

The encoder packs the mask byte by byte and the decoder picks single bits. `maskBytes_decoded` is
where the two meet: a mask that is read and written again is the same up to the bits beyond the
last variable.
-/

namespace Housekeeper

/-! ## Writers -/

namespace Writer

theorem length_append_le {writer : Writer} {bytes : Bytes}
    (h : bytes.length ≤ writer.remaining) :
    (writer.content ++ bytes).length ≤ writer.capacity := by
  have hle := writer.length_le
  simp only [remaining] at h
  rw [List.length_append]
  omega

/-- The writer with more bytes at the end. -/
def appended (writer : Writer) (bytes : Bytes) (h : bytes.length ≤ writer.remaining) : Writer :=
  ⟨writer.capacity, writer.content ++ bytes, length_append_le h⟩

@[simp] theorem remaining_appended (writer : Writer) {bytes : Bytes}
    (h : bytes.length ≤ writer.remaining) :
    (writer.appended bytes h).remaining = writer.remaining - bytes.length := by
  simp only [appended, remaining, List.length_append]
  omega

theorem appended_appended (writer : Writer) {a b : Bytes} (ha : a.length ≤ writer.remaining)
    (hb : b.length ≤ (writer.appended a ha).remaining)
    (hab : (a ++ b).length ≤ writer.remaining) :
    (writer.appended a ha).appended b hb = writer.appended (a ++ b) hab := by
  simp [appended]

theorem appended_nil (writer : Writer) (h : ([] : Bytes).length ≤ writer.remaining) :
    writer.appended [] h = writer := by
  simp [appended]

theorem eq_appended {writer : Writer} {bytes : Bytes} (h : bytes.length ≤ writer.remaining)
    {outcome : Except PoolError Unit × Writer}
    (done : outcome.1 = .ok () ∧ outcome.2.content = writer.content ++ bytes ∧
      outcome.2.capacity = writer.capacity) :
    outcome = (.ok (), writer.appended bytes h) := by
  obtain ⟨result, capacity, content, le⟩ := outcome
  obtain ⟨ok, hcontent, hcapacity⟩ := done
  dsimp only at ok hcontent hcapacity
  subst ok hcontent hcapacity
  rfl

theorem collect_of_appended {bytes : Bytes} {serialize : Writer → Except PoolError Unit × Writer}
    (h : ∀ writer room, serialize writer = (.ok (), writer.appended bytes room)) :
    collect bytes.length serialize = .ok bytes := by
  have room : bytes.length ≤ (ofCapacity bytes.length).remaining := Nat.le_refl _
  simp only [collect, h _ room]
  rfl

end Writer

/-! ## Readers -/

namespace Reader

/-- The reader after some more bytes. -/
def skip (reader : Reader) (count : Nat) : Reader :=
  ⟨reader.position + count, reader.rest.drop count⟩

@[simp] theorem rest_skip (reader : Reader) (count : Nat) :
    (reader.skip count).rest = reader.rest.drop count := rfl

@[simp] theorem remaining_skip (reader : Reader) (count : Nat) :
    (reader.skip count).remaining = reader.remaining - count := List.length_drop

theorem skip_skip (reader : Reader) (a b : Nat) : (reader.skip a).skip b = reader.skip (a + b) := by
  simp [skip, Nat.add_assoc]

end Reader

/-! ## Elements -/

namespace Element

variable {type : ElementType}

/-- So many elements from the front of the bytes. -/
def decodeEach (order : ByteOrder) : (count : Nat) → Bytes → List (Element type)
  | 0, _ => []
  | count + 1, bytes =>
    decode order (bytes.take type.width) :: decodeEach order count (bytes.drop type.width)

@[simp] theorem length_decodeEach (order : ByteOrder) (count : Nat) (bytes : Bytes) :
    (decodeEach order count bytes : List (Element type)).length = count := by
  induction count generalizing bytes with
  | zero => rfl
  | succ count ih => simp [decodeEach, ih]

theorem length_encodeEach (order : ByteOrder) (xs : List (Element type)) :
    (xs.flatMap (encode order)).length = type.width * xs.length := by
  induction xs with
  | nil => rfl
  | cons x rest ih => simp [ih, Nat.mul_add, Nat.add_comm]

theorem decodeEach_encodeEach (order : ByteOrder) (xs : List (Element type)) (later : Bytes) :
    decodeEach order xs.length (xs.flatMap (encode order) ++ later) = xs := by
  induction xs with
  | nil => rfl
  | cons x rest ih =>
    have hx : (x.encode order).length = type.width := length_encode order x
    rw [List.length_cons, List.flatMap_cons, List.append_assoc, decodeEach,
      List.take_left' hx, List.drop_left' hx, decode_encode, ih]

theorem encodeEach_decodeEach (order : ByteOrder) {count : Nat} {bytes : Bytes}
    (h : type.width * count ≤ bytes.length) :
    (decodeEach order count bytes : List (Element type)).flatMap (encode order) =
      bytes.take (type.width * count) := by
  induction count generalizing bytes with
  | zero => simp [decodeEach]
  | succ count ih =>
    rw [Nat.mul_succ] at h
    have hfirst : (bytes.take type.width).length = type.width := by
      rw [List.length_take]; omega
    have hrest : type.width * count ≤ (bytes.drop type.width).length := by
      rw [List.length_drop]; omega
    rw [decodeEach, List.flatMap_cons, encode_decode order hfirst, ih hrest, Nat.mul_succ,
      Nat.add_comm, List.take_add]

theorem read_of_le {reader : Reader} (order : ByteOrder) (h : type.width ≤ reader.remaining) :
    read type order reader =
      (.ok (decode order (reader.rest.take type.width)), reader.skip type.width) := by
  rw [read, Reader.read_of_le h]
  rfl

theorem read_of_lt {reader : Reader} (order : ByteOrder) (h : reader.remaining < type.width) :
    read type order reader = (.error .streamTooShort, reader) := by
  rw [read, Reader.read_of_lt h]

theorem readEach_of_le (order : ByteOrder) (olds : List (Element type)) {reader : Reader}
    (h : type.width * olds.length ≤ reader.remaining) :
    readEach order olds reader =
      (.ok (), decodeEach order olds.length reader.rest, reader.skip (type.width * olds.length)) := by
  induction olds generalizing reader with
  | nil => rfl
  | cons old rest ih =>
    rw [List.length_cons, Nat.mul_succ] at h
    have hrest : type.width * rest.length ≤ (reader.skip type.width).remaining := by
      rw [Reader.remaining_skip]; omega
    rw [readEach, read_of_le order (by omega)]
    simp only [ih hrest, Reader.skip_skip, Reader.rest_skip, List.length_cons, decodeEach,
      Nat.mul_succ, Nat.add_comm type.width]

end Element

/-! ## Local copies -/

namespace LocalCopy

variable {type : ElementType}

/-- The elements on the wire. -/
def image (order : ByteOrder) (copy : LocalCopy type) : Bytes :=
  copy.values.flatMap (Element.encode order)

theorem wireSize_eq (copy : LocalCopy type) : copy.wireSize = type.width * copy.length := by
  cases copy <;> simp [wireSize, length]

@[simp] theorem length_image (order : ByteOrder) (copy : LocalCopy type) :
    (copy.image order).length = copy.wireSize := by
  rw [image, Element.length_encodeEach, length_values, wireSize_eq]

@[simp] theorem length_load_decodeEach (order : ByteOrder) (copy : LocalCopy type) (bytes : Bytes) :
    (copy.load (Element.decodeEach order copy.length bytes)).length = copy.length :=
  length_load (Element.length_decodeEach ..)

theorem serialize_eq_appended (copy : LocalCopy type) (order : ByteOrder) {writer : Writer}
    (h : (copy.image order).length ≤ writer.remaining) :
    copy.serialize writer order = (.ok (), writer.appended (copy.image order) h) := by
  cases copy with
  | scalar value =>
    have hone : (scalar value).image order = value.encode order := by simp [image, values]
    simp only [hone] at h ⊢
    exact Writer.eq_appended h (Writer.write_of_le h)
  | vector values =>
    have hroom : ¬ writer.remaining < (vector values).wireSize := by
      rw [← length_image order]; omega
    simp only [serialize, hroom, if_false]
    have hflat : (values.map (Element.encode order)).flatten = (vector values).image order := rfl
    exact Writer.eq_appended h (hflat ▸ Writer.writeAll_of_le (hflat ▸ h))

theorem deserialize_of_le (copy : LocalCopy type) (order : ByteOrder) {reader : Reader}
    (h : copy.wireSize ≤ reader.remaining) :
    copy.deserialize reader order =
      (.ok (), copy.load (Element.decodeEach order copy.length reader.rest),
        reader.skip copy.wireSize) := by
  cases copy with
  | scalar value =>
    rw [deserialize, Element.read_of_le order h]
    rfl
  | vector values =>
    have hroom : ¬ reader.remaining < (vector values).wireSize := by omega
    simp only [deserialize, hroom, if_false]
    rw [Element.readEach_of_le order values h]
    rfl

theorem deserialize_of_lt (copy : LocalCopy type) (order : ByteOrder) {reader : Reader}
    (h : reader.remaining < copy.wireSize) :
    copy.deserialize reader order = (.error .streamTooShort, copy, reader) := by
  cases copy with
  | scalar value => rw [deserialize, Element.read_of_lt order h]
  | vector values => rw [deserialize, if_pos h]

end LocalCopy

/-! ## Accessors -/

/-- All of an accessor but its elements and their validity. -/
structure AccessorFrame where
  pool : PoolHandle
  id : LocalPoolId
  mode : AccessMode
  shape : AccessorShape
  changed : Bool
deriving DecidableEq

namespace Accessor

def frame (accessor : Accessor) : AccessorFrame :=
  ⟨accessor.pool, accessor.id, accessor.mode, accessor.shape, accessor.changed⟩

/-- What decides about the place of an accessor on the wire: type and number of its elements. -/
def layout (accessor : Accessor) : ElementType × Nat := (accessor.type, accessor.copy.length)

/-- The elements, with their type. -/
def elements (accessor : Accessor) : (type : ElementType) × List (Element type) :=
  ⟨accessor.type, accessor.values⟩

def image (order : ByteOrder) (accessor : Accessor) : Bytes := accessor.copy.image order

/-- The accessor with its elements taken from the front of the bytes. -/
def refilled (order : ByteOrder) (bytes : Bytes) (accessor : Accessor) : Accessor :=
  accessor.withCopy
    (accessor.copy.load (Element.decodeEach order accessor.copy.length bytes))

theorem wireSize_eq (accessor : Accessor) :
    accessor.wireSize = accessor.layout.1.width * accessor.layout.2 :=
  accessor.copy.wireSize_eq

@[simp] theorem length_image (order : ByteOrder) (accessor : Accessor) :
    (accessor.image order).length = accessor.wireSize := LocalCopy.length_image ..

@[simp] theorem frame_refilled (order : ByteOrder) (bytes : Bytes) (accessor : Accessor) :
    (accessor.refilled order bytes).frame = accessor.frame := by
  obtain ⟨pool, id, mode, type, copy, valid, changed⟩ := accessor
  cases copy <;> simp [refilled, withCopy, frame, shape, LocalCopy.load, LocalCopy.length]

@[simp] theorem valid_refilled (order : ByteOrder) (bytes : Bytes) (accessor : Accessor) :
    (accessor.refilled order bytes).valid = accessor.valid := rfl

@[simp] theorem frame_withValidity (accessor : Accessor) (valid : Bool) :
    (accessor.withValidity valid).frame = accessor.frame := by
  obtain ⟨pool, id, mode, type, copy, old, changed⟩ := accessor
  cases copy <;> rfl

@[simp] theorem elements_withValidity (accessor : Accessor) (valid : Bool) :
    (accessor.withValidity valid).elements = accessor.elements := rfl

theorem elements_refilled {source target : Accessor} (h : target.layout = source.layout)
    (order : ByteOrder) (later : Bytes) :
    (target.refilled order (source.image order ++ later)).elements = source.elements := by
  obtain ⟨pool, id, mode, type, copy, valid, changed⟩ := source
  obtain ⟨pool', id', mode', type', copy', valid', changed'⟩ := target
  obtain ⟨htype, hlength⟩ := Prod.mk.inj h
  dsimp only at htype hlength
  subst htype
  have hdecoded : Element.decodeEach order copy'.length (copy.image order ++ later) =
      copy.values := by
    rw [hlength, ← LocalCopy.length_values, LocalCopy.image, Element.decodeEach_encodeEach]
  simp only [refilled, withCopy, elements, values, image, hdecoded]
  rw [LocalCopy.values_load (by rw [LocalCopy.length_values, hlength])]

theorem image_refilled (order : ByteOrder) {bytes : Bytes} {accessor : Accessor}
    (h : accessor.wireSize ≤ bytes.length) :
    (accessor.refilled order bytes).image order = bytes.take accessor.wireSize := by
  have hsize : accessor.wireSize = accessor.type.width * accessor.copy.length :=
    LocalCopy.wireSize_eq _
  rw [hsize] at h ⊢
  simp only [refilled, withCopy, image, LocalCopy.image]
  rw [LocalCopy.values_load (Element.length_decodeEach ..), Element.encodeEach_decodeEach order h]

theorem serialize_eq_appended (accessor : Accessor) (order : ByteOrder) {writer : Writer}
    (h : (accessor.image order).length ≤ writer.remaining) :
    accessor.serialize writer order = (.ok (), writer.appended (accessor.image order) h) :=
  accessor.copy.serialize_eq_appended order h

theorem toBytes_eq_image (accessor : Accessor) (order : ByteOrder) :
    accessor.toBytes order = .ok (accessor.image order) := by
  rw [toBytes, ← length_image order accessor]
  apply Writer.collect_of_appended
  intro writer room
  exact accessor.serialize_eq_appended order room

theorem deserialize_of_le (accessor : Accessor) (order : ByteOrder) {reader : Reader}
    (h : accessor.wireSize ≤ reader.remaining) :
    accessor.deserialize reader order =
      (.ok (), accessor.refilled order reader.rest, reader.skip accessor.wireSize) := by
  simp only [deserialize, accessor.copy.deserialize_of_le order h]
  rfl

theorem deserialize_of_lt (accessor : Accessor) (order : ByteOrder) {reader : Reader}
    (h : reader.remaining < accessor.wireSize) :
    accessor.deserialize reader order = (.error .streamTooShort, accessor, reader) := by
  simp only [deserialize, accessor.copy.deserialize_of_lt order h]
  rfl

end Accessor

/-! ## One accessor after the other -/

namespace Dataset

def totalSize (accessors : List Accessor) : Nat :=
  accessors.foldr (fun accessor size => accessor.wireSize + size) 0

def imageEach (order : ByteOrder) (accessors : List Accessor) : Bytes :=
  accessors.flatMap (Accessor.image order)

/-- The accessors with their elements taken from the bytes, one after the other. -/
def refill (order : ByteOrder) : List Accessor → Bytes → List Accessor
  | [], _ => []
  | accessor :: rest, bytes =>
    accessor.refilled order bytes :: refill order rest (bytes.drop accessor.wireSize)

theorem totalSize_cons (accessor : Accessor) (rest : List Accessor) :
    totalSize (accessor :: rest) = accessor.wireSize + totalSize rest := rfl

@[simp] theorem length_imageEach (order : ByteOrder) (accessors : List Accessor) :
    (imageEach order accessors).length = totalSize accessors := by
  induction accessors with
  | nil => rfl
  | cons accessor rest ih =>
    rw [imageEach, List.flatMap_cons, List.length_append, Accessor.length_image, totalSize_cons]
    exact congrArg _ ih

section Refill

variable (order : ByteOrder)

/-- What a function says of every accessor, if reading does not change it. -/
theorem map_refill {β : Type} {f : Accessor → β}
    (h : ∀ accessor bytes, f (accessor.refilled order bytes) = f accessor)
    (accessors : List Accessor) (bytes : Bytes) :
    (refill order accessors bytes).map f = accessors.map f := by
  induction accessors generalizing bytes with
  | nil => rfl
  | cons accessor rest ih => simp only [refill, List.map_cons, h, ih]

@[simp] theorem length_refill (accessors : List Accessor) (bytes : Bytes) :
    (refill order accessors bytes).length = accessors.length := by
  have h := congrArg List.length
    (map_refill order (f := fun _ => ()) (fun _ _ => rfl) accessors bytes)
  simpa using h

theorem elements_refill {source target : List Accessor}
    (h : target.map Accessor.layout = source.map Accessor.layout) (later : Bytes) :
    (refill order target (imageEach order source ++ later)).map Accessor.elements =
      source.map Accessor.elements := by
  induction source generalizing target with
  | nil => simp [List.map_eq_nil_iff.mp h, refill]
  | cons accessor rest ih =>
    obtain ⟨own, others, rfl, hown, hothers⟩ := List.map_eq_cons_iff.mp h
    have hsize : own.wireSize = (accessor.image order).length := by
      rw [Accessor.length_image, Accessor.wireSize_eq, hown, ← Accessor.wireSize_eq]
    rw [imageEach, List.flatMap_cons, List.append_assoc, refill, List.map_cons, List.map_cons,
      Accessor.elements_refilled hown, List.drop_left' hsize.symm]
    exact congrArg _ (ih hothers)

theorem imageEach_refill {accessors : List Accessor} {bytes : Bytes}
    (h : totalSize accessors ≤ bytes.length) :
    imageEach order (refill order accessors bytes) = bytes.take (totalSize accessors) := by
  induction accessors generalizing bytes with
  | nil => rfl
  | cons accessor rest ih =>
    rw [totalSize_cons] at h
    have hrest : totalSize rest ≤ (bytes.drop accessor.wireSize).length := by
      rw [List.length_drop]; omega
    rw [refill, imageEach, List.flatMap_cons, Accessor.image_refilled order (by omega),
      totalSize_cons, List.take_add]
    exact congrArg _ (ih hrest)

theorem serializeEach_eq_appended (accessors : List Accessor) {writer : Writer}
    (h : (imageEach order accessors).length ≤ writer.remaining) :
    serializeEach order accessors writer =
      (.ok (), writer.appended (imageEach order accessors) h) := by
  induction accessors generalizing writer with
  | nil => exact congrArg _ (writer.appended_nil h).symm
  | cons accessor rest ih =>
    have hsum := length_imageEach order (accessor :: rest)
    rw [totalSize_cons] at hsum
    have hfirst : (accessor.image order).length ≤ writer.remaining := by
      rw [Accessor.length_image]; omega
    have hrest : (imageEach order rest).length ≤ (writer.appended _ hfirst).remaining := by
      rw [Writer.remaining_appended, length_imageEach, Accessor.length_image]; omega
    rw [serializeEach, accessor.serialize_eq_appended order hfirst]
    simp only [ih hrest]
    exact congrArg _ (writer.appended_appended hfirst hrest h)

theorem deserializeEach_of_le (accessors : List Accessor) {reader : Reader}
    (h : totalSize accessors ≤ reader.remaining) :
    deserializeEach order accessors reader =
      (.ok (), refill order accessors reader.rest, reader.skip (totalSize accessors)) := by
  induction accessors generalizing reader with
  | nil => rfl
  | cons accessor rest ih =>
    rw [totalSize_cons] at h ⊢
    have hrest : totalSize rest ≤ (reader.skip accessor.wireSize).remaining := by
      rw [Reader.remaining_skip]; omega
    rw [deserializeEach, accessor.deserialize_of_le order (by omega)]
    simp only [ih hrest, refill, Reader.rest_skip, Reader.skip_skip]

/-- A stream that ends too early changes elements at most. -/
theorem deserializeEach_of_lt (accessors : List Accessor) {reader : Reader}
    (h : reader.remaining < totalSize accessors) :
    ∃ partly next, deserializeEach order accessors reader =
        (.error .streamTooShort, partly, next) ∧
      partly.map Accessor.frame = accessors.map Accessor.frame ∧
      partly.map Accessor.valid = accessors.map Accessor.valid := by
  induction accessors generalizing reader with
  | nil => exact absurd h (Nat.not_lt_zero _)
  | cons accessor rest ih =>
    rw [totalSize_cons] at h
    rcases Nat.lt_or_ge reader.remaining accessor.wireSize with short | long
    · exact ⟨accessor :: rest, reader, by
        rw [deserializeEach, accessor.deserialize_of_lt order short], rfl, rfl⟩
    · have hrest : (reader.skip accessor.wireSize).remaining < totalSize rest := by
        rw [Reader.remaining_skip]; omega
      obtain ⟨partly, next, hpartly, hframe, hvalid⟩ := ih hrest
      refine ⟨accessor.refilled order reader.rest :: partly, next, ?_, ?_, ?_⟩
      · rw [deserializeEach, accessor.deserialize_of_le order long]
        simp only [hpartly]
      · simp [hframe]
      · simp [hvalid]

end Refill

end Dataset

/-! ## Validity masks -/

/-- Only the first bits of a byte, the highest first; the others are cleared. -/
def firstBits (count : Nat) (byte : UInt8) : UInt8 :=
  byte &&& ~~~((255 : UInt8) >>> UInt8.ofNat count)

theorem testBit_firstBits {count position : Nat} (hcount : count < 8) (hposition : position < 8)
    (byte : UInt8) :
    (firstBits count byte).toNat.testBit (7 - position) =
      (decide (position < count) && byte.toNat.testBit (7 - position)) := by
  have hmask : ∀ count position : Fin 8,
      (~~~((255 : UInt8) >>> UInt8.ofNat count.val)).toNat.testBit (7 - position.val) =
        decide (position.val < count.val) := by
    decide
  have hbit := hmask ⟨count, hcount⟩ ⟨position, hposition⟩
  dsimp only at hbit
  rw [firstBits, UInt8.toNat_and, Nat.testBit_and, hbit, Bool.and_comm]

theorem byte_ext {a b : UInt8}
    (h : ∀ position < 8, a.toNat.testBit (7 - position) = b.toNat.testBit (7 - position)) :
    a = b := by
  apply UInt8.toNat_inj.mp
  apply Nat.eq_of_testBit_eq
  intro i
  rcases Nat.lt_or_ge i 8 with low | high
  · have hi := h (7 - i) (by omega)
    rwa [show 7 - (7 - i) = i by omega] at hi
  · have bound (byte : UInt8) : byte.toNat.testBit i = false :=
      Nat.testBit_lt_two_pow (Nat.lt_of_lt_of_le byte.toNat_lt (Nat.pow_le_pow_right (by omega) high))
    rw [bound, bound]

/-- Bytes with the same bits are the same. -/
theorem bytes_ext {a b : Bytes} (hlength : a.length = b.length)
    (h : ∀ index < 8 * a.length, maskBit a index = maskBit b index) : a = b := by
  apply List.ext_getElem hlength
  intro k ha hb
  apply byte_ext
  intro position hposition
  have hbit := h (8 * k + position) (by omega)
  have hbyte : (8 * k + position) / 8 = k := by omega
  have hpos : (8 * k + position) % 8 = position := by omega
  simpa only [maskBit, hbyte, hpos, List.getD_eq_getElem?_getD, List.getElem?_eq_getElem ha,
    List.getElem?_eq_getElem hb, Option.getD_some] using hbit

/-- The mask of so many variables, with the bits after the last one cleared. -/
def clearPadding (count : Nat) (mask : Bytes) : Bytes :=
  mask.modify (count / 8) (firstBits (count % 8))

theorem maskBit_clearPadding {count index : Nat} {mask : Bytes}
    (hlength : mask.length = maskLength count) (hindex : index < 8 * mask.length) :
    maskBit (clearPadding count mask) index = (decide (index < count) && maskBit mask index) := by
  have hbyte : index / 8 < mask.length := by omega
  simp only [maskBit, clearPadding, List.getD_eq_getElem?_getD, List.getElem?_modify,
    List.getElem?_eq_getElem hbyte, Option.map_eq_map, Option.map_some]
  by_cases hlast : count / 8 = index / 8
  · rw [if_pos hlast, Option.getD_some, testBit_firstBits (by omega) (by omega)]
    have hbefore : index % 8 < count % 8 ↔ index < count := by omega
    simp only [hbefore, Option.getD_some]
  · have hinside : index < count := by
      unfold maskLength at hlength
      omega
    rw [if_neg hlast]
    simp [hinside]

/-- **A mask that is read and written again** is the same, but for the bits after the last one. -/
theorem maskBytes_decoded {count : Nat} {mask : Bytes} (hlength : mask.length = maskLength count) :
    maskBytes ((List.range count).map (maskBit mask)) = clearPadding count mask := by
  have hsize : (maskBytes ((List.range count).map (maskBit mask))).length = mask.length := by
    rw [length_maskBytes, List.length_map, List.length_range, hlength]
  apply bytes_ext (by rw [hsize, clearPadding, List.length_modify])
  intro index hindex
  rw [hsize] at hindex
  rw [maskBit_maskBytes, maskBit_clearPadding hlength hindex, List.getD_eq_getElem?_getD]
  by_cases hinside : index < count
  · simp [hinside]
  · simp [hinside]

namespace Dataset

def validityBits (set : Dataset) : List Bool := set.accessors.map Accessor.valid

theorem validityBits_applyMask (set : Dataset) (mask : Bytes) :
    (set.applyMask mask).validityBits = (List.range set.accessors.length).map (maskBit mask) := by
  apply List.ext_getElem?
  intro index
  simp only [validityBits, applyMask, List.getElem?_map, List.getElem?_mapIdx]
  rcases Nat.lt_or_ge index set.accessors.length with inside | outside
  · simp [List.getElem?_eq_getElem inside, List.getElem?_range inside, Accessor.withValidity]
  · have hrange : (List.range set.accessors.length)[index]? = none :=
      List.getElem?_eq_none (by simpa using outside)
    simp [List.getElem?_eq_none outside, hrange]

/-- Validity is all that a mask changes. -/
theorem map_applyMask {β : Type} {f : Accessor → β}
    (h : ∀ accessor valid, f (accessor.withValidity valid) = f accessor) (set : Dataset)
    (mask : Bytes) : (set.applyMask mask).accessors.map f = set.accessors.map f := by
  apply List.ext_getElem?
  intro index
  simp only [applyMask, List.getElem?_map, List.getElem?_mapIdx, Option.map_map]
  cases set.accessors[index]? with
  | none => rfl
  | some accessor => exact congrArg some (h accessor _)

/-! ## Whole sets -/

def layout (set : Dataset) : List (ElementType × Nat) × Bool :=
  (set.accessors.map Accessor.layout, set.validityMask)

def elements (set : Dataset) : List ((type : ElementType) × List (Element type)) :=
  set.accessors.map Accessor.elements

/-- Everything but elements and validity is the same. -/
def SameFrame (before after : Dataset) : Prop :=
  after = { before with accessors := after.accessors } ∧
    after.accessors.map Accessor.frame = before.accessors.map Accessor.frame

def image (set : Dataset) (order : ByteOrder) : Bytes :=
  imageEach order set.accessors ++ if set.validityMask then set.mask else []

/-- Bytes of the set's wire size, with the bits of the mask cleared that belong to no variable. -/
def paddingCleared (set : Dataset) (bytes : Bytes) : Bytes :=
  if set.validityMask then
    bytes.take set.variablesSize ++
      clearPadding set.accessors.length (bytes.drop set.variablesSize)
  else bytes

/-- The set with its elements taken from the bytes, and its validity as it was. -/
def refilled (set : Dataset) (order : ByteOrder) (bytes : Bytes) : Dataset :=
  { set with accessors := refill order set.accessors bytes }

/-- The bytes after those of the variables, as many as the mask has. -/
def maskOf (set : Dataset) (bytes : Bytes) : Bytes :=
  (bytes.drop set.variablesSize).take (maskLength set.accessors.length)

/-- The set with all that the bytes say. -/
def restored (set : Dataset) (order : ByteOrder) (bytes : Bytes) : Dataset :=
  if set.validityMask then (set.refilled order bytes).applyMask (set.maskOf bytes)
  else set.refilled order bytes

variable (set : Dataset) (order : ByteOrder)

theorem variablesSize_eq : set.variablesSize = totalSize set.accessors := rfl

@[simp] theorem length_image : (set.image order).length = set.wireSize := by
  rw [image, List.length_append, length_imageEach, wireSize, variablesSize_eq]
  split
  · rw [mask, length_maskBytes, List.length_map]
  · rfl

theorem serialize_eq_appended {writer : Writer}
    (h : (set.image order).length ≤ writer.remaining) :
    set.serialize writer order = (.ok (), writer.appended (set.image order) h) := by
  have hroom : ¬ writer.remaining < set.wireSize := by
    rw [← length_image set order]; omega
  have hvariables : (imageEach order set.accessors).length ≤ writer.remaining := by
    rw [image, List.length_append] at h; omega
  rw [serialize, if_neg hroom, serializeVariables, serializeEach_eq_appended order _ hvariables]
  dsimp only
  split
  next hmask =>
    have himage : set.image order = imageEach order set.accessors ++ set.mask := by
      rw [image, if_pos hmask]
    have hrest : set.mask.length ≤ (writer.appended _ hvariables).remaining := by
      rw [himage, List.length_append] at h
      rw [Writer.remaining_appended]; omega
    rw [Writer.eq_appended hrest (Writer.write_of_le hrest)]
    simp only [himage] at h ⊢
    rw [writer.appended_appended hvariables hrest h]
  next hmask =>
    have himage : set.image order = imageEach order set.accessors := by
      rw [image, if_neg hmask, List.append_nil]
    simp only [himage]

/-- A set can always be written as a whole. -/
theorem toBytes_eq_image : set.toBytes order = .ok (set.image order) := by
  rw [toBytes, ← length_image set order]
  apply Writer.collect_of_appended
  intro writer room
  exact set.serialize_eq_appended order room

theorem sameFrame_restored (bytes : Bytes) : set.SameFrame (set.restored order bytes) := by
  have hrefill : (refill order set.accessors bytes).map Accessor.frame =
      set.accessors.map Accessor.frame :=
    map_refill order (fun accessor bytes => Accessor.frame_refilled order bytes accessor) _ _
  unfold restored
  split
  · refine ⟨rfl, ?_⟩
    rw [map_applyMask Accessor.frame_withValidity]
    exact hrefill
  · exact ⟨rfl, hrefill⟩

theorem deserialize_of_le {reader : Reader} (h : set.wireSize ≤ reader.remaining) :
    set.deserialize reader order =
      (.ok (), set.restored order reader.rest, reader.skip set.wireSize) := by
  rw [wireSize, variablesSize_eq] at h
  have hvariables : totalSize set.accessors ≤ reader.remaining := by omega
  simp only [deserialize, deserializeVariables, deserializeEach_of_le order _ hvariables,
    length_refill]
  split
  next hmask =>
    rw [if_pos hmask] at h
    have hrest : maskLength set.accessors.length ≤
        (reader.skip (totalSize set.accessors)).remaining := by
      rw [Reader.remaining_skip]; omega
    rw [Reader.read_of_le hrest, restored, if_pos hmask, wireSize, if_pos hmask, variablesSize_eq,
      ← Reader.skip_skip]
    rfl
  next hmask =>
    rw [restored, if_neg hmask, wireSize, if_neg hmask, variablesSize_eq, Nat.add_zero]
    rfl

theorem deserialize_of_lt {reader : Reader} (h : reader.remaining < set.wireSize) :
    ∃ partly next, set.deserialize reader order = (.error .streamTooShort, partly, next) ∧
      set.SameFrame partly ∧ partly.validityBits = set.validityBits := by
  rw [wireSize, variablesSize_eq] at h
  rcases Nat.lt_or_ge reader.remaining (totalSize set.accessors) with short | long
  · obtain ⟨partly, next, hpartly, hframe, hvalid⟩ :=
      deserializeEach_of_lt order set.accessors short
    refine ⟨{ set with accessors := partly }, next, ?_, ⟨rfl, hframe⟩, hvalid⟩
    simp only [deserialize, deserializeVariables, hpartly]
  · have hmask : set.validityMask = true := by
      refine Decidable.of_not_not fun hno => ?_
      rw [if_neg hno] at h
      omega
    rw [if_pos hmask] at h
    have hrest : (reader.skip (totalSize set.accessors)).remaining <
        maskLength set.accessors.length := by
      rw [Reader.remaining_skip]; omega
    refine ⟨set.refilled order reader.rest, reader.skip (totalSize set.accessors), ?_,
      ⟨rfl, ?_⟩, ?_⟩
    · simp only [deserialize, deserializeVariables, deserializeEach_of_le order _ long,
        length_refill]
      rw [if_pos hmask, Reader.read_of_lt hrest]
      rfl
    · exact map_refill order (fun accessor bytes => Accessor.frame_refilled order bytes accessor) _ _
    · exact map_refill order (fun _ _ => rfl) _ _

/-! ## There and back -/

theorem elements_restored {source target : Dataset} (h : target.layout = source.layout) :
    (target.restored order (source.image order)).elements = source.elements := by
  obtain ⟨hlayout, hmask⟩ := Prod.mk.inj h
  have hfill := elements_refill order hlayout (if source.validityMask then source.mask else [])
  unfold restored
  split
  · rw [elements, map_applyMask Accessor.elements_withValidity]
    exact hfill
  · exact hfill

theorem totalSize_of_layout {a b : List Accessor}
    (h : a.map Accessor.layout = b.map Accessor.layout) : totalSize a = totalSize b := by
  have hsizes (accessors : List Accessor) : totalSize accessors =
      (accessors.map Accessor.layout).foldr (fun pair total => pair.1.width * pair.2 + total) 0 := by
    rw [List.foldr_map]
    simp only [totalSize, Accessor.wireSize_eq]
  rw [hsizes, hsizes, h]

theorem layout_length {a b : Dataset} (h : a.layout = b.layout) :
    a.accessors.length = b.accessors.length ∧ a.variablesSize = b.variablesSize := by
  have hlayout := (Prod.mk.inj h).1
  refine ⟨by simpa using congrArg List.length hlayout, ?_⟩
  rw [variablesSize_eq, variablesSize_eq, totalSize_of_layout hlayout]

theorem maskBit_range {bits : List Bool} {count : Nat} (h : bits.length = count) :
    (List.range count).map (maskBit (maskBytes bits)) = bits := by
  apply List.ext_getElem (by simpa using h.symm)
  intro index _ hindex
  rw [List.getElem_map, List.getElem_range, maskBit_maskBytes, List.getD_eq_getElem?_getD,
    List.getElem?_eq_getElem hindex, Option.getD_some]

theorem validityBits_restored {source target : Dataset} (h : target.layout = source.layout)
    (hmask : source.validityMask) :
    (target.restored order (source.image order)).validityBits = source.validityBits := by
  obtain ⟨hcount, hsize⟩ := layout_length h
  have hon : target.validityMask = true := (Prod.mk.inj h).2.trans hmask
  have himage : target.maskOf (source.image order) = source.mask := by
    have hlength : (imageEach order source.accessors).length = target.variablesSize := by
      rw [hsize, length_imageEach, variablesSize_eq]
    rw [maskOf, image, if_pos hmask, List.drop_left' hlength]
    have hmasked : source.mask.length = maskLength target.accessors.length := by
      rw [mask, length_maskBytes, List.length_map, hcount]
    exact List.take_of_length_le (Nat.le_of_eq hmasked)
  rw [restored, if_pos hon, validityBits_applyMask, himage, mask]
  apply maskBit_range
  rw [List.length_map, refilled, length_refill, hcount]

theorem wireSize_of_layout {a b : Dataset} (h : a.layout = b.layout) :
    a.wireSize = b.wireSize := by
  obtain ⟨hcount, hsize⟩ := layout_length h
  rw [wireSize, wireSize, hcount, hsize, (Prod.mk.inj h).2]

/-- Bytes that were read are written again, but for the padding of the mask. -/
theorem image_restored {bytes : Bytes} (h : set.wireSize ≤ bytes.length) :
    (set.restored order bytes).image order =
      set.paddingCleared (bytes.take set.wireSize) := by
  rw [wireSize, variablesSize_eq] at h
  have hfill : imageEach order (refill order set.accessors bytes) =
      bytes.take (totalSize set.accessors) := imageEach_refill order (by omega)
  unfold restored
  split
  next hmask =>
    rw [if_pos hmask] at h
    have hlength : (set.maskOf bytes).length = maskLength set.accessors.length := by
      rw [maskOf, variablesSize_eq, List.length_take, List.length_drop]; omega
    have hvariables : imageEach order
        ((set.refilled order bytes).applyMask (set.maskOf bytes)).accessors =
          bytes.take (totalSize set.accessors) := by
      have himage := map_applyMask (f := Accessor.image order) (fun _ _ => rfl)
        (set.refilled order bytes) (set.maskOf bytes)
      rw [imageEach, List.flatMap_def, himage, ← List.flatMap_def]
      exact hfill
    have hbits : ((set.refilled order bytes).applyMask (set.maskOf bytes)).mask =
        clearPadding set.accessors.length (set.maskOf bytes) := by
      have hread := validityBits_applyMask (set.refilled order bytes) (set.maskOf bytes)
      rw [refilled, length_refill] at hread
      rw [← maskBytes_decoded hlength, ← hread]
      rfl
    have hon : ((set.refilled order bytes).applyMask (set.maskOf bytes)).validityMask = true := hmask
    rw [image, if_pos hon, hvariables, hbits, paddingCleared, if_pos hmask, wireSize,
      if_pos hmask, variablesSize_eq, List.take_take, Nat.min_eq_left (Nat.le_add_right ..),
      List.drop_take, Nat.add_sub_cancel_left]
    rfl
  next hmask =>
    have hoff : ¬ (set.refilled order bytes).validityMask = true := hmask
    rw [image, if_neg hoff, List.append_nil, paddingCleared, if_neg hmask, wireSize,
      if_neg hmask, Nat.add_zero]
    exact hfill

/-- **What a data set writes, every set of its layout reads back**, and what a data set reads, it
writes again. Reading succeeds on exactly the streams that are long enough, and changes nothing
but elements and, if the mask is switched on, validity. -/
theorem wire_format_both_ways :
    (∃ bytes, set.toBytes order = .ok bytes ∧ bytes.length = set.wireSize ∧
      ∀ other : Dataset, other.layout = set.layout →
        ∃ copy, other.deserialize (.ofBytes bytes) order = (.ok (), copy, ⟨bytes.length, []⟩) ∧
          copy.elements = set.elements ∧
          (set.validityMask → copy.validityBits = set.validityBits)) ∧
    ∀ reader result after next, set.deserialize reader order = (result, after, next) →
      (result = .ok () ↔ set.wireSize ≤ reader.remaining) ∧
      (result = .ok () →
        next = ⟨reader.position + set.wireSize, reader.rest.drop set.wireSize⟩ ∧
        after.toBytes order = .ok (set.paddingCleared (reader.rest.take set.wireSize))) ∧
      (result ≠ .ok () →
        result = .error .streamTooShort ∧ after.validityBits = set.validityBits) ∧
      (set.validityMask = false → after.validityBits = set.validityBits) ∧
      set.SameFrame after := by
  constructor
  · refine ⟨set.image order, set.toBytes_eq_image order, set.length_image order, ?_⟩
    intro other hlayout
    have hsize : other.wireSize = (set.image order).length := by
      rw [wireSize_of_layout hlayout, length_image]
    have hroom : other.wireSize ≤ (Reader.ofBytes (set.image order)).remaining :=
      Nat.le_of_eq hsize
    have hread := other.deserialize_of_le order hroom
    refine ⟨other.restored order (set.image order), ?_, elements_restored order hlayout,
      validityBits_restored order hlayout⟩
    rw [hread, hsize]
    simp [Reader.ofBytes, Reader.skip]
  · intro reader result after next hread
    rcases Nat.lt_or_ge reader.remaining set.wireSize with short | long
    · obtain ⟨partly, rest, hpartly, hframe, hvalid⟩ := set.deserialize_of_lt order short
      rw [hpartly] at hread
      cases hread
      have hno : ¬ set.wireSize ≤ reader.remaining := by omega
      exact ⟨by simp [hno], by simp, fun _ => ⟨rfl, hvalid⟩, fun _ => hvalid, hframe⟩
    · rw [set.deserialize_of_le order long] at hread
      cases hread
      refine ⟨by simp [long], fun _ => ⟨rfl, ?_⟩, by simp, ?_, set.sameFrame_restored order _⟩
      · rw [toBytes_eq_image, image_restored set order long]
      · intro hmask
        rw [restored, if_neg (by simp [hmask])]
        exact map_refill order (fun _ _ => rfl) _ _

end Dataset

end Housekeeper
