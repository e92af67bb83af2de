import Housekeeper.Proofs.StructureReports

/-!
# Data of all kinds, one after the other

Elements of any type, raw bytes, single bytes and flags are written into one bounded writer, each
element in an order of its own. A writer takes what fits in what remains, and nothing of anything
else (`Datum.write_eq`), so that its content is the images of what it took
(`Datum.content_writeEach`). Who knows the kinds of these data reads them back from it, and has
then read all of it (`Datum.taken_read_back`).

`Element.getElem?_encode` says what the image of an element is: its bytes from the lowest to the
highest one, or the other way round.
-/

namespace Housekeeper

/-! ## Bytes of an element -/

theorem Bytes.getElem?_ofNat {width value index : Nat} (h : index < width) :
    (Bytes.ofNat width value)[index]? = some (UInt8.ofNat (value >>> (8 * index))) := by
  induction width generalizing value index with
  | zero => cases h
  | succ width ih =>
    cases index with
    | zero => rfl
    | succ index =>
      have hshift : value / 256 = value >>> 8 := (Nat.shiftRight_eq_div_pow value 8).symm
      rw [Bytes.ofNat, List.getElem?_cons_succ, ih (Nat.lt_of_succ_lt_succ h), hshift,
        ← Nat.shiftRight_add, Nat.mul_succ, Nat.add_comm 8]

namespace Element

variable {type : ElementType} (x : Element type)

theorem encode_little : x.encode .little = (x.encode .big).reverse :=
  (List.reverse_reverse _).symm

theorem encode_machine : x.encode .machine = x.encode .little := rfl

/-- The lowest byte comes first. -/
theorem getElem?_encode {index : Nat} (h : index < type.width) :
    (x.encode .little)[index]? = some (UInt8.ofNat (x.toNat >>> (8 * index))) :=
  Bytes.getElem?_ofNat h

end Element

/-! ## Kinds -/

/-- One piece of data in a byte string. -/
inductive Datum where
  | element (type : ElementType) (order : ByteOrder) (x : Element type)
  | raw (bytes : Bytes)
  | byte (value : UInt8)
  | flag (value : Bool)

/-- What one has to know of a datum in order to read it. -/
inductive DatumKind where
  | element (type : ElementType) (order : ByteOrder)
  | raw (length : Nat)
  | byte
  | flag

namespace DatumKind

def width : DatumKind → Nat
  | element type _ => type.width
  | raw length => length
  | byte | flag => 1

def read (kind : DatumKind) (reader : Reader) : Except PoolError Datum × Reader :=
  match kind with
  | element type order =>
    let (result, next) := Element.read type order reader
    (result.map (.element type order), next)
  | raw length =>
    let (result, next) := reader.read length
    (result.map .raw, next)
  | byte =>
    let (result, next) := reader.readByte
    (result.map .byte, next)
  | flag =>
    let (result, next) := reader.readFlag
    (result.map .flag, next)

/-- Reads one after the other, whether the ones before could be read or not. -/
def readEach : List DatumKind → Reader → List (Except PoolError Datum) × Reader
  | [], reader => ([], reader)
  | kind :: rest, reader =>
    ((kind.read reader).1 :: (readEach rest (kind.read reader).2).1,
      (readEach rest (kind.read reader).2).2)

end DatumKind

namespace Datum

variable (datum : Datum)

def kind : Datum → DatumKind
  | element type order _ => .element type order
  | raw bytes => .raw bytes.length
  | byte _ => .byte
  | flag _ => .flag

def image : Datum → Bytes
  | element _ order x => x.encode order
  | raw bytes => bytes
  | byte value => [value]
  | flag value => [HkPacket.flagByte value]

/-- An element is written as a local copy that holds nothing else. -/
def write (writer : Writer) : Datum → Except PoolError Unit × Writer
  | element _ order x => (LocalCopy.scalar x).serialize writer order
  | raw bytes => writer.write bytes
  | byte value => writer.write [value]
  | flag value => writer.write [HkPacket.flagByte value]

/-- Writes one after the other, whether the ones before were taken or not. -/
def writeEach (writer : Writer) : List Datum → List (Except PoolError Unit) × Writer
  | [] => ([], writer)
  | datum :: rest =>
    ((write writer datum).1 :: (writeEach (write writer datum).2 rest).1,
      (writeEach (write writer datum).2 rest).2)

/-- The data whose writing succeeded. -/
def taken (writer : Writer) (data : List Datum) : List Datum :=
  ((data.zip (writeEach writer data).1).filter fun (_, result) => result.isOk).map Prod.fst

/-! ## Reading -/

theorem read_image (position : Nat) (later : Bytes) :
    datum.kind.read ⟨position, datum.image ++ later⟩ =
      (.ok datum, ⟨position + datum.image.length, later⟩) := by
  cases datum with
  | element type order x =>
    have hwidth : (x.encode order).length = type.width := Element.length_encode order x
    have hroom : type.width ≤ (Reader.mk position (x.encode order ++ later)).remaining := by
      simp [Reader.remaining]
    simp only [kind, image, DatumKind.read, Element.read_of_le order hroom, Reader.skip,
      List.take_left' hwidth, List.drop_left' hwidth, Element.decode_encode, hwidth]
    rfl
  | raw bytes =>
    have hroom : bytes.length ≤ (Reader.mk position (bytes ++ later)).remaining := by
      simp [Reader.remaining]
    simp only [kind, image, DatumKind.read, Reader.read_of_le hroom, List.take_left, List.drop_left]
    rfl
  | byte value =>
    simp only [kind, image, DatumKind.read, List.singleton_append, Reader.readByte_cons]
    rfl
  | flag value =>
    simp only [kind, image, DatumKind.read, List.singleton_append, Reader.readFlag_flagByte]
    rfl

theorem readEach_images (data : List Datum) (position : Nat) (later : Bytes) :
    DatumKind.readEach (data.map kind) ⟨position, data.flatMap image ++ later⟩ =
      (data.map .ok, ⟨position + (data.flatMap image).length, later⟩) := by
  induction data generalizing position with
  | nil => rfl
  | cons datum rest ih =>
    rw [List.map_cons, List.flatMap_cons, List.append_assoc, DatumKind.readEach, read_image, ih,
      List.length_append, Nat.add_assoc, List.map_cons]

end Datum

namespace DatumKind

variable {kind : DatumKind} {reader : Reader}

/-- Where there are enough bytes, there is a datum of every kind. -/
theorem read_of_le (h : kind.width ≤ reader.remaining) :
    ∃ datum : Datum, datum.kind = kind ∧
      kind.read reader = (.ok datum, reader.skip kind.width) := by
  cases kind with
  | element type order =>
    refine ⟨.element type order (Element.decode order (reader.rest.take type.width)), rfl, ?_⟩
    simp only [read, Element.read_of_le order h]
    rfl
  | raw length =>
    have hroom : length ≤ reader.remaining := h
    have hlength : (reader.rest.take length).length = length := List.length_take_of_le hroom
    refine ⟨.raw (reader.rest.take length), congrArg raw hlength, ?_⟩
    simp only [read, Reader.read_of_le hroom]
    rfl
  | byte =>
    obtain ⟨position, _ | ⟨first, later⟩⟩ := reader
    · cases h
    · refine ⟨.byte first, rfl, ?_⟩
      simp only [read, Reader.readByte_cons]
      rfl
  | flag =>
    obtain ⟨position, _ | ⟨first, later⟩⟩ := reader
    · cases h
    · refine ⟨.flag (first != 0), rfl, ?_⟩
      simp only [read, Reader.readFlag_cons]
      rfl

theorem read_of_lt (h : reader.remaining < kind.width) :
    kind.read reader = (.error .streamTooShort, reader) := by
  cases kind with
  | element type order =>
    simp only [read, Element.read_of_lt order h]
    rfl
  | raw length =>
    have hshort : reader.remaining < length := h
    simp only [read, Reader.read_of_lt hshort]
    rfl
  | byte =>
    obtain ⟨position, rest⟩ := reader
    obtain rfl := List.length_eq_zero_iff.mp (Nat.lt_one_iff.mp h)
    simp only [read, Reader.readByte_nil]
    rfl
  | flag =>
    obtain ⟨position, rest⟩ := reader
    obtain rfl := List.length_eq_zero_iff.mp (Nat.lt_one_iff.mp h)
    simp only [read, Reader.readFlag_nil]
    rfl

theorem read_eq_error_iff :
    kind.read reader = (.error .streamTooShort, reader) ↔ reader.remaining < kind.width := by
  refine ⟨fun hfailed => Nat.lt_of_not_le fun hroom => ?_, read_of_lt⟩
  obtain ⟨datum, -, hread⟩ := read_of_le hroom
  rw [hread] at hfailed
  cases congrArg Prod.fst hfailed

end DatumKind

/-! ## Writing -/

namespace Datum

variable (datum : Datum) (writer : Writer) (data : List Datum)

theorem write_eq_write : datum.write writer = writer.write datum.image := by
  cases datum <;> rfl

/-- A datum is taken whole if it fits in what remains, and else not at all. -/
theorem write_eq :
    datum.write writer =
      if h : datum.image.length ≤ writer.remaining then (.ok (), writer.appended datum.image h)
      else (.error .bufferTooShort, writer) := by
  rw [write_eq_write]
  split
  next h => exact Writer.eq_appended h (Writer.write_of_le h)
  next h => exact Writer.write_of_lt (Nat.lt_of_not_le h)

theorem write_eq_ok_iff :
    (datum.write writer).1 = .ok () ↔ datum.image.length ≤ writer.remaining := by
  rw [write_eq]
  split
  next h => exact iff_of_true rfl h
  next h =>
    refine iff_of_false (fun hok => ?_) h
    cases hok

theorem write_eq_error_iff :
    datum.write writer = (.error .bufferTooShort, writer) ↔
      writer.remaining < datum.image.length := by
  rw [write_eq]
  split
  next h =>
    refine iff_of_false (fun hfailed => ?_) (Nat.not_lt_of_le h)
    cases hfailed
  next h => exact iff_of_true rfl (Nat.lt_of_not_le h)

theorem writeEach_concat :
    writeEach writer (data ++ [datum]) =
      ((writeEach writer data).1 ++ [(datum.write (writeEach writer data).2).1],
        (datum.write (writeEach writer data).2).2) := by
  induction data generalizing writer with
  | nil => rfl
  | cons first rest ih => rw [List.cons_append, writeEach, ih]; rfl

theorem capacity_writeEach : (writeEach writer data).2.capacity = writer.capacity := by
  induction data generalizing writer with
  | nil => rfl
  | cons datum rest ih =>
    rw [writeEach, ih, write_eq]
    split <;> rfl

theorem size_add_remaining_writeEach :
    (writeEach writer data).2.size + (writeEach writer data).2.remaining = writer.capacity := by
  rw [Writer.size_add_remaining, capacity_writeEach]

/-- What follows the old content are the images of what was taken. -/
theorem content_writeEach :
    (writeEach writer data).2.content =
      writer.content ++ (taken writer data).flatMap image := by
  induction data generalizing writer with
  | nil => simp [writeEach, taken]
  | cons datum rest ih =>
    have hrest := ih (datum.write writer).2
    unfold taken at hrest ⊢
    rw [writeEach, hrest, List.zip_cons_cons, List.filter_cons, write_eq]
    split
    next h => simp [Writer.appended, Except.isOk, Except.toBool]
    next h => simp [Except.isOk, Except.toBool]

/-- Data of all kinds and orders that are written into a writer one after the other: the writer
holds exactly what it took, takes the next datum exactly if that fits, and gives all of it back to
who reads data of the same kinds. -/
theorem taken_read_back (capacity : Nat) (data : List Datum) (next : Datum) :
    let start := Writer.ofCapacity capacity
    let writer := (writeEach start data).2
    writer.content = (taken start data).flatMap image ∧
      writer.size + writer.remaining = capacity ∧
      writeEach start (data ++ [next]) =
        ((writeEach start data).1 ++ [(next.write writer).1], (next.write writer).2) ∧
      ((next.write writer).1 = .ok () ↔ next.image.length ≤ writer.remaining) ∧
      (next.write writer = (.error .bufferTooShort, writer) ↔
        writer.remaining < next.image.length) ∧
      DatumKind.readEach ((taken start data).map kind) (.ofBytes writer.content) =
        ((taken start data).map .ok, ⟨writer.content.length, []⟩) ∧
      (∀ (kind : DatumKind) (reader : Reader),
        (kind.read reader = (.error .streamTooShort, reader) ↔ reader.remaining < kind.width) ∧
        (kind.width ≤ reader.remaining → ∃ datum : Datum, datum.kind = kind ∧
          kind.read reader = (.ok datum, reader.skip kind.width))) ∧
      ∀ (type : ElementType) (x : Element type),
        x.encode .little = (x.encode .big).reverse ∧ x.encode .machine = x.encode .little ∧
          ∀ index < type.width,
            (x.encode .little)[index]? = some (UInt8.ofNat (x.toNat >>> (8 * index))) := by
  intro start writer
  have hcontent : writer.content = (taken start data).flatMap image :=
    content_writeEach start data
  refine ⟨hcontent, size_add_remaining_writeEach start data, writeEach_concat next start data,
    write_eq_ok_iff next writer, write_eq_error_iff next writer, ?_,
    fun kind reader => ⟨DatumKind.read_eq_error_iff, DatumKind.read_of_le⟩,
    fun type x => ⟨x.encode_little, x.encode_machine, fun index => x.getElem?_encode⟩⟩
  have hread := readEach_images (taken start data) 0 []
  rwa [List.append_nil, Nat.zero_add, ← hcontent] at hread

/-- Three bytes do not fit behind two in a writer of four, and two more do. -/
example :
    (writeEach (.ofCapacity 4)
      [.element .u16 .big 258, .raw [7, 7, 7], .element .i16 .little 258]).2.content =
      [1, 2, 2, 1] := by
  decide

end Datum

end Housekeeper
