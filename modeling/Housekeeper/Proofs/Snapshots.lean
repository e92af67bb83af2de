import Housekeeper.Proofs.WholeWrites

/-!
# Snapshots, there and back

A snapshot is read as a stamp and then the elements of its content, of a set as of a single
variable. Reading gives back what was written to every content of the same layout
(`Snapshot.deserialize_image`), succeeds on all streams that are long enough (`deserialize_of_le`)
and on no others (`deserialize_of_lt`), and writes elements only: `SnapshotContent.SameButElements`
is kept in either case.
-/

namespace Housekeeper

/-! ## Stamps -/

namespace CdsTime

theorem exists_ofBytes {bytes : Bytes} (h : wireSize ≤ bytes.length) :
    ∃ time, ofBytes bytes = .ok time :=
  ⟨_, if_neg (Nat.not_lt.mpr h)⟩

end CdsTime

/-! ## The elements of a set or a variable -/

namespace SnapshotContent

/-- The accessors whose elements the snapshot holds. -/
def accessors : SnapshotContent → List Accessor
  | ofSet set => set.accessors
  | ofAccessor accessor => [accessor]

/-- Type and number of the elements of every accessor. -/
def layout (content : SnapshotContent) : List (ElementType × Nat) :=
  content.accessors.map Accessor.layout

/-- The elements of every accessor, with their type. -/
def elements (content : SnapshotContent) : List ((type : ElementType) × List (Element type)) :=
  content.accessors.map Accessor.elements

/-- Everything but the elements is the same: all about a set and its variables, validity included,
or all about the single variable. -/
inductive SameButElements : SnapshotContent → SnapshotContent → Prop
  | ofSet {before after : Dataset} (frame : before.SameFrame after)
    (validity : after.validityBits = before.validityBits) :
    SameButElements (ofSet before) (ofSet after)
  | ofAccessor {before after : Accessor} (frame : after.frame = before.frame)
    (validity : after.valid = before.valid) :
    SameButElements (ofAccessor before) (ofAccessor after)

theorem SameButElements.refl (content : SnapshotContent) : content.SameButElements content := by
  cases content with
  | ofSet set => exact .ofSet ⟨rfl, rfl⟩ rfl
  | ofAccessor accessor => exact .ofAccessor rfl rfl

/-- The content with its elements taken from the bytes. -/
def refilled (order : ByteOrder) (bytes : Bytes) : SnapshotContent → SnapshotContent
  | ofSet set => ofSet (set.refilled order bytes)
  | ofAccessor accessor => ofAccessor (accessor.refilled order bytes)

variable (order : ByteOrder) (content : SnapshotContent)

theorem image_eq : content.image order = Dataset.imageEach order content.accessors := by
  cases content with
  | ofSet set => rfl
  | ofAccessor accessor => exact (List.append_nil _).symm

theorem wireSize_eq : content.wireSize = Dataset.totalSize content.accessors := by
  cases content with
  | ofSet set => exact set.variablesSize_eq
  | ofAccessor accessor => rfl

theorem accessors_refilled (bytes : Bytes) :
    (content.refilled order bytes).accessors = Dataset.refill order content.accessors bytes := by
  cases content <;> rfl

theorem sameButElements_refilled (bytes : Bytes) :
    content.SameButElements (content.refilled order bytes) := by
  cases content with
  | ofSet set =>
    refine .ofSet ⟨rfl, ?_⟩ ?_
    · exact Dataset.map_refill order
        (fun accessor bytes => Accessor.frame_refilled order bytes accessor) _ _
    · exact Dataset.map_refill order (fun _ _ => rfl) _ _
  | ofAccessor accessor => exact .ofAccessor (accessor.frame_refilled order bytes) rfl

variable {content}

theorem wireSize_of_layout {other : SnapshotContent} (h : other.layout = content.layout) :
    other.wireSize = content.wireSize := by
  rw [wireSize_eq, wireSize_eq]
  exact Dataset.totalSize_of_layout h

theorem elements_refilled {other : SnapshotContent} (h : other.layout = content.layout)
    (later : Bytes) :
    (other.refilled order (content.image order ++ later)).elements = content.elements := by
  rw [elements, accessors_refilled, image_eq]
  exact Dataset.elements_refill order h later

theorem deserialize_of_le {reader : Reader} (h : content.wireSize ≤ reader.remaining) :
    content.deserialize reader order =
      (.ok (), content.refilled order reader.rest, reader.skip content.wireSize) := by
  cases content with
  | ofSet set =>
    simp only [deserialize, Dataset.deserializeVariables, Dataset.deserializeEach_of_le order _ h]
    rfl
  | ofAccessor accessor =>
    simp only [deserialize, accessor.deserialize_of_le order h]
    rfl

/-- A stream that ends too early changes elements at most. -/
theorem deserialize_of_lt {reader : Reader} (h : reader.remaining < content.wireSize) :
    ∃ partly next, content.deserialize reader order = (.error .streamTooShort, partly, next) ∧
      content.SameButElements partly := by
  cases content with
  | ofSet set =>
    obtain ⟨partly, next, hpartly, hframe, hvalid⟩ :=
      Dataset.deserializeEach_of_lt order set.accessors h
    refine ⟨ofSet { set with accessors := partly }, next, ?_, .ofSet ⟨rfl, hframe⟩ hvalid⟩
    simp only [deserialize, Dataset.deserializeVariables, hpartly]
  | ofAccessor accessor =>
    refine ⟨ofAccessor accessor, reader, ?_, .refl _⟩
    simp only [deserialize, accessor.deserialize_of_lt order h]

end SnapshotContent

/-! ## Stamp and elements -/

namespace Snapshot

variable (order : ByteOrder) (snapshot : Snapshot)

theorem deserialize_of_le {reader : Reader} {time : CdsTime}
    (htime : CdsTime.ofBytes (reader.rest.take CdsTime.wireSize) = .ok time)
    (h : snapshot.wireSize ≤ reader.remaining) :
    snapshot.deserialize reader order =
      (.ok (), ⟨time, snapshot.content.refilled order (reader.rest.drop CdsTime.wireSize)⟩,
        reader.skip snapshot.wireSize) := by
  rw [wireSize] at h
  have hrest : snapshot.content.wireSize ≤ (reader.skip CdsTime.wireSize).remaining := by
    rw [Reader.remaining_skip]; omega
  have hread := SnapshotContent.deserialize_of_le order hrest
  rw [Reader.skip_skip] at hread
  rw [deserialize, Reader.read_of_le (by omega)]
  simp only [htime]
  exact congrArg (fun read => (read.1, Snapshot.mk time read.2.1, read.2.2)) hread

theorem deserialize_of_lt {reader : Reader} (h : reader.remaining < snapshot.wireSize) :
    ∃ partly next, snapshot.deserialize reader order = (.error .streamTooShort, partly, next) ∧
      snapshot.content.SameButElements partly.content := by
  rcases Nat.lt_or_ge reader.remaining CdsTime.wireSize with short | long
  · refine ⟨snapshot, reader, ?_, .refl _⟩
    rw [deserialize, Reader.read_of_lt short]
  · rw [wireSize] at h
    have hlength : CdsTime.wireSize ≤ (reader.rest.take CdsTime.wireSize).length := by
      rw [List.length_take]
      exact Nat.le_min.mpr ⟨Nat.le_refl _, long⟩
    obtain ⟨time, htime⟩ := CdsTime.exists_ofBytes hlength
    have hrest : (reader.skip CdsTime.wireSize).remaining < snapshot.content.wireSize := by
      rw [Reader.remaining_skip]; omega
    obtain ⟨partly, next, hpartly, hsame⟩ := SnapshotContent.deserialize_of_lt order hrest
    refine ⟨⟨time, partly⟩, next, ?_, hsame⟩
    rw [deserialize, Reader.read_of_le long]
    simp only [htime]
    exact congrArg (fun read => (read.1, Snapshot.mk time read.2.1, read.2.2)) hpartly

/-- The code field has no influence on what is read. -/
theorem deserialize_cons (field other : UInt8) (position : Nat) (later : Bytes) :
    ∃ last, snapshot.deserialize ⟨position, other :: later⟩ order =
        ((snapshot.deserialize ⟨position, field :: later⟩ order).1,
          (snapshot.deserialize ⟨position, field :: later⟩ order).2.1, last) ∧
      last.position = (snapshot.deserialize ⟨position, field :: later⟩ order).2.2.position ∧
      ((snapshot.deserialize ⟨position, field :: later⟩ order).1 = .ok () →
        last = (snapshot.deserialize ⟨position, field :: later⟩ order).2.2) := by
  rcases Nat.lt_or_ge (later.length + 1) CdsTime.wireSize with short | long
  · have hshort (field : UInt8) : snapshot.deserialize ⟨position, field :: later⟩ order =
        (.error .streamTooShort, snapshot, ⟨position, field :: later⟩) := by
      rw [deserialize, Reader.read_of_lt short]
    rw [hshort, hshort]
    exact ⟨_, rfl, rfl, by simp⟩
  · -- the stamp is read whole, and the field is no part of what it says
    have hsame : snapshot.deserialize ⟨position, other :: later⟩ order =
        snapshot.deserialize ⟨position, field :: later⟩ order := by
      have hlong (field : UInt8) :
          CdsTime.wireSize ≤ (Reader.mk position (field :: later)).remaining := long
      rw [deserialize, deserialize, Reader.read_of_le (hlong other),
        Reader.read_of_le (hlong field)]
      rfl
    rw [hsame]
    exact ⟨_, rfl, rfl, fun _ => rfl⟩

variable {snapshot}

theorem deserialize_image {other : Snapshot}
    (h : other.content.layout = snapshot.content.layout) (later : Bytes) :
    other.deserialize (.ofBytes (snapshot.image order ++ later)) order =
      (.ok (),
        ⟨snapshot.time, other.content.refilled order (snapshot.content.image order ++ later)⟩,
        ⟨(snapshot.image order).length, later⟩) := by
  have hstamp : snapshot.time.toBytes.length = CdsTime.wireSize := snapshot.time.length_toBytes
  have hsize : other.wireSize = (snapshot.image order).length := by
    rw [length_image, wireSize, wireSize, SnapshotContent.wireSize_of_layout h]
  have hroom : other.wireSize ≤ (Reader.ofBytes (snapshot.image order ++ later)).remaining := by
    rw [hsize, Reader.remaining, Reader.ofBytes, List.length_append]
    exact Nat.le_add_right ..
  have himage : snapshot.image order ++ later =
      snapshot.time.toBytes ++ (snapshot.content.image order ++ later) := by
    rw [image, List.append_assoc]
  have htime : CdsTime.ofBytes
      ((Reader.ofBytes (snapshot.image order ++ later)).rest.take CdsTime.wireSize) =
        .ok snapshot.time := by
    have hread := snapshot.time.ofBytes_toBytes []
    rw [List.append_nil] at hread
    rw [Reader.ofBytes, himage, List.take_left' hstamp]
    exact hread
  rw [other.deserialize_of_le order htime hroom, hsize, Reader.skip, Reader.ofBytes,
    List.drop_left' rfl, Nat.zero_add]
  dsimp only
  rw [himage, List.drop_left' hstamp]

variable (snapshot)

/-- **A snapshot gives back its stamp and every element**, to a set or a variable of the same layout
and of whatever validity, and leaves all else about that as it was. Reading succeeds on exactly the
streams that are long enough, whatever the code field says, and the stamp is written in the same
order always. -/
theorem stamp_and_elements_restored :
    (∃ bytes, snapshot.toBytes order = .ok bytes ∧
      bytes.length = 7 + snapshot.content.wireSize ∧ bytes.take 7 = snapshot.time.toBytes ∧
      ∀ (other : Snapshot) (later : Bytes), other.content.layout = snapshot.content.layout →
        ∃ copy, other.deserialize (.ofBytes (bytes ++ later)) order =
            (.ok (), copy, ⟨bytes.length, later⟩) ∧
          copy.time = snapshot.time ∧ copy.content.elements = snapshot.content.elements ∧
          other.content.SameButElements copy.content) ∧
    ∀ reader result after next, snapshot.deserialize reader order = (result, after, next) →
      (result = .ok () ↔ 7 + snapshot.content.wireSize ≤ reader.remaining) ∧
      (result = .ok () → next = reader.skip (7 + snapshot.content.wireSize)) ∧
      (result ≠ .ok () → result = .error .streamTooShort) ∧
      snapshot.content.SameButElements after.content ∧
      ∀ field other later, reader.rest = field :: later →
        ∃ last, snapshot.deserialize ⟨reader.position, other :: later⟩ order =
            (result, after, last) ∧
          last.position = next.position ∧ (result = .ok () → last = next) := by
  constructor
  · refine ⟨snapshot.image order, snapshot.toBytes_eq_image order, snapshot.length_image order, ?_,
      fun other later hlayout => ?_⟩
    · exact List.take_left' snapshot.time.length_toBytes
    · exact ⟨_, deserialize_image order hlayout later, rfl,
        SnapshotContent.elements_refilled order hlayout later,
        other.content.sameButElements_refilled order _⟩
  · intro reader result after next hread
    have hfield : ∀ field other later, reader.rest = field :: later →
        ∃ last, snapshot.deserialize ⟨reader.position, other :: later⟩ order =
            (result, after, last) ∧
          last.position = next.position ∧ (result = .ok () → last = next) := by
      intro field other later hrest
      have hcons := snapshot.deserialize_cons order field other reader.position later
      rwa [← hrest, hread] at hcons
    rcases Nat.lt_or_ge reader.remaining snapshot.wireSize with short | long
    · obtain ⟨partly, rest, hpartly, hsame⟩ := snapshot.deserialize_of_lt order short
      rw [hpartly] at hread
      cases hread
      have hno : ¬ 7 + snapshot.content.wireSize ≤ reader.remaining := Nat.not_le.mpr short
      exact ⟨by simp [hno], by simp, fun _ => rfl, hsame, hfield⟩
    · have hlength : CdsTime.wireSize ≤ (reader.rest.take CdsTime.wireSize).length := by
        rw [List.length_take]
        exact Nat.le_min.mpr ⟨Nat.le_refl _, Nat.le_trans (Nat.le_add_right ..) long⟩
      obtain ⟨time, htime⟩ := CdsTime.exists_ofBytes hlength
      rw [snapshot.deserialize_of_le order htime long] at hread
      cases hread
      have hyes : 7 + snapshot.content.wireSize ≤ reader.remaining := long
      exact ⟨by simp [hyes], fun _ => rfl, by simp,
        snapshot.content.sameButElements_refilled order _, hfield⟩

end Snapshot

end Housekeeper
