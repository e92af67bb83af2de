import Housekeeper.Error
import Housekeeper.Wire.ByteOrder

/-!
# Bounded writers

A writer gathers bytes up to a fixed capacity. A piece that does not fit in what remains is
refused as a whole, with `PoolError.bufferTooShort`, and leaves the writer as it was.
`writeAll_eq_ok_iff` says that a list of pieces succeeds exactly if all of them fit together.
-/

namespace Housekeeper

structure Writer where
  capacity : Nat
  content : Bytes
  length_le : content.length ≤ capacity := by simp

namespace Writer

def ofCapacity (capacity : Nat) : Writer := ⟨capacity, [], Nat.zero_le _⟩

def size (writer : Writer) : Nat := writer.content.length

def isEmpty (writer : Writer) : Bool := writer.content.isEmpty

/-- How many more bytes fit. -/
def remaining (writer : Writer) : Nat := writer.capacity - writer.content.length

def write (writer : Writer) (piece : Bytes) : Except PoolError Unit × Writer :=
  if h : writer.content.length + piece.length ≤ writer.capacity then
    (.ok (), ⟨writer.capacity, writer.content ++ piece, by simpa using h⟩)
  else
    (.error .bufferTooShort, writer)

/-- Writes the pieces in order and stops at the first one that does not fit. -/
def writeAll (writer : Writer) : List Bytes → Except PoolError Unit × Writer
  | [] => (.ok (), writer)
  | piece :: rest =>
    match writer.write piece with
    | (.ok (), next) => next.writeAll rest
    | (.error e, next) => (.error e, next)

/-- The bytes that a serialization leaves in a writer of the given capacity. -/
def collect (capacity : Nat) (serialize : Writer → Except PoolError Unit × Writer) :
    Except PoolError Bytes :=
  match serialize (ofCapacity capacity) with
  | (.ok (), writer) => .ok writer.content
  | (.error e, _) => .error e

theorem size_add_remaining (writer : Writer) :
    writer.size + writer.remaining = writer.capacity := by
  have := writer.length_le
  simp only [size, remaining]
  omega

theorem write_of_le {writer : Writer} {piece : Bytes} (h : piece.length ≤ writer.remaining) :
    (writer.write piece).1 = .ok () ∧
      (writer.write piece).2.content = writer.content ++ piece ∧
      (writer.write piece).2.capacity = writer.capacity := by
  have fits : writer.content.length + piece.length ≤ writer.capacity := by
    have := writer.length_le
    simp only [remaining] at h
    omega
  simp [write, fits]

theorem write_of_lt {writer : Writer} {piece : Bytes} (h : writer.remaining < piece.length) :
    writer.write piece = (.error .bufferTooShort, writer) := by
  have short : ¬ writer.content.length + piece.length ≤ writer.capacity := by
    simp only [remaining] at h
    omega
  simp [write, short]

theorem writeAll_of_le {pieces : List Bytes} {writer : Writer}
    (h : pieces.flatten.length ≤ writer.remaining) :
    (writer.writeAll pieces).1 = .ok () ∧
      (writer.writeAll pieces).2.content = writer.content ++ pieces.flatten ∧
      (writer.writeAll pieces).2.capacity = writer.capacity := by
  induction pieces generalizing writer with
  | nil => simp [writeAll]
  | cons piece rest ih =>
    simp only [List.flatten_cons, List.length_append] at h
    obtain ⟨ok, content, capacity⟩ := @write_of_le writer piece (by omega)
    have room : rest.flatten.length ≤ (writer.write piece).2.remaining := by
      simp only [remaining, content, capacity, List.length_append] at h ⊢
      omega
    obtain ⟨ok', content', capacity'⟩ := ih room
    have unfolded : writer.writeAll (piece :: rest) = (writer.write piece).2.writeAll rest := by
      rcases hw : writer.write piece with ⟨r, next⟩
      rw [hw] at ok
      cases ok
      simp [writeAll, hw]
    rw [unfolded]
    exact ⟨ok', by simp [content', content], capacity'.trans capacity⟩

theorem writeAll_eq_ok_iff {pieces : List Bytes} {writer : Writer} :
    (writer.writeAll pieces).1 = .ok () ↔ pieces.flatten.length ≤ writer.remaining := by
  refine ⟨fun h => ?_, fun h => (writeAll_of_le h).1⟩
  induction pieces generalizing writer with
  | nil => simp
  | cons piece rest ih =>
    rcases Nat.lt_or_ge writer.remaining piece.length with short | fits
    · simp [writeAll, write_of_lt short] at h
    · obtain ⟨ok, content, capacity⟩ := write_of_le fits
      rcases hw : writer.write piece with ⟨r, next⟩
      simp only [hw] at ok content capacity
      subst ok
      simp only [writeAll, hw] at h
      have room := ih h
      simp only [remaining, content, capacity, List.length_append] at room fits
      simp only [remaining, List.flatten_cons, List.length_append]
      omega

end Writer

end Housekeeper
