import Housekeeper.Identifier

/-!
# Tables by id

A table holds at most one value per 32-bit id, in ascending order of the ids. `get?_put` and
`get?_erase` say what each operation does to the value of every id.
-/

namespace Housekeeper

structure IdTable (α : Type) where
  rows : List (UInt32 × α)
  ascending : rows.Pairwise fun a b => a.1 < b.1

namespace IdTable

variable {α : Type}

/-! ## Rows -/

def lookup (id : UInt32) : List (UInt32 × α) → Option α
  | [] => none
  | (own, value) :: rest => if own = id then some value else lookup id rest

/-- Puts a row in its place, instead of one with the same id. -/
def insertRow (id : UInt32) (value : α) : List (UInt32 × α) → List (UInt32 × α)
  | [] => [(id, value)]
  | (own, old) :: rest =>
    if id < own then (id, value) :: (own, old) :: rest
    else if own = id then (id, value) :: rest
    else (own, old) :: insertRow id value rest

theorem mem_insertRow {id : UInt32} {value : α} {row : UInt32 × α} {rows : List (UInt32 × α)}
    (h : row ∈ insertRow id value rows) : row = (id, value) ∨ row ∈ rows := by
  induction rows with
  | nil => simpa [insertRow] using h
  | cons head rest ih =>
    obtain ⟨own, old⟩ := head
    rw [insertRow] at h
    split at h
    · simpa using h
    · split at h
      · rcases List.mem_cons.mp h with rfl | h
        · exact .inl rfl
        · exact .inr (List.mem_cons_of_mem _ h)
      · rcases List.mem_cons.mp h with rfl | h
        · exact .inr (List.mem_cons_self ..)
        · exact (ih h).imp_right (List.mem_cons_of_mem _)

theorem pairwise_insertRow (id : UInt32) (value : α) {rows : List (UInt32 × α)}
    (h : rows.Pairwise fun a b => a.1 < b.1) :
    (insertRow id value rows).Pairwise fun a b => a.1 < b.1 := by
  induction rows with
  | nil => simp [insertRow]
  | cons head rest ih =>
    obtain ⟨own, old⟩ := head
    obtain ⟨above, ordered⟩ := List.pairwise_cons.mp h
    rw [insertRow]
    split
    next below =>
      refine List.pairwise_cons.mpr ⟨fun row member => ?_, h⟩
      rcases List.mem_cons.mp member with rfl | member
      · exact below
      · exact UInt32.lt_trans below (above row member)
    next notBelow =>
      split
      next same =>
        subst same
        exact List.pairwise_cons.mpr ⟨above, ordered⟩
      next other =>
        refine List.pairwise_cons.mpr ⟨fun row member => ?_, ih ordered⟩
        rcases mem_insertRow member with rfl | member
        · exact UInt32.lt_of_le_of_ne (UInt32.not_lt.mp notBelow) other
        · exact above row member

/-! ## Tables -/

def empty : IdTable α := ⟨[], List.Pairwise.nil⟩

instance : Inhabited (IdTable α) := ⟨empty⟩

def size (table : IdTable α) : Nat := table.rows.length

def get? (table : IdTable α) (id : UInt32) : Option α := lookup id table.rows

def contains (table : IdTable α) (id : UInt32) : Bool := (table.get? id).isSome

def put (table : IdTable α) (id : UInt32) (value : α) : IdTable α :=
  ⟨insertRow id value table.rows, pairwise_insertRow id value table.ascending⟩

def putAll (table : IdTable α) (rows : List (UInt32 × α)) : IdTable α :=
  rows.foldl (fun table (id, value) => table.put id value) table

def erase (table : IdTable α) (id : UInt32) : IdTable α :=
  ⟨table.rows.filter fun row => row.1 ≠ id, table.ascending.filter _⟩

theorem lookup_insertRow (id : UInt32) (value : α) (rows : List (UInt32 × α)) (other : UInt32) :
    lookup other (insertRow id value rows) =
      if other = id then some value else lookup other rows := by
  induction rows with
  | nil => simp [insertRow, lookup, eq_comm]
  | cons head rest ih =>
    obtain ⟨own, old⟩ := head
    rw [insertRow]
    split
    · simp only [lookup]
      grind
    · split <;> simp only [lookup] <;> grind

theorem get?_put (table : IdTable α) (id : UInt32) (value : α) (other : UInt32) :
    (table.put id value).get? other = if other = id then some value else table.get? other :=
  lookup_insertRow id value table.rows other

/-- An id that has a value keeps its place. -/
theorem insertRow_of_lookup {id : UInt32} {old : α} {rows : List (UInt32 × α)}
    (hrows : rows.Pairwise fun a b => a.1 < b.1) (h : lookup id rows = some old) (value : α) :
    ∃ before after, rows = before ++ (id, old) :: after ∧
      insertRow id value rows = before ++ (id, value) :: after := by
  induction rows with
  | nil => cases h
  | cons row rest ih =>
    obtain ⟨own, first⟩ := row
    obtain ⟨hlt, hrest⟩ := List.pairwise_cons.mp hrows
    rw [lookup] at h
    split at h
    next hsame =>
      subst hsame
      cases h
      refine ⟨[], rest, rfl, ?_⟩
      rw [insertRow, if_neg (UInt32.lt_irrefl own), if_pos rfl]
      rfl
    next hother =>
      obtain ⟨before, after, rfl, hinsert⟩ := ih hrest h
      have hbelow : own < id := hlt (id, old) (by simp)
      refine ⟨(own, first) :: before, after, rfl, ?_⟩
      rw [insertRow, if_neg (UInt32.lt_asymm hbelow), if_neg hother, hinsert]
      rfl

/-- A new id gets a place between the others. -/
theorem insertRow_of_lookup_none {id : UInt32} {rows : List (UInt32 × α)}
    (h : lookup id rows = none) (value : α) :
    ∃ before after, rows = before ++ after ∧
      insertRow id value rows = before ++ (id, value) :: after := by
  induction rows with
  | nil => exact ⟨[], [], rfl, rfl⟩
  | cons row rest ih =>
    obtain ⟨own, first⟩ := row
    rw [lookup] at h
    split at h
    · cases h
    next hother =>
      rw [insertRow]
      split
      · exact ⟨[], (own, first) :: rest, rfl, rfl⟩
      · obtain ⟨before, after, rfl, hinsert⟩ := ih h
        rw [hinsert]
        exact ⟨(own, first) :: before, after, rfl, rfl⟩

/-- Putting what is there already changes nothing. -/
theorem put_of_get? {table : IdTable α} {id : UInt32} {value : α}
    (h : table.get? id = some value) : table.put id value = table := by
  obtain ⟨before, after, hrows, hput⟩ := insertRow_of_lookup table.ascending h value
  have hsame : insertRow id value table.rows = table.rows := hput.trans hrows.symm
  simp only [put, hsame]

theorem lookup_filter_ne (id : UInt32) (rows : List (UInt32 × α)) (other : UInt32) :
    lookup other (rows.filter fun row => row.1 ≠ id) =
      if other = id then none else lookup other rows := by
  induction rows with
  | nil => simp [lookup]
  | cons head rest ih =>
    obtain ⟨own, old⟩ := head
    rw [List.filter_cons]
    split <;> simp only [lookup] <;> grind

theorem get?_erase (table : IdTable α) (id other : UInt32) :
    (table.erase id).get? other = if other = id then none else table.get? other :=
  lookup_filter_ne id table.rows other

end IdTable

end Housekeeper
