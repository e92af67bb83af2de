import Housekeeper.Identifier
import Housekeeper.Pool.Element

/-!
# Pool entries

An entry is one cell of a local pool: elements of one type, and a flag that says whether they can
be trusted. Type and length are fixed when the entry is made.
-/

namespace Housekeeper

structure PoolEntry where
  type : ElementType
  values : List (Element type)
  valid : Bool
deriving DecidableEq

namespace PoolEntry

/-- An invalid entry of `length` zeros. -/
def zeroed (type : ElementType) (length : Nat) : PoolEntry :=
  ⟨type, List.replicate length 0, false⟩

def length (entry : PoolEntry) : Nat := entry.values.length

def isEmpty (entry : PoolEntry) : Bool := entry.values.isEmpty

/-- The elements, if they are of the given type. -/
def values? (entry : PoolEntry) (type : ElementType) : Option (List (Element type)) :=
  if h : entry.type = type then some (h ▸ entry.values) else none

def text (entry : PoolEntry) : String :=
  entry.type.name ++ "[" ++ toString entry.length ++ "] valid=" ++ toString entry.valid ++
    " values=[" ++ ", ".intercalate (entry.values.map Element.text) ++ "]"

end PoolEntry

end Housekeeper
