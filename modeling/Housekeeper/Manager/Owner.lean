import Housekeeper.Dataset.Basic

/-!
# Owners of a pool

The owner exposes data sets and variables to its housekeeping manager, each under an id; of
several under one id the first is meant. It is told about changes that a subscription brings to
it, and decides whether it keeps the snapshot that comes with such a notice.
-/

namespace Housekeeper

/-- What a subscription is about. -/
inductive DataId where
  | ofSet (sid : Sid)
  | ofVariable (id : LocalPoolId)
deriving DecidableEq

/-- News about somebody's data, with a snapshot in the store or without. -/
inductive ChangeNotice where
  | ofSet (sid : Sid) (snapshot : Option StoreId)
  | ofVariable (gpid : Gpid) (snapshot : Option StoreId)
deriving DecidableEq

/-- Changes the first element that has a property. -/
def updateFirst {α : Type} (p : α → Bool) (change : α → α) : List α → List α
  | [] => []
  | x :: rest => if p x then change x :: rest else x :: updateFirst p change rest

theorem find?_updateFirst {α : Type} {p : α → Bool} {change : α → α} (keeps : ∀ x, p x → p (change x))
    (xs : List α) : (updateFirst p change xs).find? p = (xs.find? p).map change := by
  induction xs with
  | nil => rfl
  | cons x rest ih =>
    by_cases h : p x
    · simp [updateFirst, h, keeps x h]
    · simp [updateFirst, h, ih]

@[simp] theorem length_updateFirst {α : Type} (p : α → Bool) (change : α → α) (xs : List α) :
    (updateFirst p change xs).length = xs.length := by
  induction xs with
  | nil => rfl
  | cons x rest ih =>
    rw [updateFirst]
    split <;> simp [ih]

theorem find?_updateFirst_of_disjoint {α : Type} {p q : α → Bool} {change : α → α}
    (h : ∀ x, p x → q x = false ∧ q (change x) = false) (xs : List α) :
    (updateFirst p change xs).find? q = xs.find? q := by
  induction xs with
  | nil => rfl
  | cons x rest ih =>
    by_cases hp : p x
    · simp [updateFirst, hp, h x hp]
    · simp [updateFirst, hp, List.find?_cons, ih]

theorem map_updateFirst {α β : Type} {f : α → β} {p : α → Bool} {change : α → α}
    (h : ∀ x, p x → f (change x) = f x) (xs : List α) :
    (updateFirst p change xs).map f = xs.map f := by
  induction xs with
  | nil => rfl
  | cons x rest ih =>
    by_cases hp : p x
    · simp [updateFirst, hp, h x hp]
    · simp [updateFirst, hp, ih]

section Keyed

variable {κ α : Type} [BEq κ]

theorem find?_updateFirst_keyed (key : κ) (change : α → α) (xs : List (κ × α)) :
    ((updateFirst (fun x => x.1 == key) (fun x => (x.1, change x.2)) xs).find?
      fun x => x.1 == key).map Prod.snd =
      ((xs.find? fun x => x.1 == key).map Prod.snd).map change := by
  have keeps (x : κ × α) (h : (x.1 == key) = true) : ((x.1, change x.2).1 == key) = true := h
  simp only [find?_updateFirst keeps, Option.map_map, Function.comp_def]

theorem find?_updateFirst_keyed_of_ne [LawfulBEq κ] {key other : κ} (h : other ≠ key)
    (change : α → α) (xs : List (κ × α)) :
    ((updateFirst (fun x => x.1 == key) (fun x => (x.1, change x.2)) xs).find?
      fun x => x.1 == other).map Prod.snd = (xs.find? fun x => x.1 == other).map Prod.snd := by
  rw [find?_updateFirst_of_disjoint]
  intro x hx
  have : (x.1 == other) = false := by
    rw [eq_of_beq hx]; simpa using Ne.symm h
  exact ⟨this, this⟩

end Keyed

structure Owner where
  /-- Period of the owner's task in milliseconds. -/
  period : UInt32
  /-- The data sets, each with the id it is exposed under. -/
  sets : List (Sid × Dataset)
  /-- The variables, also each with the id it is exposed under. -/
  accessors : List (LocalPoolId × Accessor)
  /-- Does the owner keep the snapshot of a notice? -/
  keeps : ChangeNotice → Bool
  /-- What the owner was told, the oldest first. -/
  notices : List ChangeNotice

/-- A data set or a variable of the owner. -/
inductive OwnedData where
  | ofSet (sid : Sid) (set : Dataset)
  | ofVariable (id : LocalPoolId) (accessor : Accessor)

namespace OwnedData

def changed : OwnedData → Bool
  | ofSet _ set => set.changed
  | ofVariable _ accessor => accessor.changed

end OwnedData

namespace Owner

def set? (owner : Owner) (sid : Sid) : Option Dataset :=
  (owner.sets.find? fun exposed => exposed.1 == sid).map Prod.snd

def modifySet (owner : Owner) (sid : Sid) (change : Dataset → Dataset) : Owner :=
  let sets := updateFirst (fun exposed => exposed.1 == sid)
    (fun exposed => (exposed.1, change exposed.2)) owner.sets
  { owner with sets }

def variableOf? (owner : Owner) (id : LocalPoolId) : Option Accessor :=
  (owner.accessors.find? fun exposed => exposed.1 == id).map Prod.snd

def modifyVariable (owner : Owner) (id : LocalPoolId) (change : Accessor → Accessor) : Owner :=
  let accessors := updateFirst (fun exposed => exposed.1 == id)
    (fun exposed => (exposed.1, change exposed.2)) owner.accessors
  { owner with accessors }

def getSet (owner : Owner) (sid : Sid) : Except PoolError Dataset :=
  match owner.set? sid with
  | some set => .ok set
  | none => .error .datasetNotFound

/-- The set of the given id, if it is reported as the given kind. -/
def getSetOfKind (owner : Owner) (sid : Sid) (kind : ReportKind) : Except PoolError Dataset :=
  match owner.getSet sid with
  | .error e => .error e
  | .ok set => if set.kind = kind then .ok set else .error .wrongHkPacketType

def getVariable (owner : Owner) (id : LocalPoolId) : Except PoolError Accessor :=
  match owner.variableOf? id with
  | some accessor => .ok accessor
  | none => .error .poolObjectNotFound

def getData (owner : Owner) : DataId → Except PoolError OwnedData
  | .ofSet sid => (owner.getSet sid).map (OwnedData.ofSet sid)
  | .ofVariable id => (owner.getVariable id).map (OwnedData.ofVariable id)

def clearChanged (owner : Owner) : DataId → Owner
  | .ofSet sid => owner.modifySet sid fun set => set.withChanged false
  | .ofVariable id => owner.modifyVariable id fun accessor => accessor.withChanged false

/-- The owner hears of a change. -/
def tell (owner : Owner) (notice : ChangeNotice) : Owner :=
  { owner with notices := owner.notices ++ [notice] }

theorem set?_modifySet (owner : Owner) (sid : Sid) (change : Dataset → Dataset) :
    (owner.modifySet sid change).set? sid = (owner.set? sid).map change :=
  find?_updateFirst_keyed sid change owner.sets

theorem set?_modifySet_of_ne (owner : Owner) {sid other : Sid} (h : other ≠ sid)
    (change : Dataset → Dataset) : (owner.modifySet sid change).set? other = owner.set? other :=
  find?_updateFirst_keyed_of_ne h change owner.sets

theorem variableOf?_modifyVariable (owner : Owner) (id : LocalPoolId)
    (change : Accessor → Accessor) :
    (owner.modifyVariable id change).variableOf? id = (owner.variableOf? id).map change :=
  find?_updateFirst_keyed id change owner.accessors

theorem variableOf?_modifyVariable_of_ne (owner : Owner) {id other : LocalPoolId} (h : other ≠ id)
    (change : Accessor → Accessor) :
    (owner.modifyVariable id change).variableOf? other = owner.variableOf? other :=
  find?_updateFirst_keyed_of_ne h change owner.accessors

end Owner

end Housekeeper
