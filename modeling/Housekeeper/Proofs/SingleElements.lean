import Housekeeper.Proofs.Registration
import Housekeeper.Proofs.WholeWrites

/-!
# Single elements and vectors of one element

An accessor of a single element and one of a vector of length one are implemented apart: they check
sizes at different places, take over an entry in different ways and reset differently. Nobody can
tell. `Accessor.asVector` replaces a single element by the vector of it, every operation comes to
the same before and after that (`Bench.step_asVector`), and so does every sequence of them
(`Bench.scalar_like_vector_of_one`), whatever others do to the pools and their mutexes meanwhile.
-/

namespace Housekeeper

/-- Two serializations of the same bytes cannot be told apart. -/
theorem Writer.WritesWhole.unique {f g : Writer → Except PoolError Unit × Writer} {bytes : Bytes}
    (hf : WritesWhole f bytes) (hg : WritesWhole g bytes) : f = g := by
  funext writer
  rcases Nat.lt_or_ge writer.remaining bytes.length with short | room
  · rw [hf.of_lt writer short, hg.of_lt writer short]
  · rw [hf.of_le writer room, hg.of_le writer room]

/-! ## Local copies -/

namespace LocalCopy

variable {type : ElementType} (copy : LocalCopy type)

/-- A single element as a vector. -/
def asVector : LocalCopy type → LocalCopy type
  | scalar value => vector [value]
  | vector values => vector values

@[simp] theorem values_asVector : copy.asVector.values = copy.values := by
  cases copy <;> rfl

@[simp] theorem length_asVector : copy.asVector.length = copy.length := by
  cases copy <;> rfl

@[simp] theorem wireSize_asVector : copy.asVector.wireSize = copy.wireSize := by
  rw [wireSize_eq, wireSize_eq, length_asVector]

theorem asVector_cleared : copy.cleared.asVector = copy.asVector.cleared := by
  cases copy <;> rfl

theorem asVector_load {xs : List (Element type)} (h : xs.length = copy.length) :
    (copy.load xs).asVector = copy.asVector.load xs := by
  cases copy with
  | scalar value =>
    obtain ⟨x, rfl⟩ := List.length_eq_one_iff.mp h
    rfl
  | vector values => rfl

theorem deserialize_asVector (reader : Reader) (order : ByteOrder) :
    copy.asVector.deserialize reader order =
      ((copy.deserialize reader order).1, (copy.deserialize reader order).2.1.asVector,
        (copy.deserialize reader order).2.2) := by
  rcases Nat.lt_or_ge reader.remaining copy.wireSize with short | long
  · rw [copy.deserialize_of_lt order short,
      copy.asVector.deserialize_of_lt order (by rwa [wireSize_asVector])]
  · rw [copy.deserialize_of_le order long,
      copy.asVector.deserialize_of_le order (by rwa [wireSize_asVector]), length_asVector,
      wireSize_asVector, asVector_load copy (Element.length_decodeEach ..)]

end LocalCopy

/-! ## Accessors -/

namespace Accessor

variable (accessor : Accessor)

/-- The accessor with a single element kept as a vector. -/
def asVector : Accessor := accessor.withCopy accessor.copy.asVector

theorem image_asVector (order : ByteOrder) :
    accessor.asVector.image order = accessor.image order := by
  show accessor.copy.asVector.image order = accessor.copy.image order
  rw [LocalCopy.image, LocalCopy.values_asVector, LocalCopy.image]

theorem serialize_asVector (writer : Writer) (order : ByteOrder) :
    accessor.asVector.serialize writer order = accessor.serialize writer order := by
  have hwhole := accessor.asVector.writesWhole order
  rw [image_asVector] at hwhole
  exact congrFun (hwhole.unique (accessor.writesWhole order)) writer

theorem toBytes_asVector (order : ByteOrder) :
    accessor.asVector.toBytes order = accessor.toBytes order := by
  rw [toBytes_eq_image, toBytes_eq_image, image_asVector]

theorem deserialize_asVector (reader : Reader) (order : ByteOrder) :
    accessor.asVector.deserialize reader order =
      ((accessor.deserialize reader order).1, (accessor.deserialize reader order).2.1.asVector,
        (accessor.deserialize reader order).2.2) := by
  have hcopy := accessor.copy.deserialize_asVector reader order
  simp only [deserialize, asVector, withCopy, hcopy]

theorem readFrom_asVector (pool : LocalPool) :
    accessor.asVector.readFrom pool =
      ((accessor.readFrom pool).1, (accessor.readFrom pool).2.asVector) := by
  have hfetches : pool.fetch accessor.asVector.id accessor.asVector.type
      accessor.asVector.copy.length =
        pool.fetch accessor.id accessor.type accessor.copy.length :=
    congrArg _ accessor.copy.length_asVector
  by_cases hunbound : accessor.isUnbound = true
  · have hread : accessor.readFrom pool = (.ok (), accessor) := if_pos hunbound
    rw [hread]
    exact if_pos hunbound
  have hbound : ¬ accessor.asVector.isUnbound = true := hunbound
  cases hfetch : pool.fetch accessor.id accessor.type accessor.copy.length with
  | ok found =>
    obtain ⟨values, valid⟩ := found
    have hload := accessor.copy.asVector_load (LocalPool.fetch_eq_ok_iff.mp hfetch).2
    rw [readFrom_of_ok hunbound hfetch, readFrom_of_ok hbound (hfetches.trans hfetch)]
    simp only [asVector, withCopy, withValidity, hload]
  | error e =>
    rw [readFrom_of_error hunbound hfetch, readFrom_of_error hbound (hfetches.trans hfetch)]
    simp only [asVector, withCopy, withValidity, LocalCopy.asVector_cleared]

theorem read_asVector (bank : PoolBank) :
    accessor.asVector.read bank = ((accessor.read bank).1, (accessor.read bank).2.asVector) := by
  have hunbound : accessor.asVector.isUnbound = accessor.isUnbound := rfl
  have hpool : accessor.asVector.pool = accessor.pool := rfl
  unfold read
  rw [hunbound, hpool]
  split
  · rfl
  · split
    · exact accessor.readFrom_asVector _
    · rfl

theorem commitTo_asVector (pool : LocalPool) :
    accessor.asVector.commitTo pool = accessor.commitTo pool := by
  have hvalues : accessor.asVector.values = accessor.values := accessor.copy.values_asVector
  unfold commitTo
  rw [hvalues]
  rfl

theorem commit_asVector (bank : PoolBank) :
    accessor.asVector.commit bank = accessor.commit bank := by
  unfold commit
  simp only [commitTo_asVector]
  rfl

theorem withValues_asVector (type : ElementType) (values : List (Element type)) :
    accessor.asVector.withValues type values = (accessor.withValues type values).asVector := by
  have hlength : accessor.asVector.copy.length = accessor.copy.length :=
    accessor.copy.length_asVector
  by_cases h : type = accessor.type ∧ values.length = accessor.copy.length
  · obtain ⟨rfl, hfits⟩ := h
    have hscalar : accessor.withValues accessor.type values =
        accessor.withCopy (accessor.copy.load values) := dif_pos ⟨rfl, hfits⟩
    have hvector : accessor.asVector.withValues accessor.type values =
        accessor.asVector.withCopy (accessor.asVector.copy.load values) :=
      dif_pos ⟨rfl, hfits.trans hlength.symm⟩
    rw [hscalar, hvector]
    simp only [asVector, withCopy, LocalCopy.asVector_load accessor.copy hfits]
  · have hscalar : accessor.withValues type values = accessor := dif_neg h
    rw [hscalar]
    exact dif_neg fun hvector => h ⟨hvector.1, hvector.2.trans hlength⟩

end Accessor

/-! ## Whole sequences -/

/-- An accessor, the pools, and what it is written to and read from. -/
structure Bench where
  accessor : Accessor
  bank : PoolBank
  writer : Writer
  reader : Reader

inductive BenchCall where
  | read
  | commit
  | commitWithValidity (valid : Bool)
  | setValues (type : ElementType) (values : List (Element type))
  | setValidity (valid : Bool)
  | setChanged (changed : Bool)
  | serialize (order : ByteOrder)
  | deserialize (order : ByteOrder)
  /-- Others take or release a mutex, or write to a pool. -/
  | others (change : PoolBank → PoolBank)
  /-- From here on there are another writer and another reader. -/
  | supply (writer : Writer) (reader : Reader)

namespace Bench

/-- The result of a call, and what it leaves. -/
def step (bench : Bench) : BenchCall → Except PoolError Unit × Bench
  | .read =>
    let (result, accessor) := bench.accessor.read bench.bank
    (result, { bench with accessor })
  | .commit =>
    let (result, bank) := bench.accessor.commit bench.bank
    (result, { bench with bank })
  | .commitWithValidity valid =>
    let accessor := bench.accessor.withValidity valid
    let (result, bank) := accessor.commit bench.bank
    (result, { bench with accessor, bank })
  | .setValues type values =>
    (.ok (), { bench with accessor := bench.accessor.withValues type values })
  | .setValidity valid => (.ok (), { bench with accessor := bench.accessor.withValidity valid })
  | .setChanged changed => (.ok (), { bench with accessor := bench.accessor.withChanged changed })
  | .serialize order =>
    let (result, writer) := bench.accessor.serialize bench.writer order
    (result, { bench with writer })
  | .deserialize order =>
    let (result, accessor, reader) := bench.accessor.deserialize bench.reader order
    (result, { bench with accessor, reader })
  | .others change => (.ok (), { bench with bank := change bench.bank })
  | .supply writer reader => (.ok (), { bench with writer, reader })

/-- The results of some calls, one after the other, and what is left after them. -/
def run (bench : Bench) : List BenchCall → List (Except PoolError Unit) × Bench
  | [] => ([], bench)
  | call :: rest =>
    ((bench.step call).1 :: ((bench.step call).2.run rest).1, ((bench.step call).2.run rest).2)

/-- The same with a single element kept as a vector. -/
def asVector (bench : Bench) : Bench := { bench with accessor := bench.accessor.asVector }

theorem step_asVector (bench : Bench) (call : BenchCall) :
    bench.asVector.step call = ((bench.step call).1, (bench.step call).2.asVector) := by
  cases call with
  | read => simp only [step, asVector, Accessor.read_asVector]
  | commit => simp only [step, asVector, Accessor.commit_asVector]
  | commitWithValidity valid =>
    have hvalid : bench.accessor.asVector.withValidity valid =
        (bench.accessor.withValidity valid).asVector := rfl
    simp only [step, asVector, hvalid, Accessor.commit_asVector]
  | setValues type values => simp only [step, asVector, Accessor.withValues_asVector]
  | setValidity valid => rfl
  | setChanged changed => rfl
  | serialize order => simp only [step, asVector, Accessor.serialize_asVector]
  | deserialize order => simp only [step, asVector, Accessor.deserialize_asVector]
  | others change => rfl
  | supply writer reader => rfl

theorem run_asVector (bench : Bench) (calls : List BenchCall) :
    bench.asVector.run calls = ((bench.run calls).1, (bench.run calls).2.asVector) := by
  induction calls generalizing bench with
  | nil => rfl
  | cons call rest ih => simp only [run, step_asVector, ih]

/-- What a call makes of the accessor. -/
theorem accessor_step (bench : Bench) (call : BenchCall) :
    ∃ action : AccessorAction, action.replacement? = none ∧
      (bench.step call).2.accessor = (bench.accessor.act bench.bank action).2.1 := by
  cases call with
  | read => exact ⟨.read, rfl, rfl⟩
  | commitWithValidity valid => exact ⟨.commitWithValidity valid, rfl, rfl⟩
  | setValues type values => exact ⟨.setValues type values, rfl, rfl⟩
  | setValidity valid => exact ⟨.setFlags valid bench.accessor.changed, rfl, rfl⟩
  | setChanged changed => exact ⟨.setFlags bench.accessor.valid changed, rfl, rfl⟩
  | deserialize order => exact ⟨.deserialize bench.reader order, rfl, rfl⟩
  | commit | serialize | others | supply => exact ⟨.commit, rfl, rfl⟩

/-- The accessor keeps its type, and stays a single element or a vector. -/
theorem shape_step (bench : Bench) (call : BenchCall) :
    (bench.step call).2.accessor.shape = bench.accessor.shape ∧
      (bench.step call).2.accessor.binding = bench.accessor.binding := by
  obtain ⟨action, hown, heq⟩ := bench.accessor_step call
  have hfits : action.Fits bench.accessor.shape := by
    cases action with
    | replace other => cases hown
    | _ => trivial
  rw [heq]
  exact ⟨Accessor.shape_act _ _ hfits, Accessor.binding_act _ _ hown⟩

theorem shape_run (bench : Bench) (calls : List BenchCall) :
    (bench.run calls).2.accessor.shape = bench.accessor.shape ∧
      (bench.run calls).2.accessor.binding = bench.accessor.binding := by
  induction calls generalizing bench with
  | nil => exact ⟨rfl, rfl⟩
  | cons call rest ih =>
    obtain ⟨hshape, hbinding⟩ := bench.shape_step call
    obtain ⟨hshape', hbinding'⟩ := ih (bench.step call).2
    exact ⟨hshape'.trans hshape, hbinding'.trans hbinding⟩

/-- **A single element is handled like a vector of one**: the same results, the same bytes written
and taken, the same pools, and in the end the same element with the same flags. -/
theorem scalar_like_vector_of_one (pool : PoolHandle) (id : LocalPoolId) (mode : AccessMode)
    (type : ElementType) (value : Element type) (valid changed : Bool) (bank : PoolBank)
    (writer : Writer) (reader : Reader) (calls : List BenchCall) :
    let single : Accessor := ⟨pool, id, mode, type, .scalar value, valid, changed⟩
    let vector : Accessor := ⟨pool, id, mode, type, .vector [value], valid, changed⟩
    let run := Bench.run ⟨single, bank, writer, reader⟩ calls
    let run' := Bench.run ⟨vector, bank, writer, reader⟩ calls
    run'.1 = run.1 ∧ run'.2.bank = run.2.bank ∧ run'.2.writer = run.2.writer ∧
      run'.2.reader = run.2.reader ∧
      (∀ order, run'.2.accessor.toBytes order = run.2.accessor.toBytes order) ∧
      ∃ value' valid' changed',
        run.2.accessor = ⟨pool, id, mode, type, .scalar value', valid', changed'⟩ ∧
        run'.2.accessor = ⟨pool, id, mode, type, .vector [value'], valid', changed'⟩ := by
  intro single vector run run'
  have hsame : run' = (run.1, run.2.asVector) :=
    Bench.run_asVector ⟨single, bank, writer, reader⟩ calls
  obtain ⟨hshape, hbinding⟩ := Bench.shape_run ⟨single, bank, writer, reader⟩ calls
  change run.2.accessor.shape = single.shape at hshape
  change run.2.accessor.binding = single.binding at hbinding
  rw [hsame]
  refine ⟨rfl, rfl, rfl, rfl, run.2.accessor.toBytes_asVector, ?_⟩
  simp only [asVector]
  generalize run.2.accessor = after at hshape hbinding
  obtain ⟨pool', id', mode', type', copy, valid', changed'⟩ := after
  cases copy with
  | vector values => cases hshape
  | scalar value' =>
    cases hshape
    cases hbinding
    exact ⟨value', valid', changed', rfl, rfl⟩

/-- New accessors start alike. -/
example (pool : PoolHandle) (id : LocalPoolId) (mode : AccessMode) (type : ElementType) :
    (Accessor.scalar pool id mode type).asVector = .vector pool id mode type 1 := rfl

end Bench

end Housekeeper
