import Housekeeper.Transport.ErrorLog
import Mathlib.Data.List.DropRight

/-!
# What an error log tells

`LogCall` is one use of an error log. Of all failures that were ever recorded the log keeps the
latest ones, numbered through from one, and of each kind it counts those since its counters were
taken last. `ErrorLog.Tells` ties a log to the calls that made it; every call keeps it
(`Tells.call`), and so it holds after any number of them (`history_of_calls`).
-/

namespace Housekeeper

/-- Something that went wrong, and on whose behalf. -/
structure Failure where
  kind : ResourceError
  source : ObjectId
  error : PoolError
deriving DecidableEq

namespace Failure

def numbered (failure : Failure) (number : UInt32) : ErrorRecord :=
  ⟨number, failure.kind, failure.source, failure.error.code⟩

/-- The records of all failures, as a log without bounds would have them. -/
def allNumbered (failures : List Failure) : List ErrorRecord :=
  failures.mapIdx fun index failure => failure.numbered (UInt32.ofNat (index + 1))

theorem allNumbered_concat (failures : List Failure) (failure : Failure) :
    allNumbered (failures ++ [failure]) =
      allNumbered failures ++ [failure.numbered (UInt32.ofNat (failures.length + 1))] :=
  List.mapIdx_concat

end Failure

inductive LogCall where
  | record (failure : Failure)
  | takeCounters

namespace LogCall

def failure? : LogCall → Option Failure
  | record failure => some failure
  | takeCounters => none

def isRecord : LogCall → Bool
  | record _ => true
  | takeCounters => false

def isOfKind (kind : ResourceError) : LogCall → Bool
  | record failure => failure.kind = kind
  | takeCounters => false

/-- How many failures of a kind were recorded since the counters were taken last. -/
def recent (kind : ResourceError) (calls : List LogCall) : Nat :=
  (calls.rtakeWhile isRecord).countP (isOfKind kind)

@[simp] theorem recent_takeCounters (kind : ResourceError) (calls : List LogCall) :
    recent kind (calls ++ [takeCounters]) = 0 := by
  rw [recent, List.rtakeWhile_concat_neg _ _ _ (by simp [isRecord])]
  rfl

theorem recent_record (kind : ResourceError) (calls : List LogCall) (failure : Failure) :
    recent kind (calls ++ [record failure]) =
      recent kind calls + if failure.kind = kind then 1 else 0 := by
  rw [recent, List.rtakeWhile_concat_pos _ _ _ rfl, List.countP_append, List.countP_singleton,
    recent]
  simp [isOfKind]

end LogCall

def ErrorCounters.of (counters : ErrorCounters) : ResourceError → UInt32
  | .lostTelemetry => counters.lostTelemetry
  | .queueHit => counters.queueHits
  | .storeHit => counters.storeHits

theorem ErrorCounters.of_count (counters : ErrorCounters) (kind other : ResourceError) :
    (counters.count other).of kind = counters.of kind + if other = kind then 1 else 0 := by
  cases kind <;> cases other <;> simp [count, of]

namespace ErrorLog

def call (log : ErrorLog) : LogCall → ErrorLog
  | .record failure => (log.record failure.kind failure.source failure.error).2
  | .takeCounters => log.takeCounters.2

def run (log : ErrorLog) (calls : List LogCall) : ErrorLog := calls.foldl call log

/-- The log is what such calls make of an empty one. -/
structure Tells (calls : List LogCall) (log : ErrorLog) : Prop where
  next : log.next = UInt32.ofNat ((calls.filterMap LogCall.failure?).length + 1)
  history : log.history =
    (Failure.allNumbered (calls.filterMap LogCall.failure?)).rtake capacity
  counters : ∀ kind, log.counters.of kind = UInt32.ofNat (LogCall.recent kind calls)

/-- The oldest entry makes room for a new one, if there is none. -/
theorem rtake_concat_of_full {α : Type} (xs : List α) (x : α) {count : Nat} (hpos : 0 < count) :
    (xs ++ [x]).rtake count =
      (if count ≤ (xs.rtake count).length then (xs.rtake count).tail else xs.rtake count) ++
        [x] := by
  obtain ⟨count, rfl⟩ := Nat.exists_eq_succ_of_ne_zero (Nat.pos_iff_ne_zero.mp hpos)
  rw [List.rtake_concat_succ]
  congr 1
  unfold List.rtake
  rw [List.length_drop]
  split
  · rw [List.tail_drop]
    congr 1
    omega
  · congr 1
    omega

theorem Tells.call {calls : List LogCall} {log : ErrorLog} (h : Tells calls log)
    (last : LogCall) : Tells (calls ++ [last]) (log.call last) := by
  cases last with
  | takeCounters =>
    have hall : (calls ++ [LogCall.takeCounters]).filterMap LogCall.failure? =
        calls.filterMap LogCall.failure? := by
      rw [List.filterMap_append]
      exact List.append_nil _
    refine ⟨?_, ?_, fun kind => ?_⟩
    · rw [hall]
      exact h.next
    · rw [hall]
      exact h.history
    · rw [LogCall.recent_takeCounters]
      cases kind <;> rfl
  | record failure =>
    have hall : (calls ++ [LogCall.record failure]).filterMap LogCall.failure? =
        calls.filterMap LogCall.failure? ++ [failure] := List.filterMap_append
    refine ⟨?_, ?_, fun kind => ?_⟩
    · rw [hall, List.length_append, UInt32.ofNat_add, List.length_singleton, ← h.next]
      rfl
    · rw [hall, Failure.allNumbered_concat, rtake_concat_of_full _ _ (by decide), ← h.history,
        ← h.next]
      rfl
    · rw [LogCall.recent_record, UInt32.ofNat_add, ← h.counters kind]
      show (log.counters.count failure.kind).of kind = _
      rw [ErrorCounters.of_count]
      split <;> rfl

theorem tells_run (calls : List LogCall) : Tells calls (empty.run calls) := by
  induction calls using List.reverseRecOn with
  | nil => exact ⟨rfl, rfl, fun kind => by cases kind <;> rfl⟩
  | append_singleton calls last ih =>
    rw [run, List.foldl_append]
    exact ih.call last

/-- **What a log tells of its past.** However often it was used and its counters were taken, the
next record gets the number after that of all records before, the history has the latest of them in
order, and the counters tell how many there were of each kind since the counters were taken last;
taking them touches neither history nor numbers. -/
theorem history_of_calls (calls : List LogCall) :
    let log := empty.run calls
    let failures := calls.filterMap LogCall.failure?
    (∀ kind source error,
      (log.record kind source error).1 = UInt32.ofNat (failures.length + 1)) ∧
      log.history = (Failure.allNumbered failures).rtake capacity ∧
      (∀ kind, log.counters.of kind = UInt32.ofNat (LogCall.recent kind calls)) ∧
      log.takeCounters = (log.counters, { log with counters := {} }) := by
  intro log failures
  have htells : Tells calls log := tells_run calls
  exact ⟨fun _ _ _ => htells.next, htells.history, htells.counters, rfl⟩

end ErrorLog

end Housekeeper
