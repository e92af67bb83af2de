import Housekeeper.Proofs.Calendar

/-!
# The instants of stamps

A stamp may have more milliseconds than a day. Its instant then lies in one of the days that follow,
and the stamp of this instant has counted them (`CdsTime.millis_carried_into_days`), as far as 16
bits go. Only stamps with fewer milliseconds come back as they were, and on these the order by day
and millisecond is the order in time.
-/

namespace Housekeeper

namespace UtcInstant

/-- The order in time. A leap second comes after the second that it follows. -/
instance : LT UtcInstant :=
  ⟨fun a b => a.seconds < b.seconds ∨ a.seconds = b.seconds ∧ a.nanos < b.nanos⟩

theorem lt_def {a b : UtcInstant} :
    a < b ↔ a.seconds < b.seconds ∨ a.seconds = b.seconds ∧ a.nanos < b.nanos := Iff.rfl

end UtcInstant

namespace CdsTime

variable (time : CdsTime)

/-- By day, then by millisecond. -/
instance : LT CdsTime := ⟨fun a b => a.day < b.day ∨ a.day = b.day ∧ a.millis < b.millis⟩

theorem lt_def {a b : CdsTime} :
    a < b ↔ a.day < b.day ∨ a.day = b.day ∧ a.millis < b.millis := Iff.rfl

/-- The milliseconds are those of one day. -/
def WithinDay : Prop := time.millis.toNat < millisPerDay

/-- The milliseconds from the first day of stamps. -/
def elapsed : Nat := time.day.toNat * millisPerDay + time.millis.toNat

theorem seconds_toInstant :
    time.toInstant.seconds = (time.elapsed - unixEpochDay * millisPerDay : Int) / 1000 := by
  unfold toInstant elapsed unixEpochDay millisPerDay
  dsimp only
  omega

theorem nanos_toInstant : time.toInstant.nanos = time.elapsed % 1000 * 1000000 := by
  unfold toInstant elapsed unixEpochDay millisPerDay
  dsimp only
  omega

/-- No instant of a stamp lies in a leap second. -/
theorem nanos_toInstant_lt : time.toInstant.nanos < 1000000000 := by
  rw [nanos_toInstant]
  omega

theorem elapsed_lt : time.elapsed < UInt16.size * millisPerDay + UInt32.size := by
  have hday := time.day.toNat_lt
  have hmillis := time.millis.toNat_lt
  unfold elapsed millisPerDay UInt16.size UInt32.size
  omega

/-- Every stamp has an instant in the years that can be represented. -/
theorem ofUnix?_toInstant :
    UtcInstant.ofUnix? time.toInstant.seconds time.toInstant.nanos = some time.toInstant := by
  have hnanos := time.nanos_toInstant_lt
  have hseconds := time.seconds_toInstant
  have helapsed := time.elapsed_lt
  unfold unixEpochDay millisPerDay at hseconds
  unfold millisPerDay UInt16.size UInt32.size at helapsed
  unfold UtcInstant.ofUnix?
  rw [if_neg (by omega), if_neg (by omega), if_neg (by omega)]

/-- The instants of stamps follow each other as their elapsed milliseconds do. -/
theorem toInstant_lt_iff {a b : CdsTime} : a.toInstant < b.toInstant ↔ a.elapsed < b.elapsed := by
  rw [UtcInstant.lt_def, seconds_toInstant, seconds_toInstant, nanos_toInstant, nanos_toInstant]
  unfold unixEpochDay millisPerDay
  omega

theorem elapsed_lt_iff {a b : CdsTime} (ha : a.WithinDay) (hb : b.WithinDay) :
    a.elapsed < b.elapsed ↔ a < b := by
  rw [lt_def, UInt16.lt_iff_toNat_lt, UInt32.lt_iff_toNat_lt, ← UInt16.toNat_inj]
  unfold WithinDay millisPerDay at ha hb
  unfold elapsed millisPerDay
  omega

theorem millis_carried :
    (ofInstant time.toInstant).millis.toNat = time.millis.toNat % millisPerDay := by
  have hnanos := time.nanos_toInstant_lt
  rw [millis_ofInstant (by omega), time.nanos_toInstant]
  unfold UtcInstant.secondOfDay UtcInstant.secondsPerDay
  rw [time.seconds_toInstant]
  unfold elapsed unixEpochDay millisPerDay
  omega

theorem day_carried :
    (ofInstant time.toInstant).day.toNat =
      min 65535 (time.day.toNat + time.millis.toNat / millisPerDay) := by
  have hnanos := time.nanos_toInstant_lt
  have hleap : ¬ time.toInstant.IsDayEndLeap := fun h => by
    have := h.2
    omega
  rw [day_ofInstant (by omega), if_neg hleap, UtcInstant.stampDays_eq, saturatedDay,
    time.seconds_toInstant]
  unfold UtcInstant.secondsPerDay elapsed unixEpochDay millisPerDay
  omega

theorem carried_eq_iff : ofInstant time.toInstant = time ↔ time.WithinDay := by
  have hday := time.day_carried
  have hmillis := time.millis_carried
  have hbound := time.day.toNat_lt
  unfold WithinDay
  constructor
  · intro h
    rw [h] at hmillis
    rw [hmillis]
    exact Nat.mod_lt _ (by decide)
  · intro h
    rw [Nat.div_eq_of_lt h] at hday
    rw [Nat.mod_eq_of_lt h] at hmillis
    have hsame : (ofInstant time.toInstant).day = time.day := UInt16.toNat_inj.mp (by omega)
    exact congr (congrArg mk hsame) (UInt32.toNat_inj.mp hmillis)

/-- **The stamp of a stamp's instant has its milliseconds carried into the days.** It is the same
stamp if there is nothing to carry, and then the order of stamps is that of their instants. -/
theorem millis_carried_into_days :
    UtcInstant.ofUnix? time.toInstant.seconds time.toInstant.nanos = some time.toInstant ∧
      (ofInstant time.toInstant).day.toNat =
        min 65535 (time.day.toNat + time.millis.toNat / millisPerDay) ∧
      (ofInstant time.toInstant).millis.toNat = time.millis.toNat % millisPerDay ∧
      (ofInstant time.toInstant = time ↔ time.millis.toNat < millisPerDay) ∧
      ofInstant (ofInstant time.toInstant).toInstant = ofInstant time.toInstant ∧
      ∀ other : CdsTime, time.WithinDay → other.WithinDay →
        (time.toInstant < other.toInstant ↔ time < other) := by
  have hwithin : (ofInstant time.toInstant).WithinDay := by
    rw [WithinDay, millis_carried]
    exact Nat.mod_lt _ (by decide)
  refine ⟨time.ofUnix?_toInstant, time.day_carried, time.millis_carried, time.carried_eq_iff,
    (carried_eq_iff _).mpr hwithin, fun other htime hother => ?_⟩
  rw [toInstant_lt_iff, elapsed_lt_iff htime hother]

example : ofInstant (CdsTime.toInstant ⟨65535, 4294967295⟩) = ⟨65535, 61367295⟩ := by
  decide +kernel

end CdsTime

end Housekeeper
