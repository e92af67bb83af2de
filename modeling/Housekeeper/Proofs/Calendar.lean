import Housekeeper.CdsTime

/-!
# Stamps and the calendar

The days of the Gregorian calendar are numbered one after the other (`CivilDate.dayNumber_next`), no
two of them alike (`CivilDate.ext_dayNumber`), and the date that is computed from a count of days is
the one with that number (`CivilDate.dayNumber_ofDay`). The stamp of an instant has the milliseconds
of its time, and the days of its date from 1958-01-01 (`CdsTime.stamp_of_date`). The exception is a
leap second at the end of a day: it has the last millisecond of that day, and the number of the next
day (`CdsTime.leap_second_in_next_day`).
-/

namespace Housekeeper

namespace Calendar

/-- Every fourth year has a day more, but for the centuries that four hundred does not divide. -/
def IsLeap (year : Int) : Prop := year % 4 = 0 ∧ (year % 100 ≠ 0 ∨ year % 400 = 0)

instance (year : Int) : Decidable (IsLeap year) := inferInstanceAs (Decidable (_ ∧ _))

def leapDay (year : Int) : Int := if IsLeap year then 1 else 0

def monthLength (year month : Int) : Int :=
  if month = 2 then 28 + leapDay year
  else if month = 4 ∨ month = 6 ∨ month = 9 ∨ month = 11 then 30 else 31

structure IsDate (year month day : Int) : Prop where
  month_ge : 1 ≤ month
  month_le : month ≤ 12
  day_ge : 1 ≤ day
  day_le : day ≤ monthLength year month

/-- The leap days of the years from the first to this one. -/
def leapDays (year : Int) : Int := year / 4 - year / 100 + year / 400

/-- The days of a year before one of its months. -/
def daysBefore (year month : Int) : Int :=
  (367 * month - 362) / 12 - if month ≤ 2 then 0 else 2 - leapDay year

/-- The days from 0001-01-01, which has the number 1. -/
def dayNumber (year month day : Int) : Int :=
  365 * (year - 1) + leapDays (year - 1) + daysBefore year month + day

theorem leapDay_eq (year : Int) : leapDay year = 0 ∨ leapDay year = 1 := by
  rw [leapDay]
  split
  · exact .inr rfl
  · exact .inl rfl

theorem leapDays_eq (year : Int) : leapDays year = leapDays (year - 1) + leapDay year := by
  unfold leapDays leapDay
  by_cases h : IsLeap year
  · rw [if_pos h]
    unfold IsLeap at h
    omega
  · rw [if_neg h]
    unfold IsLeap at h
    omega

/-- The days to the end of a year grow with the year. -/
theorem yearEnd_mono {a b : Int} (h : a ≤ b) :
    365 * a + leapDays a ≤ 365 * b + leapDays b := by
  obtain rfl | h := Int.le_iff_eq_or_lt.mp h
  · exact Int.le_refl _
  · unfold leapDays
    omega

/-- The calendar starts over after 400 years, of which 97 are leap years. -/
theorem leapDays_add_era (year era : Int) :
    leapDays (year + era * 400) = leapDays year + 97 * era := by
  unfold leapDays
  omega

theorem leapDay_add_era (year era : Int) : leapDay (year + era * 400) = leapDay year := by
  have h := leapDays_eq (year + era * 400)
  rw [show year + era * 400 - 1 = year - 1 + era * 400 by omega, leapDays_add_era,
    leapDays_add_era, leapDays_eq year] at h
  omega

theorem one_le_monthLength (year month : Int) : 1 ≤ monthLength year month := by
  unfold monthLength
  grind [leapDay_eq]

theorem daysBefore_succ (year : Int) {month : Int} (h : 1 ≤ month) (h' : month < 12) :
    daysBefore year (month + 1) = daysBefore year month + monthLength year month := by
  unfold daysBefore monthLength
  grind

end Calendar

open Calendar

/-- A date of the Gregorian calendar. -/
structure CivilDate where
  year : Int
  month : Int
  day : Int
  isDate : IsDate year month day
deriving DecidableEq

namespace CivilDate

variable (date : CivilDate)

def dayNumber : Int := Calendar.dayNumber date.year date.month date.day

/-- The next day of the month, else the first of the next month, else that of the next year. -/
def next : CivilDate :=
  if h : date.day < monthLength date.year date.month then
    ⟨date.year, date.month, date.day + 1,
      { date.isDate with day_ge := Int.le_add_one date.isDate.day_ge, day_le := h }⟩
  else if h : date.month < 12 then
    ⟨date.year, date.month + 1, 1,
      ⟨Int.le_add_one date.isDate.month_ge, h, Int.le_refl 1, one_le_monthLength _ _⟩⟩
  else
    ⟨date.year + 1, 1, 1, ⟨Int.le_refl 1, by decide, Int.le_refl 1, one_le_monthLength _ _⟩⟩

theorem dayNumber_next : date.next.dayNumber = date.dayNumber + 1 := by
  obtain ⟨year, month, day, ⟨hm, hm', hd, hd'⟩⟩ := date
  rw [next]
  dsimp only
  split
  · simp only [dayNumber, Calendar.dayNumber]
    omega
  · split
    · simp only [dayNumber, Calendar.dayNumber]
      rw [daysBefore_succ year hm ‹_›]
      omega
    · obtain rfl : month = 12 := by omega
      have hleap := leapDays_eq year
      have h31 : monthLength year 12 = 31 := rfl
      have h335 : daysBefore year 12 = 334 + leapDay year := by
        unfold daysBefore; omega
      have h0 : daysBefore (year + 1) 1 = 0 := rfl
      simp only [dayNumber, Calendar.dayNumber, Int.add_sub_cancel, hleap, h335, h0]
      omega

/-- The numbers of the days of a year. -/
theorem dayNumber_bounds :
    365 * (date.year - 1) + leapDays (date.year - 1) < date.dayNumber ∧
      date.dayNumber ≤ 365 * date.year + leapDays date.year := by
  obtain ⟨year, month, day, ⟨hm, hm', hd, hd'⟩⟩ := date
  have hbefore : 0 ≤ daysBefore year month ∧
      daysBefore year month + monthLength year month ≤ 365 + leapDay year := by
    unfold daysBefore monthLength
    grind [leapDay_eq]
  have hleap := leapDays_eq year
  simp only [dayNumber, Calendar.dayNumber]
  omega

theorem year_le_of_dayNumber_le {a b : CivilDate} (h : a.dayNumber ≤ b.dayNumber) :
    a.year ≤ b.year := by
  refine Int.not_lt.mp fun hlt => ?_
  have ha := a.dayNumber_bounds.1
  have hb := b.dayNumber_bounds.2
  have hmono : 365 * b.year + leapDays b.year ≤ 365 * (a.year - 1) + leapDays (a.year - 1) :=
    yearEnd_mono (Int.le_sub_one_of_lt hlt)
  omega

theorem month_le_of_dayNumber_le {a b : CivilDate} (h : a.dayNumber ≤ b.dayNumber)
    (hyear : a.year = b.year) : a.month ≤ b.month := by
  refine Int.not_lt.mp fun hlt => ?_
  obtain ⟨year, month, day, ⟨_, hm', hd, _⟩⟩ := a
  obtain ⟨year', month', day', ⟨hm, _, _, hd'⟩⟩ := b
  dsimp only at hyear hlt
  subst hyear
  have hsucc := daysBefore_succ year hm (by omega)
  have hmono : daysBefore year (month' + 1) ≤ daysBefore year month := by
    unfold daysBefore
    grind [leapDay_eq]
  simp only [dayNumber, Calendar.dayNumber] at h
  omega

/-- No two dates have one number. -/
theorem ext_dayNumber {a b : CivilDate} (h : a.dayNumber = b.dayNumber) : a = b := by
  have hyear : a.year = b.year :=
    Int.le_antisymm (year_le_of_dayNumber_le (Int.le_of_eq h))
      (year_le_of_dayNumber_le (Int.le_of_eq h.symm))
  have hmonth : a.month = b.month :=
    Int.le_antisymm (month_le_of_dayNumber_le (Int.le_of_eq h) hyear)
      (month_le_of_dayNumber_le (Int.le_of_eq h.symm) hyear.symm)
  obtain ⟨year, month, day, _⟩ := a
  obtain ⟨year', month', day', _⟩ := b
  dsimp only at hyear hmonth
  subst hyear hmonth
  obtain rfl : day = day' := Int.add_left_cancel h
  rfl

end CivilDate

/-! ## The date of a day count -/

namespace Calendar

/-- But in the last of four years, 1460 days have passed as often as four years. -/
theorem fourth_of_yearOfEra {d y e c : Int} (h : 0 ≤ d) (h' : d ≤ 146095) (he : e = d / 36524)
    (hc : c = d / 1460) (hy : y = (d - c + e) / 365) (hlast : (y + 1) % 4 ≠ 0) : c = y / 4 := by
  have hlow : 365 * y ≤ d - c + e := by omega
  have hhigh : d - c + e ≤ 365 * y + 364 := by omega
  have hcentury : 0 ≤ e ∧ e ≤ 3 ∧ 36524 * e ≤ d := by omega
  have hfourth : 1460 * c ≤ d ∧ d ≤ 1460 * c + 1459 := by omega
  obtain ⟨g, hg⟩ : ∃ g, g = y / 4 := ⟨_, rfl⟩
  have hyear : 4 * g ≤ y ∧ y ≤ 4 * g + 2 := by omega
  rw [← hg]
  -- what is left is linear
  clear hg hlast he hc hy
  omega

/-- A day of the 400 years lies in the year that is computed for it, which begins in March. -/
theorem dayOfYear_bounds {d y : Int} (h : 0 ≤ d) (h' : d < 146097)
    (hy : y = (d - d / 1460 + d / 36524 - d / 146096) / 365) :
    0 ≤ y ∧ y < 400 ∧ 0 ≤ d - (365 * y + y / 4 - y / 100) ∧
      d - (365 * y + y / 4 - y / 100) ≤ 364 + leapDay (y + 1) := by
  obtain rfl | hd : d = 146096 ∨ d ≤ 146095 := by omega
  · subst hy
    decide
  rw [show d / 146096 = 0 by omega, Int.sub_zero] at hy
  obtain ⟨e, he⟩ : ∃ e, e = d / 36524 := ⟨_, rfl⟩
  obtain ⟨c, hc⟩ : ∃ c, c = d / 1460 := ⟨_, rfl⟩
  rw [← he, ← hc] at hy
  have hcentury : 0 ≤ e ∧ e ≤ 3 := by omega
  have he' : y / 100 = e := by omega
  have hc' : y / 4 ≤ c ∧ c ≤ y / 4 + 1 := by omega
  refine ⟨by omega, by omega, by omega, ?_⟩
  by_cases hleap : IsLeap (y + 1)
  · rw [leapDay, if_pos hleap]
    omega
  · rw [leapDay, if_neg hleap]
    unfold IsLeap at hleap
    by_cases hlast : (y + 1) % 4 = 0
    · omega
    · have := fourth_of_yearOfEra h hd he hc hy hlast
      omega

/-- From March on, five months in a row have 153 days. -/
theorem monthFromMarch_bounds {n m : Int} (h : 0 ≤ n) (h' : n ≤ 365)
    (hm : m = (5 * n + 2) / 153) :
    0 ≤ m ∧ m ≤ 11 ∧ (153 * m + 2) / 5 ≤ n ∧ n < (153 * (m + 1) + 2) / 5 := by
  omega

/-- The day number of 1970-01-01. -/
def unixEpochNumber : Int := 719163

/-- The computed date exists, and has the number of the day. -/
theorem civil_spec (day : Int) :
    IsDate (UtcInstant.civil day).1 (UtcInstant.civil day).2.1 (UtcInstant.civil day).2.2 ∧
      dayNumber (UtcInstant.civil day).1 (UtcInstant.civil day).2.1 (UtcInstant.civil day).2.2 =
        day + unixEpochNumber := by
  unfold UtcInstant.civil unixEpochNumber
  obtain ⟨era, hera⟩ : ∃ era, era = (day + 719468) / 146097 := ⟨_, rfl⟩
  obtain ⟨d, hd⟩ : ∃ d, d = (day + 719468) % 146097 := ⟨_, rfl⟩
  obtain ⟨y, hy⟩ : ∃ y, y = (d - d / 1460 + d / 36524 - d / 146096) / 365 := ⟨_, rfl⟩
  obtain ⟨n, hn⟩ : ∃ n, n = d - (365 * y + y / 4 - y / 100) := ⟨_, rfl⟩
  obtain ⟨m, hm⟩ : ∃ m, m = (5 * n + 2) / 153 := ⟨_, rfl⟩
  obtain ⟨hy0, hy400, hn0, hn365⟩ := dayOfYear_bounds (by omega) (by omega) hy
  rw [← hn] at hn0 hn365
  simp only [← hera, ← hd, ← hy, ← hn, ← hm]
  have hleap := leapDay_eq (y + 1)
  obtain ⟨hm0, hm11, hmn, hnm⟩ := monthFromMarch_bounds hn0 (by omega) hm
  have hday : day + 719468 = 146097 * era + d := by omega
  have hleaps : leapDays (y + era * 400) = y / 4 - y / 100 + 97 * era := by
    rw [leapDays_add_era, leapDays]
    omega
  clear hm hera hd hy
  -- the computed year begins in March: the last two months are those of the next year
  by_cases hlate : m < 10
  · have hmonth : ¬ m + 3 ≤ 2 := by omega
    have hyear := leapDays_eq (y + era * 400)
    rw [if_pos hlate, if_neg hmonth, Int.add_zero]
    refine ⟨⟨by omega, by omega, by omega, ?_⟩, ?_⟩
    · clear hyear hleaps hn365
      unfold monthLength
      grind
    · unfold dayNumber daysBefore
      rw [if_neg hmonth]
      omega
  · have hmonth : m - 9 ≤ 2 := by omega
    have hyear : leapDay (y + era * 400 + 1) = leapDay (y + 1) := by
      rw [Int.add_right_comm, leapDay_add_era]
    rw [if_neg hlate, if_pos hmonth]
    refine ⟨⟨by omega, by omega, by omega, ?_⟩, ?_⟩
    · clear hleaps
      unfold monthLength
      rw [hyear]
      grind
    · unfold dayNumber daysBefore
      rw [if_pos hmonth, Int.add_sub_cancel]
      omega

end Calendar

namespace CivilDate

/-- The date of a day count from 1970-01-01. -/
def ofDay (day : Int) : CivilDate :=
  ⟨(UtcInstant.civil day).1, (UtcInstant.civil day).2.1, (UtcInstant.civil day).2.2,
    (civil_spec day).1⟩

theorem dayNumber_ofDay (day : Int) : (ofDay day).dayNumber = day + unixEpochNumber :=
  (civil_spec day).2

/-- The computed dates follow each other as in the calendar. -/
theorem ofDay_succ (day : Int) : ofDay (day + 1) = (ofDay day).next := by
  refine ext_dayNumber ?_
  rw [dayNumber_next, dayNumber_ofDay, dayNumber_ofDay, Int.add_right_comm]

example : ((ofDay 11016).year, (ofDay 11016).month, (ofDay 11016).day) = (2000, 2, 29) := by decide

/-- The first day of stamps. -/
def stampEpoch : CivilDate := ⟨1958, 1, 1, by decide, by decide, by decide, by decide⟩

theorem dayNumber_stampEpoch : stampEpoch.dayNumber = unixEpochNumber - CdsTime.unixEpochDay := by
  decide

end CivilDate

/-! ## Stamps of instants -/

namespace UtcInstant

variable (instant : UtcInstant)

/-- A leap second has the date of the second before it. -/
def date : CivilDate := .ofDay (instant.seconds / secondsPerDay)

/-- The calendar days from the first day of stamps to the date. -/
def stampDays : Int := instant.date.dayNumber - CivilDate.stampEpoch.dayNumber

/-- Is this a leap second that follows the last second of a day? -/
def IsDayEndLeap : Prop := instant.secondOfDay = 86399 ∧ 1000000000 ≤ instant.nanos

instance : Decidable instant.IsDayEndLeap := inferInstanceAs (Decidable (_ ∧ _))

theorem isDayEndLeap_iff :
    instant.IsDayEndLeap ↔ instant.seconds % 86400 = 86399 ∧ 1000000000 ≤ instant.nanos := by
  unfold IsDayEndLeap secondOfDay secondsPerDay
  omega

theorem stampDays_eq :
    instant.stampDays = instant.seconds / secondsPerDay + CdsTime.unixEpochDay := by
  rw [stampDays, date, CivilDate.dayNumber_ofDay, CivilDate.dayNumber_stampEpoch]
  omega

end UtcInstant

namespace CdsTime

/-- Days outside of the 16-bit range go to its ends. -/
def saturatedDay (days : Int) : Nat := min days.toNat 65535

variable {instant : UtcInstant}

theorem millis_ofInstant (h : instant.nanos < 2000000000) :
    (ofInstant instant).millis.toNat =
      min 86399999 (1000 * instant.secondOfDay + instant.nanos / 1000000) := by
  have hsecond : instant.secondOfDay < 86400 := by
    unfold UtcInstant.secondOfDay UtcInstant.secondsPerDay
    omega
  simp only [ofInstant, millisPerDay, UInt32.toNat_ofNat']
  omega

/-- Days before the epoch are cut off, so it does not matter in which direction they are rounded. -/
theorem toNat_tdiv (elapsed : Int) {unit : Int} (h : 0 < unit) :
    (elapsed.tdiv unit).toNat = (elapsed / unit).toNat := by
  by_cases hpos : 0 ≤ elapsed
  · rw [Int.tdiv_eq_ediv_of_nonneg hpos]
  · have hback : 0 ≤ (-elapsed).tdiv unit := Int.tdiv_nonneg (by omega) (Int.le_of_lt h)
    have hneg : elapsed / unit < 0 := Int.ediv_neg_of_neg_of_pos (by omega) h
    rw [Int.neg_tdiv] at hback
    omega

/-- The elapsed time has as many whole days as the date, and one more at the leap second. -/
theorem day_ofInstant (h : instant.nanos < 2000000000) :
    (ofInstant instant).day.toNat =
      saturatedDay (instant.stampDays + if instant.IsDayEndLeap then 1 else 0) := by
  have hunit : 0 < UtcInstant.secondsPerDay * 1000000000 := by decide
  have hdays : ((instant.seconds + unixEpochDay * UtcInstant.secondsPerDay) * 1000000000 +
      instant.nanos) / (UtcInstant.secondsPerDay * 1000000000) =
      instant.stampDays + if instant.IsDayEndLeap then 1 else 0 := by
    rw [instant.stampDays_eq]
    unfold UtcInstant.secondsPerDay unixEpochDay
    by_cases hleap : instant.IsDayEndLeap
    · rw [if_pos hleap]
      rw [instant.isDayEndLeap_iff] at hleap
      omega
    · rw [if_neg hleap]
      rw [instant.isDayEndLeap_iff] at hleap
      omega
  simp only [ofInstant, toNat_tdiv _ hunit, hdays, saturatedDay, UInt16.toNat_ofNat']
  omega

/-- **A stamp has the date and the time of its instant, but for the last leap second of a day**,
which has the number of the next day. -/
theorem stamp_of_date (h : instant.nanos < 2000000000) :
    (ofInstant instant).millis.toNat =
        min 86399999 (1000 * instant.secondOfDay + instant.nanos / 1000000) ∧
      (ofInstant instant).day.toNat =
        saturatedDay (instant.stampDays + if instant.IsDayEndLeap then 1 else 0) ∧
      ((ofInstant instant).day.toNat = saturatedDay instant.stampDays ↔
        ¬ (instant.IsDayEndLeap ∧ 0 ≤ instant.stampDays ∧ instant.stampDays < 65535)) := by
  refine ⟨millis_ofInstant h, day_ofInstant h, ?_⟩
  rw [day_ofInstant h, saturatedDay, saturatedDay]
  by_cases hleap : instant.IsDayEndLeap
  · rw [if_pos hleap]
    simp only [hleap, true_and]
    omega
  · simp [hleap]

/-- Half a second into the leap second before 2017. -/
def newYearLeap : UtcInstant := ⟨1483228799, 1500000000⟩

theorem newYearLeap_stamp :
    newYearLeap.nanos < 2000000000 ∧ (ofInstant newYearLeap).millis.toNat = 86399999 ∧
      (ofInstant newYearLeap).day.toNat = saturatedDay (newYearLeap.stampDays + 1) := by
  have hnanos : newYearLeap.nanos < 2000000000 := by decide
  obtain ⟨hmillis, hday, -⟩ := stamp_of_date hnanos
  exact ⟨hnanos, hmillis, hday⟩

/-- The leap second is in 2016, and its stamp in 2017. -/
theorem leap_second_in_next_day :
    UtcInstant.ofUnix? 1483228799 1500000000 = some newYearLeap ∧
      (newYearLeap.date.year, newYearLeap.date.month, newYearLeap.date.day) = (2016, 12, 31) ∧
      newYearLeap.stampDays = 21549 ∧ ofInstant newYearLeap = ⟨21550, 86399999⟩ := by
  decide +kernel

end CdsTime

end Housekeeper
