import Housekeeper.Proofs.Periods

/-!
# On which checks a timer fires

`TimerCall` is one thing that can be done to a timer, and `CollectionTimer.after` the timer that any
number of them leaves. A new interval leaves the count as it is, so that the count may be past the
interval already; then the next check fires and the count starts over.

`CollectionTimer.Due` says on which of the coming checks a timer is due, from its ticks and its
counter alone. One check brings everything that is due one check closer (`due_check`), and so a
timer fires on the checks on which it is due, whatever was done to it before (`fires_when_due`).
-/

namespace Housekeeper

inductive TimerCall where
  | start (seconds : Binary32) (period : UInt32) (kind : ReportKind) (factor : UInt8)
  | setInterval (seconds : Binary32)
  | check

namespace CollectionTimer

def call (timer : CollectionTimer) : TimerCall → CollectionTimer
  | .start seconds period kind factor => start seconds period kind factor
  | .setInterval seconds => timer.setInterval seconds
  | .check => timer.check.2

/-- What becomes of a new timer. -/
def after (calls : List TimerCall) : CollectionTimer := calls.foldl call new

variable {timer : CollectionTimer}

/-! ## Ticks and counter are never zero -/

structure Positive (timer : CollectionTimer) : Prop where
  ticks : 1 ≤ timer.ticks.toNat
  counter : 1 ≤ timer.counter.toNat
  factor : 1 ≤ timer.factor.toNat

theorem Positive.call (h : timer.Positive) (event : TimerCall) : (timer.call event).Positive := by
  cases event with
  | start seconds period kind factor =>
    exact ⟨(start_ticking seconds period kind factor).ticks_pos, Nat.le_refl 1,
      factor_start_pos seconds period kind factor⟩
  | setInterval seconds => exact ⟨ticksOf_pos h.factor seconds, h.counter, h.factor⟩
  | check =>
    show timer.check.2.Positive
    refine ⟨by simpa using h.ticks, ?_, by simpa using h.factor⟩
    cases hfires : timer.check.1 with
    | true => exact Nat.le_of_eq (counter_check_of_fires hfires).symm
    | false => rw [counter_check hfires]; omega

theorem positive_after (calls : List TimerCall) : (after calls).Positive := by
  have hnew : new.Positive := ⟨Nat.le_refl 1, Nat.le_refl 1, Nat.le_refl 1⟩
  exact List.foldlRecOn calls CollectionTimer.call hnew fun timer h event _ => h.call event

/-! ## The checks on which a timer is due -/

/-- The number of the first check to come that fires, counted from one. -/
def firstDue (timer : CollectionTimer) : Nat :=
  max 1 (timer.ticks.toNat + 1 - timer.counter.toNat)

/-- From the first one on, every `ticks`-th check. -/
def Due (timer : CollectionTimer) (number : Nat) : Prop :=
  timer.firstDue ≤ number ∧ timer.ticks.toNat ∣ number - timer.firstDue

instance (timer : CollectionTimer) (number : Nat) : Decidable (timer.Due number) :=
  inferInstanceAs (Decidable (_ ∧ _))

/-- When the count starts, the multiples of the ticks are due. -/
theorem due_iff_dvd (hpos : 1 ≤ timer.ticks.toNat) (hone : timer.counter.toNat = 1) {number : Nat}
    (hnumber : 1 ≤ number) : timer.Due number ↔ timer.ticks.toNat ∣ number := by
  have hfirst : timer.firstDue = timer.ticks.toNat := by
    unfold firstDue
    rw [hone]
    omega
  unfold Due
  rw [hfirst]
  constructor
  · rintro ⟨hle, hdvd⟩
    exact (Nat.dvd_sub_iff_left hle (Nat.dvd_refl _)).mp hdvd
  · intro hdvd
    exact ⟨Nat.le_of_dvd hnumber hdvd, Nat.dvd_sub hdvd (Nat.dvd_refl _)⟩

theorem check_fires_iff_due : timer.check.1 = true ↔ timer.Due 1 := by
  rw [check_fires_iff]
  unfold Due firstDue
  constructor
  · intro hreached
    have hfirst : max 1 (timer.ticks.toNat + 1 - timer.counter.toNat) = 1 := by omega
    rw [hfirst]
    exact ⟨Nat.le_refl 1, Nat.dvd_zero _⟩
  · rintro ⟨hle, -⟩
    omega

/-- After a check everything that is due is one check closer. -/
theorem due_check (h : timer.Positive) {number : Nat} (hnumber : 1 ≤ number) :
    timer.check.2.Due number ↔ timer.Due (number + 1) := by
  have hticks := h.ticks
  cases hfires : timer.check.1 with
  | true =>
    have hreached := check_fires_iff.mp hfires
    have hfirst : timer.firstDue = 1 := by
      unfold firstDue
      omega
    rw [due_iff_dvd (by simpa using hticks) (counter_check_of_fires hfires) hnumber, Due, hfirst,
      ticks_check, Nat.add_sub_cancel]
    exact (and_iff_right (Nat.le_add_left 1 number)).symm
  | false =>
    have hearly : ¬ timer.ticks.toNat ≤ timer.counter.toNat := by
      rw [← check_fires_iff, hfires]
      exact Bool.false_ne_true
    have hfirst : timer.firstDue = timer.check.2.firstDue + 1 := by
      unfold firstDue
      rw [ticks_check, counter_check hfires]
      omega
    unfold Due
    rw [ticks_check, hfirst, Nat.add_sub_add_right, Nat.add_le_add_iff_right]

theorem run_eq_due (h : timer.Positive) (count : Nat) :
    (timer.run count).1 =
      (List.range count).map fun passed => decide (timer.Due (passed + 1)) := by
  induction count generalizing timer with
  | zero => rfl
  | succ count ih =>
    have hfirst : timer.check.1 = decide (timer.Due 1) := by
      rw [Bool.eq_iff_iff, decide_eq_true_iff]
      exact check_fires_iff_due
    have hnext : timer.check.2.Positive := h.call .check
    have hrest : (timer.check.2.run count).1 =
        (List.range count).map fun passed => decide (timer.Due (passed + 1 + 1)) := by
      rw [ih hnext]
      apply List.map_congr_left
      intro passed _
      exact decide_eq_decide.mpr (due_check h (Nat.le_add_left 1 passed))
    show timer.check.1 :: (timer.check.2.run count).1 = _
    rw [hfirst, hrest, List.range_succ_eq_map, List.map_cons, List.map_map]
    rfl

/-- A timer that was just started fires on the multiples of its ticks. -/
theorem run_start (seconds : Binary32) (period : UInt32) (kind : ReportKind) (factor : UInt8)
    (count : Nat) :
    ((start seconds period kind factor).run count).1 = (List.range count).map fun passed =>
      decide ((start seconds period kind factor).ticks.toNat ∣ passed + 1) := by
  have hpositive : (start seconds period kind factor).Positive :=
    (positive_after []).call (.start seconds period kind factor)
  rw [run_eq_due hpositive]
  apply List.map_congr_left
  intro passed _
  exact decide_eq_decide.mpr (due_iff_dvd hpositive.ticks rfl (Nat.le_add_left 1 passed))

/-- An interval that is not longer comes no later. -/
theorem firstDue_setInterval_le {seconds : Binary32}
    (h : (timer.setInterval seconds).ticks ≤ timer.ticks) :
    (timer.setInterval seconds).firstDue ≤ timer.firstDue := by
  have hticks := UInt32.le_iff_toNat_le.mp h
  have hcounter : (timer.setInterval seconds).counter = timer.counter := rfl
  unfold firstDue
  rw [hcounter]
  omega

/-- **A timer fires when it is due.** Whatever was done to it, ticks and counter are at least one,
counting does not overflow, and of the checks to come the first one that fires is told by ticks and
counter, and then it is every `ticks`-th one. So a timer that was just started fires on the
multiples of its ticks, and an interval that is not longer does not put off the next firing. -/
theorem fires_when_due (calls : List TimerCall) :
    let timer := after calls
    1 ≤ timer.ticks.toNat ∧ 1 ≤ timer.counter.toNat ∧
      (timer.check.1 = false → timer.check.2.counter.toNat = timer.counter.toNat + 1) ∧
      (∀ count, (timer.run count).1 =
        (List.range count).map fun passed => decide (timer.Due (passed + 1))) ∧
      (∀ seconds period kind factor count,
        ((timer.call (.start seconds period kind factor)).run count).1 =
          (List.range count).map fun passed =>
            decide ((timer.call (.start seconds period kind factor)).ticks.toNat ∣ passed + 1)) ∧
      ∀ seconds, (timer.call (.setInterval seconds)).ticks ≤ timer.ticks →
        (timer.call (.setInterval seconds)).firstDue ≤ timer.firstDue := by
  intro timer
  have hpositive : timer.Positive := positive_after calls
  refine ⟨hpositive.ticks, hpositive.counter, counter_check, run_eq_due hpositive, ?_, ?_⟩
  · exact run_start
  · intro seconds hticks
    exact firstDue_setInterval_le hticks

/-- After two of four ticks the interval is cut down to two: the next check fires. -/
theorem shorterInterval_fires_at_once :
    let timer := after [.start (Binary32.ofRat 1) 250 .diagnostics 1, .check, .check]
    let shorter := timer.call (.setInterval (Binary32.ofRat (1 / 2)))
    shorter.ticks ≤ timer.ticks ∧ shorter.firstDue ≤ timer.firstDue ∧ timer.firstDue = 2 ∧
      (shorter.run 3).1 = [true, false, true] := by
  intro timer shorter
  have hticks : shorter.ticks ≤ timer.ticks := by decide +kernel
  refine ⟨hticks, ?_, by decide +kernel, by decide +kernel⟩
  exact (fires_when_due _).2.2.2.2.2 _ hticks

end CollectionTimer

end Housekeeper
