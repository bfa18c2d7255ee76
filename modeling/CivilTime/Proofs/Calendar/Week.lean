import CivilTime.Proofs.Calendar.WallTime

/-!
# Weeks

The calendar begins on a Monday, so its weeks are its sevens of days. Monday and Sunday of a week are
found from any time in it, and from each other.

* `weekMicros`: the length of a week.
* `WallTime.OnWeekday`: a day of the week of a time, at the same time of day.
* `WallTime.onWeekday_iff`: how far such a day is from the time.
* `WallTime.addDays_eq_ok_iff_onWeekday`: such a day is found by adding days; Monday and Sunday are.
* `OnWeekday.addDays_eq`: it is the same one for all times of the week.
* `WallTime.StartsWeek`: midnight before Monday, where the count of the weeks begins anew.
-/

namespace CivilTime

/-- The microseconds of a week. -/
def weekMicros : Nat := 604_800_000_000

namespace WallTime

variable {v w : WallTime} {n : Nat}

theorem weekday_lt (w : WallTime) : w.weekday < 7 := Nat.mod_lt _ (by decide)

/-- A time by its week, its day in the week and its time of day. -/
theorem micros_eq_week (w : WallTime) :
    w.micros = w.micros / weekMicros * weekMicros + w.weekday * dayMicros + w.timeOfDay := by
  simp only [weekday, dayNumber, timeOfDay, weekMicros, dayMicros]
  omega

/-- Whether a time is on day `n` of the week of another one, at the same time of day. -/
structure OnWeekday (v w : WallTime) (n : Nat) : Prop where
  week : v.micros / weekMicros = w.micros / weekMicros
  weekday : v.weekday = n
  timeOfDay : v.timeOfDay = w.timeOfDay

/-- The days of a week are as far apart as their numbers. -/
theorem onWeekday_iff (hn : n < 7) :
    v.OnWeekday w n ↔ (v.micros : Int) = w.micros + ((n : Int) - w.weekday) * dayMicros := by
  have hv := v.micros_eq_week
  have hw := w.micros_eq_week
  constructor
  · intro h
    rw [h.week, h.weekday, h.timeOfDay] at hv
    simp only [dayMicros] at *
    omega
  · intro h
    have hday := w.weekday_lt
    have htime := w.timeOfDay_lt
    have hmicros : v.micros
        = w.micros / weekMicros * weekMicros + (n * dayMicros + w.timeOfDay) := by
      simp only [dayMicros] at *
      omega
    refine ⟨?_, ?_, ?_⟩ <;>
      simp only [WallTime.weekday, dayNumber, WallTime.timeOfDay, weekMicros, dayMicros] at * <;>
      omega

/-! ### The days of a week -/

theorem addDays_eq_ok_iff_onWeekday (hn : n < 7) :
    w.addDays ((n : Int) - w.weekday) = .ok v ↔ v.OnWeekday w n := by
  rw [onWeekday_iff hn, addDays, shift_eq_ok]

theorem monday_eq_addDays (w : WallTime) : w.monday = w.addDays ((0 : Nat) - w.weekday) := by
  rw [monday, Int.ofNat_zero, Int.zero_sub]

theorem sunday_eq_addDays (w : WallTime) : w.sunday = w.addDays ((6 : Nat) - w.weekday) := rfl

namespace OnWeekday

/-- From every day of a week one comes to the same days of it, also where they lie outside the
calendar. -/
theorem addDays_eq (h : v.OnWeekday w n) (m : Nat) :
    v.addDays ((m : Int) - v.weekday) = w.addDays ((m : Int) - w.weekday) := by
  have hn : n < 7 := by
    rw [← h.weekday]
    exact v.weekday_lt
  have hv := (onWeekday_iff hn).1 h
  have hday := h.weekday
  have hsame : (v.micros : Int) + ((m : Int) - v.weekday) * dayMicros
      = w.micros + ((m : Int) - w.weekday) * dayMicros := by
    simp only [dayMicros] at *
    omega
  rw [addDays, addDays, shift, shift, hsame]

/-- The start of Monday is that of the week. -/
theorem micros_startOfDay (h : v.OnWeekday w 0) :
    v.startOfDay.micros = w.micros / weekMicros * weekMicros := by
  have hv := v.micros_eq_week
  have htime := v.timeOfDay_lt
  rw [h.week, h.weekday] at hv
  rw [startOfDay, micros_startOf]
  simp only [weekMicros, dayMicros] at *
  omega

end OnWeekday

/-- Whether it is midnight and Monday begins. -/
def StartsWeek (w : WallTime) : Prop := w.weekday = 0 ∧ w.timeOfDay = 0

theorem startsWeek_iff : w.StartsWeek ↔ w.micros % weekMicros = 0 := by
  simp only [StartsWeek, weekday, dayNumber, timeOfDay, weekMicros, dayMicros]
  omega

end WallTime

end CivilTime
