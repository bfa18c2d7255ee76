import CivilTime.Proofs.Calendar.MonthEnds

/-!
# Months one after the other

The months of the calendar do not overlap, so dates are in the order of their months and then of
their days, and a sum of more months lies at least four weeks later, however the days are cut to the
lengths of the two months. Months that are added in two steps lead to the month of the whole sum; the
day is that of the whole sum or, if the month on the way is too short for it, the last one there.

* `Date.dayNumber_add_le`, `Date.dayNumber_lt_iff`: the order of dates.
* `MonthsAfter.micros_add_le`: more months lead to a later time.
* `MonthsAfter.index_eq`, `MonthsAfter.day_eq`, `MonthsAfter.eq_of_steps`: months in two steps.
* `MonthsAfter.back_iff`: when as many months back lead to the start again.
-/

namespace CivilTime

/-! ### Dates -/

namespace Date

variable {d e : Date}

/-- The number of a month tells the year and the month. -/
theorem year_month_of_monthIndex (hd : d.Valid) (he : e.Valid) (h : d.monthIndex = e.monthIndex) :
    d.year = e.year ∧ d.month = e.month := by
  obtain ⟨-, -, hm1, hm12, -⟩ := hd
  obtain ⟨-, -, hm1', hm12', -⟩ := he
  rw [monthIndex, monthIndex] at h
  omega

theorem eq_of_monthIndex (hd : d.Valid) (he : e.Valid) (h : d.monthIndex = e.monthIndex)
    (hday : d.day = e.day) : d = e := by
  obtain ⟨hyear, hmonth⟩ := year_month_of_monthIndex hd he h
  cases d
  cases e
  rw [mk.injEq]
  exact ⟨hyear, hmonth, hday⟩

/-- From a date to one in a later month it is at least as far as to the end of the first month, and
as far again as the second date lies in its own. -/
theorem dayNumber_add_le (hd : d.Valid) (he : e.Valid) (h : d.monthIndex < e.monthIndex) :
    d.dayNumber + (monthLength d.year d.month - d.day) + e.day ≤ e.dayNumber := by
  obtain ⟨hy, -, hm1, hm12, hday, hlength⟩ := hd
  obtain ⟨-, -, hm1', hm12', hday', -⟩ := he
  rw [monthIndex, monthIndex] at h
  rw [dayNumber, dayNumber]
  rcases Nat.lt_or_ge d.year e.year with hyear | hyear
  · -- the year of the first date ends before that of the second begins
    have hyears := daysBeforeYear_mono (show d.year + 1 ≤ e.year from hyear)
    have hsucc := daysBeforeYear_succ hy
    have hends := daysBeforeMonth_add_le d.year hm12
    omega
  · have hsame : e.year = d.year := by omega
    have hmonths := daysBeforeMonth_mono d.year (show d.month + 1 ≤ e.month by omega)
    rw [daysBeforeMonth_succ] at hmonths
    rw [hsame]
    omega

/-- Dates are in the order of their months, and in one month in that of their days. -/
theorem dayNumber_lt_iff (hd : d.Valid) (he : e.Valid) :
    d.dayNumber < e.dayNumber ↔
      d.monthIndex < e.monthIndex ∨ d.monthIndex = e.monthIndex ∧ d.day < e.day := by
  have hday := hd.2.2.2.2
  have hday' := he.2.2.2.2
  rcases Int.lt_trichotomy d.monthIndex e.monthIndex with h | h | h
  · have hle := dayNumber_add_le hd he h
    omega
  · obtain ⟨hyear, hmonth⟩ := year_month_of_monthIndex hd he h
    rw [dayNumber, dayNumber, hyear, hmonth]
    omega
  · have hle := dayNumber_add_le he hd h
    omega

end Date

/-! ### Wall-clock times -/

/-- Every month has four weeks. -/
theorem WallTime.le_daysInMonth (w : WallTime) : 28 ≤ w.daysInMonth := by
  obtain ⟨-, -, hm1, hm12, -⟩ := w.date_valid
  exact le_monthLength w.date.year hm1 hm12

namespace WallTime.MonthsAfter

variable {v w x y : WallTime} {a b : Int}

/-- A time of whole milliseconds is one still. -/
theorem micros_mod (h : v.MonthsAfter w a) (hw : w.micros % 1000 = 0) : v.micros % 1000 = 0 := by
  have hv := v.micros_eq
  have hw' := w.micros_eq
  rw [h.timeOfDay] at hv
  simp only [dayMicros] at *
  omega

/-- More months lead to a time at least four weeks later. -/
theorem micros_add_le (hv : v.MonthsAfter w a) (hx : x.MonthsAfter w b) (hab : a < b) :
    v.micros + 28 * dayMicros ≤ x.micros := by
  have hindex : v.date.monthIndex < x.date.monthIndex := by
    rw [hv.date.index, hx.date.index]
    omega
  have hapart := Date.dayNumber_add_le v.date_valid x.date_valid hindex
  have hvday : v.date.day = min w.date.day v.daysInMonth := hv.date.day
  have hxday : x.date.day = min w.date.day x.daysInMonth := hx.date.day
  have hvlength := v.le_daysInMonth
  have hxlength := x.le_daysInMonth
  have hdays : v.dayNumber + 28 ≤ x.dayNumber := by
    rw [← v.dayNumber_date, ← x.dayNumber_date]
    simp only [daysInMonth] at *
    omega
  rw [v.micros_eq, x.micros_eq, hv.timeOfDay, hx.timeOfDay]
  simp only [dayMicros]
  omega

/-! ### Two steps -/

/-- In two steps the month of the whole sum is reached. -/
theorem index_eq (hv : v.MonthsAfter w a) (hx : x.MonthsAfter v b) (hy : y.MonthsAfter w (a + b)) :
    x.date.monthIndex = y.date.monthIndex := by
  rw [hx.date.index, hv.date.index, hy.date.index, Int.add_assoc]

/-- The day is that of the whole sum, cut to the length of the month on the way. -/
theorem day_eq (hv : v.MonthsAfter w a) (hx : x.MonthsAfter v b) (hy : y.MonthsAfter w (a + b)) :
    x.date.day = min y.date.day v.daysInMonth := by
  obtain ⟨hyear, hmonth⟩ :=
    Date.year_month_of_monthIndex x.date_valid y.date_valid (index_eq hv hx hy)
  rw [hx.date.day, hy.date.day, hv.date.day, hyear, hmonth, daysInMonth]
  omega

theorem timeOfDay_eq (hv : v.MonthsAfter w a) (hx : x.MonthsAfter v b)
    (hy : y.MonthsAfter w (a + b)) : x.timeOfDay = y.timeOfDay := by
  rw [hx.timeOfDay, hv.timeOfDay, hy.timeOfDay]

/-- Unless the month on the way is too short for the day, two steps lead where one does. -/
theorem eq_of_steps (hv : v.MonthsAfter w a) (hx : x.MonthsAfter v b) (hy : y.MonthsAfter w (a + b))
    (h : w.date.day ≤ v.daysInMonth) : x = y := by
  have hcut := day_eq hv hx hy
  have hkept := hy.date.day
  have hdate : x.date = y.date :=
    Date.eq_of_monthIndex x.date_valid y.date_valid (index_eq hv hx hy) (by omega)
  exact eq_of_date hdate (timeOfDay_eq hv hx hy)

/-- As many months back lead to the start exactly if the day has not been cut. -/
theorem back_iff (hv : v.MonthsAfter w a) : w.MonthsAfter v (-a) ↔ w.date.day ≤ v.daysInMonth := by
  have hvday : v.date.day = min w.date.day v.daysInMonth := hv.date.day
  have hlength := w.day_bounds.2
  constructor
  · intro h
    have hwday : w.date.day = min v.date.day w.daysInMonth := h.date.day
    omega
  · intro h
    refine ⟨⟨?_, ?_⟩, hv.timeOfDay.symm⟩
    · rw [hv.date.index]
      omega
    · show w.date.day = min v.date.day w.daysInMonth
      omega

end WallTime.MonthsAfter

end CivilTime
