import CivilTime.Proofs.Calendar.Month
import CivilTime.Proofs.Calendar.WallTime

/-!
# The ends of a month

The first day of a month is found by setting the day. The last one is found by way of the next month:
from its first day one day is stepped back, and that is the day which the table of month lengths
names. So the last month of the calendar has no last day that is found.

* `WallTime.OnDay`: a day of the month of a time, at the same time of day.
* `WallTime.FirstAfter`: the first day of the next month.
* `OnDay.micros_eq`, `FirstAfter.micros_eq`: how far these days are from the time.
* `WallTime.firstOfMonth_eq_ok`: the first day of the month.
* `WallTime.lastOfMonth_eq_ok`, `WallTime.lastOfMonth_eq_error`: the last day of the month, and when
  it is not found.
-/

namespace CivilTime

/-! ### Dates -/

namespace Date

variable {d e : Date} {n : Nat}

/-- A month ends where the next one begins. -/
theorem dayNumber_next_month (hd : d.Valid) (he : e.Valid)
    (h : e.monthIndex = d.monthIndex + 1) (hd1 : d.day = 1) (he1 : e.day = 1) :
    e.dayNumber = d.dayNumber + monthLength d.year d.month := by
  obtain ⟨hy, -, hm1, hm12, -⟩ := hd
  obtain ⟨-, -, hm1', hm12', -⟩ := he
  rw [monthIndex, monthIndex] at h
  rw [dayNumber, dayNumber, hd1, he1]
  rcases Nat.lt_or_eq_of_le hm12 with hlt | hdec
  · have hyear : e.year = d.year := by omega
    have hmonth : e.month = d.month + 1 := by omega
    rw [hyear, hmonth, daysBeforeMonth_succ]
    omega
  · -- after December the year begins anew
    have hyear : e.year = d.year + 1 := by omega
    have hmonth : e.month = 1 := by omega
    have hfirst : daysBeforeMonth (d.year + 1) 1 = 0 := rfl
    have hwhole := daysBeforeMonth_thirteen d.year
    rw [daysBeforeMonth_succ] at hwhole
    rw [hyear, hmonth, hdec, hfirst, daysBeforeYear_succ hy]
    omega

/-- The days of a month are as far apart as their numbers. -/
theorem dayNumber_onDay (hd : d.Valid) (hn : 1 ≤ n) :
    (({ d with day := n } : Date).dayNumber : Int) = d.dayNumber + ((n : Int) - d.day) := by
  obtain ⟨-, -, -, -, hday, -⟩ := hd
  simp only [dayNumber]
  omega

theorem onDay_valid (hd : d.Valid) (h1 : 1 ≤ n) (hn : n ≤ monthLength d.year d.month) :
    ({ d with day := n } : Date).Valid := by
  obtain ⟨hy1, hy2, hm1, hm12, -, -⟩ := hd
  exact ⟨hy1, hy2, hm1, hm12, h1, hn⟩

end Date

/-! ### Wall-clock times -/

namespace WallTime

variable {u v w x : WallTime} {m n : Nat} {f : Fault}

/-- Whether a time is on day `n` of the month of another one, at the same time of day. -/
structure OnDay (v w : WallTime) (n : Nat) : Prop where
  date : v.date = { w.date with day := n }
  timeOfDay : v.timeOfDay = w.timeOfDay

/-- The number of days in the month of a time. -/
def daysInMonth (w : WallTime) : Nat := monthLength w.date.year w.date.month

/-- Whether a time lies in the last month of the calendar. -/
def InLastMonth (w : WallTime) : Prop := w.date.year = 9999 ∧ w.date.month = 12

instance (w : WallTime) : Decidable w.InLastMonth := by unfold InLastMonth; infer_instance

theorem dayNumber_date (w : WallTime) : w.date.dayNumber = w.dayNumber :=
  Date.dayNumber_ofDayNumber w.dayNumber

/-- A time is known from its date and its time of day. -/
theorem eq_of_date (hdate : v.date = w.date) (htime : v.timeOfDay = w.timeOfDay) : v = w := by
  apply ext
  rw [v.micros_eq, w.micros_eq, ← v.dayNumber_date, ← w.dayNumber_date, hdate, htime]

namespace OnDay

theorem unique (hu : u.OnDay w n) (hv : v.OnDay w n) : u = v :=
  eq_of_date (hu.date.trans hv.date.symm) (hu.timeOfDay.trans hv.timeOfDay.symm)

/-- A day of the month of a time is one of the month of every time in that month. -/
theorem trans (hx : x.OnDay w m) : v.OnDay x n ↔ v.OnDay w n := by
  constructor
  · intro h
    refine ⟨?_, h.timeOfDay.trans hx.timeOfDay⟩
    rw [h.date, hx.date]
  · intro h
    refine ⟨?_, h.timeOfDay.trans hx.timeOfDay.symm⟩
    rw [h.date, hx.date]

theorem daysInMonth_eq (h : v.OnDay w n) : v.daysInMonth = w.daysInMonth := by
  rw [daysInMonth, daysInMonth, h.date]

theorem inLastMonth_iff (h : v.OnDay w n) : v.InLastMonth ↔ w.InLastMonth := by
  rw [InLastMonth, InLastMonth, h.date]

theorem monthIndex_eq (h : v.OnDay w n) : v.date.monthIndex = w.date.monthIndex := by
  rw [Date.monthIndex, Date.monthIndex, h.date]

/-- The days of a month are as far apart as their numbers. -/
theorem micros_eq (h : v.OnDay w n) :
    (v.micros : Int) = w.micros + ((n : Int) - w.date.day) * dayMicros := by
  have hday : v.date.day = n := by rw [h.date]
  have h1 : 1 ≤ n := by
    rw [← hday]
    exact v.date_valid.2.2.2.2.1
  have hcount := Date.dayNumber_onDay w.date_valid h1
  rw [← h.date, v.dayNumber_date, w.dayNumber_date] at hcount
  have hv := v.micros_eq
  have hw := w.micros_eq
  rw [h.timeOfDay] at hv
  simp only [dayMicros] at *
  omega

end OnDay

theorem day_bounds (w : WallTime) : 1 ≤ w.date.day ∧ w.date.day ≤ w.daysInMonth :=
  ⟨w.date_valid.2.2.2.2.1, w.date_valid.2.2.2.2.2⟩

/-! ### The first day -/

theorem firstOfMonth_eq_ok : w.firstOfMonth = .ok v ↔ v.OnDay w 1 := by
  rw [firstOfMonth, withDate_eq_ok]
  constructor
  · intro h
    exact ⟨h.1, h.2⟩
  · intro h
    exact ⟨h.date, h.timeOfDay⟩

theorem exists_firstOfMonth (w : WallTime) : ∃ v, w.firstOfMonth = .ok v := by
  obtain ⟨h1, hlength⟩ := w.day_bounds
  exact w.exists_withDate (Date.onDay_valid w.date_valid (Nat.le_refl 1) (Nat.le_trans h1 hlength))

/-! ### The next month -/

/-- Whether a time is on the first day of the month after that of another one, at the same time of
day. -/
structure FirstAfter (x w : WallTime) : Prop where
  index : x.date.monthIndex = w.date.monthIndex + 1
  day : x.date.day = 1
  timeOfDay : x.timeOfDay = w.timeOfDay

namespace FirstAfter

/-- The next month begins when all days of the month have passed. -/
theorem micros_eq (h : x.FirstAfter w) :
    (x.micros : Int) = w.micros + ((w.daysInMonth : Int) + 1 - w.date.day) * dayMicros := by
  obtain ⟨first, hfirst⟩ := w.exists_firstOfMonth
  have hon := firstOfMonth_eq_ok.1 hfirst
  have hindex : x.date.monthIndex = first.date.monthIndex + 1 := by
    rw [h.index, hon.monthIndex_eq]
  have hcount := Date.dayNumber_next_month first.date_valid x.date_valid hindex
    (by rw [hon.date]) h.day
  have hlengths : monthLength first.date.year first.date.month = w.daysInMonth := hon.daysInMonth_eq
  have hfw := hon.micros_eq
  have hf := first.micros_eq
  have hx := x.micros_eq
  rw [hon.timeOfDay] at hf
  rw [h.timeOfDay, ← x.dayNumber_date, hcount, first.dayNumber_date, hlengths] at hx
  simp only [dayMicros] at *
  omega

/-- The first day of a month is not the last one of the calendar. -/
theorem micros_add_le (h : x.FirstAfter w) : x.micros + dayMicros ≤ Date.span * dayMicros := by
  obtain ⟨-, -, hm1, hm12, -⟩ := x.date_valid
  have hsecond := Date.dayNumber_lt_span (Date.onDay_valid x.date_valid (n := 2) (by decide)
    (Nat.le_trans (by decide) (le_monthLength x.date.year hm1 hm12)))
  have hcount := Date.dayNumber_onDay x.date_valid (n := 2) (by decide)
  rw [h.day, x.dayNumber_date] at hcount
  have hx := x.micros_eq
  have htime := x.timeOfDay_lt
  simp only [dayMicros] at *
  omega

end FirstAfter

/-! ### The last day -/

/-- The month after that of a time is in the calendar, unless the time lies in the last month. -/
theorem inYears_succ_iff : InYears (w.date.monthIndex + 1) ↔ ¬ w.InLastMonth := by
  obtain ⟨hy1, hy2, hm1, hm12, -⟩ := w.date_valid
  rw [InYears, InLastMonth, Date.monthIndex]
  omega

/-- The first day of the next month is found by adding a month and setting the day. -/
theorem exists_firstAfter (h : ¬ w.InLastMonth) :
    ∃ next x, w.addMonths 1 = .ok next ∧ next.firstOfMonth = .ok x ∧ x.FirstAfter w := by
  obtain ⟨next, hnext⟩ := exists_monthsAfter_iff.2 (inYears_succ_iff.2 h)
  obtain ⟨x, hx⟩ := next.exists_firstOfMonth
  have hxOn := firstOfMonth_eq_ok.1 hx
  refine ⟨next, x, addMonths_eq_ok.2 hnext, hx, ?_, ?_, ?_⟩
  · rw [hxOn.monthIndex_eq, hnext.date.index]
  · rw [hxOn.date]
  · exact hxOn.timeOfDay.trans hnext.timeOfDay

/-- The day before the first one of the next month is the last one of the month. -/
theorem exists_lastOfMonth (h : ¬ w.InLastMonth) :
    ∃ v, w.lastOfMonth = .ok v ∧ v.OnDay w w.daysInMonth := by
  obtain ⟨h1, hlength⟩ := w.day_bounds
  obtain ⟨next, x, hnext, hx, hafter⟩ := exists_firstAfter h
  obtain ⟨v, hv⟩ := w.exists_withDate
    (Date.onDay_valid w.date_valid (Nat.le_trans h1 hlength) (Nat.le_refl _))
  have hvOn : v.OnDay w w.daysInMonth := ⟨(withDate_eq_ok.1 hv).1, (withDate_eq_ok.1 hv).2⟩
  have hback : x.addDays (-1) = .ok v := by
    have hvw := hvOn.micros_eq
    have hxw := hafter.micros_eq
    refine shift_eq_ok.2 ?_
    simp only [dayMicros] at *
    omega
  refine ⟨v, ?_, hvOn⟩
  rw [lastOfMonth, bind_of_ok hnext, bind_of_ok hx, hback]

/-- The last month of the calendar has no next one. -/
theorem lastOfMonth_of_inLastMonth (h : w.InLastMonth) : w.lastOfMonth = .error .invalidValue := by
  have hout : ¬ InYears (w.date.monthIndex + 1) := fun hin => inYears_succ_iff.1 hin h
  have hyear : yearFault ((w.date.monthIndex + 1) / 12) = .invalidValue := by
    obtain ⟨hyear, hmonth⟩ := h
    rw [Date.monthIndex, hyear, hmonth]
    rfl
  have hnext : w.addMonths 1 = .error .invalidValue := addMonths_eq_error.2 ⟨hout, hyear.symm⟩
  rw [lastOfMonth, hnext]
  rfl

/-- The last day of the month is the one that the table of lengths names. -/
theorem lastOfMonth_eq_ok :
    w.lastOfMonth = .ok v ↔ ¬ w.InLastMonth ∧ v.OnDay w w.daysInMonth := by
  by_cases hin : w.InLastMonth
  · rw [lastOfMonth_of_inLastMonth hin]
    constructor
    · intro h
      cases h
    · intro h
      exact absurd hin h.1
  · obtain ⟨u, hu, hon⟩ := exists_lastOfMonth hin
    rw [hu]
    constructor
    · intro h
      obtain rfl := Except.ok.inj h
      exact ⟨hin, hon⟩
    · intro h
      rw [hon.unique h.2]

/-- Only in the last month of the calendar the last day is not found. -/
theorem lastOfMonth_eq_error :
    w.lastOfMonth = .error f ↔ w.InLastMonth ∧ f = .invalidValue := by
  by_cases hin : w.InLastMonth
  · rw [lastOfMonth_of_inLastMonth hin]
    constructor
    · intro h
      exact ⟨hin, (Except.error.inj h).symm⟩
    · intro h
      rw [h.2]
  · obtain ⟨v, hv, -⟩ := exists_lastOfMonth hin
    rw [hv]
    constructor
    · intro h
      cases h
    · intro h
      exact absurd h.1 hin

/-! ### One month -/

/-- The ends of a month are the same for all times of it. -/
theorem OnDay.firstOfMonth_eq (h : v.OnDay w n) : v.firstOfMonth = w.firstOfMonth := by
  obtain ⟨x, hx⟩ := w.exists_firstOfMonth
  rw [hx, firstOfMonth_eq_ok, OnDay.trans h]
  exact firstOfMonth_eq_ok.1 hx

theorem OnDay.lastOfMonth_eq (h : v.OnDay w n) : v.lastOfMonth = w.lastOfMonth := by
  by_cases hin : w.InLastMonth
  · rw [lastOfMonth_of_inLastMonth hin, lastOfMonth_of_inLastMonth (h.inLastMonth_iff.2 hin)]
  · obtain ⟨x, hx, hon⟩ := exists_lastOfMonth hin
    rw [hx, lastOfMonth_eq_ok, h.inLastMonth_iff, OnDay.trans h, h.daysInMonth_eq]
    exact ⟨hin, hon⟩

end WallTime

end CivilTime
