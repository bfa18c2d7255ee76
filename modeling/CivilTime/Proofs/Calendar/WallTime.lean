import CivilTime.Calendar.Shift
import CivilTime.Zone.Offset

/-!
# Dates, fields and moves of wall-clock times

What the round trips between texts, wall-clock times and the time line need of the calendar.

* `monthLength_le`, `Date.dayOfYear_bounds`: the sizes of what a date shows.
* `SameMonths`: years with the same calendar.
* `WallTime.fields_injective`: a time is known from its fields.
* `WallTime.Clear`, `Clear.exists_shift`: a distance from both ends of the calendar, and moves by no
  more than that.
* `cut_div`, `cut_mod`, `WallTime.micros_startOf`: times cut to a unit, with `date_startOf`,
  `timeOfDay_startOf`, `fields_startOf` and `sinceEpoch_startOf` for what they show.
* `WallTime.hour_hoursAfter`: the hour of the day some hours away.
* `WallTime.floorMillis`: a time cut to the millisecond.
-/

namespace CivilTime

/-! ### Dates -/

/-- The day of the year is one of 366. -/
theorem Date.dayOfYear_bounds {d : Date} (h : d.Valid) : 1 ≤ d.dayOfYear ∧ d.dayOfYear ≤ 366 := by
  obtain ⟨-, -, -, h12, h1, hlen⟩ := h
  have hmonth := daysBeforeMonth_add_le d.year h12
  have hleap := leapDay_le d.year
  rw [dayOfYear]
  omega

theorem monthLength_le (year month : Nat) : monthLength year month ≤ 31 := by
  have hleap := leapDay_le year
  unfold monthLength
  split <;> omega

/-- Whether two years have the same months. -/
def SameMonths (year year' : Nat) : Prop := leapDay year = leapDay year'

theorem SameMonths.monthLength_eq {year year' : Nat} (h : SameMonths year year') (month : Nat) :
    monthLength year month = monthLength year' month := by
  unfold monthLength
  rw [h]

theorem SameMonths.daysBeforeMonth_eq {year year' : Nat} (h : SameMonths year year')
    (month : Nat) : daysBeforeMonth year month = daysBeforeMonth year' month := by
  induction month with
  | zero => rfl
  | succ month ih => rw [daysBeforeMonth, daysBeforeMonth, ih, h.monthLength_eq]

namespace WallTime

/-! ### Fields and moves -/

theorem micro_fields_mod {w : WallTime} (h : w.micros % 1000 = 0) :
    w.fields.micro % 1000 = 0 := by
  simp only [fields, timeOfDay, dayMicros, secondMicros]
  omega

theorem fields_injective {v w : WallTime} (h : v.fields = w.fields) : v = w := by
  apply ext
  rw [← micros_fields, ← micros_fields, h]

/-- Whether a wall-clock time keeps a distance from both ends of the calendar. -/
def Clear (w : WallTime) (distance : Nat) : Prop :=
  distance ≤ w.micros ∧ w.micros + distance < Date.span * dayMicros

instance (w : WallTime) (d : Nat) : Decidable (w.Clear d) := by unfold Clear; infer_instance

theorem Clear.mono {w : WallTime} {d e : Nat} (h : w.Clear d) (hed : e ≤ d) : w.Clear e := by
  obtain ⟨hlo, hhi⟩ := h
  exact ⟨by omega, by omega⟩

/-- A time can be moved by no more than its distance from the ends. -/
theorem Clear.exists_shift {w : WallTime} {d : Nat} (h : w.Clear d) {n : Int} (hlo : -(d : Int) ≤ n)
    (hhi : n ≤ d) : ∃ v, w.shift n = .ok v ∧ v.sinceEpoch = w.sinceEpoch + n := by
  obtain ⟨h1, h2⟩ := h
  have hcal : (w.micros + n).toNat < Date.span * dayMicros := by omega
  have hv : ((w.micros + n).toNat : Int) = w.micros + n := Int.toNat_of_nonneg (by omega)
  refine ⟨⟨(w.micros + n).toNat, hcal⟩, shift_eq_ok.2 hv, ?_⟩
  show ((w.micros + n).toNat : Int) - epochMicros = w.micros - epochMicros + n
  omega

theorem eq_of_sinceEpoch_eq {v w : WallTime} (h : v.sinceEpoch = w.sinceEpoch) : v = w := by
  simp only [sinceEpoch] at h
  exact ext (by omega)

theorem shift_eq_ok_iff_sinceEpoch {w v : WallTime} {d : Int} :
    w.shift d = .ok v ↔ v.sinceEpoch = w.sinceEpoch + d := by
  rw [shift_eq_ok]
  simp only [sinceEpoch]
  omega

theorem eq_outOfRange_of_shift {w : WallTime} {d : Int} {f : Fault} (h : w.shift d = .error f) :
    f = .outOfRange := by
  rw [shift, ofMicros] at h
  split at h
  · cases h
  · exact (Except.error.inj h).symm

/-- Every point of the calendar is a time. -/
theorem exists_sinceEpoch {n : Int} (hlo : 0 ≤ n + epochMicros)
    (hhi : n + epochMicros < (Date.span : Int) * dayMicros) : ∃ u : WallTime, u.sinceEpoch = n := by
  refine ⟨⟨(n + epochMicros).toNat, by omega⟩, ?_⟩
  simp only [sinceEpoch]
  omega

/-! ### Cut times -/

theorem cut_div {m n d : Nat} (h : n ∣ d) : m / n * n / d = m / d := by
  obtain ⟨k, rfl⟩ := h
  rcases Nat.eq_zero_or_pos n with rfl | hn
  · simp
  · rw [← Nat.div_div_eq_div_mul, ← Nat.div_div_eq_div_mul, Nat.mul_div_cancel _ hn]

theorem cut_mod {m n d : Nat} (h : n ∣ d) : m / n * n % d = m % d / n * n := by
  obtain ⟨k, rfl⟩ := h
  rw [Nat.mod_mul_right_div_self, Nat.mul_comm, Nat.mul_mod_mul_left, Nat.mul_comm]

variable {n : Nat}

theorem micros_startOf (w : WallTime) (n : Nat) : (w.startOf n).micros = w.micros / n * n :=
  Nat.div_mul_self_eq_mod_sub_self.symm

/-- A time cut to a unit that goes into the day keeps its day. -/
theorem dayNumber_startOf (hn : n ∣ dayMicros) (w : WallTime) :
    (w.startOf n).dayNumber = w.dayNumber := by
  rw [dayNumber, micros_startOf, cut_div hn, dayNumber]

theorem date_startOf (hn : n ∣ dayMicros) (w : WallTime) : (w.startOf n).date = w.date := by
  rw [date, dayNumber_startOf hn, date]

theorem timeOfDay_startOf (hn : n ∣ dayMicros) (w : WallTime) :
    (w.startOf n).timeOfDay = w.timeOfDay / n * n := by
  rw [timeOfDay, micros_startOf, cut_mod hn, timeOfDay]

/-- Cutting a time to a part of a second cuts its microseconds. -/
theorem fields_startOf (hn : n ∣ secondMicros) (w : WallTime) :
    (w.startOf n).fields = { w.fields with micro := w.fields.micro / n * n } := by
  have hminute : n ∣ minuteMicros := Nat.dvd_trans hn (by decide)
  have hhour : n ∣ hourMicros := Nat.dvd_trans hn (by decide)
  have hday : n ∣ dayMicros := Nat.dvd_trans hn (by decide)
  simp only [fields, date_startOf hday, hour, timeOfDay_startOf hday, cut_div hhour,
    cut_div hminute, cut_div hn, cut_mod hn]

/-- The calendar and the time line have the parts of their seconds in common. -/
theorem sinceEpoch_startOf (hn : n ∣ secondMicros) (w : WallTime) :
    (w.startOf n).sinceEpoch = w.sinceEpoch / n * n := by
  have hepoch : (n : Int) ∣ epochMicros :=
    Int.dvd_trans (Int.natCast_dvd_natCast.2 hn) (by decide)
  obtain ⟨k, hk⟩ := hepoch
  have hpos : (n : Int) ≠ 0 := by
    rintro h
    rw [h, Int.zero_mul] at hk
    exact absurd hk (by decide)
  rw [sinceEpoch, sinceEpoch, micros_startOf, hk, Int.sub_mul_ediv_left _ _ hpos, Int.sub_mul,
    Int.mul_comm k]
  push_cast
  rfl

/-! ### Hours -/

theorem hour_lt (w : WallTime) : w.hour < 24 := by
  have htime := w.timeOfDay_lt
  simp only [hour, hourMicros, dayMicros] at *
  omega

theorem startOfHour_mod (w : WallTime) : w.startOfHour.micros % 1000 = 0 := by
  rw [startOfHour, micros_startOf, hourMicros]
  omega

/-- The hour of the day some hours after an hour began. -/
theorem hour_hoursAfter {v w : WallTime} {hours : Int}
    (h : (v.micros : Int) = w.startOfHour.micros + hours * hourMicros) :
    (v.hour : Int) = (w.hour + hours) % 24 := by
  rw [startOfHour, micros_startOf] at h
  simp only [hour, timeOfDay, hourMicros, dayMicros] at *
  omega

/-! ### Whole milliseconds -/

/-- A wall-clock time cut to the millisecond. -/
def floorMillis (w : WallTime) : WallTime :=
  ⟨w.micros / 1000 * 1000, Nat.lt_of_le_of_lt (Nat.div_mul_le_self _ _) w.inCalendar⟩

theorem floorMillis_eq (w : WallTime) : w.floorMillis = w.startOf 1000 :=
  ext (micros_startOf w 1000).symm

theorem floorMillis_of_mod {w : WallTime} (h : w.micros % 1000 = 0) :
    w.floorMillis = w := by
  apply ext
  show w.micros / 1000 * 1000 = w.micros
  omega

theorem dayNumber_floorMillis (w : WallTime) : w.floorMillis.dayNumber = w.dayNumber := by
  rw [floorMillis_eq, dayNumber_startOf (by decide)]

/-- Cutting a time to the millisecond cuts its microseconds. -/
theorem fields_floorMillis (w : WallTime) :
    w.floorMillis.fields = { w.fields with micro := w.fields.micro / 1000 * 1000 } := by
  rw [floorMillis_eq, fields_startOf (by decide)]

end WallTime

end CivilTime
