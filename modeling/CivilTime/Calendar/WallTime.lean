import CivilTime.Calendar.Date
import CivilTime.Fault

/-!
# Wall-clock times

What calendar and clock on a wall show: a date of the years 1 to 9999 and a time of day to the
microsecond. It is kept as the number of microseconds since the calendar began, so moving it is
addition; year, month and the other fields are a view of that number.

* `WallTime`: the count, which lies in the calendar.
* `Fields`, `Fields.Valid`: the seven numbers shown.
* `WallTime.fields`, `Fields.toWallTime`: from one to the other; they undo each other
  (`toWallTime_fields`, `fields_toWallTime`).
* `WallTime.shift`: moving by microseconds; leaving the calendar is a fault.
* `WallTime.date`, `WallTime.withDate`: another day at the same time of day.
-/

namespace CivilTime

/-- The microseconds of a second. -/
def secondMicros : Nat := 1_000_000

/-- The microseconds of a minute. -/
def minuteMicros : Nat := 60_000_000

/-- The microseconds of an hour. -/
def hourMicros : Nat := 3_600_000_000

/-- The microseconds of a day. -/
def dayMicros : Nat := 86_400_000_000

/-- A wall-clock time: microseconds since the start of the calendar. -/
structure WallTime where
  micros : Nat
  inCalendar : micros < Date.span * dayMicros
  deriving DecidableEq, Repr

/-- A date and a time of day. -/
structure Fields extends Date where
  hour : Nat := 0
  minute : Nat := 0
  second : Nat := 0
  micro : Nat := 0
  deriving DecidableEq, Repr

namespace Fields

/-- Whether the fields name a wall-clock time. -/
def Valid (f : Fields) : Prop :=
  f.toDate.Valid ∧ f.hour < 24 ∧ f.minute < 60 ∧ f.second < 60 ∧ f.micro < 1_000_000

instance (f : Fields) : Decidable f.Valid := by unfold Valid; infer_instance

/-- The microseconds since midnight. -/
def timeMicros (f : Fields) : Nat :=
  f.hour * hourMicros + f.minute * minuteMicros + f.second * secondMicros + f.micro

/-- The microseconds since the calendar began. -/
def micros (f : Fields) : Nat := f.dayNumber * dayMicros + f.timeMicros

theorem timeMicros_lt {f : Fields} (h : f.Valid) : f.timeMicros < dayMicros := by
  obtain ⟨-, hh, hm, hs, hu⟩ := h
  simp only [timeMicros, dayMicros, hourMicros, minuteMicros, secondMicros]
  omega

theorem micros_lt {f : Fields} (h : f.Valid) : f.micros < Date.span * dayMicros := by
  have h1 := Date.dayNumber_lt_span h.1
  have h2 := timeMicros_lt h
  simp only [micros, dayMicros, Date.span] at *
  omega

/-- The wall-clock time with these fields. -/
def toWallTime (f : Fields) : Except Fault WallTime :=
  if h : f.Valid then .ok ⟨f.micros, micros_lt h⟩ else .error .invalidValue

end Fields

namespace WallTime

theorem ext {v w : WallTime} (h : v.micros = w.micros) : v = w := by
  cases v; cases w; simp_all

/-- The number of the day. -/
def dayNumber (w : WallTime) : Nat := w.micros / dayMicros

/-- The microseconds since midnight. -/
def timeOfDay (w : WallTime) : Nat := w.micros % dayMicros

/-- The date. -/
def date (w : WallTime) : Date := Date.ofDayNumber w.dayNumber

/-- The hour of the day. -/
def hour (w : WallTime) : Nat := w.timeOfDay / hourMicros

/-- The date and the time of day. -/
def fields (w : WallTime) : Fields :=
  { w.date with
    hour := w.hour
    minute := w.timeOfDay / minuteMicros % 60
    second := w.timeOfDay / secondMicros % 60
    micro := w.timeOfDay % secondMicros }

/-- The time that an integer count names, if it lies in the calendar. -/
def ofMicros (n : Int) : Except Fault WallTime :=
  if h : 0 ≤ n ∧ n < (Date.span * dayMicros : Nat) then
    .ok ⟨n.toNat, by omega⟩
  else .error .outOfRange

/-- The time `d` microseconds later, or earlier if `d` is negative. -/
def shift (w : WallTime) (d : Int) : Except Fault WallTime := ofMicros (w.micros + d)

/-- The time `n` days later on the wall clock. -/
def addDays (w : WallTime) (n : Int) : Except Fault WallTime := w.shift (n * dayMicros)

/-- Another date at the same time of day. -/
def withDate (w : WallTime) (d : Date) : Except Fault WallTime :=
  Fields.toWallTime { w.fields with toDate := d }

/-! ### The count and the fields -/

theorem dayNumber_lt (w : WallTime) : w.dayNumber < Date.span :=
  Nat.div_lt_of_lt_mul (by rw [Nat.mul_comm]; exact w.inCalendar)

theorem timeOfDay_lt (w : WallTime) : w.timeOfDay < dayMicros :=
  Nat.mod_lt _ (by decide)

theorem micros_eq (w : WallTime) : w.micros = w.dayNumber * dayMicros + w.timeOfDay := by
  rw [dayNumber, timeOfDay, Nat.mul_comm]
  exact (Nat.div_add_mod _ _).symm

theorem fields_valid (w : WallTime) : w.fields.Valid := by
  have ht := w.timeOfDay_lt
  refine ⟨Date.ofDayNumber_valid w.dayNumber_lt, ?_, ?_, ?_, ?_⟩ <;>
    simp only [fields, hour, dayMicros, hourMicros, minuteMicros, secondMicros] at * <;> omega

theorem timeMicros_fields (w : WallTime) : w.fields.timeMicros = w.timeOfDay := by
  simp only [Fields.timeMicros, fields, hour, hourMicros, minuteMicros, secondMicros]
  omega

theorem dayNumber_fields (w : WallTime) : w.fields.dayNumber = w.dayNumber :=
  Date.dayNumber_ofDayNumber w.dayNumber

theorem micros_fields (w : WallTime) : w.fields.micros = w.micros := by
  rw [Fields.micros, timeMicros_fields, dayNumber_fields, ← micros_eq]

/-- The fields of a time name that time. -/
theorem toWallTime_fields (w : WallTime) : w.fields.toWallTime = .ok w := by
  rw [Fields.toWallTime, dif_pos w.fields_valid]
  exact congrArg Except.ok (ext w.micros_fields)

/-- The time that valid fields name has these fields. -/
theorem fields_toWallTime {f : Fields} (h : f.Valid) {w : WallTime} (hw : f.toWallTime = .ok w) :
    w.fields = f := by
  rw [Fields.toWallTime, dif_pos h] at hw
  obtain rfl := Except.ok.inj hw
  have ht := Fields.timeMicros_lt h
  have hday : f.micros / dayMicros = f.dayNumber := by
    simp only [Fields.micros, dayMicros] at *; omega
  have htime : f.micros % dayMicros = f.timeMicros := by
    simp only [Fields.micros, dayMicros] at *; omega
  obtain ⟨hd, hh, hm, hs, hu⟩ := h
  obtain ⟨d, hour, minute, second, micro⟩ := f
  dsimp only at hh hm hs hu
  simp only [fields, date, dayNumber, WallTime.hour, timeOfDay, hday, htime, Fields.mk.injEq]
  clear hday htime ht
  refine ⟨Date.ofDayNumber_dayNumber hd, ?_, ?_, ?_, ?_⟩ <;>
    simp only [Fields.timeMicros, hourMicros, minuteMicros, secondMicros] <;> omega

theorem ofMicros_micros (w : WallTime) : ofMicros w.micros = .ok w := by
  have h := w.inCalendar
  rw [ofMicros, dif_pos ⟨by omega, by exact_mod_cast h⟩]
  exact congrArg Except.ok (ext (by simp))

/-- A move succeeds exactly inside the calendar, and then it is addition. -/
theorem shift_eq_ok {w v : WallTime} {d : Int} :
    w.shift d = .ok v ↔ (v.micros : Int) = w.micros + d := by
  constructor
  · intro h
    rw [shift, ofMicros] at h
    split at h
    · obtain rfl := Except.ok.inj h
      simp only
      omega
    · cases h
  · intro h
    rw [shift, ← h]
    exact ofMicros_micros v

end WallTime

end CivilTime
