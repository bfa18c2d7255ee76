import CivilTime.Calendar.WallTime

/-!
# Moving wall-clock times by calendar units

Months and years move the month; the day of the month is kept where it exists and else becomes the
last one. Months are split into years and months, rounding toward zero, before they are added.

* `CalendarUnit`: the units.
* `carryMonths`: a year and a month after a number of years and of less than twelve months.
* `Date.moveMonth`: the date so many years and months away.
* `WallTime.addMonths`, `WallTime.addYears`: the same for wall-clock times.
* `WallTime.startOf`, `WallTime.endOf`: the first and the last millisecond of a day or an hour.
* `WallTime.monday`, `WallTime.sunday`: the ends of the week.
* `WallTime.firstOfMonth`, `WallTime.lastOfMonth`: the ends of the month.
-/

namespace CivilTime

/-- A unit of the calendar or the clock. -/
inductive CalendarUnit
  | year
  | month
  | week
  | day
  | hour
  | minute
  | second
  | millisecond
  deriving DecidableEq, Repr

namespace CalendarUnit

/-- All units. -/
def all : List CalendarUnit :=
  [.year, .month, .week, .day, .hour, .minute, .second, .millisecond]

/-- The name of a unit. -/
def name : CalendarUnit → String
  | .year => "year"
  | .month => "month"
  | .week => "week"
  | .day => "day"
  | .hour => "hour"
  | .minute => "minute"
  | .second => "second"
  | .millisecond => "millisecond"

/-- The unit with a name. -/
def ofName? (s : String) : Option CalendarUnit := all.find? (·.name == s)

theorem ofName?_name (u : CalendarUnit) : ofName? u.name = some u := by cases u <;> decide

end CalendarUnit

/-- The year and the month that lie `years` years and `months` months, less than twelve, after a
month or before it. -/
def carryMonths (year month years months : Int) : Int × Int :=
  if 12 < month + months then (year + years + 1, month + months - 12)
  else if month + months < 1 then (year + years - 1, month + months + 12)
  else (year + years, month + months)

/-- Years that are too great to be told from a bad year. -/
def maxYearNumber : Int := 2_147_483_647

/-- The date `years` years and `months` months away, on the last day of the month if the month is
too short. A year outside the calendar is impossible, and one beyond all year numbers is out of
range. -/
def Date.moveMonth (d : Date) (years months : Int) : Except Fault Date :=
  let (year, month) := carryMonths d.year d.month years months
  if year < -maxYearNumber - 1 ∨ maxYearNumber < year then .error .outOfRange
  else if year < 1 ∨ 9999 < year then .error .invalidValue
  else
    .ok ⟨year.toNat, month.toNat, min d.day (monthLength year.toNat month.toNat)⟩

namespace WallTime

/-- The time so many years and months away. -/
def moveMonth (w : WallTime) (years months : Int) : Except Fault WallTime := do
  w.withDate (← w.date.moveMonth years months)

/-- The time `n` months away. -/
def addMonths (w : WallTime) (n : Int) : Except Fault WallTime :=
  w.moveMonth (n.tdiv 12) (n.tmod 12)

/-- The time `n` years away. -/
def addYears (w : WallTime) (n : Int) : Except Fault WallTime := w.moveMonth n 0

/-! ### Periods -/

/-- The start of the period of the given length, an hour or a day, that a time lies in. -/
def startOf (w : WallTime) (length : Nat) : WallTime :=
  ⟨w.micros - w.micros % length, Nat.lt_of_le_of_lt (Nat.sub_le _ _) w.inCalendar⟩

/-- A period that starts inside the calendar ends inside it if its length divides that of the
calendar. -/
theorem start_add_lt {m n length : Nat} (hd : length ∣ n) (hm : m < n) (h : 0 < length) :
    m - m % length + (length - 1000) < n := by
  obtain ⟨k, rfl⟩ := hd
  have hk : m / length + 1 ≤ k := Nat.div_lt_of_lt_mul hm
  have hle := Nat.mul_le_mul_left length hk
  have hdm := Nat.div_add_mod m length
  have hml := Nat.mod_lt m h
  rw [Nat.mul_add, Nat.mul_one] at hle
  omega

/-- The last millisecond of the period of the given length that a time lies in. -/
def endOf (w : WallTime) (length : Nat) (hd : length ∣ Date.span * dayMicros) (h : 0 < length) :
    WallTime :=
  ⟨w.micros - w.micros % length + (length - 1000), start_add_lt hd w.inCalendar h⟩

/-- The start of the day. -/
def startOfDay (w : WallTime) : WallTime := w.startOf dayMicros

/-- The last millisecond of the day. -/
def endOfDay (w : WallTime) : WallTime :=
  w.endOf dayMicros (Nat.dvd_mul_left _ _) (by decide)

/-- The start of the hour. -/
def startOfHour (w : WallTime) : WallTime := w.startOf hourMicros

/-- The last millisecond of the hour. -/
def endOfHour (w : WallTime) : WallTime :=
  w.endOf hourMicros (Nat.dvd_trans (by decide : hourMicros ∣ dayMicros) (Nat.dvd_mul_left _ _))
    (by decide)

/-- The time cut to the second. -/
def wholeSecond (w : WallTime) : WallTime := w.startOf secondMicros

/-! ### Days of the week and of the month -/

/-- The place of the day in its week, from 0 on Monday. -/
def weekday (w : WallTime) : Nat := w.dayNumber % 7

/-- Monday of the same week. -/
def monday (w : WallTime) : Except Fault WallTime := w.addDays (-(w.weekday : Int))

/-- Sunday of the same week. -/
def sunday (w : WallTime) : Except Fault WallTime := w.addDays (6 - (w.weekday : Int))

/-- The first day of the same month. -/
def firstOfMonth (w : WallTime) : Except Fault WallTime := w.withDate { w.date with day := 1 }

/-- The last day of the same month: the day before the first one of the next month. -/
def lastOfMonth (w : WallTime) : Except Fault WallTime := do
  (← (← w.addMonths 1).firstOfMonth).addDays (-1)

end WallTime

end CivilTime
