import CivilTime.Calendar.Shift
import CivilTime.Instant.Basic

/-!
# Calendar arithmetic on instants

Years, months, weeks and days are added to what the wall clock of a zone shows, so the time of day
survives a change of the offset. Hours and smaller units are elapsed time. Periods begin and end as
the wall clock shows them.

* `Instant.onWall`: an operation on the wall clock as one on instants.
* `Instant.add`: calendar units added; `addToDate` takes a date and a unit of no fixed type,
  `addUnitsToDate` and `someDay` name the unit.
* `Boundary`, `Instant.boundary`: the ends of the periods that an instant lies in.
* `Instant.hourFrom`: the start of an hour some hours away.
* `Instant.hourIndex`: the hour of the day.
-/

namespace CivilTime

namespace Instant

/-- The instant read in a zone, moved on the wall clock and understood in the zone again. -/
def onWall (i : Instant) (default : Zone) (move : WallTime → Except Fault WallTime)
    (given : Option Zone := none) : Except Fault Instant := do
  let zone := zoneOr default given
  ofStamp ⟨← move (← i.wallClock default (some zone)), none⟩ default (some zone)

/-- The instant some milliseconds later. -/
def later (i : Instant) (millis : Int) : Instant := ⟨i.millis + millis⟩

/-- The instant `n` units away. -/
def add (i : Instant) (default : Zone) (unit : CalendarUnit) (n : Int)
    (given : Option Zone := none) : Except Fault Instant :=
  match unit with
  | .year => i.onWall default (·.addYears n) given
  | .month => i.onWall default (·.addMonths n) given
  | .week => i.onWall default (·.addDays (7 * n)) given
  | .day => i.onWall default (·.addDays n) given
  | .hour => .ok (i.later (n * 3_600_000))
  | .minute => .ok (i.later (n * 60_000))
  | .second => .ok (i.later (n * 1000))
  | .millisecond => .ok (i.later n)

end Instant

/-- The unit that a value names. -/
def CalendarUnit.ofValue (v : Value) : Except Fault CalendarUnit :=
  match v with
  | .text s =>
    match ofName? s with
    | some u => .ok u
    | none => .error (.unsupportedUnit v.shown)
  | _ => .error (.unsupportedUnit v.shown)

/-- A date that is needed. -/
def requireDate : Option Instant → Except Fault Instant
  | some i => .ok i
  | none => .error .dateRequired

/-- The date `n` units away, where the unit is named by a value; the date is looked at first. -/
def addToDate (date : Option Instant) (unit : Value) (n : Int) (default : Zone)
    (given : Option Zone := none) : Except Fault Instant := do
  let i ← requireDate date
  i.add default (← CalendarUnit.ofValue unit) n given

/-- The date `n` units away. -/
def addUnitsToDate (unit : CalendarUnit) (date : Option Instant) (n : Int) (default : Zone)
    (given : Option Zone := none) : Except Fault Instant :=
  addToDate date (.text unit.name) n default given

/-- The date `n` days away. -/
def someDay (date : Option Instant) (n : Int) (default : Zone) (given : Option Zone := none) :
    Except Fault Instant :=
  addToDate date (.text CalendarUnit.day.name) n default given

/-- An end of a period. -/
inductive Boundary
  | monday
  | sunday
  | firstOfMonth
  | lastOfMonth
  | startOfDay
  | endOfDay
  | startOfHour
  | endOfHour
  deriving DecidableEq, Repr

/-- The wall-clock time of an end of a period. -/
def Boundary.of : Boundary → WallTime → Except Fault WallTime
  | .monday, w => w.monday
  | .sunday, w => w.sunday
  | .firstOfMonth, w => w.firstOfMonth
  | .lastOfMonth, w => w.lastOfMonth
  | .startOfDay, w => .ok w.startOfDay
  | .endOfDay, w => .ok w.endOfDay
  | .startOfHour, w => .ok w.startOfHour
  | .endOfHour, w => .ok w.endOfHour

namespace Instant

/-- The end of a period that an instant lies in. -/
def boundary (i : Instant) (default : Zone) (b : Boundary) (given : Option Zone := none) :
    Except Fault Instant :=
  i.onWall default b.of given

/-- The start of the hour that is `n` hours away on the wall clock. -/
def hourFrom (i : Instant) (default : Zone) (n : Int) (given : Option Zone := none) :
    Except Fault Instant :=
  i.onWall default (fun w => w.startOfHour.shift (n * hourMicros)) given

/-- The hour of the day. -/
def hourIndex (i : Instant) (default : Zone) (given : Option Zone := none) : Except Fault Nat := do
  return (← i.wallClock default (some (zoneOr default given))).hour

end Instant

end CivilTime
