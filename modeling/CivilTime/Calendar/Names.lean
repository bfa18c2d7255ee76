import CivilTime.Calendar.WallTime

/-!
# Names of months and weekdays

* `monthNames`, `weekdayNames`: the names in their order, from January and from Monday.
* `shortName`: the first three letters.
* `WallTime.monthName`, `WallTime.weekdayName`: the names of a day.
-/

namespace CivilTime

/-- The months from January on. -/
def monthNames : List String :=
  ["January", "February", "March", "April", "May", "June", "July", "August", "September",
    "October", "November", "December"]

/-- The days of the week from Monday on. -/
def weekdayNames : List String :=
  ["Monday", "Tuesday", "Wednesday", "Thursday", "Friday", "Saturday", "Sunday"]

/-- The first three letters of a name. -/
def shortName (name : List Char) : List Char := name.take 3

namespace WallTime

/-- The name of the month. -/
def monthName (w : WallTime) : List Char := (monthNames.getD (w.date.month - 1) "").toList

/-- The name of the weekday. -/
def weekdayName (w : WallTime) : List Char := (weekdayNames.getD (w.dayNumber % 7) "").toList

end WallTime

end CivilTime
