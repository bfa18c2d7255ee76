import CivilTime.Instant.Basic
import CivilTime.Calendar.Shift
import CivilTime.Journal
import CivilTime.Zone.Identifier

/-!
# Moving a wall-clock reading to another zone

The reading of a date, cut to the second, is understood in another zone. The instant changes, the
reading stays.

* `WallTime.shown`: date and time of day to the second.
* `Instant.transfer`: the instant that reads the same in another zone.
* `transferDate`: the same with a zone that is named; no name leaves the date as it is.
-/

namespace CivilTime

open Text

/-- The date and the time of day to the second. -/
def WallTime.shown (w : WallTime) : List Char :=
  let f := w.fields
  padded 4 f.year ++ '-' :: padded 2 f.month ++ '-' :: padded 2 f.day
    ++ ' ' :: padded 2 f.hour ++ ':' :: padded 2 f.minute ++ ':' :: padded 2 f.second

/-- The reading that an instant has in a zone, and the instant that has it in another one. -/
def Instant.transfer (i : Instant) (default target : Zone) (given : Option Zone := none) :
    Except Fault (WallTime × Instant) := do
  let w := (← i.wallClock default (some (zoneOr default given))).wholeSecond
  return (w, ← Instant.ofStamp ⟨w, none⟩ default (some target))

/-- The record of a reading that has been moved. -/
def transferRecord (w : WallTime) (target : Zone) (i moved : Instant) : Record :=
  ⟨.debug, "schedtime.zones", "convert_timezone",
    "Shifted " ++ String.ofList w.shown ++ " to " ++ target.text ++ ": "
      ++ String.ofList (ofInt i.millis) ++ " -> " ++ String.ofList (ofInt moved.millis), none⟩

/-- The date with the same reading in the zone of an identifier, with its record. The identifier is
looked at before the date. -/
def transferDate (date : Option Instant) (target : Option String) (default : Zone)
    (given : Option Zone := none) : Except Fault (Option Instant × List Record) :=
  match target with
  | none => .ok (date, [])
  | some id => do
    match ← Zone.resolve id with
    | none => return (date, [])
    | some zone =>
      match date with
      | none => throw .dateRequired
      | some i =>
        let (w, moved) ← i.transfer default zone given
        return (some moved, [transferRecord w zone i moved])

end CivilTime
