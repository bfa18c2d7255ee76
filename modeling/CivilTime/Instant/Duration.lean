import CivilTime.Instant.Basic
import CivilTime.Text.Integer

/-!
# Durations

Spans of time in milliseconds. They are split by division that rounds toward zero, so all parts of a
negative span are negative or zero.

* `wholeUnits`, `leftOver`: whole units in a span, and what is left of it.
* `Measure`: the counts that a span has, of whole units or of what larger units leave.
* `Duration`, `Duration.ofMillis`: days, hours, minutes and seconds.
* `Duration.columns`: `DD HH:MM:SS`; `Duration.words`: the positive parts, as in `1h 1m 1s`. Neither
  can be written if a part of it has more digits than are allowed.
* `differ`, `differSeconds`, `differMinutes`, `differHours`: the distance of two instants; a coarser
  unit rounds the finer one up.
* `remainingSeconds`: the seconds left until an interval has passed.
-/

namespace CivilTime

open Text

/-- The milliseconds of a second. -/
def secondMillis : Nat := 1000

/-- The milliseconds of a minute. -/
def minuteMillis : Nat := 60_000

/-- The milliseconds of an hour. -/
def hourMillis : Nat := 3_600_000

/-- The milliseconds of a day. -/
def dayMillis : Nat := 86_400_000

/-- The whole units in a span, rounding toward zero. -/
def wholeUnits (span : Int) (unit : Nat) : Int := span.tdiv unit

/-- What the whole units leave of a span. -/
def leftOver (span : Int) (unit : Nat) : Int := span.tmod unit

theorem wholeUnits_add_leftOver (span : Int) (unit : Nat) :
    wholeUnits span unit * unit + leftOver span unit = span :=
  Int.tdiv_mul_add_tmod span unit

/-- What is counted of a span. -/
inductive Measure
  | seconds
  | minutes
  | hours
  | days
  | secondsOfMinute
  | minutesOfHour
  | hoursOfDay
  deriving DecidableEq, Repr

/-- A count of a span in milliseconds. -/
def Measure.of : Measure → Int → Int
  | .seconds, n => wholeUnits n secondMillis
  | .minutes, n => wholeUnits n minuteMillis
  | .hours, n => wholeUnits n hourMillis
  | .days, n => wholeUnits n dayMillis
  | .secondsOfMinute, n => wholeUnits (leftOver n minuteMillis) secondMillis
  | .minutesOfHour, n => wholeUnits (leftOver n hourMillis) minuteMillis
  | .hoursOfDay, n => wholeUnits (leftOver n dayMillis) hourMillis

/-- A span in days, hours, minutes and seconds. -/
structure Duration where
  days : Int
  hours : Int
  minutes : Int
  seconds : Int
  deriving DecidableEq, Repr

namespace Duration

/-- The parts of a span in milliseconds; less than a second is dropped. -/
def ofMillis (n : Int) : Duration :=
  ⟨Measure.days.of n, Measure.hoursOfDay.of n, Measure.minutesOfHour.of n,
    Measure.secondsOfMinute.of n⟩

/-- The parts with their units. -/
def parts (d : Duration) : List (Int × Char) :=
  [(d.days, 'd'), (d.hours, 'h'), (d.minutes, 'm'), (d.seconds, 's')]

/-- The text of parts, if all of them may be written. -/
def written (limit : DigitLimit) (parts : List (Int × Char)) (text : List Char) :
    Except Fault (List Char) :=
  if ∀ p ∈ parts, limit.Admits p.1 then .ok text else .error .invalidValue

/-- The columns of the parts. -/
def columnText (d : Duration) : List Char :=
  signedPadded 2 d.days ++ ' ' :: signedPadded 2 d.hours ++ ':' :: signedPadded 2 d.minutes
    ++ ':' :: signedPadded 2 d.seconds

/-- The parts in columns. -/
def columns (d : Duration) (limit : DigitLimit := .standard) : Except Fault (List Char) :=
  written limit d.parts d.columnText

/-- Words with a blank between them. -/
def spaced : List (List Char) → List Char
  | [] => []
  | [s] => s
  | s :: t :: r => s ++ ' ' :: spaced (t :: r)

/-- The positive parts. -/
def positiveParts (d : Duration) : List (Int × Char) := d.parts.filter fun p => 0 < p.1

/-- The words of the positive parts. -/
def wordText (d : Duration) : List Char :=
  spaced (d.positiveParts.map fun p => ofInt p.1 ++ [p.2])

/-- The positive parts in words. -/
def words (d : Duration) (limit : DigitLimit := .standard) : Except Fault (List Char) :=
  written limit d.positiveParts d.wordText

end Duration

/-- The whole units that cover a span, rounding up. -/
def coveringUnits (span : Int) (unit : Nat) : Int := -(-span / unit)

/-- The distance of two instants in milliseconds. -/
def distance (a b : Instant) : Int := (a.millis - b.millis).natAbs

/-- The distance of two instants, which must be given. -/
def differ : Option Instant → Option Instant → Except Fault Int
  | some a, some b => .ok (distance a b)
  | _, _ => .error .bothInstantsRequired

/-- The distance in seconds, rounded up; nothing lies between an instant and a missing one. -/
def differSeconds : Option Instant → Option Instant → Int
  | some a, some b => coveringUnits (distance a b) secondMillis
  | _, _ => 0

/-- The distance in minutes: the seconds rounded up. -/
def differMinutes (a b : Option Instant) : Int := coveringUnits (differSeconds a b) 60

/-- The distance in hours: the minutes rounded up. -/
def differHours (a b : Option Instant) : Int := coveringUnits (differMinutes a b) 60

/-- The distance in words, if both instants are given. -/
def wordsBetween : Option Instant → Option Instant → Except Fault (Option (List Char))
  | some a, some b => do return some (← (Duration.ofMillis (distance a b)).words)
  | _, _ => .ok none

/-- The seconds left of an interval that began at `base`. The time that has passed is counted in
whole seconds, rounding toward zero; nothing is left of an interval that has not begun. -/
def remainingSeconds (base : Option Instant) (interval : Int) (now : Instant) : Int :=
  match base with
  | none => 0
  | some b => interval - Measure.seconds.of (now.millis - b.millis)

end CivilTime
