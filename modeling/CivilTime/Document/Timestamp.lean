import CivilTime.Document.Cursor
import CivilTime.Text.Digit
import CivilTime.Text.Numeral
import CivilTime.Value

/-!
# Timestamps in a document

A timestamp is a date, or a date with a time of day, and the time may have an offset from universal
time. Months, days and hours have one or two digits.

* `Timestamp`: the parts of a timestamp.
* `Timestamp.ofText?`: the timestamp of a text.
* `Timestamp.value`: the date or the time that it names; times are in universal time.
-/

namespace CivilTime.Document

open Text

/-- A time of day, with the digits after the point of its seconds, and its offset: whether it is
negative, and its minutes. -/
structure DayTime where
  hour : Nat
  minute : Nat
  second : Nat
  places : List Nat
  offset : Option (Bool × Nat)
  deriving DecidableEq, Repr

/-- A date that may have a time of day. -/
structure Timestamp where
  date : Date
  time : Option DayTime
  deriving DecidableEq, Repr

namespace Timestamp

/-- A number of so many digits, and what follows. -/
def digitRun? (least most : Nat) (s : List Char) : Option (Nat × List Char) :=
  let run := (s.take most).takeWhile fun c => (asciiDigit? c).isSome
  if run.length < least then none
  else some (number (run.filterMap asciiDigit?), s.drop run.length)

/-- What follows a character. -/
def after? (c : Char) : List Char → Option (List Char)
  | d :: r => if d = c then some r else none
  | [] => none

/-- The offset at the end of a timestamp; universal time itself has none. -/
def offset? (s : List Char) : Option (Option (Bool × Nat)) :=
  match s.dropWhile isGap with
  | [] => if s.isEmpty then some none else none
  | ['Z'] => some none
  | c :: r => do
    if c ≠ '+' ∧ c ≠ '-' then none
    let (hours, r) ← digitRun? 1 2 r
    let minutes ← if r.isEmpty then some 0 else do
      let (minutes, r) ← digitRun? 2 2 (← after? ':' r)
      if r.isEmpty then some minutes else none
    some (some (c = '-', 60 * hours + minutes))

/-- The time of day after a date. -/
def time? (s : List Char) : Option DayTime := do
  let r ← match s with
    | 'T' :: r | 't' :: r => some r
    | c :: r => if isGap c then some (r.dropWhile isGap) else none
    | [] => none
  let (hour, r) ← digitRun? 1 2 r
  let (minute, r) ← digitRun? 2 2 (← after? ':' r)
  let (second, r) ← digitRun? 2 2 (← after? ':' r)
  let (places, r) := match r with
    | '.' :: r =>
      let run := r.takeWhile fun c => (asciiDigit? c).isSome
      (run.filterMap asciiDigit?, r.drop run.length)
    | r => ([], r)
  return ⟨hour, minute, second, places, ← offset? r⟩

/-- The timestamp of a text. -/
def ofText? (s : List Char) : Option Timestamp := do
  let (year, r) ← digitRun? 4 4 s
  let (month, r) ← digitRun? 1 2 (← after? '-' r)
  let (day, r) ← digitRun? 1 2 (← after? '-' r)
  let time ← if r.isEmpty then some none else (time? r).map some
  return ⟨⟨year, month, day⟩, time⟩

/-- The microseconds of the digits after a point, rounded to the nearest; a half is rounded up. -/
def micros (places : List Nat) : Nat :=
  number ((places ++ List.replicate 6 0).take 6) + if 5 ≤ (places[6]?).getD 0 then 1 else 0

/-- The microseconds from the time on the wall to universal time. Where rounding fills a second,
the second counts with the offset. -/
def correction (t : DayTime) : Int :=
  let full := if micros t.places = secondMicros then secondMicros else 0
  match t.offset with
  | some (negative, minutes) =>
    let n : Int := minutes * minuteMicros + full
    if negative then n else -n
  | none => full

/-- The date or the time of a timestamp. They must exist, and so must the time at its offset. -/
def value (t : Timestamp) : Except Fault Value :=
  match t.time with
  | none =>
    if t.date.Valid then .ok (.date t.date) else .error .invalidValue
  | some time => do
    let micro := micros time.places % secondMicros
    let w ← Fields.toWallTime ⟨t.date, time.hour, time.minute, time.second, micro⟩
    return .dateTime (← w.shift (correction time))

end Timestamp

end CivilTime.Document
