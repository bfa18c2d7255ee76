import CivilTime.Pattern.Reader
import CivilTime.Text.Capital
import CivilTime.Text.Numeral

/-!
# The stamp that a text denotes

The captures of a text are put together to a date and time. What no field tells takes its earliest
value, in the year 1900. Of two fields that tell the same thing the later one counts; a day of the
year overrides month and day. A weekday is not looked at.

The pattern must write the stamp back as the text, so that every field is read at its own width and
a weekday agrees with the date.

* `Found`, `Found.add`, `Found.ofCaptures`: what the captures tell.
* `Found.date`, `Found.stamp`: the date and the stamp they denote.
* `Pattern.read`: the stamp of a text.
-/

namespace CivilTime

open Text

/-- The hour as it was written. -/
inductive HourFound
  | ofDay (n : Nat)
  | ofHalf (n : Nat)
  deriving DecidableEq, Repr

/-- What the fields of a text tell. -/
structure Found where
  year : Option Nat := none
  month : Option Nat := none
  day : Option Nat := none
  yearDay : Option Nat := none
  hour : HourFound := .ofDay 0
  afternoon : Bool := false
  minute : Nat := 0
  second : Nat := 0
  micro : Nat := 0
  offset : Option Int := none
  deriving DecidableEq, Repr

/-- The number that the digits of a text denote. -/
def numeral (s : List Char) : Nat := number (s.filterMap digitValue?)

/-- The microseconds of a fraction of a second. -/
def fractionMicros (s : List Char) : Nat := numeral s * Nat.pow 10 (6 - s.length)

/-- The full year of two digits. -/
def centuryYear (n : Nat) : Nat := if n ≤ 68 then 2000 + n else 1900 + n

/-- The place of a name among names, from 1. -/
def nameIndex? (names : List (List Char)) (s : List Char) : Option Nat :=
  (names.findIdx? fun n => small n = small s).map (· + 1)

/-- The microseconds of hours, minutes and the text after them. The text holds seconds with or
without a fraction; a colon stands before the seconds exactly if one stands after the hours. -/
def offsetMicros? (hours minutes : Nat) (colon : Bool) : List Char → Option Nat
  | [] => some (hours * hourMicros + minutes * minuteMicros)
  | s =>
    match colon, s with
    | true, ':' :: a :: b :: r | false, a :: b :: r =>
      if a = ':' then none
      else
        some (hours * hourMicros + minutes * minuteMicros + numeral [a, b] * secondMicros
          + fractionMicros (r.drop 1))
    | _, _ => none

/-- The offset that a text denotes. -/
def offsetFound? : List Char → Option Int
  | ['Z'] => some 0
  | sign :: g :: h :: ':' :: m :: n :: r => signed sign (offsetMicros? (numeral [g, h])
      (numeral [m, n]) true r)
  | sign :: g :: h :: m :: n :: r => signed sign (offsetMicros? (numeral [g, h])
      (numeral [m, n]) false r)
  | _ => none
where
  /-- A magnitude with its sign. -/
  signed (sign : Char) (n : Option Nat) : Option Int :=
    n.map fun n => if sign = '-' then -(n : Int) else (n : Int)

namespace Found

/-- What is told by one more capture. -/
def add (f : Found) (c : Capture) : Option Found :=
  match c.directive with
  | .fullYear => some { f with year := some (numeral c.text) }
  | .shortYear => some { f with year := some (centuryYear (numeral c.text)) }
  | .month => some { f with month := some (numeral c.text) }
  | .shortMonthName =>
    (nameIndex? (monthNames.map fun m => shortName m.toList) c.text).map fun n =>
      { f with month := some n }
  | .monthName =>
    (nameIndex? (monthNames.map String.toList) c.text).map fun n => { f with month := some n }
  | .day => some { f with day := some (numeral c.text) }
  | .yearDay => some { f with yearDay := some (numeral c.text) }
  | .shortWeekdayName =>
    (nameIndex? (weekdayNames.map fun d => shortName d.toList) c.text).map fun _ => f
  | .weekdayName => (nameIndex? (weekdayNames.map String.toList) c.text).map fun _ => f
  | .hour => some { f with hour := .ofDay (numeral c.text) }
  | .halfHour => some { f with hour := .ofHalf (numeral c.text) }
  | .half => some { f with afternoon := small c.text = ['p', 'm'] }
  | .minute => some { f with minute := numeral c.text }
  | .second => some { f with second := numeral c.text }
  | .fraction => some { f with micro := fractionMicros c.text }
  | .offset => (offsetFound? c.text).map fun n => { f with offset := some n }

/-- What a list of captures tells. -/
def ofCaptures (cs : List Capture) : Option Found := cs.foldlM add {}

/-- The hour of the day. -/
def hourOfDay (f : Found) : Nat :=
  match f.hour with
  | .ofDay n => n
  | .ofHalf n => n % 12 + if f.afternoon then 12 else 0

/-- Whether the text names 29 February without a year. -/
def leapDayOnly (f : Found) : Bool := f.year.isNone && f.month == some 2 && f.day == some 29

/-- The date that is told. 29 February without a year is first understood in a leap year. -/
def date (f : Found) : Except Fault Date := do
  let year := if f.leapDayOnly then 1904 else f.year.getD 1900
  let d ← match f.yearDay with
    | none => pure (Date.mk year (f.month.getD 1) (f.day.getD 1))
    | some n =>
      if year < 1 ∨ Date.span < daysBeforeYear year + n then throw .invalidValue
      pure (Date.ofDayNumber (daysBeforeYear year + n - 1))
  if ¬ d.Valid then throw .invalidValue
  return if f.leapDayOnly then { d with year := 1900 } else d

/-- The stamp that is told. -/
def stamp (f : Found) : Except Fault Stamp := do
  let d ← f.date
  Stamp.ofFields ⟨d, f.hourOfDay, f.minute, f.second, f.micro⟩ f.offset

end Found

/-- A stamp in the century from 2000 on. -/
def Stamp.inCentury (s : Stamp) : Except Fault Stamp := do
  let f := s.wall.fields
  let w ← Fields.toWallTime { f with year := 2000 + f.year % 100 }
  return { s with wall := w }

namespace Pattern

/-- Whether the pattern has a year of two digits. -/
def hasShortYear (p : Pattern) : Bool := p.tokens.any (· == .field .year 2)

/-- The stamp of a text before it is compared with its written form. -/
def denotation (p : Pattern) (text : List Char) : Except Fault Stamp := do
  if ¬ p.directives.Nodup then throw .repeatedField
  match readItems p.items text with
  | some (captures, []) =>
    match Found.ofCaptures captures with
    | some f => if p.hasShortYear then (← f.stamp).inCentury else f.stamp
    | none => throw .invalidValue
  | _ => throw .invalidValue

/-- The stamp of a text. -/
def read (p : Pattern) (text : List Char) : Except Fault Stamp := do
  let s ← p.denotation text
  if p.format s = text then return s else throw (.mismatch text p.source)

/-- The stamp of a value, which must be a text. -/
def readValue (p : Pattern) (v : Value) : Except Fault Stamp :=
  match v with
  | .text s => p.read s.toList
  | _ => .error .wrongType

end Pattern

end CivilTime
