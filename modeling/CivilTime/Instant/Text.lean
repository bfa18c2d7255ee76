import CivilTime.Instant.Basic
import CivilTime.Journal
import CivilTime.Pattern.Reading

/-!
# Instants in writing

Writing an instant fails on a bad pattern. Reading one never fails: a text that is no date, or a bad
pattern, gives no instant and leaves a record.

* `defaultPattern`, `timestampPattern`: the patterns that need not be given.
* `writeInstant`, `writeDate`, `dateText`: the text of an instant in a zone.
* `Stamp.ofText`: the stamp of a text along a pattern.
* `readInstant`: the instant of a text in a zone, with the records that are left; `textDate` and
  `scheduleDate` read along the default pattern.
* `currentText`, `currentTimestamp`, `currentDate`: the present instant in writing, and the present
  second.
-/

namespace CivilTime

open Text

/-- The pattern of dates and times of day. -/
def defaultPattern : Value := .text "yyyy-MM-dd HH:mm:ss"

/-- The pattern of timestamps. -/
def timestampPattern : Value := .text "yyyyMMddHHmmssSSS"

/-- A time with its offset as a stamp. -/
def OffsetTime.stamp (t : OffsetTime) : Stamp := ⟨t.wall, some t.offset⟩

/-- The text of an instant. -/
def Instant.write (i : Instant) (p : Pattern) (default : Zone) (given : Option Zone := none) :
    Except Fault (List Char) := do
  return p.format (← i.toOffsetTime default given).stamp

/-- The text of an instant that a value names; the pattern is looked at first. -/
def writeInstant (millis pattern : Value) (default : Zone) (given : Option Zone := none) :
    Except Fault (List Char) := do
  let p ← Pattern.ofValue pattern
  (← Instant.ofValue millis).write p default given

/-- The text of a date, which must be given. -/
def writeDate (date : Option Instant) (pattern : Value) (default : Zone)
    (given : Option Zone := none) : Except Fault (List Char) :=
  match date with
  | none => .error .writtenDateRequired
  | some i => writeInstant (.integer i.millis) pattern default given

/-- The text of a date along the default pattern. -/
def dateText (date : Option Instant) (default : Zone) (given : Option Zone := none) :
    Except Fault (List Char) :=
  writeDate date defaultPattern default given

/-- The stamp of a text along a pattern. -/
def Stamp.ofText (text pattern : Value) : Except Fault Stamp := do
  (← Pattern.ofValue pattern).readValue text

/-- The instant of a text in a zone, or why there is none. -/
def Instant.ofText (text pattern : Value) (default : Zone) (given : Option Zone := none) :
    Except Fault Instant := do
  Instant.ofStamp (← Stamp.ofText text pattern) default given

/-- The record of a text that could not be read. -/
def unreadRecord (text pattern : Value) (f : Fault) : Record :=
  ⟨.error, "schedtime.formatting.formatter", "parse",
    "Error while parsing date " ++ String.ofList text.shown ++ " with pattern "
      ++ String.ofList pattern.shown ++ ": ", some f⟩

/-- The instant of a text, with the records that are left. -/
def readInstant (text pattern : Value) (default : Zone) (given : Option Zone := none) :
    Option Instant × List Record :=
  match Instant.ofText text pattern default given with
  | .ok i => (some i, [])
  | .error f => (none, [unreadRecord text pattern f])

/-- The instant of a text that follows the default pattern. -/
def textDate (text : Value) (default : Zone) (given : Option Zone := none) :
    Option Instant × List Record :=
  readInstant text defaultPattern default given

/-- The instant of a schedule. -/
def scheduleDate (schedule : Value) (default : Zone) (given : Option Zone := none) :
    Option Instant × List Record :=
  textDate schedule default given

/-- The present instant in writing. -/
def currentText (now : Instant) (pattern : Value) (default : Zone) (given : Option Zone := none) :
    Except Fault (List Char) :=
  writeInstant (.integer now.millis) pattern default given

/-- The present instant as a timestamp. -/
def currentTimestamp (now : Instant) (default : Zone) (given : Option Zone := none) :
    Except Fault (List Char) :=
  currentText now timestampPattern default given

/-- The present instant cut to the second, by way of its text. -/
def currentDate (now : Instant) (default : Zone) (given : Option Zone := none) :
    Except Fault (Option Instant × List Record) := do
  let text ← currentText now defaultPattern default given
  return readInstant (.text (String.ofList text)) defaultPattern default given

end CivilTime
