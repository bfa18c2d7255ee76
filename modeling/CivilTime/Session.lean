import CivilTime.Instant.Duration
import CivilTime.Instant.Navigation
import CivilTime.Instant.Text
import CivilTime.Instant.Transfer
import CivilTime.Settings.Document

/-!
# Sessions

A session is what the operations of the calendar share: the zone that is used where none is given,
and the journal. It runs on a host, which has a clock, a zone of its own, and directories in which no
file can be opened. Operations fail without leaving a trace in the default zone or the clock.

* `Session`, `Session.zoneOr`, `Session.now`: the shared state.
* `Operation`: the operations. Those that need a zone take one or leave it to the session.
* `Answer`: what an operation yields.
* `Session.setDefaultZone`, `Session.openJournal`, `Session.setUpJournal`, `Session.configure`: the
  operations that change the state.
* `Operation.run`: one operation; `Session.runAll`: one after the other.
-/

namespace CivilTime

open Text

/-- What operations share. -/
structure Session where
  /-- The table of the clocks of the host. -/
  host : Table := .universal
  defaultZone : Zone := .hostLocal host
  /-- Nanoseconds since 1970. -/
  clock : Int := 0
  /-- The directories that cannot be made, or in which no file can be opened. -/
  sealed : List String := []
  journal : Journal := {}
  deriving DecidableEq, Repr

/-- A zone to use where none is given: none for that of the host, an identifier, or a zone. -/
inductive ZoneChoice
  | host
  | identifier (id : String)
  | zone (z : Zone)
  deriving DecidableEq, Repr

/-- An operation of the calendar. -/
inductive Operation
  | measure (m : Measure) (millis : Int)
  | split (millis : Int)
  | columns (millis : Int)
  | words (millis : Int)
  | differ (a b : Option Instant)
  | differSeconds (a b : Option Instant)
  | differMinutes (a b : Option Instant)
  | differHours (a b : Option Instant)
  | wordsBetween (a b : Option Instant)
  | instant (millis : Value)
  | now
  | compare (a b : Option Instant)
  | sort (dates : List (Option Instant))
  | ofStamp (s : Stamp) (tz : Option Zone)
  | dateTime (i : Instant) (tz : Option Zone)
  | wallClock (i : Instant) (tz : Option Zone)
  | localize (s : Stamp) (tz : Option Zone)
  | ofAnchored (s : Stamp)
  | pattern (v : Value)
  | format (pattern : Value) (s : Stamp)
  | readStamp (pattern text : Value)
  | writeInstant (millis pattern : Value) (tz : Option Zone)
  | writeDate (date : Option Instant) (pattern : Value) (tz : Option Zone)
  | dateText (date : Option Instant) (tz : Option Zone)
  | readInstant (text pattern : Value) (tz : Option Zone)
  | textDate (text : Value) (tz : Option Zone)
  | scheduleDate (schedule : Value) (tz : Option Zone)
  | currentText (pattern : Value) (tz : Option Zone)
  | currentTimestamp (tz : Option Zone)
  | currentDate (tz : Option Zone)
  | add (date : Option Instant) (unit : Value) (n : Int) (tz : Option Zone)
  | addUnits (unit : CalendarUnit) (date : Option Instant) (n : Int) (tz : Option Zone)
  | someDay (date : Option Instant) (n : Int) (tz : Option Zone)
  | boundary (date : Option Instant) (b : Boundary) (tz : Option Zone)
  | hourFrom (date : Option Instant) (n : Int) (tz : Option Zone)
  | hourIndex (date : Option Instant) (tz : Option Zone)
  | isAfter (a b : Option Instant)
  | remaining (base : Option Instant) (interval : Int) (now : Option Instant)
  | transfer (date : Option Instant) (target : Option String) (tz : Option Zone)
  | resolve (id : Option String) (instants : Option (List Instant))
  | defaultZone
  | setDefaultZone (choice : ZoneChoice)
  | settings (entries : List (String × Value))
  | document (text : Option String)
  | configure (entries : List (String × Value))
  | setUpJournal (level : String) (toFile : Bool) (serialize : Bool := false)
    (directory : String := "logs")
  | closeJournal
  | record (level module message : String)
  | setClock (nanos : Int)
  | seal (directories : List String)
  deriving Repr

/-- How two instants compare. -/
structure Comparison where
  before : Bool
  same : Bool
  after : Bool
  deriving DecidableEq, Repr

/-- What an operation yields. -/
inductive Answer
  | nothing
  | flag (b : Bool)
  | number (n : Int)
  | text (s : String)
  | duration (d : Duration)
  | comparison (c : Comparison)
  | instants (l : List Instant)
  | time (t : OffsetTime)
  | wall (w : WallTime)
  | stamp (s : Stamp)
  | pattern (p : Pattern)
  | zone (z : Zone) (offsets : Option (List Int))
  | settings (s : Settings)
  | sinks (ids : List Nat)
  | configured (z : Zone) (ids : List Nat)
  deriving DecidableEq, Repr

namespace Answer

/-- An instant as an answer. -/
def ofInstant (i : Instant) : Answer := .number i.millis

/-- An instant that may be missing. -/
def ofInstant? : Option Instant → Answer
  | some i => ofInstant i
  | none => .nothing

/-- A text as an answer. -/
def ofChars (s : List Char) : Answer := .text (String.ofList s)

end Answer

/-- The comparison of two instants, which must be given. -/
def compareDates : Option Instant → Option Instant → Except Fault Comparison
  | some a, some b => .ok ⟨a.millis < b.millis, a.millis = b.millis, b.millis < a.millis⟩
  | _, _ => .error .wrongType

/-- Instants in their order; all must be given. -/
def sortDates (dates : List (Option Instant)) : Except Fault (List Instant) :=
  match dates.mapM id with
  | some l => .ok (l.mergeSort fun a b => a.millis ≤ b.millis)
  | none => .error .wrongType

/-- The zone of an identifier that may be missing, with its offsets at some instants. -/
def resolveWithOffsets (id : Option String) (instants : Option (List Instant)) :
    Except Fault Answer := do
  match ← Zone.resolve (id.getD "") with
  | none => return .nothing
  | some z =>
    match instants with
    | none => return .zone z none
    | some l => return .zone z (some (← l.mapM fun i => do return (← i.toOffsetTime z).offset))

/-- The zone of a choice on a host. -/
def ZoneChoice.resolve (host : Table) : ZoneChoice → Except Fault Zone
  | .host => .ok (.hostLocal host)
  | .identifier id => do return (← Zone.resolve id).getD (.hostLocal host)
  | .zone z => .ok z

namespace Session

/-- The given zone, or that of the session. -/
def zoneOr (s : Session) (tz : Option Zone) : Zone := CivilTime.zoneOr s.defaultZone tz

/-- The present instant. -/
def now (s : Session) : Instant := ⟨s.clock / 1_000_000⟩

/-- Leaves a record. -/
def emit (s : Session) (r : Record) : Session := { s with journal := s.journal.emit r }

/-- Leaves records. -/
def emitAll (s : Session) (rs : List Record) : Session :=
  { s with journal := s.journal.emitAll rs }

/-- The record of a change of the default zone. -/
def zoneRecord (z : Zone) : Record :=
  ⟨.debug, "schedtime.utils.time_utils", "set_default_timezone",
    "Default timezone set to " ++ z.text, none⟩

/-- Sets the default zone. -/
def setDefaultZone (s : Session) (c : ZoneChoice) : Except Fault Zone × Session :=
  match c.resolve s.host with
  | .error f => (.error f, s)
  | .ok z => (.ok z, { s with defaultZone := z }.emit (zoneRecord z))

/-- Installs a console and perhaps a file in a directory, which may be written for machines. The console
is there even if the file cannot be opened. -/
def openJournal (s : Session) (level : Level) (toFile serialize : Bool) (directory : String) :
    Except Fault (List Nat) × Session :=
  if toFile ∧ directory ∈ s.sealed then
    (.error (.noLogFile directory), { s with journal := (s.journal.setUp level false).2 })
  else
    let (ids, journal) := s.journal.setUp level toFile serialize
    (.ok ids, { s with journal := journal })

/-- The same with the threshold of a level that is named. The sinks that were there are removed even if
there is no such level. -/
def setUpJournal (s : Session) (level : String) (toFile : Bool) (serialize : Bool := false)
    (directory : String := "logs") : Except Fault (List Nat) × Session :=
  match Level.ofName? level with
  | none => (.error .invalidValue, { s with journal := s.journal.removeAll })
  | some l => s.openJournal l toFile serialize directory

/-- The record of settings that have been put into effect. -/
def configuredRecord (z : Zone) : Record :=
  ⟨.info, "schedtime.config", "configure", "Calendar default timezone: " ++ z.text, none⟩

/-- Puts settings into effect: first the journal, then the default zone. -/
def configure (s : Session) (settings : Settings) : Except Fault (Zone × List Nat) × Session :=
  match s.openJournal settings.level settings.toFile false settings.directory with
  | (.error f, s) => (.error f, s)
  | (.ok ids, s) =>
    let choice := match settings.zone with
      | some id => ZoneChoice.identifier id
      | none => ZoneChoice.host
    match s.setDefaultZone choice with
    | (.error f, s) => (.error f, s)
    | (.ok z, s) => (.ok (z, ids), s.emit (configuredRecord z))

/-- An answer that leaves the session as it is. -/
def answer {α : Type} (s : Session) (toAnswer : α → Answer) (r : Except Fault α) :
    Except Fault Answer × Session :=
  (r.map toAnswer, s)

/-- An answer that leaves records. -/
def answerWith {α : Type} (s : Session) (toAnswer : α → Answer)
    (r : Except Fault (α × List Record)) :
    Except Fault Answer × Session :=
  match r with
  | .ok (a, rs) => (.ok (toAnswer a), s.emitAll rs)
  | .error f => (.error f, s)

end Session

namespace Operation

open Answer (ofInstant ofInstant? ofChars)

/-- Runs an operation. -/
def run (op : Operation) (s : Session) : Except Fault Answer × Session :=
  match op with
  | .measure m n => s.answer .number (.ok (m.of n))
  | .split n => s.answer .duration (.ok (Duration.ofMillis n))
  | .columns n => s.answer ofChars (Duration.ofMillis n).columns
  | .words n => s.answer ofChars (Duration.ofMillis n).words
  | .differ a b => s.answer .number (CivilTime.differ a b)
  | .differSeconds a b => s.answer .number (.ok (CivilTime.differSeconds a b))
  | .differMinutes a b => s.answer .number (.ok (CivilTime.differMinutes a b))
  | .differHours a b => s.answer .number (.ok (CivilTime.differHours a b))
  | .wordsBetween a b =>
    s.answer (fun w => (w.map ofChars).getD .nothing) (CivilTime.wordsBetween a b)
  | .instant v => s.answer ofInstant (Instant.ofValue v)
  | .now => s.answer ofInstant (.ok s.now)
  | .compare a b => s.answer .comparison (compareDates a b)
  | .sort dates => s.answer .instants (sortDates dates)
  | .ofStamp t tz => s.answer ofInstant (Instant.ofStamp t s.defaultZone tz)
  | .dateTime i tz => s.answer .time (i.toOffsetTime s.defaultZone tz)
  | .wallClock i tz => s.answer .wall (i.wallClock s.defaultZone tz)
  | .localize t tz => s.answer .time ((s.zoneOr tz).attach t)
  | .ofAnchored t => s.answer ofInstant (Instant.ofAnchored t)
  | .pattern v => s.answer .pattern (Pattern.ofValue v)
  | .format v t => s.answer (fun p => ofChars (p.format t)) (Pattern.ofValue v)
  | .readStamp v text => s.answer .stamp (Stamp.ofText text v)
  | .writeInstant v p tz => s.answer ofChars (CivilTime.writeInstant v p s.defaultZone tz)
  | .writeDate d p tz => s.answer ofChars (CivilTime.writeDate d p s.defaultZone tz)
  | .dateText d tz => s.answer ofChars (CivilTime.dateText d s.defaultZone tz)
  | .readInstant text p tz =>
    s.answerWith ofInstant? (.ok (CivilTime.readInstant text p s.defaultZone tz))
  | .textDate text tz => s.answerWith ofInstant? (.ok (CivilTime.textDate text s.defaultZone tz))
  | .scheduleDate text tz =>
    s.answerWith ofInstant? (.ok (CivilTime.scheduleDate text s.defaultZone tz))
  | .currentText p tz => s.answer ofChars (CivilTime.currentText s.now p s.defaultZone tz)
  | .currentTimestamp tz => s.answer ofChars (CivilTime.currentTimestamp s.now s.defaultZone tz)
  | .currentDate tz => s.answerWith ofInstant? (CivilTime.currentDate s.now s.defaultZone tz)
  | .add d u n tz => s.answer ofInstant (addToDate d u n s.defaultZone tz)
  | .addUnits u d n tz => s.answer ofInstant (addUnitsToDate u d n s.defaultZone tz)
  | .someDay d n tz => s.answer ofInstant (CivilTime.someDay d n s.defaultZone tz)
  | .boundary d b tz =>
    s.answer ofInstant (do (← requireDate d).boundary s.defaultZone b tz)
  | .hourFrom d n tz => s.answer ofInstant (do (← requireDate d).hourFrom s.defaultZone n tz)
  | .hourIndex d tz =>
    s.answer (fun (n : Nat) => .number n) (do (← requireDate d).hourIndex s.defaultZone tz)
  | .isAfter a b => s.answer .flag (Instant.isAfter a b)
  | .remaining base n present =>
    s.answer .number (.ok (remainingSeconds base n (present.getD s.now)))
  | .transfer d target tz => s.answerWith ofInstant? (transferDate d target s.defaultZone tz)
  | .resolve id instants => s.answer (fun a => a) (resolveWithOffsets id instants)
  | .defaultZone => s.answer (fun z => .zone z none) (.ok s.defaultZone)
  | .setDefaultZone c =>
    let (r, s) := s.setDefaultZone c
    s.answer (fun z => .zone z none) r
  | .settings entries =>
    s.answer .settings ((Settings.ofEntries entries).mapError .settings)
  | .document text => s.answer .settings (Settings.ofDocument? text)
  | .configure entries =>
    match Settings.ofEntries entries with
    | .error rs => (.error (.settings rs), s)
    | .ok chosen =>
      let (r, s) := s.configure chosen
      s.answer (fun p => .configured p.1 p.2) r
  | .setUpJournal level toFile serialize directory =>
    let (r, s) := s.setUpJournal level toFile serialize directory
    s.answer .sinks r
  | .closeJournal => (.ok .nothing, { s with journal := s.journal.removeAll })
  | .record level module message =>
    match Level.ofName? level with
    | some l => (.ok .nothing, s.emit ⟨l, module, "emit", message, none⟩)
    | none => (.error .invalidValue, s)
  | .setClock n => (.ok .nothing, { s with clock := n })
  | .seal directories => (.ok .nothing, { s with sealed := directories })

end Operation

/-- Runs operations one after the other. -/
def Session.runAll : List Operation → Session → List (Except Fault Answer) × Session
  | [], s => ([], s)
  | op :: ops, s =>
    let (r, s) := op.run s
    let (rs, s) := Session.runAll ops s
    (r :: rs, s)

end CivilTime
