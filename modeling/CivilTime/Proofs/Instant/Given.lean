import CivilTime.Instant.Navigation
import CivilTime.Instant.Text
import CivilTime.Instant.Transfer

/-!
# Zones that are given

A function that takes a zone, which it need not be given, hands on to others what it is given, or nothing.
All of them in the end work in the zone that is given and ask for the default one only if there is none.
So each of them does what is done in one zone, and that is said here without any zone to choose from.

* `zoneOr_none`, `zoneOr_some`: the zone in use.
* `Zone.reading`, `Zone.wallReading`, `Zone.instantOf`: an instant and a stamp in one zone.
* `Zone.moved`, `Zone.added`, `Zone.written`, `Zone.read`, `Zone.transferred`: what is made of them.
* `Instant.toOffsetTime_inZone` and the lemmas after it, one for each function: the function does that in
  the zone in use.
* `Instant.onWall_eq`, `Instant.hourIndex_eq`, `Instant.transfer_eq`: functions made of others, in a
  default zone.
-/

namespace CivilTime

/-! ### Work in one zone -/

namespace Zone

variable (z : Zone)

/-- What an instant reads, with its offset. -/
def reading (i : Instant) : Except Fault OffsetTime := z.toOffsetTime (i.millis * 1000)

/-- What an instant reads. -/
def wallReading (i : Instant) : Except Fault WallTime := do return (← z.reading i).wall

/-- The instant of a stamp. The zone places it if it has no offset. -/
def instantOf (s : Stamp) : Except Fault Instant :=
  match s.offset with
  | some offset => .ok (OffsetTime.mk s.wall offset).instant
  | none => do return (← z.localize s.wall).instant

/-- The instant of a reading that has been moved. -/
def moved (i : Instant) (move : WallTime → Except Fault WallTime) : Except Fault Instant := do
  z.instantOf ⟨← move (← z.wallReading i), none⟩

/-- The instant some units away. The units that elapse have no use for the zone. -/
def added (i : Instant) (unit : CalendarUnit) (n : Int) : Except Fault Instant :=
  match unit with
  | .year => z.moved i (·.addYears n)
  | .month => z.moved i (·.addMonths n)
  | .week => z.moved i (·.addDays (7 * n))
  | .day => z.moved i (·.addDays n)
  | .hour => .ok (i.later (n * 3_600_000))
  | .minute => .ok (i.later (n * 60_000))
  | .second => .ok (i.later (n * 1000))
  | .millisecond => .ok (i.later n)

/-- The text of an instant along a pattern, both of them named by values. -/
def written (millis pattern : Value) : Except Fault (List Char) := do
  let p ← Pattern.ofValue pattern
  return p.format (← z.reading (← Instant.ofValue millis)).stamp

/-- The text of a date along a pattern. -/
def writtenDate (date : Option Instant) (pattern : Value) : Except Fault (List Char) :=
  match date with
  | none => .error .writtenDateRequired
  | some i => z.written (.integer i.millis) pattern

/-- The instant of a text, with the records that are left. -/
def read (text pattern : Value) : Option Instant × List Record :=
  match Stamp.ofText text pattern >>= z.instantOf with
  | .ok i => (some i, [])
  | .error f => (none, [unreadRecord text pattern f])

/-- The present second by way of its text, with the records that are left. -/
def presentRead (now : Instant) : Except Fault (Option Instant × List Record) := do
  let text ← z.written (.integer now.millis) defaultPattern
  return z.read (.text (String.ofList text)) defaultPattern

/-- The date with the same reading in the zone of an identifier, with its record. -/
def transferred (date : Option Instant) (target : Option String) :
    Except Fault (Option Instant × List Record) :=
  match target with
  | none => .ok (date, [])
  | some id => do
    match ← Zone.resolve id with
    | none => return (date, [])
    | some there =>
      let i ← requireDate date
      let w := (← z.wallReading i).wholeSecond
      let moved ← there.instantOf ⟨w, none⟩
      return (some moved, [transferRecord w there i moved])

end Zone

/-! ### The zone in use -/

variable (d z : Zone) (given : Option Zone)

@[simp]
theorem zoneOr_none : zoneOr d none = d := rfl

@[simp]
theorem zoneOr_some : zoneOr d (some z) = z := rfl

namespace Instant

variable (i : Instant)

theorem toOffsetTime_inZone : i.toOffsetTime d given = (zoneOr d given).reading i := rfl

theorem wallClock_inZone : i.wallClock d given = (zoneOr d given).wallReading i := by
  rw [wallClock, toOffsetTime_inZone]
  rfl

theorem ofStamp_inZone (s : Stamp) : ofStamp s d given = (zoneOr d given).instantOf s := rfl

/-! ### Navigation -/

theorem onWall_inZone (move : WallTime → Except Fault WallTime) :
    i.onWall d move given = (zoneOr d given).moved i move := by
  simp only [onWall, wallClock_inZone, ofStamp_inZone, zoneOr_some]
  rfl

/-- In a default zone a reading is moved and understood again. -/
theorem onWall_eq (move : WallTime → Except Fault WallTime) :
    i.onWall z move = (do ofWall (← move (← i.wallClock z)) z) := rfl

theorem add_inZone (unit : CalendarUnit) (n : Int) :
    i.add d unit n given = (zoneOr d given).added i unit n := by
  cases unit with
  | year | month | week | day => exact i.onWall_inZone d given _
  | hour | minute | second | millisecond => rfl

theorem hourIndex_eq : i.hourIndex z = (do return (← i.wallClock z).hour) := rfl

theorem hourIndex_inZone :
    i.hourIndex d given = (do return (← (zoneOr d given).wallReading i).hour) := by
  rw [hourIndex, wallClock_inZone, zoneOr_some]

end Instant

theorem CalendarUnit.ofValue_name (u : CalendarUnit) : ofValue (.text u.name) = .ok u := by
  simp only [ofValue, ofName?_name]

section Dates

variable (date : Option Instant) (n : Int)

theorem addToDate_inZone (unit : Value) :
    addToDate date unit n d given = (do
      let i ← requireDate date
      (zoneOr d given).added i (← CalendarUnit.ofValue unit) n) := by
  simp only [addToDate, Instant.add_inZone d given]

/-- The unit that is named is the one that is added. -/
theorem addUnitsToDate_inZone (unit : CalendarUnit) :
    addUnitsToDate unit date n d given = (do (zoneOr d given).added (← requireDate date) unit n) := by
  rw [addUnitsToDate, addToDate_inZone]
  simp only [CalendarUnit.ofValue_name]
  rfl

theorem someDay_inZone :
    someDay date n d given = (do (zoneOr d given).added (← requireDate date) .day n) :=
  addUnitsToDate_inZone d given date n .day

end Dates

/-! ### Texts -/

section Texts

variable (now : Instant) (date : Option Instant) (millis pattern text : Value)

theorem writeInstant_inZone :
    writeInstant millis pattern d given = (zoneOr d given).written millis pattern := by
  simp only [writeInstant, Instant.write, Instant.toOffsetTime_inZone]
  rfl

theorem writeDate_inZone :
    writeDate date pattern d given = (zoneOr d given).writtenDate date pattern := by
  cases date with
  | none => rfl
  | some i => exact writeInstant_inZone d given (.integer i.millis) pattern

theorem readInstant_inZone :
    readInstant text pattern d given = (zoneOr d given).read text pattern := by
  simp only [readInstant, Instant.ofText, Instant.ofStamp_inZone]
  rfl

/-- The text that is read again was written in the same zone. -/
theorem currentDate_inZone : currentDate now d given = (zoneOr d given).presentRead now := by
  simp only [currentDate, currentText, writeInstant_inZone, readInstant_inZone]
  rfl

end Texts

/-! ### Moving a reading -/

/-- A reading is understood in the target zone, whatever zone it was read in. -/
theorem Instant.transfer_eq (i : Instant) (target : Zone) :
    i.transfer z target = (do
      let w := (← i.wallClock z).wholeSecond
      return (w, ← ofWall w target)) := rfl

theorem Instant.transfer_inZone (i : Instant) (there : Zone) :
    i.transfer d there given = (do
      let w := (← (zoneOr d given).wallReading i).wholeSecond
      return (w, ← there.instantOf ⟨w, none⟩)) := by
  simp only [transfer, wallClock_inZone, ofStamp_inZone, zoneOr_some]

theorem transferDate_inZone (date : Option Instant) (target : Option String) :
    transferDate date target d given = (zoneOr d given).transferred date target := by
  cases target with
  | none => rfl
  | some id =>
    rw [transferDate, Zone.transferred]
    refine congrArg (Zone.resolve id >>= ·) (funext fun found => ?_)
    cases found with
    | none => rfl
    | some there =>
      cases date with
      | none => rfl
      | some i =>
        simp only [Instant.transfer_inZone, bind_assoc, pure_bind]
        rfl

end CivilTime
