import CivilTime.Zone.Table

/-!
# Zones

A zone turns instants into wall-clock times and back. Zones of the gazetteer have a name and either
one offset for ever or a table, whose readings are sought. The zone of the host and zones of other
makers have a table as well, of which the earlier reading is taken. The remaining zones have one offset
and no name.

* `Zone`, `Zone.text`: the zones and how they are written; `Zone.hostLocal` is that of the host.
* `Zone.offsetAt`: the offset in force at a universal time.
* `Zone.toOffsetTime`: the wall-clock time at a point of the time line.
* `Zone.localize`: a wall-clock time placed on the time line.
* `Zone.attach`: the same for a stamp, which must not have an offset unless the zone replaces it.
* `zoneOr`: the zone that is used, where it may be left to a default.
-/

namespace CivilTime

open Text

/-- The rules of a zone of the gazetteer. -/
inductive Rules
  | constant (minutes : Int)
  | table (t : Table)
  deriving DecidableEq, Repr

/-- A zone. -/
inductive Zone
  | universal
  /-- A constant offset in minutes. -/
  | fixed (minutes : Int)
  /-- A constant offset in microseconds. -/
  | standard (offset : Int)
  /-- A table of which the earlier reading of a time is taken. -/
  | folding (name : String) (t : Table)
  | named (name : String) (rules : Rules)
  deriving DecidableEq, Repr

namespace Zone

/-- The zone of a host whose clocks keep the given table. -/
def hostLocal (t : Table) : Zone := .folding "tzlocal()" t

/-- The zone with a constant offset in minutes; without an offset it is universal time. -/
def ofMinutes (n : Int) : Zone := if n = 0 then .universal else .fixed n

/-- The zone with a constant offset in microseconds, which is shorter than a day. -/
def ofOffset (n : Int) : Except Fault Zone :=
  if isOffset n then .ok (.standard n) else .error .invalidValue

/-- The text of a zone. -/
def text : Zone → String
  | .universal => "UTC"
  | .fixed n => "pytz.FixedOffset(" ++ String.ofList (ofInt n) ++ ")"
  | .standard n => if n = 0 then "UTC" else "UTC" ++ String.ofList (offsetClock [':'] n)
  | .folding name _ | .named name _ => name

/-- The offset in microseconds at a universal time. -/
def offsetAt : Zone → WallTime → Int
  | .universal, _ => 0
  | .fixed n, _ | .named _ (.constant n), _ => n * minuteMicros
  | .standard n, _ => n
  | .folding _ t, utc | .named _ (.table t), utc => (t.regimeAt utc).micros

/-- The wall-clock time at a point of the time line, in microseconds since 1970. -/
def toOffsetTime (z : Zone) (point : Int) : Except Fault OffsetTime := do
  let utc ← WallTime.ofEpoch point
  let wall ← utc.shift (z.offsetAt utc)
  return ⟨wall, z.offsetAt utc⟩

/-- A wall-clock time with an offset whose universal time must lie in the calendar. -/
def anchored (w : WallTime) (offset : Int) : Except Fault OffsetTime := do
  let _ ← w.shift (-offset)
  return ⟨w, offset⟩

/-- The place of a wall-clock time on the time line. -/
def localize (z : Zone) (w : WallTime) : Except Fault OffsetTime :=
  match z with
  | .standard n => anchored w n
  | .folding _ t => t.settle w
  | .universal => .ok ⟨w, 0⟩
  | .fixed n | .named _ (.constant n) => .ok ⟨w, n * minuteMicros⟩
  | .named _ (.table t) => do return ⟨w, (← t.localize w).micros⟩

/-- The place of a stamp. Zones with a standard offset and those of which the earlier reading is taken
replace an offset that the stamp has; the others refuse it. -/
def attach (z : Zone) (s : Stamp) : Except Fault OffsetTime :=
  match z, s.offset with
  | .folding _ _, _ | .standard _, _ | _, none => z.localize s.wall
  | _, some _ => .error .invalidValue

end Zone

/-- The zone that is used: the given one, or the default zone where none is given. -/
def zoneOr (default : Zone) (given : Option Zone) : Zone := given.getD default

end CivilTime
