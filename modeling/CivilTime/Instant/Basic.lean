import CivilTime.Value
import CivilTime.Zone.Basic

/-!
# Instants

An instant is a point of the time line to the millisecond. It has no zone; a zone gives its
wall-clock time, and a stamp with an offset or a zone gives an instant, cut to the millisecond.

* `Instant`: milliseconds since the start of 1970, without bounds.
* `Instant.ofValue`: the instant that a value of no fixed type names.
* `Instant.toOffsetTime`, `Instant.wallClock`: the instant in a zone. Here as in all that follows a zone
  may be given; where none is, the default zone is used.
* `OffsetTime.instant`: the instant of a time with its offset; `instant_eq_iff` says that it is the
  last millisecond that is not later.
* `Instant.ofStamp`: the instant of a stamp.
* `Instant.ofAnchored`: the instant of a stamp that must have its offset.
-/

namespace CivilTime

/-- A point of the time line: milliseconds since 1970. -/
structure Instant where
  millis : Int
  deriving DecidableEq, Repr

/-- The instant of a time with its offset. -/
def OffsetTime.instant (t : OffsetTime) : Instant := ⟨t.sinceEpoch / 1000⟩

/-- The instant of a time is the last millisecond that is not later than it. -/
theorem OffsetTime.instant_eq_iff {t : OffsetTime} {i : Instant} :
    t.instant = i ↔ i.millis * 1000 ≤ t.sinceEpoch ∧ t.sinceEpoch < (i.millis + 1) * 1000 := by
  obtain ⟨n⟩ := i
  simp only [OffsetTime.instant, Instant.mk.injEq]
  omega

namespace Instant

/-- The instant that a value names; only an integer names one. -/
def ofValue : Value → Except Fault Instant
  | .integer n => .ok ⟨n⟩
  | v => .error (.notInteger v.typeName)

/-- The instant that a value names, or none if the value is missing. -/
def ofValue? : Value → Except Fault (Option Instant)
  | .null => .ok none
  | v => (ofValue v).map some

/-- The wall-clock time of an instant in a zone, with its offset. -/
def toOffsetTime (i : Instant) (default : Zone) (given : Option Zone := none) :
    Except Fault OffsetTime :=
  (zoneOr default given).toOffsetTime (i.millis * 1000)

/-- The wall-clock time of an instant in a zone. -/
def wallClock (i : Instant) (default : Zone) (given : Option Zone := none) :
    Except Fault WallTime := do
  return (← i.toOffsetTime default given).wall

/-- The instant that a wall-clock time is understood as in a zone. -/
def ofWall (w : WallTime) (z : Zone) : Except Fault Instant := do
  return (← z.localize w).instant

/-- The instant of a stamp; a zone is asked where the stamp has no offset. -/
def ofStamp (s : Stamp) (default : Zone) (given : Option Zone := none) : Except Fault Instant :=
  match s.offset with
  | some offset => .ok (OffsetTime.mk s.wall offset).instant
  | none => ofWall s.wall (zoneOr default given)

/-- The instant of a stamp that must have its offset. -/
def ofAnchored (s : Stamp) : Except Fault Instant :=
  match s.offset with
  | some offset => .ok (OffsetTime.mk s.wall offset).instant
  | none => .error .offsetRequired

/-- Whether an instant is strictly later than another; both must be given. -/
def isAfter : Option Instant → Option Instant → Except Fault Bool
  | some a, some b => .ok (b.millis < a.millis)
  | _, _ => .error .bothInstantsRequired

end Instant

end CivilTime
