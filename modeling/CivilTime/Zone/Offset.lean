import CivilTime.Calendar.WallTime
import CivilTime.Text.Numeral

/-!
# Offsets and times on the time line

A wall-clock time becomes a point of the time line by its offset, the microseconds that the wall
clock is ahead of universal time. The time line is counted from the start of 1970.

* `WallTime.sinceEpoch`, `WallTime.ofEpoch`: a universal wall-clock time as a point of the line.
* `OffsetTime`, `OffsetTime.sinceEpoch`: a wall-clock time with its offset, and its point.
* `Stamp`: a wall-clock time whose offset may be unknown.
* `offsetClock`: an offset as hours and minutes, with seconds and microseconds where it has some.
-/

namespace CivilTime

open Text

/-- The microseconds from the start of the calendar to the start of 1970. -/
def epochMicros : Int := 62_135_596_800_000_000

namespace WallTime

/-- The microseconds since 1970, reading the time as universal time. -/
def sinceEpoch (w : WallTime) : Int := w.micros - epochMicros

/-- The universal time at a point of the time line, if it lies in the calendar. -/
def ofEpoch (n : Int) : Except Fault WallTime := ofMicros (n + epochMicros)

theorem ofEpoch_sinceEpoch (w : WallTime) : ofEpoch w.sinceEpoch = .ok w := by
  rw [ofEpoch, sinceEpoch, Int.sub_add_cancel]
  exact ofMicros_micros w

theorem ofEpoch_eq_ok {n : Int} {w : WallTime} : ofEpoch n = .ok w ↔ w.sinceEpoch = n := by
  constructor
  · intro h
    rw [ofEpoch, ofMicros] at h
    split at h
    · obtain rfl := Except.ok.inj h
      simp only [sinceEpoch]
      omega
    · cases h
  · rintro rfl
    exact ofEpoch_sinceEpoch w

end WallTime

/-- A wall-clock time and the microseconds that it is ahead of universal time. -/
structure OffsetTime where
  wall : WallTime
  offset : Int
  deriving DecidableEq, Repr

/-- The point of the time line, in microseconds since 1970. -/
def OffsetTime.sinceEpoch (t : OffsetTime) : Int := t.wall.sinceEpoch - t.offset

/-- A wall-clock time with its offset, if that is known. -/
structure Stamp where
  wall : WallTime
  offset : Option Int := none
  deriving DecidableEq, Repr

/-- Offsets are shorter than a day. -/
def isOffset (n : Int) : Bool := n.natAbs < dayMicros

/-- The stamp with the given fields and offset. -/
def Stamp.ofFields (f : Fields) (offset : Option Int) : Except Fault Stamp := do
  if offset.any (!isOffset ·) then throw .invalidValue
  return ⟨← f.toWallTime, offset⟩

/-- The fields that numbers name in the order of their size, from the year on; the time of day may
be left out. Numbers that no field could ever hold are out of range. -/
def Fields.ofNumbers (ns : List Int) : Except Fault Fields :=
  if ns.any fun n => decide (n < -2_147_483_648 ∨ 2_147_483_647 < n) then .error .outOfRange
  else if ns.any (· < 0) then .error .invalidValue
  else match ns.map Int.toNat with
    | y :: m :: d :: t =>
      .ok ⟨⟨y, m, d⟩, t.getD 0 0, t.getD 1 0, t.getD 2 0, t.getD 3 0⟩
    | _ => .error .wrongType

/-- The stamp with the given numbers as its fields. -/
def Stamp.ofNumbers (ns : List Int) (offset : Option Int) : Except Fault Stamp := do
  Stamp.ofFields (← Fields.ofNumbers ns) offset

/-- The sign of an offset and its hours and minutes, after which seconds and microseconds follow if
they are not zero. The separator stands between hours, minutes and seconds. -/
def offsetClock (separator : List Char) (offset : Int) : List Char :=
  let n := offset.natAbs
  let second := n / secondMicros % 60
  let micro := n % secondMicros
  (if offset < 0 then '-' else '+') :: padded 2 (n / hourMicros) ++ separator
    ++ padded 2 (n / minuteMicros % 60)
    ++ (if second = 0 ∧ micro = 0 then [] else separator ++ padded 2 second)
    ++ (if micro = 0 then [] else '.' :: padded 6 micro)

end CivilTime
