import CivilTime.Zone.Offset

/-!
# Zones with a history

The clocks of such a zone are governed by one regime after the other. Its table lists the points of
the time line at which the regime changes; the last regime holds for ever.

A wall-clock time may be read by one instant of the zone, by none when the clocks are set forward
over it, and by two when they are set back. There are two ways to place it. One seeks its readings
under the regimes in force a day before and a day after, seen as universal times, and chooses among
them. The other takes the earlier reading at once, and moves a time without one by what the offset
changes from a day before to a day after.

* `Regime`, `Change`, `Table`: the history.
* `Table.regimeAt`: the regime in force at a universal time.
* `Table.candidate`, `Table.readings`: the regimes under which a wall-clock time is read.
* `Regime.preferred`: one of two regimes, by their daylight marks or else by their offsets.
* `Table.winterRegime`: the regime before a gap, found by stepping back six hours at a time.
* `Table.localize`: the regime that a wall-clock time is understood in, by seeking.
* `Table.passedAt`, `Table.settle`: the regime of the earlier reading, and the place that it gives.
-/

namespace CivilTime

/-- The seconds by which clocks are ahead of universal time, and whether they show daylight time. -/
structure Regime where
  offset : Int
  daylight : Bool
  deriving DecidableEq, Repr

/-- The offset of a regime in microseconds. -/
def Regime.micros (r : Regime) : Int := r.offset * secondMicros

/-- The second since 1970 at which a regime begins. -/
structure Change where
  start : Int
  regime : Regime
  deriving DecidableEq, Repr

/-- The first regime of a zone and the changes that follow it. -/
structure Table where
  first : Regime
  changes : List Change
  deriving DecidableEq, Repr

/-- The table of clocks that keep universal time. -/
def Table.universal : Table := ⟨⟨0, false⟩, []⟩

/-- The wall-clock time a regime shows at a universal time. -/
def Regime.wallAt (r : Regime) (utc : WallTime) : Except Fault WallTime := utc.shift r.micros

/-- The last of a list of regimes that has begun. -/
def latestRegime (r : Regime) : List Change → WallTime → Regime
  | [], _ => r
  | c :: cs, utc =>
    if c.start * secondMicros ≤ utc.sinceEpoch then latestRegime c.regime cs utc else r

/-- The last of a list of regimes whose start a wall-clock time has passed. It has passed the start once
it is past what either regime shows there; so of two readings the earlier one counts, and in a gap the
regime that the gap ends. -/
def passedRegime (r : Regime) : List Change → WallTime → Regime
  | [], _ => r
  | c :: cs, w =>
    if c.start * secondMicros + max r.micros c.regime.micros ≤ w.sinceEpoch then
      passedRegime c.regime cs w
    else r

/-- The regimes under which instants of a zone read a wall-clock time. -/
inductive Readings
  | none
  | one (r : Regime)
  | two (r s : Regime)
  deriving DecidableEq, Repr

/-- Of two regimes the only one with the wanted daylight mark. If the marks do not tell them apart,
daylight time wants the earlier instant, which has the greater offset, and other time the later. -/
def Regime.preferred (daylight : Bool) (r s : Regime) : Regime :=
  if r.daylight = daylight ∧ s.daylight ≠ daylight then r
  else if s.daylight = daylight ∧ r.daylight ≠ daylight then s
  else if daylight then (if s.offset < r.offset then r else s)
  else if r.offset < s.offset then r else s

namespace Table

/-- The regime in force at a universal time. -/
def regimeAt (t : Table) (utc : WallTime) : Regime := latestRegime t.first t.changes utc

/-- The regime of the instant that reads `w` when the offset in force at `probe` is taken away, if
that instant does read `w`. -/
def candidate (t : Table) (w probe : WallTime) : Except Fault (Option Regime) := do
  let utc ← w.shift (-(t.regimeAt probe).micros)
  let r := t.regimeAt utc
  let shown ← r.wallAt utc
  return if shown = w then some r else none

/-- The regimes under which `w` is read. -/
def readings (t : Table) (w : WallTime) : Except Fault Readings := do
  let a ← t.candidate w (← w.shift (-(dayMicros : Int)))
  let b ← t.candidate w (← w.shift dayMicros)
  return match a, b with
    | none, none => .none
    | some r, none => .one r
    | none, some s => .one s
    | some r, some s => if r.offset = s.offset then .one r else .two r s

/-- The step by which a gap is left backwards. -/
def backStep : Nat := 6 * hourMicros

/-- The regime in which `w` is read as winter time. In a gap it is that of six hours before, so it
is the regime that the gap ends. -/
def winterRegime (t : Table) (w : WallTime) : Except Fault Regime :=
  match t.readings w with
  | .error e => .error e
  | .ok (.one r) => .ok r
  | .ok (.two r s) => .ok (Regime.preferred false r s)
  | .ok .none =>
    if _inside : backStep ≤ w.micros then
      t.winterRegime ⟨w.micros - backStep, Nat.lt_of_le_of_lt (Nat.sub_le _ _) w.inCalendar⟩
    else .error .outOfRange
termination_by w.micros
decreasing_by
  have : 0 < backStep := by decide
  omega

/-- The regime that `w` is understood in: the only one, daylight time of two, and in a gap the one
that the gap ends. -/
def localize (t : Table) (w : WallTime) : Except Fault Regime :=
  match t.readings w with
  | .error e => .error e
  | .ok (.one r) => .ok r
  | .ok (.two r s) => .ok (Regime.preferred true r s)
  | .ok .none => t.winterRegime w

/-- The regime of the earlier reading of a wall-clock time, or the one that a gap ends. -/
def passedAt (t : Table) (w : WallTime) : Regime := passedRegime t.first t.changes w

/-- The place of a wall-clock time under its earlier reading. A time that does not come back from its
universal time has no reading; it is moved by what the offset changes from a day before to a day
after. -/
def settle (t : Table) (w : WallTime) : Except Fault OffsetTime := do
  let r := t.passedAt w
  let utc ← w.shift (-r.micros)
  let shown ← (t.regimeAt utc).wallAt utc
  if shown = w then return ⟨w, r.micros⟩
  else
    let after := t.passedAt (← w.shift dayMicros)
    let before := t.passedAt (← w.shift (-(dayMicros : Int)))
    let moved ← w.shift (after.micros - before.micros)
    return ⟨moved, (t.passedAt moved).micros⟩

end Table

end CivilTime
