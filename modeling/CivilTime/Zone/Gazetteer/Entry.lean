import CivilTime.Zone.Basic

/-!
# Entries of the gazetteer

An entry names a zone and lists its regimes, with their offsets in minutes and their daylight marks;
the first regime holds from the start of the calendar.
The changes are kept as a text in pieces: a capital letter names a regime by its place in the list,
`A` the first, and the base-36 numeral after it counts the seconds since the change before, or since
`origin` for the first one. A zone without changes has one offset for ever.

* `Entry`: the entry; `regimeOf` makes a regime of an offset and a mark.
* `steps`: the letters and numerals of a text of changes.
* `changesFrom`: the changes that steps describe.
* `Entry.rules`: the rules of the zone.
-/

namespace CivilTime.Gazetteer

/-- A zone of the gazetteer. -/
structure Entry where
  name : String
  regimes : List (Int × Bool)
  changes : List String

/-- The regime of an offset in minutes and a daylight mark. -/
def regimeOf (p : Int × Bool) : Regime := ⟨p.1 * 60, p.2⟩

/-- The second since 1970 from which the first change is counted. -/
def origin : Int := -2_147_483_648

/-- The value of a base-36 digit. -/
def digit36 (c : Char) : Nat := if c.toNat < 58 then c.toNat - 48 else c.toNat - 87

/-- The places of the regimes with the seconds between the changes. Read from the end, the digits of
a numeral come before their letter, so its value and the weight of its next digit are carried. -/
def steps (s : List Char) : List (Nat × Nat) :=
  (s.foldr
    (fun c (found, value, weight) =>
      if c.isUpper then ((c.toNat - 65, value) :: found, 0, 1)
      else (found, value + digit36 c * weight, weight * 36))
    (([], 0, 1) : List (Nat × Nat) × Nat × Nat)).1

/-- The changes after `start` that steps describe. -/
def changesFrom (regimes : List (Int × Bool)) (start : Int) : List (Nat × Nat) → List Change
  | [] => []
  | (place, gap) :: r =>
    ⟨start + gap, regimeOf (regimes.getD place (0, false))⟩ :: changesFrom regimes (start + gap) r

/-- The rules of the zone of an entry. -/
def Entry.rules (e : Entry) : Rules :=
  let first := e.regimes.headD (0, false)
  match steps (e.changes.flatMap String.toList) with
  | [] => .constant first.1
  | s => .table ⟨regimeOf first, changesFrom e.regimes origin s⟩

end CivilTime.Gazetteer
