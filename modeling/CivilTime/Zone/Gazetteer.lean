import CivilTime.Text.Capital
import CivilTime.Zone.Gazetteer.Africa
import CivilTime.Zone.Gazetteer.Aliases
import CivilTime.Zone.Gazetteer.America
import CivilTime.Zone.Gazetteer.Antarctica
import CivilTime.Zone.Gazetteer.Asia
import CivilTime.Zone.Gazetteer.Atlantic
import CivilTime.Zone.Gazetteer.Australia
import CivilTime.Zone.Gazetteer.Etc
import CivilTime.Zone.Gazetteer.Europe
import CivilTime.Zone.Gazetteer.Indian
import CivilTime.Zone.Gazetteer.Pacific

/-!
# The gazetteer

All zones that are known by name. Names are found whatever the case of their letters, and a zone
that has several names is written by the one it was found under.

* `entries`: the entries of all regions.
* `sameName`: equality of names up to the case of ASCII letters.
* `entry?`: the entry kept under a name.
* `zone?`: the zone that a name or another name of it stands for.
-/

namespace CivilTime.Gazetteer

open Text

/-- The entries of all regions. -/
def entries : List Entry :=
  africa ++ america ++ antarctica ++ asia ++ atlantic ++ australia ++ etc ++ europe ++ indian
    ++ pacific

/-- Equality of names up to case. -/
def sameName (a b : List Char) : Bool := small a == small b

/-- The entry kept under a name. -/
def entry? (name : List Char) : Option Entry :=
  entries.find? fun e => sameName e.name.toList name

/-- The zone that a name stands for. -/
def zone? (name : List Char) : Option Zone :=
  match entry? name with
  | some e => some (.named e.name e.rules)
  | none => do
    let (other, kept) ← aliases.find? fun a => sameName a.1.toList name
    let e ← entry? kept.toList
    some (.named other e.rules)

end CivilTime.Gazetteer
