import CivilTime.Journal
import CivilTime.Value
import CivilTime.Zone.Identifier

/-!
# Settings

The settings of the calendar: a default zone, and how the journal is kept. Each is taken from a
value of no fixed type; all refusals are told, in the order of the settings.

* `Settings`: the settings, with their defaults.
* `zoneSetting`, `levelSetting`, `flagSetting`, `pathSetting`: one setting each.
* `normalPath`: a path without superfluous parts.
* `Settings.ofEntries`: the settings of named values.
-/

namespace CivilTime

open Text

/-- The settings of the calendar. -/
structure Settings where
  zone : Option String := none
  level : Level := .info
  toFile : Bool := false
  directory : String := "logs"
  deriving DecidableEq, Repr

/-- The levels that may be set. -/
def settableLevels : List Level := [.debug, .info, .warning, .error]

/-- The identifier of a zone, or none for an empty one. It must be known. -/
def knownZone (id : String) : Except Problem (Option String) :=
  match Zone.resolve id with
  | .ok none => .ok none
  | .ok (some _) => .ok (some id)
  | .error _ => .error (.unknownZone id)

/-- The identifier of a zone, which bytes may hold, or none. -/
def zoneSetting : Value → Except Problem (Option String)
  | .null => .ok none
  | .text id => knownZone id
  | .bytes bs =>
    match Value.bytesText? bs with
    | some id => knownZone id
    | none => .error .brokenText
  | _ => .error .notText

/-- A level by its name. -/
def levelSetting : Value → Except Problem Level
  | .text s =>
    match settableLevels.find? (·.name == s) with
    | some l => .ok l
    | none => .error .notLevel
  | _ => .error .notLevel

/-- Words for yes, in small letters. -/
def yesWords : List String := ["1", "t", "true", "y", "yes", "on"]

/-- Words for no, in small letters. -/
def noWords : List String := ["0", "f", "false", "n", "no", "off"]

/-- The bound of the integers that are asked whether they are 0 or 1. -/
def flagBound : Int := 9_223_372_036_854_775_808

/-- The flag of a number: 1 or 0, and no other. -/
def numberFlag (n : Int) : Except Problem Bool :=
  if n = 0 then .ok false else if n = 1 then .ok true else .error .notFlagWord

/-- The flag of a word. -/
def wordFlag (s : String) : Except Problem Bool :=
  let word := String.ofList (small s.toList)
  if word ∈ yesWords then .ok true
  else if word ∈ noWords then .ok false
  else .error .notFlagWord

/-- A flag as a truth value, a number or a word, which bytes may hold. -/
def flagSetting : Value → Except Problem Bool
  | .flag b => .ok b
  | .text s => wordFlag s
  | .bytes bs =>
    match Value.bytesText? bs with
    | some s => wordFlag s
    | none => .error .notFlagWord
  | .integer n => if -flagBound ≤ n ∧ n < flagBound then numberFlag n else .error .notFlag
  | .fraction x =>
    match x.whole? with
    | some n => if -flagBound < n ∧ n < flagBound then numberFlag n else .error .notFlag
    | none => .error .notFlag
  | _ => .error .notFlag

/-- The parts of a path between slashes. -/
def pathParts (s : List Char) : List (List Char) :=
  s.foldr
    (fun c parts =>
      match c, parts with
      | '/', _ => [] :: parts
      | _, p :: r => (c :: p) :: r
      | _, [] => [[c]])
    [[]]

/-- The slashes that lead a path: two are kept, any other number counts as one. -/
def pathRoot (s : List Char) : List Char :=
  match (s.takeWhile (· = '/')).length with
  | 0 => []
  | 2 => ['/', '/']
  | _ => ['/']

/-- Parts with a slash between them. -/
def slashed : List (List Char) → List Char
  | [] => []
  | [p] => p
  | p :: q :: r => p ++ '/' :: slashed (q :: r)

/-- A path without empty parts and parts that stay in place; one without parts is a dot. -/
def normalPath (s : List Char) : List Char :=
  let parts := (pathParts s).filter fun p => p ≠ [] ∧ p ≠ ['.']
  let path := pathRoot s ++ slashed parts
  if path.isEmpty then ['.'] else path

/-- A path. -/
def pathSetting : Value → Except Problem String
  | .text s => .ok (String.ofList (normalPath s.toList))
  | _ => .error .notPath

namespace Settings

/-- The refusal of a setting, if it is refused. -/
def refusal (field : String) {α : Type} : Except Problem α → List Refusal
  | .ok _ => []
  | .error p => [⟨field, p⟩]

/-- A setting that is named, or its default. -/
def setting {α : Type} (entries : List (String × Value)) (field : String)
    (take : Value → Except Problem α) (default : α) : Except Problem α :=
  match entries.lookup field with
  | some v => take v
  | none => .ok default

/-- The settings of named values; other names are ignored. -/
def ofEntries (entries : List (String × Value)) : Except (List Refusal) Settings :=
  let zone := setting entries "timezone" zoneSetting none
  let level := setting entries "log_level" levelSetting .info
  let toFile := setting entries "log_to_file" flagSetting false
  let directory := setting entries "log_dir" pathSetting "logs"
  match zone, level, toFile, directory with
  | .ok zone, .ok level, .ok toFile, .ok directory => .ok ⟨zone, level, toFile, directory⟩
  | _, _, _, _ =>
    .error (refusal "timezone" zone ++ refusal "log_level" level ++ refusal "log_to_file" toFile
      ++ refusal "log_dir" directory)

end Settings

end CivilTime
