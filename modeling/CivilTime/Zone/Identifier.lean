import CivilTime.Text.Digit
import CivilTime.Zone.Gazetteer

/-!
# Zone identifiers

An identifier is looked up in four places, and the first that knows it decides: the legacy offsets,
the names of the gazetteer, the legacy abbreviations, and the offsets written after `GMT` or `UTC`.
No place minds the case of letters.

* `legacyOffsets`, `abbreviations`: the legacy identifiers.
* `Zone.byName?`: the gazetteer, which also takes `_plus_` and `_minus_` for the signs.
* `offsetMinutes?`: hours of one or two digits, then minutes of two digits, with or without a colon.
* `Zone.ofOffsetId?`: an offset after `GMT` or `UTC`.
* `Zone.ofId?`, `Zone.resolve`: the zone of an identifier; an empty one names no zone.
-/

namespace CivilTime

open Text

/-- Legacy identifiers of constant offsets, in minutes. -/
def legacyOffsets : List (String × Int) := [("EST", -300), ("MST", -420), ("HST", -600)]

/-- Legacy abbreviations and the names of the zones that they stand for. -/
def abbreviations : List (String × String) :=
  [("ACT", "Australia/Darwin"), ("AET", "Australia/Sydney"),
    ("AGT", "America/Argentina/Buenos_Aires"), ("ART", "Africa/Cairo"),
    ("AST", "America/Anchorage"), ("BET", "America/Sao_Paulo"), ("BST", "Asia/Dhaka"),
    ("CAT", "Africa/Harare"), ("CNT", "America/St_Johns"), ("CST", "America/Chicago"),
    ("CTT", "Asia/Shanghai"), ("EAT", "Africa/Addis_Ababa"), ("ECT", "Europe/Paris"),
    ("IET", "America/Indiana/Indianapolis"), ("IST", "Asia/Kolkata"), ("JST", "Asia/Tokyo"),
    ("MIT", "Pacific/Apia"), ("NET", "Asia/Yerevan"), ("NST", "Pacific/Auckland"),
    ("PLT", "Asia/Karachi"), ("PNT", "America/Phoenix"), ("PRT", "America/Puerto_Rico"),
    ("PST", "America/Los_Angeles"), ("SST", "Pacific/Guadalcanal"),
    ("VST", "Asia/Ho_Chi_Minh")]

/-- The signs in place of the words `_plus_` and `_minus_`. -/
def withSigns : List Char → List Char
  | '_' :: 'p' :: 'l' :: 'u' :: 's' :: '_' :: r => '+' :: withSigns r
  | '_' :: 'm' :: 'i' :: 'n' :: 'u' :: 's' :: '_' :: r => '-' :: withSigns r
  | c :: r => c :: withSigns r
  | [] => []

/-- A text without the line end that may close it. -/
def withoutLineEnd (s : List Char) : List Char :=
  if s.getLast? = some '\n' then s.dropLast else s

/-- The minutes of hours and minutes that a clock of a day can show. -/
def clockMinutes? (hours minutes : Nat) : Option Nat :=
  if hours ≤ 23 ∧ minutes ≤ 59 then some (60 * hours + minutes) else none

/-- The number of two digits. -/
def pairValue? (c d : Char) : Option Nat := do some (10 * (← digitValue? c) + (← digitValue? d))

/-- The minutes of an offset: hours of one or two digits and, after a colon or directly, minutes of
two digits. Of three digits the last two are the minutes. -/
def offsetMinutes? : List Char → Option Nat
  | [h] => do clockMinutes? (← digitValue? h) 0
  | [g, h] => do clockMinutes? (← pairValue? g h) 0
  | [h, m, n] => do clockMinutes? (← digitValue? h) (← pairValue? m n)
  | [h, ':', m, n] => do clockMinutes? (← digitValue? h) (← pairValue? m n)
  | [g, h, m, n] => do clockMinutes? (← pairValue? g h) (← pairValue? m n)
  | [g, h, ':', m, n] => do clockMinutes? (← pairValue? g h) (← pairValue? m n)
  | _ => none

/-- A sign and the minutes of an offset. -/
def signedMinutes? : List Char → Option Int
  | '+' :: r => (offsetMinutes? r).map fun n => (n : Int)
  | '-' :: r => (offsetMinutes? r).map fun n => -(n : Int)
  | _ => none

namespace Zone

/-- The zone of an offset in capitals. -/
def ofOffsetId? (id : List Char) : Option Zone :=
  match id with
  | 'G' :: 'M' :: 'T' :: r | 'U' :: 'T' :: 'C' :: r =>
    (signedMinutes? (withoutLineEnd r)).map ofMinutes
  | _ => none

/-- The zone of a name. Universal time is known before all other names. -/
def byName? (name : List Char) : Option Zone :=
  if capitals name = ['U', 'T', 'C'] then some .universal
  else if isAscii name then Gazetteer.zone? (withSigns name)
  else none

/-- The zone of an identifier. -/
def ofId? (id : List Char) : Option Zone :=
  let upper := String.ofList (capitals id)
  ((legacyOffsets.lookup upper).map ofMinutes)
    <|> byName? id
    <|> ((abbreviations.lookup upper).bind fun name => byName? name.toList)
    <|> ofOffsetId? upper.toList

/-- The zone of an identifier, or none for an empty one. -/
def resolve (id : String) : Except Fault (Option Zone) :=
  if id.isEmpty then .ok none
  else match ofId? id.toList with
    | some z => .ok (some z)
    | none => .error (.unknownZone id)

end Zone

end CivilTime
