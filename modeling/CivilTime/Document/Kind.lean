import CivilTime.Document.Tag
import CivilTime.Document.Timestamp
import CivilTime.Text.Integer

/-!
# Kinds of nodes

The kind of a node says what it stands for. A tag names it; without a tag, collections are sequences
and mappings, and a plain scalar is of the kind that it is written like, or a text.

* `Kind`, `Kind.isCollection`: the kinds.
* `Kind.ofTag`: the kind that a tag names.
* `isFractionForm`, `isIntegerForm`, `isTimestampForm`: how plain scalars are written.
* `Kind.ofPlain`: the kind of a plain scalar without a tag.
-/

namespace CivilTime.Document

open Text

/-- What a node stands for. -/
inductive Kind
  | null
  | flag
  | integer
  | fraction
  | text
  | bytes
  | timestamp
  | sequence
  | mapping
  | set
  /-- A mapping that is written as a sequence of mappings with one entry each. -/
  | orderedMapping
  /-- A sequence of pairs that is written like an ordered mapping. -/
  | pairs
  /-- The key of entries that are merged into a mapping. -/
  | merge
  /-- The key of the entry that a mapping stands for where a scalar is due. -/
  | defaultEntry
  /-- A kind that has no meaning. -/
  | unknown
  /-- A tag with an escape that stands for no character. -/
  | unreadable
  deriving DecidableEq, Repr

/-- Whether nodes of a kind hold others. -/
def Kind.isCollection : Kind → Bool
  | .sequence | .mapping | .set | .orderedMapping | .pairs => true
  | _ => false

/-! ### Tags -/

/-- The kinds by the names that every document knows. -/
def coreKinds : List (String × Kind) :=
  [("null", .null), ("bool", .flag), ("int", .integer), ("float", .fraction), ("str", .text),
    ("binary", .bytes), ("timestamp", .timestamp), ("seq", .sequence), ("map", .mapping),
    ("set", .set), ("omap", .orderedMapping), ("pairs", .pairs), ("merge", .merge),
    ("value", .defaultEntry)]

/-- The characters that escapes in the name of a tag stand for. These are the escapes that have been
escaped themselves; the number after the percent sign has up to two characters. -/
def tagName? : List Char → Option (List Char)
  | '%' :: a :: b :: r => do return (← escaped? [a, b]) :: (← tagName? r)
  | '%' :: r => do return [← escaped? r]
  | c :: r => do return c :: (← tagName? r)
  | [] => some []
where
  /-- The character of a number in base sixteen. -/
  escaped? (s : List Char) : Option Char := do
    let n ← integerOf? .sixteen s
    if n < 0 then none else some (Char.ofNat n.toNat)

/-- The kind that a tag names. -/
def Kind.ofTag (tag : List Char) : Kind :=
  match tagName? tag with
  | none => .unreadable
  | some name =>
    if coreTag <+: name then
      (coreKinds.lookup (String.ofList (name.drop coreTag.length))).getD .unknown
    else .unknown

/-! ### Forms of plain scalars -/

/-- The words for truth values. -/
def isFlagForm (s : List Char) : Bool :=
  String.ofList s ∈ ["true", "True", "TRUE", "false", "False", "FALSE"]

/-- The words for null. -/
def isNullForm (s : List Char) : Bool := String.ofList s ∈ ["", "~", "null", "Null", "NULL"]

/-- Digits of a base, or underscores. -/
def isDigitOf (b : Base) (c : Char) : Bool := c == '_' || (hexDigit? c).any (· < b.size)

/-- The form of an integer: a sign, the mark of a base, and digits of the base. -/
def isIntegerForm (s : List Char) : Bool :=
  let r := (splitSign s).2
  let hasDigits (b : Base) (ds : List Char) := !ds.isEmpty && ds.all (isDigitOf b)
  s.head? != some '_' && (hasDigits .ten r ||
    match r with
    | '0' :: 'b' :: ds => hasDigits .two ds
    | '0' :: 'o' :: ds => hasDigits .eight ds
    | '0' :: 'x' :: ds => hasDigits .sixteen ds
    | _ => false)

/-- The form of an exponent of ten; it may have to be there and to have a sign. -/
def isExponentForm (required signed : Bool) : List Char → Bool
  | [] => !required
  | e :: r =>
    let ds := (splitSign r).2
    (e == 'e' || e == 'E') && !(signed && ds.length == r.length) && !ds.isEmpty
      && ds.all fun c => (asciiDigit? c).isSome

/-- The form of a fractional number: digits with a point or an exponent, or a word. -/
def isFractionForm (s : List Char) : Bool :=
  let r := (splitSign s).2
  let whole := r.takeWhile (isDigitOf .ten)
  let startsWell := whole.head? != some '_'
  String.ofList r ∈ [".inf", ".Inf", ".INF"] || String.ofList s ∈ [".nan", ".NaN", ".NAN"] ||
    match r.drop whole.length with
    | '.' :: rest =>
      let places := rest.takeWhile (isDigitOf .ten)
      startsWell && !(whole.isEmpty && places.isEmpty)
        && isExponentForm false whole.isEmpty (rest.drop places.length)
    | rest => startsWell && !whole.isEmpty && isExponentForm true false rest

/-- The form of a timestamp. Without a time of day, month and day must have two digits. -/
def isTimestampForm (s : List Char) : Bool :=
  (Timestamp.ofText? s).any fun t => t.time.isSome || s.length == 10

/-- A text without the line end that it ends with. -/
def dropFinalBreak (s : List Char) : List Char := if s.getLast? = some '\n' then s.dropLast else s

/-- The kind of a plain scalar; of the forms that it may have, a line end after it is no part. -/
def Kind.ofPlain (s : List Char) : Kind :=
  let t := dropFinalBreak s
  if t.isEmpty && !s.isEmpty then .text
  else if isFlagForm t then .flag
  else if isFractionForm t then .fraction
  else if isIntegerForm t then .integer
  else if isNullForm t then .null
  else if isTimestampForm t then .timestamp
  else if t = ['<', '<'] then .merge
  else if t = ['='] then .defaultEntry
  else if t ∈ [['!'], ['&'], ['*']] then .unknown
  else .text

end CivilTime.Document
