import CivilTime.Document.Scalar
import CivilTime.Document.Tag
import CivilTime.Text.Numeral

/-!
# Tokens of a document

The text of a document is cut into tokens. Indentation opens and closes collections, and the key of
a mapping is only known as such when the colon after it is found. So a slot is left before each
token that may start a key, and is filled when the colon comes; slots that stay empty are dropped.

* `Token`: the tokens.
* `Scan`: how far the text is cut; `PendingKey` is a key that waits for its colon.
* `Scan.saveKey`, `Scan.dropKey`, `Scan.dropStale`: keys that wait.
* `Scan.roll`, `Scan.unroll`: collections that indentation opens and closes.
* `Scan.next`: the next token.
* `tokensOf`: all tokens of a text.
-/

namespace CivilTime.Document

open Text

/-- A token. -/
inductive Token
  | versionDirective
  | tagDirective (handle expansion : List Char)
  | documentStart
  | documentEnd
  | streamEnd
  | blockSequenceStart
  | blockMappingStart
  | blockEnd
  | flowSequenceStart
  | flowSequenceEnd
  | flowMappingStart
  | flowMappingEnd
  | blockEntry
  | flowEntry
  | key
  | value
  | alias (name : List Char)
  | anchor (name : List Char)
  | tag (handle suffix : List Char)
  | scalar (text : List Char) (plain : Bool)
  deriving DecidableEq

/-- A token, or a slot that a key may fill. -/
inductive Piece
  | token (t : Token)
  | slot (n : Nat)

/-- A key that waits for its colon. -/
structure PendingKey where
  slot : Nat
  line : Nat
  column : Nat
  index : Nat
  required : Bool

/-- How far a text is cut into tokens; the last pieces come first. -/
structure Scan where
  cursor : Cursor
  pieces : List Piece := []
  /-- The slots: those that are filled tell whether a mapping opens there. -/
  slots : Array (Option Bool) := #[]
  /-- The columns of the open collections. -/
  indents : List Int := []
  indent : Int := -1
  keyAllowed : Bool := true
  /-- The pending key of each level of brackets, the innermost first, and that outside brackets. -/
  inner : List (Option PendingKey) := []
  outer : Option PendingKey := none

namespace Scan

/-- Adds a token. -/
def add (s : Scan) (t : Token) : Scan := { s with pieces := .token t :: s.pieces }

/-- Whether the place is inside brackets. -/
def inFlow (s : Scan) : Bool := !s.inner.isEmpty

/-- The pending key of this level. -/
def pending (s : Scan) : Option PendingKey :=
  match s.inner with
  | k :: _ => k
  | [] => s.outer

/-- Another pending key for this level. -/
def setPending (s : Scan) (k : Option PendingKey) : Scan :=
  match s.inner with
  | _ :: r => { s with inner := k :: r }
  | [] => { s with outer := k }

/-- Gives up the pending key; a key that must be there cannot be given up. -/
def dropKey (s : Scan) : Except Fault Scan :=
  match s.pending with
  | some k => if k.required then .error .malformedDocument else .ok (s.setPending none)
  | none => .ok s

/-- Leaves a slot for a key, if a key may start here. -/
def saveKey (s : Scan) : Except Fault Scan := do
  if s.keyAllowed then
    let s ← s.dropKey
    let k : PendingKey :=
      ⟨s.slots.size, s.cursor.line, s.cursor.column, s.cursor.index,
        !s.inFlow && s.indent == s.cursor.column⟩
    return { s.setPending (some k) with
      pieces := .slot s.slots.size :: s.pieces, slots := s.slots.push none }
  else return s

/-- Whether the colon of a key can no longer come: it must be on the key's line and near. -/
def isStale (c : Cursor) (k : PendingKey) : Bool := k.line < c.line || k.index + 1024 < c.index

/-- Gives up a key if it is stale. -/
def dropIfStale (c : Cursor) : Option PendingKey → Except Fault (Option PendingKey)
  | some k =>
    if !isStale c k then .ok (some k)
    else if k.required then .error .malformedDocument
    else .ok none
  | none => .ok none

/-- Gives up all stale keys. -/
def dropStale (s : Scan) : Except Fault Scan := do
  return { s with
    inner := ← s.inner.mapM (dropIfStale s.cursor)
    outer := ← dropIfStale s.cursor s.outer }

/-- Whether a collection opens at a column. -/
def opensAt (s : Scan) (column : Nat) : Bool := !s.inFlow && decide (s.indent < column)

/-- Opens a collection at a column. -/
def openAt (s : Scan) (column : Nat) : Scan :=
  { s with indents := s.indent :: s.indents, indent := column }

/-- Opens a collection here if the indentation asks for it. -/
def roll (s : Scan) (start : Token) : Scan :=
  if s.opensAt s.cursor.column then (s.openAt s.cursor.column).add start else s

/-- Closes the collections that are indented more than a column. -/
def closeTo (column : Int) : List Int → Scan → Scan
  | [], s => s
  | i :: is, s =>
    if column < s.indent then
      closeTo column is ({ s with indent := i, indents := is }.add .blockEnd)
    else s

/-- Closes collections outside brackets. -/
def unroll (s : Scan) (column : Int) : Scan :=
  if s.inFlow then s else closeTo column s.indents s

/-- Moves to another place. -/
def moveTo (s : Scan) (c : Cursor) : Scan := { s with cursor := c }

/-- Adds a token of some characters. -/
def take (s : Scan) (n : Nat) (t : Token) : Scan := (s.add t).moveTo (s.cursor.skip n)

/-! ### Blanks, comments and directives -/

/-- Passes blanks, comments and line ends. Tabs are no blanks where a key may start. -/
def skipBlank : (fuel : Nat) → Scan → Scan
  | 0, s => s
  | fuel + 1, s =>
    let tabs := s.inFlow || !s.keyAllowed
    let c := s.cursor.skipRun fun x => x == ' ' || (tabs && x == '\t')
    let c := if c.peek 0 == some '#' then c.skipRun (!isBreak ·) else c
    match c.rest with
    | x :: _ =>
      if isBreak x then
        skipBlank fuel { s with cursor := c.step, keyAllowed := s.keyAllowed || !s.inFlow }
      else s.moveTo c
    | [] => s.moveTo c

/-- Passes blanks and a comment up to the end of a line. -/
def endOfLine (c : Cursor) : Except Fault Cursor :=
  let c := c.skipRun isGap
  let c := if c.peek 0 == some '#' then c.skipRun (!isBreak ·) else c
  if isBreakOrEnd (c.peek 0) then .ok c.step else .error .malformedDocument

/-- A directive: the version of the notation, or a handle for tags. -/
def directive (s : Scan) : Except Fault Scan := do
  let s ← (s.unroll (-1)).dropKey
  let s := { s with keyAllowed := false }
  let name := s.cursor.step.run isNameChar
  let c := s.cursor.step.skip name.length
  if !isGapOrEnd (c.peek 0) then throw .malformedDocument
  let c := c.skipRun isGap
  if name = "YAML".toList then
    let major := c.run Char.isDigit
    let c := c.skip major.length
    let minor := c.step.run Char.isDigit
    let version := (number (major.filterMap asciiDigit?), number (minor.filterMap asciiDigit?))
    if c.peek 0 = some '.' ∧ (version = (1, 1) ∨ version = (1, 2)) then
      return (s.add .versionDirective).moveTo (← endOfLine (c.skip (1 + minor.length)))
    else throw .malformedDocument
  else if name = "TAG".toList then
    if c.peek 0 != some '!' then throw .malformedDocument
    let (handle, c) := tagHandle c
    if handle.getLast? != some '!' || !(c.peek 0).any isGap then throw .malformedDocument
    let c := c.skipRun isGap
    let (expansion, c) ← tagText false c
    if !isGapOrEnd (c.peek 0) then throw .malformedDocument
    return (s.add (.tagDirective handle expansion)).moveTo (← endOfLine c)
  else throw .malformedDocument

/-! ### Marks of collections -/

/-- The line that starts or ends a document. -/
def marker (s : Scan) (t : Token) : Except Fault Scan := do
  let s ← (s.unroll (-1)).dropKey
  return { s with keyAllowed := false }.take 3 t

/-- An opening bracket. -/
def openFlow (s : Scan) (t : Token) : Except Fault Scan := do
  let s ← s.saveKey
  return { s with inner := none :: s.inner, keyAllowed := true }.take 1 t

/-- A closing bracket. -/
def closeFlow (s : Scan) (t : Token) : Except Fault Scan := do
  let s ← s.dropKey
  return { s with inner := s.inner.drop 1, keyAllowed := false }.take 1 t

/-- A comma between brackets. -/
def flowEntry (s : Scan) : Except Fault Scan := do
  let s ← s.dropKey
  return { s with keyAllowed := true }.take 1 .flowEntry

/-- A hyphen before an item. -/
def blockEntry (s : Scan) : Except Fault Scan := do
  if !s.inFlow && !s.keyAllowed then throw .malformedDocument
  let s ← (s.roll .blockSequenceStart).dropKey
  return { s with keyAllowed := true }.take 1 .blockEntry

/-- A question mark before a key. -/
def keyMark (s : Scan) : Except Fault Scan := do
  if !s.inFlow && !s.keyAllowed then throw .malformedDocument
  let s ← (s.roll .blockMappingStart).dropKey
  return { s with keyAllowed := !s.inFlow }.take 1 .key

/-- A colon after a key. -/
def valueMark (s : Scan) : Except Fault Scan :=
  match s.pending with
  | some k =>
    let opens := s.opensAt k.column
    let s := (if opens then s.openAt k.column else s).setPending none
    let slots := s.slots.setIfInBounds k.slot (some opens)
    .ok ({ s with slots := slots, keyAllowed := false }.take 1 .value)
  | none =>
    if !s.inFlow && !s.keyAllowed then .error .malformedDocument
    else
      let s := s.roll .blockMappingStart
      .ok ({ s with keyAllowed := !s.inFlow }.take 1 .value)

/-! ### Nodes -/

/-- The name after an ampersand or an asterisk. -/
def reference (s : Scan) (t : List Char → Token) : Except Fault Scan := do
  let s ← s.saveKey
  let name := s.cursor.step.run isNameChar
  let c := s.cursor.step.skip name.length
  let ends := isGapOrEnd (c.peek 0) || (c.peek 0).any (· ∈ "?:,]\x7d%@\x60".toList)
  if name.isEmpty || !ends then throw .malformedDocument
  return { s with keyAllowed := false, cursor := c }.add (t name)

/-- A tag: between angle brackets in full, or a handle and a suffix. A lone exclamation mark is a
tag in full. A blank must follow. -/
def tag (s : Scan) : Except Fault Scan := do
  let s ← s.saveKey
  let c := s.cursor
  let (handle, suffix, c) ←
    if c.peek 1 == some '<' then
      let (suffix, c) ← tagText false (c.skip 2)
      if c.peek 0 != some '>' then throw .malformedDocument
      pure ([], suffix, c.step)
    else
      let (handle, c') := tagHandle c
      if handle.length != 1 && handle.getLast? == some '!' then
        let (suffix, c') ← tagText false c'
        pure (handle, suffix, c')
      else
        let (suffix, c') ← tagText true c.step
        pure (if suffix.isEmpty then ([], ['!'], c') else (['!'], suffix, c'))
  if !isGapOrEnd (c.peek 0) then throw .malformedDocument
  return { s with keyAllowed := false, cursor := c }.add (.tag handle suffix)

/-- A block of lines. -/
def block (s : Scan) (literal : Bool) : Except Fault Scan := do
  let s ← s.dropKey
  let r ← blockScalar literal s.indent s.cursor.step
  return { s with keyAllowed := true, cursor := r.cursor }.add (.scalar r.text false)

/-- A scalar between quotes. -/
def quoted (s : Scan) (fuel : Nat) (single : Bool) : Except Fault Scan := do
  let s ← s.saveKey
  let r ← quotedScalar single fuel s.cursor.step {}
  return { s with keyAllowed := false, cursor := r.cursor }.add (.scalar r.text false)

/-- A scalar without quotes. -/
def plain (s : Scan) (fuel : Nat) : Except Fault Scan := do
  let s ← s.saveKey
  let r ← plainScalar s.inFlow (s.indent + 1).toNat fuel s.cursor {}
  return { s with keyAllowed := r.broken, cursor := r.cursor }.add (.scalar r.text true)

/-- Characters that no plain scalar starts with, though three of them may where a blank does not
follow. -/
def indicators : List Char := "-?:,[]\x7b\x7d#&*!|>'\"%@\x60".toList

/-- Whether a plain scalar starts here. -/
def startsPlain (s : Scan) (c : Char) (after : Option Char) : Bool :=
  (!isGap c && c ∉ indicators) || (c == '-' && !after.any isGap)
    || (!s.inFlow && (c == '?' || c == ':') && !isGapOrEnd after)

/-- The next token at a place that is not blank. The fuel is more than the number of characters that
are left. -/
def next (s : Scan) (fuel : Nat) (c : Char) : Except Fault Scan :=
  let after := s.cursor.peek 1
  let spaced := isGapOrEnd after
  if s.cursor.column = 0 ∧ c = '%' then s.directive
  else if s.cursor.atMarkerOf '-' then s.marker .documentStart
  else if s.cursor.atMarkerOf '.' then s.marker .documentEnd
  else if c = '[' then s.openFlow .flowSequenceStart
  else if c = '\x7b' then s.openFlow .flowMappingStart
  else if c = ']' then s.closeFlow .flowSequenceEnd
  else if c = '\x7d' then s.closeFlow .flowMappingEnd
  else if c = ',' then s.flowEntry
  else if c = '-' ∧ spaced then s.blockEntry
  else if c = '?' ∧ (s.inFlow ∨ spaced) then s.keyMark
  else if c = ':' ∧ (s.inFlow ∨ spaced) then s.valueMark
  else if c = '*' then s.reference .alias
  else if c = '&' then s.reference .anchor
  else if c = '!' then s.tag
  else if c = '|' ∧ ¬ s.inFlow then s.block true
  else if c = '>' ∧ ¬ s.inFlow then s.block false
  else if c = '\'' then s.quoted fuel true
  else if c = '"' then s.quoted fuel false
  else if s.startsPlain c after then s.plain fuel
  else .error .malformedDocument

/-- The end of the text. -/
def finish (s : Scan) : Except Fault Scan := do
  let s ← { s with keyAllowed := false }.unroll (-1) |>.dropKey
  return s.add .streamEnd

/-- Cuts the rest of the text. Every round takes a character, so the length of the text is fuel
enough. -/
def run : (fuel : Nat) → Scan → Except Fault Scan
  | 0, _ => .error .malformedDocument
  | fuel + 1, s => do
    let s ← (s.skipBlank (fuel + 1)).dropStale
    let s := s.unroll s.cursor.column
    match s.cursor.rest with
    | [] => s.finish
    | c :: _ => run fuel (← s.next (fuel + 1) c)

/-- The tokens of a scan, with the keys in their slots. -/
def tokens (s : Scan) : List Token :=
  s.pieces.reverse.flatMap fun p =>
    match p with
    | .token t => [t]
    | .slot n =>
      match s.slots[n]?.join with
      | none => []
      | some true => [.blockMappingStart, .key]
      | some false => [.key]

end Scan

/-- The tokens of a text. -/
def tokensOf (text : List Char) : Except Fault (List Token) := do
  if text.all isDocumentChar then
    return (← Scan.run (text.length + 1) { cursor := .ofText text }).tokens
  else throw .malformedDocument

end CivilTime.Document
