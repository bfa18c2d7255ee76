import CivilTime.Document.Cursor
import CivilTime.Text.Digit

/-!
# Tags of a document

A tag says of what type a node is. It is written in full between angle brackets, or as a handle and
a suffix, where a directive says what the handle stands for. Characters may be escaped in it: a
percent sign and two hexadecimal digits stand for one byte.

* `isNameChar`, `isTagChar`: the characters of handles and tags.
* `bytes?`, `unescaped?`: a text without its escapes.
* `tagHandle`, `tagText`: the parts of a tag at a place in the text.
* `Prefixes`, `corePrefixes`, `fullTag`: what handles stand for.
-/

namespace CivilTime.Document

open Text

/-! ### Characters and escapes -/

/-- Letters, digits, hyphens and underscores. -/
def isNameChar (c : Char) : Bool := c.isAlphanum || c == '_' || c == '-'

/-- Characters of tags. -/
def isTagChar (c : Char) : Bool := isNameChar c || c ∈ ";/?:@&=+$,.%!~*'()[]".toList

/-- The bytes of a text of tag characters. -/
def bytes? : List Char → Option (List UInt8)
  | '%' :: a :: b :: r => do
    let byte := UInt8.ofNat (16 * (← hexDigit? a) + (← hexDigit? b))
    return byte :: (← bytes? r)
  | '%' :: _ => none
  | c :: r => do return UInt8.ofNat c.toNat :: (← bytes? r)
  | [] => some []

/-- A text of tag characters without its escapes. A null character ends it. -/
def unescaped? (s : List Char) : Option (List Char) := do
  let text ← String.fromUTF8? (← bytes? s).toByteArray
  return text.toList.takeWhile (· ≠ '\x00')

/-! ### Parts of a tag -/

/-- The handle of a tag: nothing or a name between exclamation marks. -/
def tagHandle (c : Cursor) : List Char × Cursor :=
  let name := c.step.run isNameChar
  let c' := c.step.skip name.length
  if c'.peek 0 == some '!' then ('!' :: name ++ ['!'], c'.step) else ('!' :: name, c')

/-- The tag characters here; unless it may be empty, there must be one. -/
def tagText (mayBeEmpty : Bool) (c : Cursor) : Except Fault (List Char × Cursor) :=
  let run := c.run isTagChar
  match unescaped? run with
  | some text =>
    if run.isEmpty && !mayBeEmpty then .error .malformedDocument
    else .ok (text, c.skip run.length)
  | none => .error .malformedDocument

/-! ### Handles -/

/-- Handles of tags and what they stand for. -/
abbrev Prefixes := List (List Char × List Char)

/-- The start of the tags that every document knows. -/
def coreTag : List Char := "tag:yaml.org,2002:".toList

/-- The handles that need no directive. -/
def corePrefixes : Prefixes := [(['!'], ['!']), (['!', '!'], coreTag)]

/-- A tag in full. -/
def fullTag (ps : Prefixes) (handle suffix : List Char) : Except Fault (List Char) :=
  if handle.isEmpty then .ok suffix
  else match ps.lookup handle with
    | some p => .ok (p ++ suffix)
    | none => .error .malformedDocument

end CivilTime.Document
