import CivilTime.Pattern.Directive
import CivilTime.Text.Blank

/-!
# Reading a text along a pattern

A text is read from its start. Literal characters match in either case, a run of blanks in the
pattern matches any run of blanks, and a field matches one of its forms. Where a choice leads to no
reading of what follows, the next one is tried; the first reading found counts.

* `Item`: what a pattern asks for; `Pattern.items` lists it.
* `Form.split?`, `blankSplits`, `Item.splits`: the ways to take an item off a text.
* `readItems`: the first way to take all items off a text, with what is left of it.
-/

namespace CivilTime

open Text

/-- What a pattern asks for at one place. -/
inductive Item
  | same (c : Char)
  | blanks
  | field (d : Directive)
  deriving DecidableEq, Repr

/-- The items of literal text: a run of blanks is one item. -/
def literalItems : List Char → List Item
  | [] => []
  | c :: r =>
    if isBlank c then
      match literalItems r with
      | .blanks :: is => .blanks :: is
      | is => .blanks :: is
    else .same c :: literalItems r

/-- The items of a token. -/
def Token.items : Token → List Item
  | .literal text => literalItems text
  | .field letter width => [.field (letter.directive width)]

/-- The items of a pattern. -/
def Pattern.items (p : Pattern) : List Item := p.tokens.flatMap (·.items)

/-- A text of the form at the start of a text, and the rest. -/
def Form.split? : Form → List Char → Option (List Char × List Char)
  | [], s => some ([], s)
  | _ :: _, [] => none
  | g :: gs, c :: r => if g.admits c then (Form.split? gs r).map fun p => (c :: p.1, p.2) else none

/-- The ways to take blanks off a text, at least one, as many as possible first. -/
def blankSplits : List Char → List (List Char × List Char)
  | [] => []
  | c :: r =>
    if isBlank c then (blankSplits r).map (fun p => (c :: p.1, p.2)) ++ [([c], r)] else []

/-- The ways to take an item off a text, in the order in which they are tried. -/
def Item.splits : Item → List Char → List (List Char × List Char)
  | .same _, [] => []
  | .same c, x :: r => if sameLetter c x then [([x], r)] else []
  | .blanks, s => blankSplits s
  | .field d, s => d.forms.filterMap (Form.split? · s)

/-- The text that a field has taken. -/
structure Capture where
  directive : Directive
  text : List Char
  deriving DecidableEq, Repr

/-- The capture of an item, if it is a field. -/
def Item.capture : Item → List Char → List Capture
  | .field d, text => [⟨d, text⟩]
  | _, _ => []

/-- The first way to take items off a text: the captures and the rest. -/
def readItems : List Item → List Char → Option (List Capture × List Char)
  | [], s => some ([], s)
  | i :: is, s =>
    (i.splits s).findSome? fun p => (readItems is p.2).map fun q => (i.capture p.1 ++ q.1, q.2)

end CivilTime
