import CivilTime.Fault

/-!
# Walking through a document

A cursor is a place in the text of a document with the line and the column that it lies on. The
characters of a document are classed by what they do to its lines.

* `isBreak`, `isGap`, `isBreakOrEnd`, `isGapOrEnd`: line ends and blanks.
* `isDocumentChar`: the characters that a document may hold.
* `Cursor`, `Cursor.skip`: the place and moving on.
* `Cursor.atMarker`: a line that starts or ends a document.
* `withPlainLines`, `Cursor.ofText`: one kind of line end for all, and where a text starts.
-/

namespace CivilTime.Document

/-- Characters that end a line. -/
def isBreak (c : Char) : Bool :=
  c == '\n' || c == '\r' || c.toNat == 0x85 || c.toNat == 0x2028 || c.toNat == 0x2029

/-- Blanks inside a line. -/
def isGap (c : Char) : Bool := c == ' ' || c == '\t'

/-- The end of a line or of the text. -/
def isBreakOrEnd : Option Char → Bool
  | some c => isBreak c
  | none => true

/-- A blank, the end of a line or of the text. -/
def isGapOrEnd : Option Char → Bool
  | some c => isGap c || isBreak c
  | none => true

/-- The character that a line end is read as. -/
def plainBreak (c : Char) : Char :=
  if c.toNat = 0x2028 ∨ c.toNat = 0x2029 then c else '\n'

/-- Characters that a document may hold. -/
def isDocumentChar (c : Char) : Bool :=
  let n := c.toNat
  n == 9 || n == 10 || n == 13 || (32 ≤ n && n ≤ 126) || n == 0x85
    || (0xA0 ≤ n && n ≤ 0xD7FF) || (0xE000 ≤ n && n ≤ 0xFFFD) || 0x10000 ≤ n

/-- The text with one kind of line end in place of carriage returns. -/
def withPlainLines : List Char → List Char
  | '\r' :: '\n' :: r => '\n' :: withPlainLines r
  | '\r' :: r => '\n' :: withPlainLines r
  | c :: r => c :: withPlainLines r
  | [] => []

/-- A place in a text: what is left of it, and where this lies. -/
structure Cursor where
  rest : List Char
  line : Nat := 0
  column : Nat := 0
  index : Nat := 0

namespace Cursor

/-- The place after one character. -/
def step (c : Cursor) : Cursor :=
  match c.rest with
  | [] => c
  | x :: r =>
    if isBreak x then ⟨r, c.line + 1, 0, c.index + 1⟩
    else ⟨r, c.line, c.column + 1, c.index + 1⟩

/-- The place after some characters. -/
def skip : Nat → Cursor → Cursor
  | 0, c => c
  | n + 1, c => skip n c.step

/-- The place where a text starts. A byte order mark before it is passed over, and so is a second
one, which takes a column. -/
def ofText (text : List Char) : Cursor :=
  let isMark (c : Char) := c.toNat == 0xFEFF
  let text := if text.head?.any isMark then text.drop 1 else text
  let c : Cursor := { rest := withPlainLines text }
  if text.head?.any isMark then c.step else c

/-- The character `n` places on. -/
def peek (c : Cursor) (n : Nat) : Option Char := c.rest[n]?

/-- The characters here that satisfy a condition. -/
def run (c : Cursor) (p : Char → Bool) : List Char := c.rest.takeWhile p

/-- The place after the characters that satisfy a condition. -/
def skipRun (c : Cursor) (p : Char → Bool) : Cursor := c.skip (c.run p).length

/-- Whether a line that starts or ends a document begins here; `mark` is its character. -/
def atMarkerOf (c : Cursor) (mark : Char) : Bool :=
  c.column == 0 && c.rest.take 3 == [mark, mark, mark] && isGapOrEnd (c.peek 3)

/-- Whether a line that starts or ends a document begins here. -/
def atMarker (c : Cursor) : Bool := c.atMarkerOf '-' || c.atMarkerOf '.'

end Cursor

end CivilTime.Document
