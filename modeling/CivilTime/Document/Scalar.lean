import CivilTime.Document.Cursor
import CivilTime.Text.Digit

/-!
# Scalars in a document

A scalar is written plainly, between quotes, or as a block of indented lines. Lines of the first two
kinds are folded: one line end is a blank, and of several all but the first are kept.

* `Folded`: a text with the blanks and line ends that have not been decided about.
* `plainScalar`: a scalar without quotes.
* `quotedScalar`: a scalar between quotes; `escapeOf` reads an escape.
* `blockScalar`: a block, whose line ends are kept or folded.
-/

namespace CivilTime.Document

open Text

/-- A text being folded, with its last characters first. `leading` is the first of the line ends
that follow it and `trailing` are the others; blanks at the end of a line are dropped. -/
structure Folded where
  text : List Char := []
  blanks : List Char := []
  broken : Bool := false
  leading : Option Char := none
  trailing : List Char := []

namespace Folded

/-- Decides about blanks and line ends, because more text follows. -/
def flush (f : Folded) : Folded :=
  if f.broken then
    match f.leading with
    | some '\n' => { text := (if f.trailing.isEmpty then [' '] else f.trailing) ++ f.text }
    | some c => { text := f.trailing ++ c :: f.text }
    | none => { text := f.trailing ++ f.text }
  else { text := f.blanks ++ f.text }

/-- Adds a character. -/
def push (f : Folded) (c : Char) : Folded := let f := f.flush; { f with text := c :: f.text }

/-- Adds a blank. -/
def addGap (f : Folded) (c : Char) : Folded :=
  if f.broken then f else { f with blanks := c :: f.blanks }

/-- Adds a line end. -/
def addBreak (f : Folded) (c : Char) : Folded :=
  if f.broken then { f with trailing := plainBreak c :: f.trailing }
  else { f with blanks := [], broken := true, leading := some (plainBreak c) }

/-- Adds a line end that is escaped: it and the blanks after it are dropped. -/
def joinLine (f : Folded) : Folded := { f.flush with broken := true }

/-- Whether a blank or a line end waits for more text. -/
def waits (f : Folded) : Bool := f.broken || !f.blanks.isEmpty

/-- The text, without what waits. -/
def result (f : Folded) : List Char := f.text.reverse

end Folded

/-! ### Plain scalars -/

/-- Characters that end a plain scalar inside brackets. -/
def flowEnds : List Char := [',', ':', '?', '[', ']', '\x7b', '\x7d']

/-- What was read, and where the reading ended. -/
structure Scanned where
  text : List Char
  cursor : Cursor
  /-- Whether a line end was passed after the text. -/
  broken : Bool := false

/-- What was read when the reading ends here. -/
def Folded.scanned (f : Folded) (c : Cursor) : Scanned := ⟨f.result, c, f.broken⟩

/-- Reads a plain scalar. Outside brackets it ends with a line that is indented less than `indent`;
it also ends before a comment, and before a colon with a blank after it. Inside brackets no other
colon may follow it. -/
def plainScalar (inFlow : Bool) (indent : Nat) :
    (fuel : Nat) → Cursor → Folded → Except Fault Scanned
  | 0, c, f => .ok (f.scanned c)
  | fuel + 1, c, f =>
    match c.rest with
    | [] => .ok (f.scanned c)
    | x :: r =>
      if isGap x then
        if f.broken && c.column < indent && x == '\t' then .error .malformedDocument
        else plainScalar inFlow indent fuel c.step (f.addGap x)
      else if isBreak x then plainScalar inFlow indent fuel c.step (f.addBreak x)
      else
        let outside := f.waits && !inFlow && c.column < indent
        let atChunk := f.waits || f.text.isEmpty
        if outside || (atChunk && (c.atMarker || x == '#')) then .ok (f.scanned c)
        else if inFlow && x == ':' && !isGapOrEnd r.head? then .error .malformedDocument
        else if (x == ':' && isGapOrEnd r.head?) || (inFlow && x ∈ flowEnds) then
          .ok (f.scanned c)
        else plainScalar inFlow indent fuel c.step (f.push x)

/-! ### Quoted scalars -/

/-- The characters of the escapes of one letter. -/
def shortEscapes : List (Char × Nat) :=
  [('0', 0), ('a', 7), ('b', 8), ('t', 9), ('\t', 9), ('n', 10), ('v', 11), ('f', 12), ('r', 13),
    ('e', 27), (' ', 32), ('"', 34), ('\'', 39), ('/', 47), ('\\', 92), ('N', 0x85), ('_', 0xA0),
    ('L', 0x2028), ('P', 0x2029)]

/-- The character of a number of hexadecimal places. -/
def hexChar? (places : Nat) (s : List Char) : Option Char := do
  if s.length < places then none
  else
    let ds ← (s.take places).mapM hexDigit?
    let n := ds.foldl (fun n d => 16 * n + d) 0
    if (0xD800 ≤ n ∧ n ≤ 0xDFFF) ∨ 0x10FFFF < n then none else some (Char.ofNat n)

/-- The character of an escape and the number of characters after the backslash. -/
def escapeOf : List Char → Option (Char × Nat)
  | 'x' :: r => (hexChar? 2 r).map (·, 3)
  | 'u' :: r => (hexChar? 4 r).map (·, 5)
  | 'U' :: r => (hexChar? 8 r).map (·, 9)
  | c :: _ => (shortEscapes.lookup c).map fun n => (Char.ofNat n, 1)
  | [] => none

/-- Reads a scalar after its first quote. Two single quotes stand for one; between double quotes a
backslash escapes. -/
def quotedScalar (single : Bool) : (fuel : Nat) → Cursor → Folded → Except Fault Scanned
  | 0, _, _ => .error .malformedDocument
  | fuel + 1, c, f =>
    if c.atMarker then .error .malformedDocument
    else match single, c.rest with
    | _, [] => .error .malformedDocument
    | true, '\'' :: '\'' :: _ => quotedScalar single fuel (c.skip 2) (f.push '\'')
    | true, '\'' :: _ => .ok ⟨f.flush.result, c.step, false⟩
    | false, '"' :: _ => .ok ⟨f.flush.result, c.step, false⟩
    | false, '\\' :: r =>
      if r.head?.any isBreak then quotedScalar single fuel (c.skip 2) f.joinLine
      else match escapeOf r with
        | some (x, n) => quotedScalar single fuel (c.skip (n + 1)) (f.push x)
        | none => .error .malformedDocument
    | _, x :: _ =>
      let f := if isGap x then f.addGap x else if isBreak x then f.addBreak x else f.push x
      quotedScalar single fuel c.step f

/-! ### Block scalars -/

/-- What becomes of the line ends after a block. -/
inductive Chomping
  | strip
  | clip
  | keep
  deriving DecidableEq

/-- A line with the character that ends it. -/
structure Line where
  text : List Char
  ending : Option Char

/-- The lines of a text. -/
def lines (s : List Char) : List Line :=
  s.foldr
    (fun c ls =>
      if isBreak c then ⟨[], some c⟩ :: ls
      else match ls with
        | l :: r => ⟨c :: l.text, l.ending⟩ :: r
        | [] => [⟨[c], none⟩])
    [⟨[], none⟩]

/-- The blanks that a line starts with. -/
def Line.indentation (l : Line) : Nat := (l.text.takeWhile (· == ' ')).length

/-- The indentation of a block: the widest one up to its first line with text, and at least one more
than around it. -/
def detectIndent (around : Int) (ls : List Line) : Nat :=
  let empty := ls.takeWhile fun l => l.ending.isSome && l.text.all (· == ' ')
  let next := (ls.drop empty.length).take 1
  let widest := (empty ++ next).foldl (fun n l => max n l.indentation) 0
  max widest (max 1 (around + 1).toNat)

/-- A block being read: its text with the last characters first, the line end that follows it, the
empty lines after that, and whether its last line started with a blank. -/
structure Block where
  text : List Char := []
  leading : Option Char := none
  empty : List Char := []
  indented : Bool := false

/-- Adds the line ends that wait, because a line follows that starts with a blank or not. -/
def Block.join (b : Block) (literal indented : Bool) : List Char :=
  if !literal && b.leading == some '\n' && !b.indented && !indented then
    (if b.empty.isEmpty then [' '] else b.empty) ++ b.text
  else b.empty ++ b.leading.toList ++ b.text

/-- Reads the lines of a block and counts them. The block ends before the first line that is
indented less and has text. A line of blanks up to a tab is not allowed. -/
def blockLines (literal : Bool) (indent : Nat) :
    List Line → Block → Nat → Except Fault (Block × Nat)
  | [], b, n => .ok (b, n)
  | l :: ls, b, n =>
    let blanks := min l.indentation indent
    let text := l.text.drop blanks
    if blanks < indent && text.head? == some '\t' then .error .malformedDocument
    else if text.isEmpty then
      match l.ending with
      | some c => blockLines literal indent ls { b with empty := plainBreak c :: b.empty } (n + 1)
      | none => .ok (b, n)
    else if blanks < indent then .ok (b, n)
    else
      let indented := text.head?.any isGap
      let joined := b.join literal indented
      blockLines literal indent ls
        ⟨text.reverse ++ joined, l.ending.map plainBreak, [], indented⟩ (n + 1)

/-- The chomping and the indentation that the head of a block gives, and the head's length. -/
def blockHead (s : List Char) : Except Fault (Chomping × Option Nat × Nat) :=
  let chomping? : Char → Option Chomping
    | '+' => some .keep
    | '-' => some .strip
    | _ => none
  let checked (ch : Chomping) (d : Option Nat) (n : Nat) :=
    if d = some 0 then .error .malformedDocument else .ok (ch, d, n)
  match s with
  | a :: b :: _ =>
    match chomping? a, asciiDigit? a, chomping? b, asciiDigit? b with
    | some ch, _, _, some d => checked ch (some d) 2
    | some ch, _, _, none => checked ch none 1
    | none, some d, some ch, _ => checked ch (some d) 2
    | none, some d, none, _ => checked .clip (some d) 1
    | none, none, _, _ => .ok (.clip, none, 0)
  | [a] =>
    match chomping? a, asciiDigit? a with
    | some ch, _ => checked ch none 1
    | none, some d => checked .clip (some d) 1
    | none, none => .ok (.clip, none, 0)
  | [] => .ok (.clip, none, 0)

/-- Reads a block after its first character. -/
def blockScalar (literal : Bool) (around : Int) (c : Cursor) : Except Fault Scanned := do
  let (chomping, given, n) ← blockHead c.rest
  let c := (c.skip n).skipRun isGap
  let c := if c.peek 0 == some '#' then c.skipRun (!isBreak ·) else c
  if !isBreakOrEnd (c.peek 0) then throw .malformedDocument
  let c := c.step
  let ls := lines c.rest
  let indent := match given with
    | some d => (max around 0).toNat + d
    | none => detectIndent around ls
  let first := ls.find? fun l => l.ending.isNone || !l.text.all (· == ' ')
  if given.isNone && first.any (fun l => l.text[l.indentation]? == some '\t') then
    throw .malformedDocument
  let (b, count) ← blockLines literal indent ls {} 0
  let taken := (ls.take count).foldl (fun k l => k + l.text.length + 1) 0
  let text := match chomping with
    | .strip => b.text
    | .clip => b.leading.toList ++ b.text
    | .keep => b.empty ++ b.leading.toList ++ b.text
  return ⟨text.reverse, c.skip taken, true⟩

end CivilTime.Document
