import CivilTime.Pattern.Token
import CivilTime.Value

/-!
# Patterns

A pattern is written as a text. Outside quotations a letter stands for a field, and a run of one
letter is one field; quoted text, and all else outside letters, is literal. Two quotes in a row are
a quote, inside and outside a quotation. The first fault from the left is the one that is told.

* `Mark`: what one place of the text contributes: a letter or a literal character.
* `marks`: the marks of a text, or its first fault.
* `Token.cons`, `gather`: the marks gathered into tokens.
* `Pattern`, `Pattern.ofText`, `Pattern.ofValue`: the pattern of a text or value.
* `Pattern.format`: a stamp written by a pattern.
-/

namespace CivilTime

/-- What one place of a pattern contributes. -/
inductive Mark
  | text (c : Char)
  | letter (l : Letter)
  deriving DecidableEq, Repr

/-- Characters that patterns keep for later use. -/
def reservedChars : List Char := ['[', ']', '\x7b', '\x7d', '#']

/-- The number of times that `c` stands at the start of a text. -/
def runLength (c : Char) (s : List Char) : Nat := (s.takeWhile (· = c)).length

/-- The mark of a character outside quotations; `rest` is the text after it. -/
def markOf (source : List Char) (c : Char) (rest : List Char) : Except PatternFault Mark :=
  if c ∈ reservedChars then .error (.reserved c source)
  else if c.isAlpha then
    match Letter.ofChar? c with
    | none => .error (.unknownLetter c source)
    | some l =>
      if l.maxWidth < runLength c rest + 1 then .error (.tooManyLetters c (runLength c rest + 1))
      else .ok (.letter l)
  else .ok (.text c)

/-- The marks of a text, from inside or outside a quotation. -/
def marks (source : List Char) : (inQuote : Bool) → List Char → Except PatternFault (List Mark)
  | false, [] => .ok []
  | true, [] => .error (.unterminatedQuote source)
  | inQuote, '\'' :: '\'' :: r => do return .text '\'' :: (← marks source inQuote r)
  | inQuote, '\'' :: r => marks source (!inQuote) r
  | true, c :: r => do return .text c :: (← marks source true r)
  | false, c :: r => do
    let m ← markOf source c r
    return m :: (← marks source false r)

/-- A mark in front of tokens: it joins the first of them if that is of its kind. -/
def Token.cons : Mark → List Token → List Token
  | .text c, .literal t :: r => .literal (c :: t) :: r
  | .text c, r => .literal [c] :: r
  | .letter l, .field k n :: r =>
    if l = k then .field k (n + 1) :: r else .field l 1 :: .field k n :: r
  | .letter l, r => .field l 1 :: r

/-- The tokens of a list of marks. -/
def gather (ms : List Mark) : List Token := ms.foldr Token.cons []

/-- A text with the tokens that it stands for. -/
structure Pattern where
  source : List Char
  tokens : List Token
  deriving DecidableEq, Repr

namespace Pattern

/-- The pattern of a text. -/
def ofText (source : List Char) : Except PatternFault Pattern := do
  return ⟨source, gather (← marks source false source)⟩

/-- The pattern of a value, which must be a text that is not empty. -/
def ofValue (v : Value) : Except Fault Pattern :=
  match v with
  | .text s =>
    if s.isEmpty then .error (.pattern (.notText v.shown))
    else (ofText s.toList).mapError .pattern
  | _ => .error (.pattern (.notText v.shown))

/-- The text of a stamp. -/
def format (p : Pattern) (s : Stamp) : List Char := render p.tokens s

end Pattern

end CivilTime
