import CivilTime.Pattern.Basic
import CivilTime.Text.Digit
import CivilTime.Text.Fold

/-!
# What a field reads

A directive says what texts a field may have when a text is read. Its forms are lists of glyphs in
the order in which they are tried, so a longer number comes before a shorter one.

* `Glyph`, `Glyph.admits`: a set of characters at one place.
* `Directive`, `Directive.spelling`: the directives and their percent signs.
* `Directive.forms`: the texts of a directive.
* `Token.directive?`: the directive of a field.
* `Pattern.directives`: those of a pattern; `Pattern.spelling` is its text with directives.
-/

namespace CivilTime

open Text

/-- The characters that may stand at one place. -/
inductive Glyph
  /-- One of the ASCII digits between two values. -/
  | digit (low high : Nat)
  /-- A decimal digit of any script. -/
  | anyDigit
  | exactly (c : Char)
  /-- A letter in either case. -/
  | letter (c : Char)
  deriving DecidableEq, Repr

/-- Whether a character may stand at a place. -/
def Glyph.admits : Glyph → Char → Bool
  | .digit low high, c => (asciiDigit? c).any fun d => low ≤ d && d ≤ high
  | .anyDigit, c => (digitValue? c).isSome
  | .exactly x, c => x == c
  | .letter x, c => sameLetter x c

/-- A text of fixed length. -/
abbrev Form := List Glyph

/-- What a field reads. -/
inductive Directive
  | fullYear
  | shortYear
  | month
  | shortMonthName
  | monthName
  | day
  | yearDay
  | shortWeekdayName
  | weekdayName
  | hour
  | halfHour
  | half
  | minute
  | second
  | fraction
  | offset
  deriving DecidableEq, Repr

namespace Directive

/-- The spelling of a directive. -/
def spelling : Directive → List Char
  | .fullYear => ['%', 'Y']
  | .shortYear => ['%', 'y']
  | .month => ['%', 'm']
  | .shortMonthName => ['%', 'b']
  | .monthName => ['%', 'B']
  | .day => ['%', 'd']
  | .yearDay => ['%', 'j']
  | .shortWeekdayName => ['%', 'a']
  | .weekdayName => ['%', 'A']
  | .hour => ['%', 'H']
  | .halfHour => ['%', 'I']
  | .half => ['%', 'p']
  | .minute => ['%', 'M']
  | .second => ['%', 'S']
  | .fraction => ['%', 'f']
  | .offset => ['%', 'z']

/-- A name in either case. -/
def nameForm (name : List Char) : Form := name.map .letter

/-- The digits of a fraction, the longest run first. -/
def digitRuns (g : Glyph) : (most : Nat) → List Form
  | 0 => []
  | n + 1 => List.replicate (n + 1) g :: digitRuns g n

/-- A number below sixty in two places. -/
def sixtieth : Form := [.digit 0 5, .anyDigit]

/-- The end of an offset: seconds with or without a fraction, or nothing. -/
def offsetTails : List Form :=
  let colons : List Form := [[.exactly ':'], []]
  let fractions := (digitRuns .anyDigit 6).map (.exactly '.' :: ·) ++ [[]]
  (colons.flatMap fun colon => fractions.map fun f => colon ++ sixtieth ++ f) ++ [[]]

/-- An offset with sign, or the letter that stands for none. -/
def offsetForms : List Form :=
  let signs : List Form := [[.exactly '+'], [.exactly '-']]
  let colons : List Form := [[.exactly ':'], []]
  (signs.flatMap fun sign => colons.flatMap fun colon =>
    offsetTails.map fun tail => sign ++ [.anyDigit, .anyDigit] ++ colon ++ sixtieth ++ tail)
    ++ [[.exactly 'Z']]

/-- The texts of a directive, in the order in which they are tried. -/
def forms : Directive → List Form
  | .fullYear => [[.anyDigit, .anyDigit, .anyDigit, .anyDigit]]
  | .shortYear => [[.anyDigit, .anyDigit]]
  | .month => [[.digit 1 1, .digit 0 2], [.digit 0 0, .digit 1 9], [.digit 1 9]]
  | .shortMonthName => monthNames.map fun m => nameForm (shortName m.toList)
  | .monthName => monthNames.map fun m => nameForm m.toList
  | .day =>
    [[.digit 3 3, .digit 0 1], [.digit 1 2, .anyDigit], [.digit 0 0, .digit 1 9], [.digit 1 9],
      [.exactly ' ', .digit 1 9]]
  | .yearDay =>
    [[.digit 3 3, .digit 6 6, .digit 0 6], [.digit 3 3, .digit 0 5, .anyDigit],
      [.digit 1 2, .anyDigit, .anyDigit], [.digit 0 0, .digit 1 9, .anyDigit],
      [.digit 0 0, .digit 0 0, .digit 1 9], [.digit 1 9, .anyDigit], [.digit 0 0, .digit 1 9],
      [.digit 1 9]]
  | .shortWeekdayName => weekdayNames.map fun d => nameForm (shortName d.toList)
  | .weekdayName => weekdayNames.map fun d => nameForm d.toList
  | .hour => [[.digit 2 2, .digit 0 3], [.digit 0 1, .anyDigit], [.anyDigit]]
  | .halfHour => [[.digit 1 1, .digit 0 2], [.digit 0 0, .digit 1 9], [.digit 1 9]]
  | .half => [nameForm ['a', 'm'], nameForm ['p', 'm']]
  | .minute => [sixtieth, [.anyDigit]]
  | .second => [[.digit 6 6, .digit 0 1], sixtieth, [.anyDigit]]
  | .fraction => digitRuns (.digit 0 9) 6
  | .offset => offsetForms

end Directive

/-- The directive of a field. -/
def Letter.directive (letter : Letter) (width : Nat) : Directive :=
  match letter with
  | .year => if width = 2 then .shortYear else .fullYear
  | .month => if width = 4 then .monthName else if width = 3 then .shortMonthName else .month
  | .day => .day
  | .yearDay => .yearDay
  | .weekday => if width = 4 then .weekdayName else .shortWeekdayName
  | .hour => .hour
  | .halfHour => .halfHour
  | .half => .half
  | .minute => .minute
  | .second => .second
  | .fraction => .fraction
  | .offset => .offset

namespace Token

/-- The directive of a token, if it is a field. -/
def directive? : Token → Option Directive
  | .literal _ => none
  | .field letter width => some (letter.directive width)

/-- The text of a token with directives; a percent sign in literal text is doubled. -/
def spelling : Token → List Char
  | .literal text => text.flatMap fun c => if c = '%' then ['%', '%'] else [c]
  | .field letter width => (letter.directive width).spelling

end Token

namespace Pattern

/-- The directives of a pattern, in their order. -/
def directives (p : Pattern) : List Directive := p.tokens.filterMap (·.directive?)

/-- The text of a pattern with directives. -/
def spelling (p : Pattern) : List Char := p.tokens.flatMap (·.spelling)

end Pattern

end CivilTime
