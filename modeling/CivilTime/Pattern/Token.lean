import CivilTime.Calendar.Names
import CivilTime.Zone.Offset

/-!
# Tokens of a pattern

A pattern is a list of tokens: literal text, and fields, each a letter with the length of its run.

* `Letter`: the fields of a date and time that a pattern can show; `Letter.char`, `Letter.ofChar?`
  and `Letter.maxWidth` are its spelling and its longest run.
* `Token`: literal text or a field.
* `Token.render`: the text of a token for a stamp.
* `render`: the text of a list of tokens.
-/

namespace CivilTime

open Text

/-- A field that a pattern can show. -/
inductive Letter
  | year
  | month
  | day
  | yearDay
  | weekday
  | hour
  | halfHour
  | half
  | minute
  | second
  | fraction
  | offset
  deriving DecidableEq, Repr

namespace Letter

/-- All letters. -/
def all : List Letter :=
  [.year, .month, .day, .yearDay, .weekday, .hour, .halfHour, .half, .minute, .second, .fraction,
    .offset]

/-- The spelling of a letter. -/
def char : Letter → Char
  | .year => 'y'
  | .month => 'M'
  | .day => 'd'
  | .yearDay => 'D'
  | .weekday => 'E'
  | .hour => 'H'
  | .halfHour => 'h'
  | .half => 'a'
  | .minute => 'm'
  | .second => 's'
  | .fraction => 'S'
  | .offset => 'Z'

/-- The letter with a spelling. -/
def ofChar? (c : Char) : Option Letter := all.find? (·.char == c)

/-- The longest run of a letter. -/
def maxWidth : Letter → Nat
  | .year | .month | .weekday => 4
  | .yearDay | .offset => 3
  | .day | .hour | .halfHour | .minute | .second => 2
  | .half => 1
  | .fraction => 9

theorem ofChar?_char (l : Letter) : ofChar? l.char = some l := by cases l <;> decide

theorem char_eq_of_ofChar? {c : Char} {l : Letter} (h : ofChar? c = some l) : l.char = c := by
  have := List.find?_some h
  simpa using this

end Letter

/-- A part of a pattern. -/
inductive Token
  | literal (text : List Char)
  | field (letter : Letter) (width : Nat)
  deriving DecidableEq, Repr

namespace Token

/-- A name in full for the widest run, else its first three letters. -/
def named (width : Nat) (name : List Char) : List Char :=
  if width = 4 then name else shortName name

/-- The hour of a clock with twelve hours. -/
def hourOfHalf (hour : Nat) : Nat := if hour % 12 = 0 then 12 else hour % 12

/-- The text of a field. Numbers have at least as many places as the run has letters. A year of two
letters is cut to two places, and a fraction is cut, with zeros after the sixth place. A stamp
without offset is written with the offset of universal time. -/
def renderField (letter : Letter) (width : Nat) (s : Stamp) : List Char :=
  let f := s.wall.fields
  match letter with
  | .year => if width = 2 then padded 2 (f.year % 100) else padded width f.year
  | .month => if 3 ≤ width then named width s.wall.monthName else padded width f.month
  | .day => padded width f.day
  | .yearDay => padded width f.dayOfYear
  | .weekday => named width s.wall.weekdayName
  | .hour => padded width f.hour
  | .halfHour => padded width (hourOfHalf f.hour)
  | .half => if f.hour < 12 then ['A', 'M'] else ['P', 'M']
  | .minute => padded width f.minute
  | .second => padded width f.second
  | .fraction => (padded 6 f.micro ++ ['0', '0', '0']).take width
  | .offset => offsetClock [] (s.offset.getD 0)

/-- The text of a token. -/
def render : Token → Stamp → List Char
  | .literal text, _ => text
  | .field letter width, s => renderField letter width s

end Token

/-- The text of a list of tokens. -/
def render (tokens : List Token) (s : Stamp) : List Char := tokens.flatMap (·.render s)

end CivilTime
