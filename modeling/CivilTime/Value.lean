import CivilTime.Calendar.WallTime
import CivilTime.Decimal.Shortest
import CivilTime.Text.Quoted

/-!
# Values of no fixed type

What a configuration document holds and what callers may pass where a pattern, a unit or a number
of milliseconds is due. A value can be shown, with text in quotation marks, and it has the name of
its type, which messages tell.

* `Value`: the values; `Value.bytesText?` is the text that bytes hold.
* `Value.shown`: the text of a value in messages.
* `Value.typeName`: the name of a type in messages.
* `Value.isEmpty`: the values that count as nothing given.
* `Value.sameKey`: when two keys of a mapping are one key.
-/

namespace CivilTime

open Text

/-- A fractional number: a decimal fraction or one of the special values. -/
inductive Fractional
  | finite (d : Decimal)
  | infinite (negative : Bool)
  /-- No number; it equals no other one, so a mark tells which one it is. -/
  | undefinedNumber (mark : Nat)
  deriving DecidableEq, Repr

/-- A value of no fixed type. -/
inductive Value
  | null
  | flag (b : Bool)
  | integer (n : Int)
  | fraction (x : Fractional)
  | text (s : String)
  | bytes (bs : List UInt8)
  | date (d : Date)
  | dateTime (w : WallTime)
  | sequence (items : List Value)
  /-- A sequence that does not change, such as a key that is one. -/
  | tuple (items : List Value)
  | set (members : List Value)
  | mapping (entries : List (Value × Value))
  deriving Repr, Inhabited

namespace Fractional

/-- The text of a fractional number. -/
def shown : Fractional → List Char
  | .finite d => d.text
  | .infinite negative => if negative then "-inf".toList else "inf".toList
  | .undefinedNumber _ => "nan".toList

/-- The integer that a fractional number is, if it is whole. -/
def whole? : Fractional → Option Int
  | .finite d => do
    let b ← d.magnitude
    let n ← b.whole?
    some (if d.coefficient < 0 then -n else n)
  | _ => none

end Fractional

namespace Value

/-- The text that bytes hold in UTF-8. -/
def bytesText? (bs : List UInt8) : Option String := String.fromUTF8? bs.toByteArray

/-- The text of a date: year, month and day. -/
def dateText (d : Date) : List Char :=
  padded 4 d.year ++ '-' :: padded 2 d.month ++ '-' :: padded 2 d.day

/-- The text of a time of day. -/
def timeText (f : Fields) : List Char :=
  padded 2 f.hour ++ ':' :: padded 2 f.minute ++ ':' :: padded 2 f.second ++ '.' :: padded 6 f.micro

/-- Texts with a comma and a blank between them. -/
def commas : List (List Char) → List Char
  | [] => []
  | [s] => s
  | s :: t :: r => s ++ ',' :: ' ' :: commas (t :: r)

mutual

/-- The text of a value in messages. -/
def shown : Value → List Char
  | .null => "None".toList
  | .flag true => "True".toList
  | .flag false => "False".toList
  | .integer n => ofInt n
  | .fraction x => x.shown
  | .text s => quoted s.toList
  | .bytes bs => 'b' :: quoted (bs.map fun b => Char.ofNat b.toNat)
  | .date d => dateText d
  | .dateTime w => dateText w.date ++ ' ' :: timeText w.fields
  | .sequence items => '[' :: commas (shownItems items) ++ [']']
  | .tuple items => '(' :: commas (shownItems items) ++ [')']
  | .set members => '\x7b' :: commas (shownItems members) ++ ['\x7d']
  | .mapping entries => '\x7b' :: commas (shownEntries entries) ++ ['\x7d']

/-- The texts of the items of a sequence. -/
def shownItems : List Value → List (List Char)
  | [] => []
  | v :: r => v.shown :: shownItems r

/-- The texts of the entries of a mapping. -/
def shownEntries : List (Value × Value) → List (List Char)
  | [] => []
  | (k, v) :: r => (k.shown ++ ':' :: ' ' :: v.shown) :: shownEntries r

end

/-- The name of a value's type in messages. -/
def typeName : Value → String
  | .null => "NoneType"
  | .flag _ => "bool"
  | .integer _ => "int"
  | .fraction _ => "float"
  | .text _ => "str"
  | .bytes _ => "bytes"
  | .date _ => "date"
  | .dateTime _ => "datetime"
  | .sequence _ => "list"
  | .tuple _ => "tuple"
  | .set _ => "set"
  | .mapping _ => "dict"

/-- The values that count as nothing given: null, false, zero and what holds nothing. -/
def isEmpty : Value → Bool
  | .null => true
  | .flag b => !b
  | .integer n => n == 0
  | .fraction x => x.whole? == some 0
  | .text s => s.isEmpty
  | .bytes bs => bs.isEmpty
  | .date _ => false
  | .dateTime _ => false
  | .sequence items => items.isEmpty
  | .tuple items => items.isEmpty
  | .set members => members.isEmpty
  | .mapping entries => entries.isEmpty

/-- The integer that a number or a truth value stands for among the keys of a mapping. -/
def keyNumber? : Value → Option Int
  | .flag b => some (if b then 1 else 0)
  | .integer n => some n
  | .fraction x => x.whole?
  | _ => none

mutual

/-- Whether two keys of a mapping are one key; numbers are compared by their amount. Collections
that may change are no keys. -/
def sameKey : Value → Value → Bool
  | .null, .null => true
  | .text s, .text t => s == t
  | .bytes xs, .bytes ys => xs == ys
  | .date d, .date e => d == e
  | .dateTime v, .dateTime w => v == w
  | .tuple xs, .tuple ys => sameKeys xs ys
  | .fraction (.finite d), .fraction (.finite e) =>
    d.magnitude == e.magnitude && (decide (d.coefficient < 0) == decide (e.coefficient < 0))
  | .fraction (.infinite b), .fraction (.infinite c) => b == c
  | .fraction (.undefinedNumber a), .fraction (.undefinedNumber b) => a == b
  | v, w => v.keyNumber?.isSome && v.keyNumber? == w.keyNumber?

/-- Whether two tuples hold the same keys in the same order. -/
def sameKeys : List Value → List Value → Bool
  | [], [] => true
  | x :: xs, y :: ys => x.sameKey y && sameKeys xs ys
  | _, _ => false

end

end Value

end CivilTime
