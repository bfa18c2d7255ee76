import CivilTime.Document.Kind
import CivilTime.Text.Base64
import CivilTime.Text.Capital

/-!
# Values of scalars

The value of a scalar is read from its text as its kind asks for. A plain scalar has the form of its
kind, a tag may ask for a kind that the text does not have the form of. Underscores may stand
anywhere in a number.

* `integerValue`, `fractionValue`, `flagValue`, `bytesValue`, `timestampValue`: values of one kind.
* `Kind.value`: the value of a scalar of any kind.
-/

namespace CivilTime.Document

open Text

/-- The words for truth values where one is asked for, in small letters. -/
def flagWords : List (String × Bool) :=
  [("yes", true), ("no", false), ("y", true), ("n", false), ("true", true), ("false", false),
    ("on", true), ("off", false)]

/-- A truth value. -/
def flagValue (s : List Char) : Except Fault Bool :=
  match flagWords.lookup (String.ofList (small s)) with
  | some b => .ok b
  | none => .error .unknownFlagWord

/-- Whether a number is negative, and its text without underscores and its sign. There must be a
character. -/
def unsigned (s : List Char) : Except Fault (Bool × List Char) :=
  let s := s.filter (· ≠ '_')
  if s.isEmpty then .error .emptyNumber else .ok (splitSign s)

/-- The base that marks an integer, and what follows the mark. -/
def markedBase : List Char → Base × List Char
  | '0' :: 'b' :: r => (.two, r)
  | '0' :: 'o' :: r => (.eight, r)
  | '0' :: 'x' :: r => (.sixteen, r)
  | r => (.ten, r)

/-- An integer. What follows its sign and the mark of its base may have a sign and a mark again. -/
def integerValue (s : List Char) : Except Fault Int := do
  let (negative, r) ← unsigned s
  let (base, r) := markedBase r
  match integerOf? base r with
  | some n => return signed negative n
  | none => throw .invalidValue

/-- The exponent at the end of a number. -/
def exponent? : List Char → Option Int
  | [] => some 0
  | 'e' :: r =>
    let (negative, ds) := splitSign r
    if ds.isEmpty then none
    else (ds.mapM asciiDigit?).map fun ds => signed negative (number ds)
  | _ => none

/-- A decimal fraction without a sign: digits around a point, of which there must be one, and an
exponent. -/
def decimal? (negative : Bool) (s : List Char) : Option Fractional := do
  let isDigit (c : Char) := (asciiDigit? c).isSome
  let whole := s.takeWhile isDigit
  let (places, rest) := match s.drop whole.length with
    | '.' :: r => (r.takeWhile isDigit, r.dropWhile isDigit)
    | r => ([], r)
  let ds := (whole ++ places).filterMap asciiDigit?
  if ds.isEmpty then none
  else
    let d : Decimal := ⟨signed negative (number ds), (← exponent? rest) - places.length⟩
    return if d.magnitude.isSome then .finite d else .infinite negative

/-- A fractional number in small letters, with another sign and the mark of an undefined number. -/
def fractionOf? (negative : Bool) (mark : Nat) (s : List Char) : Option Fractional :=
  let (again, r) := splitSign (trimmed s)
  let negative := negative != again
  if String.ofList r ∈ ["inf", "infinity"] then some (.infinite negative)
  else if String.ofList r = "nan" then some (.undefinedNumber mark)
  else decimal? negative r

/-- A fractional number. The word of the notation always stands for the undefined number with the
mark 0. -/
def fractionValue (mark : Nat) (s : List Char) : Except Fault Fractional := do
  let (negative, r) ← unsigned (small s)
  if String.ofList r = ".inf" then return .infinite negative
  if String.ofList r = ".nan" then return .undefinedNumber 0
  match fractionOf? negative mark r with
  | some x => return x
  | none => throw .invalidValue

/-- Bytes that are written as text. -/
def bytesValue (s : List Char) : Except Fault (List UInt8) :=
  match Base64.decode? s with
  | some bs => if isAscii s then .ok bs else .error .malformedDocument
  | none => .error .malformedDocument

/-- A timestamp. -/
def timestampValue (s : List Char) : Except Fault Value :=
  match Timestamp.ofText? (dropFinalBreak s) with
  | some t => t.value
  | none => .error .malformedDocument

/-- The value of a scalar; an undefined number gets a mark. Kinds that no scalar has are refused. -/
def Kind.value (k : Kind) (mark : Nat) (s : List Char) : Except Fault Value :=
  match k with
  | .null => .ok .null
  | .flag => (flagValue s).map .flag
  | .integer => (integerValue s).map .integer
  | .fraction => (fractionValue mark s).map .fraction
  | .text => .ok (.text (String.ofList s))
  | .bytes => (bytesValue s).map .bytes
  | .timestamp => timestampValue s
  | _ => .error .malformedDocument

end CivilTime.Document
