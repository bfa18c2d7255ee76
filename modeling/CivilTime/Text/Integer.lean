import CivilTime.Text.Blank
import CivilTime.Text.Digit
import CivilTime.Text.Numeral

/-!
# Integers in a text

An integer is read from digits of a base, which may be those of any script. A sign and the mark of
the base may precede the digits, and blanks may surround all of it. In base ten there is a limit to the
digits that are read or written.

* `plainForm`, `trimmed`: digits and blanks of all scripts as those of ASCII, without blanks around.
* `splitSign`: a number without its sign.
* `Base`: the bases that have a mark, and ten.
* `maxDigits`, `DigitLimit`: how many digits there may be in base ten.
* `natural?`: the number that digits of a base denote.
* `integerOf?`: the integer of a text.
-/

namespace CivilTime.Text

/-- A digit or a blank of any script as one of ASCII; other characters stay as they are. -/
def plainForm (c : Char) : Char :=
  if c.toNat < 128 then c
  else if isBlank c then ' '
  else match digitValue? c with
    | some d => digitChar d
    | none => c

/-- The blanks of ASCII that may surround a number. -/
def isPadding (c : Char) : Bool := c == ' ' || (9 ≤ c.toNat && c.toNat ≤ 13)

/-- The plain form of a text, without the blanks around it. -/
def trimmed (s : List Char) : List Char :=
  (((s.map plainForm).dropWhile isPadding).reverse.dropWhile isPadding).reverse

/-- Whether a number is negative, and what follows its sign. -/
def splitSign : List Char → Bool × List Char
  | '-' :: r => (true, r)
  | '+' :: r => (false, r)
  | r => (false, r)

/-- The base of an integer. -/
inductive Base
  | two
  | eight
  | ten
  | sixteen
  deriving DecidableEq, Repr

namespace Base

/-- The number of digits. -/
def size : Base → Nat
  | two => 2
  | eight => 8
  | ten => 10
  | sixteen => 16

/-- The letter that marks a base after a zero. -/
def letter? : Base → Option Char
  | two => some 'b'
  | eight => some 'o'
  | ten => none
  | sixteen => some 'x'

/-- A text without the mark of a base, if it starts with it. -/
def dropMark (b : Base) : List Char → List Char
  | '0' :: c :: r => if b.letter? = some c.toLower then r else '0' :: c :: r
  | r => r

end Base

/-- The most digits of an integer in base ten. -/
def maxDigits : Nat := 4300

/-- A limit to the digits of an integer that is written in base ten, or none. It can be raised and
lifted, but not lowered so far that numbers of ordinary size could not be written. -/
structure DigitLimit where
  digits : Option Nat
  least : ∀ n ∈ digits, 640 ≤ n

namespace DigitLimit

/-- The limit that holds if it is not changed. -/
def standard : DigitLimit := ⟨some maxDigits, by simp [maxDigits]⟩

/-- Whether an integer may be written; its sign does not count. -/
def Admits (limit : DigitLimit) (n : Int) : Prop :=
  ∀ most ∈ limit.digits, (Text.digits n.natAbs).length ≤ most

instance (limit : DigitLimit) (n : Int) : Decidable (limit.Admits n) :=
  inferInstanceAs (Decidable (∀ most ∈ limit.digits, (Text.digits n.natAbs).length ≤ most))

end DigitLimit

/-- The number that digits of a base denote. There must be a digit, and in base ten there may not be
too many. -/
def natural? (b : Base) (s : List Char) : Option Nat :=
  if s.isEmpty || (b = .ten ∧ maxDigits < s.length) then none
  else do
    let ds ← s.mapM hexDigit?
    if ds.all (· < b.size) then some (ds.foldl (fun n d => b.size * n + d) 0) else none

/-- The integer with a sign. -/
def signed (negative : Bool) (n : Int) : Int := if negative then -n else n

/-- The integer of a text. -/
def integerOf? (b : Base) (s : List Char) : Option Int :=
  let (negative, r) := splitSign (trimmed s)
  (natural? b (b.dropMark r)).map fun n => signed negative n

end CivilTime.Text
