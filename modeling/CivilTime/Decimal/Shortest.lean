import CivilTime.Decimal.Binary
import CivilTime.Text.Numeral

/-!
# The shortest decimal text of a binary value

A value is written with the fewest significant digits that still read back as it. For each number
of digits the decimal grid of that precision has two neighbours of the value; the first grid with a
neighbour nearer to the value than to any other binary value wins, and of two such neighbours the
nearer one.

* `Binary.readsBack`: whether a decimal grid point rounds to the value.
* `Binary.shortest`: the digits and the place of the decimal point.
* `Decimal.text`: positional from `0.0001` up to seventeen digits, else with an exponent of at least
  two digits; a whole number keeps one zero after the point.
-/

namespace CivilTime

open Text

namespace Binary

/-- The least `d` with the value below `10 ^ d`. -/
def decimalPlace (b : Binary) : Int :=
  let r := b.ratio
  if r.2 ≤ r.1 then (digits (r.1 / r.2)).length
  else
    let length := (digits (r.2 / r.1)).length
    if r.2 = r.1 * power 10 (length - 1) then 2 - length else 1 - length

/-- Whether `c · 10 ^ p` lies in the interval of numbers that round to the value; its ends belong to
it when the mantissa is even. -/
def readsBack (b : Binary) (c : Nat) (p : Int) : Bool :=
  let left := 4 * c * power 10 p * power 2 (-b.exponent)
  let unit := power 10 (-p) * power 2 b.exponent
  let below := if b.mantissa = leastMantissa ∧ minExponent < b.exponent then 1 else 2
  let low := (4 * b.mantissa - below) * unit
  let high := (4 * b.mantissa + 2) * unit
  if b.mantissa % 2 = 0 then low ≤ left && left ≤ high else low < left && left < high

/-- The neighbour of the value on the grid `10 ^ p` that reads back, the nearer one of two. -/
def neighbour? (b : Binary) (p : Int) : Option Nat :=
  let r := b.ratio
  let num := r.1 * power 10 (-p)
  let den := r.2 * power 10 p
  let c := num / den
  match b.readsBack c p, b.readsBack (c + 1) p with
  | true, true => some (roundDiv num den)
  | true, false => some c
  | false, true => some (c + 1)
  | false, false => none

/-- A coefficient and an exponent: the shortest decimal fraction that reads back. -/
def shortest (b : Binary) : Nat × Int :=
  let d := b.decimalPlace
  ((List.range 17).findSome? fun (k : Nat) =>
    (b.neighbour? (d - (k + 1))).map fun c => (c, d - (k + 1))).getD (b.mantissa, 0)

end Binary

/-- The digits of a coefficient without the zeros at its end, and how many there were. -/
def trimZeros (ds : List Char) : List Char × Nat :=
  let kept := (ds.reverse.dropWhile (· = '0')).reverse
  (kept, ds.length - kept.length)

/-- Digits with the decimal point after the first `place` of them. -/
def positional (ds : List Char) (place : Int) : List Char :=
  if place ≤ 0 then '0' :: '.' :: List.replicate (-place).toNat '0' ++ ds
  else if ds.length ≤ place then
    ds ++ List.replicate (place.toNat - ds.length) '0' ++ ['.', '0']
  else ds.take place.toNat ++ '.' :: ds.drop place.toNat

/-- Digits with the decimal point after the first one and an exponent. -/
def scientific (ds : List Char) (place : Int) : List Char :=
  let e := place - 1
  let tail := if ds.length ≤ 1 then [] else '.' :: ds.drop 1
  ds.take 1 ++ tail ++ 'e' :: (if e < 0 then '-' else '+') :: padded 2 e.natAbs

/-- The text of a binary value. -/
def Binary.text (b : Binary) : List Char :=
  if b.mantissa = 0 then ['0', '.', '0']
  else
    let s := b.shortest
    let t := trimZeros (digits s.1)
    let place := (t.1.length : Int) + t.2 + s.2
    if -4 < place ∧ place ≤ 16 then positional t.1 place else scientific t.1 place

/-- The text of a decimal fraction in binary precision. -/
def Decimal.text (d : Decimal) : List Char :=
  let sign := if d.coefficient < 0 then ['-'] else []
  match d.magnitude with
  | some b => sign ++ b.text
  | none => sign ++ "inf".toList

end CivilTime
