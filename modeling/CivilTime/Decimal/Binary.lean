/-!
# Decimal fractions in binary precision

A decimal fraction is stored with 53 significant binary digits, the nearest such value being taken,
and of two equally near ones the even one. Everything is computed on naturals.

* `Decimal`: `coefficient · 10 ^ exponent`.
* `Binary`: `mantissa · 2 ^ exponent`.
* `power`: a power whose exponent counts as zero where it is negative.
* `Binary.roundDiv`: the quotient rounded to the nearest natural, a tie to the even one.
* `Binary.ofRatio`: the nearest binary value of a positive ratio, `none` if it is too large.
* `Decimal.magnitude`: the binary value of a decimal fraction without its sign.
-/

namespace CivilTime

/-- A power; a negative exponent counts as zero. -/
def power (base : Nat) (exponent : Int) : Nat := Nat.pow base exponent.toNat

/-- The number `coefficient · 10 ^ exponent`. -/
structure Decimal where
  coefficient : Int
  exponent : Int
  deriving DecidableEq, Repr

/-- The number `mantissa · 2 ^ exponent`. -/
structure Binary where
  mantissa : Nat
  exponent : Int
  deriving DecidableEq, Repr

namespace Binary

/-- The exponent of the finest grid. -/
def minExponent : Int := -1074

/-- The natural nearest to `num / den`; a tie goes to the even neighbour. -/
def roundDiv (num den : Nat) : Nat :=
  let q := num / den
  let r := num % den
  if 2 * r < den then q else if den < 2 * r then q + 1 else q + q % 2

/-- `num / den` in units of `2 ^ e`, as numerator and denominator. -/
def scaled (num den : Nat) (e : Int) : Nat × Nat :=
  (num * power 2 (-e), den * power 2 e)

/-- The least mantissa of 53 binary digits. -/
def leastMantissa : Nat := 4_503_599_627_370_496

/-- The exponent of the grid on which `num / den` has 53 binary digits, or of the finest grid. -/
def gridOf (num den : Nat) : Int :=
  let e := max minExponent ((num.log2 : Int) - den.log2 - 53)
  let s := scaled num den e
  if s.1 / s.2 < 2 * leastMantissa then e else e + 1

/-- The nearest binary value of `num / den`; values from `2 ^ 1024` on have none. -/
def ofRatio (num den : Nat) : Option Binary :=
  if num = 0 then some ⟨0, minExponent⟩
  else
    let e := gridOf num den
    let s := scaled num den e
    let m := roundDiv s.1 s.2
    let b : Binary := if m = 2 * leastMantissa then ⟨leastMantissa, e + 1⟩ else ⟨m, e⟩
    if b.exponent ≤ 971 then some b else none

/-- The value as a ratio of naturals. -/
def ratio (b : Binary) : Nat × Nat :=
  (b.mantissa * power 2 b.exponent, power 2 (-b.exponent))

/-- The natural number that the value is, if it is whole. -/
def whole? (b : Binary) : Option Nat :=
  let r := b.ratio
  if r.1 % r.2 = 0 then some (r.1 / r.2) else none

end Binary

namespace Decimal

/-- Exponents beyond these bounds are far outside the range of binary values. -/
def clampExponent (d : Decimal) : Int :=
  let length : Int := d.coefficient.natAbs.log2 / 3
  max (-1100 - length) (min 400 d.exponent)

/-- The binary value nearest to the magnitude of a decimal fraction. -/
def magnitude (d : Decimal) : Option Binary :=
  let e := d.clampExponent
  let n := d.coefficient.natAbs
  Binary.ofRatio (n * power 10 e) (power 10 (-e))

end Decimal

end CivilTime
