/-!
# Decimal numerals

Numbers as runs of decimal digits, plain and filled up with zeros.

* `digits`: the digits of a number, most significant first; `length_digits_pos`.
* `padded`: the same in at least `width` places; `length_padded` gives the exact length.
* `ofInt`, `signedPadded`: the same for integers, where the minus sign counts as a place.
* `number`: the value of a list of digit values, with `number_append_singleton`.
-/

namespace CivilTime.Text

/-- The character of a digit value below ten. -/
def digitChar (d : Nat) : Char := Char.ofNat (48 + d)

/-- The decimal digits of a number, most significant first. -/
def digits (n : Nat) : List Char :=
  if n < 10 then [digitChar n] else digits (n / 10) ++ [digitChar (n % 10)]

/-- The digits of a number, with zeros in front up to `width` places. -/
def padded (width n : Nat) : List Char :=
  List.replicate (width - (digits n).length) '0' ++ digits n

/-- The digits of an integer, after a minus sign if it is negative. -/
def ofInt (n : Int) : List Char :=
  if n < 0 then '-' :: digits n.natAbs else digits n.natAbs

/-- An integer in at least `width` places; the zeros stand between the sign and the digits. -/
def signedPadded (width : Nat) (n : Int) : List Char :=
  if n < 0 then '-' :: padded (width - 1) n.natAbs else padded width n.natAbs

/-- The number that a list of digit values denotes, most significant first. -/
def number (ds : List Nat) : Nat := ds.foldl (fun n d => 10 * n + d) 0

/-! ### Lengths and values -/

theorem length_digits_pos (n : Nat) : 0 < (digits n).length := by
  unfold digits
  split <;> simp

theorem digits_of_lt {n : Nat} (h : n < 10) : digits n = [digitChar n] := by
  rw [digits, if_pos h]

theorem digits_of_le {n : Nat} (h : 10 ≤ n) :
    digits n = digits (n / 10) ++ [digitChar (n % 10)] := by
  rw [digits, if_neg (by omega)]

theorem length_padded (width n : Nat) :
    (padded width n).length = max width (digits n).length := by
  simp only [padded, List.length_append, List.length_replicate]
  omega

theorem number_append_singleton (ds : List Nat) (d : Nat) :
    number (ds ++ [d]) = 10 * number ds + d := by
  simp [number]

end CivilTime.Text
