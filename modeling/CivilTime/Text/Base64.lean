/-!
# Bytes written as text

Bytes are written with 64 characters, each of which stands for six bits, so four of them make three
bytes. Equals signs fill up the last group of four. Other characters between them are passed over.

* `sextet?`: the six bits of a character, below 64.
* `groupBytes`: the bytes of a group, one less than its characters.
* `decode?`: the bytes of a text; the last group must be complete.
-/

namespace CivilTime.Text.Base64

/-- The six bits of a character. -/
def sextet? (c : Char) : Option Nat :=
  let n := c.toNat
  if 65 ≤ n ∧ n < 91 then some (n - 65)
  else if 97 ≤ n ∧ n < 123 then some (n - 71)
  else if 48 ≤ n ∧ n < 58 then some (n + 4)
  else if n = 43 then some 62
  else if n = 47 then some 63
  else none

/-- The bytes that a group of two, three or four characters holds in full. -/
def groupBytes : List Nat → List UInt8
  | [a, b] => [.ofNat (4 * a + b / 16)]
  | [a, b, c] => [.ofNat (4 * a + b / 16), .ofNat (16 * (b % 16) + c / 4)]
  | [a, b, c, d] =>
    [.ofNat (4 * a + b / 16), .ofNat (16 * (b % 16) + c / 4), .ofNat (64 * (c % 4) + d)]
  | _ => []

/-- The bytes of the rest of a text, when `group` is the group that is not complete yet and `signs`
are the equals signs after it. Signs that complete a group end the text. -/
def decodeFrom : (group : List Nat) → (signs : Nat) → List Char → Option (List UInt8)
  | group, _, [] => if group.isEmpty then some [] else none
  | group, signs, c :: r =>
    if c == '=' then
      if group.length < 2 then decodeFrom group signs r
      else if 4 ≤ group.length + signs + 1 then some (groupBytes group)
      else decodeFrom group (signs + 1) r
    else match sextet? c with
      | none => decodeFrom group signs r
      | some x =>
        if group.length = 3 then (decodeFrom [] 0 r).map (groupBytes (group ++ [x]) ++ ·)
        else decodeFrom (group ++ [x]) 0 r

/-- The bytes of a text. -/
def decode? (s : List Char) : Option (List UInt8) := decodeFrom [] 0 s

end CivilTime.Text.Base64
