/-!
# Blank characters

The characters that count as white space between words: the ASCII ones with the four information
separators, next line, and the space separators of other scripts.

* `blankRanges`: first and last code point of each stretch of blanks.
* `isBlank`: membership in one of them.
-/

namespace CivilTime.Text

/-- The stretches of blank characters. -/
def blankRanges : List (Nat × Nat) :=
  [
    (0x0009, 0x000D), (0x001C, 0x0020), (0x0085, 0x0085), (0x00A0, 0x00A0), (0x1680, 0x1680),
    (0x2000, 0x200A), (0x2028, 0x2029), (0x202F, 0x202F), (0x205F, 0x205F), (0x3000, 0x3000)]

/-- Whether a character is white space. -/
def isBlank (c : Char) : Bool :=
  blankRanges.any fun r => r.1 ≤ c.toNat && c.toNat ≤ r.2

end CivilTime.Text
