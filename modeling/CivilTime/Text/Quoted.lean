import CivilTime.Text.Printable

/-!
# Quoted text

Text as it is shown in messages: between single quotes, or between double quotes if it holds single
quotes and no double one. Line ends, tabs, backslashes, the quote in use and unprintable characters
are escaped, so the quotation stands on one line.

* `hex`: a number in hexadecimal places.
* `escape`: one character inside a quotation.
* `quoteFor`: the quote that a text takes.
* `quoted`: the whole quotation.
-/

namespace CivilTime.Text

/-- A hexadecimal digit, small letters. -/
def hexDigit (d : Nat) : Char := if d < 10 then Char.ofNat (48 + d) else Char.ofNat (87 + d)

/-- The last `places` hexadecimal digits of a number. -/
def hex : (places : Nat) → Nat → List Char
  | 0, _ => []
  | places + 1, n => hex places (n / 16) ++ [hexDigit (n % 16)]

/-- The escape of an unprintable character takes the shortest of three widths. -/
def escapeUnprintable (n : Nat) : List Char :=
  if n < 0x100 then '\\' :: 'x' :: hex 2 n
  else if n < 0x10000 then '\\' :: 'u' :: hex 4 n
  else '\\' :: 'U' :: hex 8 n

/-- One character inside a quotation that `quote` encloses. -/
def escape (quote c : Char) : List Char :=
  if c = quote ∨ c = '\\' then ['\\', c]
  else if c = '\n' then ['\\', 'n']
  else if c = '\r' then ['\\', 'r']
  else if c = '\t' then ['\\', 't']
  else if isPrintable c then [c]
  else escapeUnprintable c.toNat

/-- The quote that encloses a text. -/
def quoteFor (s : List Char) : Char :=
  if '\'' ∈ s ∧ '"' ∉ s then '"' else '\''

/-- A text between quotes. -/
def quoted (s : List Char) : List Char :=
  quoteFor s :: s.flatMap (escape (quoteFor s)) ++ [quoteFor s]

end CivilTime.Text
