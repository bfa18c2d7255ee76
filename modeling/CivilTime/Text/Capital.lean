/-!
# Capital and small letters of identifiers

Zone identifiers are compared in capitals. A capital form can be longer than the letter itself, as
that of a ligature is. Of the letters outside ASCII only those matter whose capital form is in
ASCII, since no identifier that is looked up in capitals holds another letter.

* `capital`: the capital form of one character.
* `capitals`: the capital form of a text; `capitals_append`.
* `small`: the small form of an ASCII letter; any other character is its own.
-/

namespace CivilTime.Text

/-- The letters outside ASCII whose capital form is in ASCII. -/
def foreignCapitals : List (Char × List Char) :=
  [('ß', ['S', 'S']), ('ı', ['I']), ('ſ', ['S']), ('ﬀ', ['F', 'F']), ('ﬁ', ['F', 'I']),
    ('ﬂ', ['F', 'L']), ('ﬃ', ['F', 'F', 'I']), ('ﬄ', ['F', 'F', 'L']), ('ﬅ', ['S', 'T']),
    ('ﬆ', ['S', 'T'])]

/-- The capital form of a character. -/
def capital (c : Char) : List Char :=
  if c.toNat < 128 then [c.toUpper] else (foreignCapitals.lookup c).getD [c]

/-- The capital form of a text. -/
def capitals (s : List Char) : List Char := s.flatMap capital

/-- The small form of an ASCII letter. -/
def small (s : List Char) : List Char := s.map Char.toLower

/-- Whether all characters are ASCII. -/
def isAscii (s : List Char) : Bool := s.all (·.toNat < 128)

theorem capitals_append (s t : List Char) : capitals (s ++ t) = capitals s ++ capitals t := by
  simp [capitals]

/-- On ASCII text the capital form keeps every character in its place. -/
theorem capitals_of_isAscii {s : List Char} (h : isAscii s = true) :
    capitals s = s.map Char.toUpper := by
  induction s with
  | nil => rfl
  | cons c r ih =>
    simp only [isAscii, List.all_cons, Bool.and_eq_true, decide_eq_true_eq] at h
    have hr : isAscii r = true := h.2
    simp [capitals, capital, h.1] at ih ⊢
    simpa using ih hr

end CivilTime.Text
