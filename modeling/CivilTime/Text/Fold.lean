/-!
# Letters that differ in case only

Two characters count as the same letter when their folded forms agree. The folded form of a letter
is, as a rule, its small form; a few letters with several small forms (`s` and `ſ`, `β` and `ϐ`)
share one. The relation is an equality of values of one function, so it is an equivalence.

* `CaseRun` / `CaseRun.shift?`: a run of letters whose folded forms lie at one distance.
* `fold`: the folded form; characters outside `caseRuns` are their own.
* `sameLetter`: equality up to case, with `sameLetter_refl`.
-/

namespace CivilTime.Text

/-- `count` characters from `first` on, `stride` apart, each `distance` below its folded form. -/
structure CaseRun where
  first : Nat
  count : Nat
  stride : Nat
  distance : Int

/-- The folded form of a code point that the run holds. -/
def CaseRun.shift? (r : CaseRun) (n : Nat) : Option Nat :=
  if r.first ≤ n ∧ n < r.first + r.count * r.stride ∧ (n - r.first) % r.stride = 0 then
    some ((n : Int) + r.distance).toNat
  else none

/-- The letters that are not their own folded form. -/
def caseRuns : List CaseRun :=
  [
    ⟨0x0041, 26, 1, 32⟩, ⟨0x00C0, 23, 1, 32⟩, ⟨0x00D8, 7, 1, 32⟩, ⟨0x0100, 24, 2, 1⟩,
    ⟨0x0130, 1, 1, -199⟩, ⟨0x0131, 1, 1, -200⟩, ⟨0x0132, 3, 2, 1⟩, ⟨0x0139, 8, 2, 1⟩,
    ⟨0x014A, 23, 2, 1⟩, ⟨0x0178, 1, 1, -121⟩, ⟨0x0179, 3, 2, 1⟩, ⟨0x017F, 1, 1, -268⟩,
    ⟨0x0181, 1, 1, 210⟩, ⟨0x0182, 2, 2, 1⟩, ⟨0x0186, 1, 1, 206⟩, ⟨0x0187, 2, 4, 1⟩,
    ⟨0x0189, 2, 1, 205⟩, ⟨0x018E, 1, 1, 79⟩, ⟨0x018F, 1, 1, 202⟩, ⟨0x0190, 1, 1, 203⟩,
    ⟨0x0191, 1, 1, 1⟩, ⟨0x0193, 1, 1, 205⟩, ⟨0x0194, 1, 1, 207⟩, ⟨0x0196, 1, 1, 211⟩,
    ⟨0x0197, 1, 1, 209⟩, ⟨0x0198, 2, 8, 1⟩, ⟨0x019C, 1, 1, 211⟩, ⟨0x019D, 1, 1, 213⟩,
    ⟨0x019F, 1, 1, 214⟩, ⟨0x01A2, 2, 2, 1⟩, ⟨0x01A6, 2, 3, 218⟩, ⟨0x01A7, 2, 8, 1⟩,
    ⟨0x01AC, 1, 1, 1⟩, ⟨0x01AE, 1, 1, 218⟩, ⟨0x01B1, 2, 1, 217⟩, ⟨0x01B3, 2, 2, 1⟩,
    ⟨0x01B7, 1, 1, 219⟩, ⟨0x01B8, 2, 4, 1⟩, ⟨0x01C4, 3, 3, 2⟩, ⟨0x01C5, 3, 3, 1⟩, ⟨0x01CD, 8, 2, 1⟩,
    ⟨0x01DE, 9, 2, 1⟩, ⟨0x01F1, 1, 1, 2⟩, ⟨0x01F2, 9, 8, 1⟩, ⟨0x01F4, 11, 4, 1⟩,
    ⟨0x01F6, 1, 1, -97⟩, ⟨0x01F7, 1, 1, -56⟩, ⟨0x01FE, 7, 8, 1⟩, ⟨0x0220, 1, 1, -130⟩,
    ⟨0x0224, 4, 4, 1⟩, ⟨0x023A, 1, 1, 10795⟩, ⟨0x023B, 1, 1, 1⟩, ⟨0x023D, 1, 1, -163⟩,
    ⟨0x023E, 1, 1, 10792⟩, ⟨0x0241, 1, 1, 1⟩, ⟨0x0243, 1, 1, -195⟩, ⟨0x0244, 1, 1, 69⟩,
    ⟨0x0245, 1, 1, 71⟩, ⟨0x0246, 5, 2, 1⟩, ⟨0x0370, 2, 2, 1⟩, ⟨0x0376, 1, 1, 1⟩,
    ⟨0x037F, 1, 1, 116⟩, ⟨0x0386, 1, 1, 38⟩, ⟨0x0388, 3, 1, 37⟩, ⟨0x038C, 1, 1, 64⟩,
    ⟨0x038E, 2, 1, 63⟩, ⟨0x0391, 9, 3, 32⟩, ⟨0x0392, 9, 3, 32⟩, ⟨0x0393, 2, 3, 32⟩,
    ⟨0x0399, 1, 1, -84⟩, ⟨0x039C, 1, 1, -743⟩, ⟨0x039F, 1, 1, 32⟩, ⟨0x03A5, 3, 3, 32⟩,
    ⟨0x03B9, 1, 1, -116⟩, ⟨0x03BC, 1, 1, -775⟩, ⟨0x03C2, 1, 1, 1⟩, ⟨0x03CF, 1, 1, 8⟩,
    ⟨0x03D0, 1, 1, -30⟩, ⟨0x03D1, 1, 1, -25⟩, ⟨0x03D5, 1, 1, -15⟩, ⟨0x03D6, 1, 1, -22⟩,
    ⟨0x03D8, 12, 2, 1⟩, ⟨0x03F0, 1, 1, -54⟩, ⟨0x03F1, 1, 1, -48⟩, ⟨0x03F4, 1, 1, -60⟩,
    ⟨0x03F5, 1, 1, -64⟩, ⟨0x03F7, 2, 3, 1⟩, ⟨0x03F9, 1, 1, -7⟩, ⟨0x03FD, 3, 1, -130⟩,
    ⟨0x0400, 16, 1, 80⟩, ⟨0x0410, 32, 1, 32⟩, ⟨0x0460, 17, 2, 1⟩, ⟨0x048A, 27, 2, 1⟩,
    ⟨0x04C0, 1, 1, 15⟩, ⟨0x04C1, 7, 2, 1⟩, ⟨0x04D0, 48, 2, 1⟩, ⟨0x0531, 38, 1, 48⟩,
    ⟨0x10A0, 38, 1, 7264⟩, ⟨0x10C7, 1, 1, 7264⟩, ⟨0x10CD, 1, 1, 7264⟩, ⟨0x13A0, 80, 1, 38864⟩,
    ⟨0x13F0, 6, 1, 8⟩, ⟨0x1C80, 1, 1, -6222⟩, ⟨0x1C81, 1, 1, -6221⟩, ⟨0x1C82, 1, 1, -6212⟩,
    ⟨0x1C83, 2, 1, -6210⟩, ⟨0x1C85, 1, 1, -6211⟩, ⟨0x1C86, 1, 1, -6204⟩, ⟨0x1C87, 1, 1, -6180⟩,
    ⟨0x1C90, 43, 1, -3008⟩, ⟨0x1CBD, 3, 1, -3008⟩, ⟨0x1E00, 75, 2, 1⟩, ⟨0x1E9B, 1, 1, -58⟩,
    ⟨0x1E9E, 1, 1, -7615⟩, ⟨0x1EA0, 48, 2, 1⟩, ⟨0x1F08, 8, 1, -8⟩, ⟨0x1F18, 6, 1, -8⟩,
    ⟨0x1F28, 8, 1, -8⟩, ⟨0x1F38, 8, 1, -8⟩, ⟨0x1F48, 6, 1, -8⟩, ⟨0x1F59, 4, 2, -8⟩,
    ⟨0x1F68, 8, 1, -8⟩, ⟨0x1F88, 8, 1, -8⟩, ⟨0x1F98, 8, 1, -8⟩, ⟨0x1FA8, 8, 1, -8⟩,
    ⟨0x1FB8, 2, 1, -8⟩, ⟨0x1FBA, 2, 1, -74⟩, ⟨0x1FBC, 1, 1, -9⟩, ⟨0x1FBE, 1, 1, -7289⟩,
    ⟨0x1FC8, 4, 1, -86⟩, ⟨0x1FCC, 1, 1, -9⟩, ⟨0x1FD3, 1, 1, -7235⟩, ⟨0x1FD8, 2, 1, -8⟩,
    ⟨0x1FDA, 2, 1, -100⟩, ⟨0x1FE3, 1, 1, -7219⟩, ⟨0x1FE8, 2, 1, -8⟩, ⟨0x1FEA, 2, 1, -112⟩,
    ⟨0x1FEC, 1, 1, -7⟩, ⟨0x1FF8, 2, 1, -128⟩, ⟨0x1FFA, 2, 1, -126⟩, ⟨0x1FFC, 1, 1, -9⟩,
    ⟨0x2126, 1, 1, -7517⟩, ⟨0x212A, 1, 1, -8383⟩, ⟨0x212B, 1, 1, -8262⟩, ⟨0x2132, 1, 1, 28⟩,
    ⟨0x2160, 16, 1, 16⟩, ⟨0x2183, 1, 1, 1⟩, ⟨0x24B6, 26, 1, 26⟩, ⟨0x2C00, 48, 1, 48⟩,
    ⟨0x2C60, 1, 1, 1⟩, ⟨0x2C62, 1, 1, -10743⟩, ⟨0x2C63, 1, 1, -3814⟩, ⟨0x2C64, 1, 1, -10727⟩,
    ⟨0x2C67, 3, 2, 1⟩, ⟨0x2C6D, 1, 1, -10780⟩, ⟨0x2C6E, 1, 1, -10749⟩, ⟨0x2C6F, 1, 1, -10783⟩,
    ⟨0x2C70, 1, 1, -10782⟩, ⟨0x2C72, 2, 3, 1⟩, ⟨0x2C7E, 2, 1, -10815⟩, ⟨0x2C80, 50, 2, 1⟩,
    ⟨0x2CEB, 2, 2, 1⟩, ⟨0x2CF2, 1, 1, 1⟩, ⟨0xA640, 12, 4, 1⟩, ⟨0xA642, 2, 4, 1⟩,
    ⟨0xA64A, 1, 1, -35266⟩, ⟨0xA64B, 1, 1, -35267⟩, ⟨0xA64E, 8, 4, 1⟩, ⟨0xA680, 14, 2, 1⟩,
    ⟨0xA722, 20, 4, 1⟩, ⟨0xA724, 10, 8, 1⟩, ⟨0xA728, 1, 1, 1⟩, ⟨0xA738, 7, 8, 1⟩, ⟨0xA779, 2, 2, 1⟩,
    ⟨0xA77D, 1, 1, -35332⟩, ⟨0xA77E, 5, 2, 1⟩, ⟨0xA78B, 1, 1, 1⟩, ⟨0xA78D, 1, 1, -42280⟩,
    ⟨0xA790, 4, 8, 1⟩, ⟨0xA792, 6, 4, 1⟩, ⟨0xA79C, 2, 8, 1⟩, ⟨0xA7AA, 2, 4, -42308⟩,
    ⟨0xA7AB, 1, 1, -42319⟩, ⟨0xA7AC, 1, 1, -42315⟩, ⟨0xA7AD, 1, 1, -42305⟩, ⟨0xA7B0, 1, 1, -42258⟩,
    ⟨0xA7B1, 1, 1, -42282⟩, ⟨0xA7B2, 1, 1, -42261⟩, ⟨0xA7B3, 1, 1, 928⟩, ⟨0xA7B4, 8, 2, 1⟩,
    ⟨0xA7C4, 1, 1, -48⟩, ⟨0xA7C5, 1, 1, -42307⟩, ⟨0xA7C6, 1, 1, -35384⟩, ⟨0xA7C7, 2, 2, 1⟩,
    ⟨0xA7D0, 2, 8, 1⟩, ⟨0xA7D6, 1, 1, 1⟩, ⟨0xA7F5, 1, 1, 1⟩, ⟨0xFB06, 1, 1, -1⟩,
    ⟨0xFF21, 26, 1, 32⟩, ⟨0x10400, 40, 1, 40⟩, ⟨0x104B0, 36, 1, 40⟩, ⟨0x10570, 19, 2, 39⟩,
    ⟨0x10571, 10, 4, 39⟩, ⟨0x10573, 2, 4, 39⟩, ⟨0x1057F, 3, 4, 39⟩, ⟨0x1058F, 1, 1, 39⟩,
    ⟨0x10C80, 51, 1, 64⟩, ⟨0x118A0, 32, 1, 32⟩, ⟨0x16E40, 32, 1, 32⟩, ⟨0x1E900, 34, 1, 34⟩]

/-- The folded form of a character. -/
def fold (c : Char) : Char :=
  match caseRuns.findSome? (·.shift? c.toNat) with
  | some n => Char.ofNat n
  | none => c

/-- Equality up to case. -/
def sameLetter (a b : Char) : Bool := fold a == fold b

theorem sameLetter_refl (a : Char) : sameLetter a a = true := by simp [sameLetter]

end CivilTime.Text
