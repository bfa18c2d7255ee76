import CivilTime.Proofs.Instant.CivilText
import CivilTime.Proofs.Instant.Steady
import CivilTime.Proofs.Pattern.Sorted

/-!
# Timestamps in the order of time

The texts of the timestamp pattern are digits from the year down to the millisecond, and those of the
default pattern have the same fields down to the second. In a zone with one offset the wall clock runs
along the time line, so timestamps are in the order of the instants.

* `millisPattern`: the timestamp pattern.
* `writeInstant_timestamp`, `writeInstant_second`: what the two patterns write.
* `writeInstant_lt_iff`: the order of the texts.
-/

namespace CivilTime

open Text Token WallTime

/-- The pattern of timestamps. -/
def millisPattern : Pattern :=
  ⟨"yyyyMMddHHmmssSSS".toList,
    [.field .year 4, .field .month 2, .field .day 2, .field .hour 2, .field .minute 2,
      .field .second 2, .field .fraction 3]⟩

theorem ofValue_timestampPattern : Pattern.ofValue timestampPattern = .ok millisPattern := by rfl

variable {z : Zone} {offset : Int} {i j : Instant} {v w : WallTime}

/-- The first three places of the microseconds are the milliseconds. -/
theorem take_padded_millis (w : WallTime) :
    (padded 6 w.fields.micro).take 3 = padded 3 (w.fields.micro / 1000) := by
  have hmicro := w.fields_valid.2.2.2.2
  have hfit : w.fields.micro / 1000 < 10 ^ (2 + 1) := by omega
  rw [take_padded (by decide) hmicro, padded_eq_places hfit]
  rfl

theorem format_millis (w : WallTime) (offset : Option Int) :
    millisPattern.format ⟨w, offset⟩ = millisText w := by
  have hyear : renderField .year 4 ⟨w, offset⟩ = padded 4 w.fields.year := rfl
  have hmonth : renderField .month 2 ⟨w, offset⟩ = padded 2 w.fields.month := rfl
  have hmillis : renderField .fraction 3 ⟨w, offset⟩ = padded 3 (w.fields.micro / 1000) := by
    rw [renderField_fraction (by decide)]
    exact take_padded_millis w
  unfold Pattern.format millisPattern CivilTime.render millisText secondText
  simp only [List.flatMap_cons, List.flatMap_nil, Token.render, hyear, hmonth, hmillis,
    List.append_assoc, List.append_nil]
  rfl

/-- A timestamp is the text of what an instant shows. -/
theorem writeInstant_timestamp (hw : i.wallClock z = .ok w) :
    writeInstant (.integer i.millis) timestampPattern z = .ok (millisText w) := by
  obtain ⟨t, ht, rfl⟩ := Instant.wallClock_eq_ok.1 hw
  exact (writeDate_eq_ok ofValue_timestampPattern).2 ⟨t, ht, format_millis t.wall (some t.offset)⟩

theorem format_second_eq_text (w : WallTime) (offset : Option Int) :
    secondPattern.format ⟨w, offset⟩ = secondText ['-'] [' '] [':'] w := by
  simp only [format_second, secondText, List.append_assoc, List.cons_append, List.nil_append]

/-- The default pattern writes the same fields but for the last one. -/
theorem writeInstant_second (hw : i.wallClock z = .ok w) :
    writeInstant (.integer i.millis) defaultPattern z = .ok (secondText ['-'] [' '] [':'] w) := by
  rw [← format_second_eq_text w none]
  exact writeDate_default hw

/-- In a zone with one offset instants are in the order of their milliseconds on the wall clock. -/
theorem Zone.Steady.millis_lt_iff (hz : z.Steady offset) (hv : i.wallClock z = .ok v)
    (hw : j.wallClock z = .ok w) :
    i.millis < j.millis ↔ v.micros / 1000 < w.micros / 1000 := by
  have hi := hz.point_of_wallClock hv
  have hj := hz.point_of_wallClock hw
  have hvmod := hz.micros_mod hv
  have hwmod := hz.micros_mod hw
  simp only [WallTime.sinceEpoch] at hi hj
  omega

theorem WallTime.wholeSecond_lt_iff :
    v.wholeSecond.micros < w.wholeSecond.micros ↔
      v.micros / secondMicros < w.micros / secondMicros := by
  rw [wholeSecond, wholeSecond, micros_startOf, micros_startOf]
  exact Nat.mul_lt_mul_right (by decide)

theorem WallTime.wholeSecond_eq_iff :
    v.wholeSecond = w.wholeSecond ↔ v.micros / secondMicros = w.micros / secondMicros := by
  constructor
  · intro h
    have hmicros : v.wholeSecond.micros = w.wholeSecond.micros := congrArg WallTime.micros h
    rw [wholeSecond, wholeSecond, micros_startOf, micros_startOf] at hmicros
    exact Nat.eq_of_mul_eq_mul_right (by decide) hmicros
  · intro h
    apply WallTime.ext
    rw [wholeSecond, wholeSecond, micros_startOf, micros_startOf, h]

/-- In a zone with one offset the timestamps of instants are seventeen digits each, and they have the
order of the instants; the default texts are nineteen characters each, in the order of the seconds that
the clocks show. -/
theorem writeInstant_lt_iff (hz : z.Steady offset) (hv : i.wallClock z = .ok v)
    (hw : j.wallClock z = .ok w) :
    ∃ a b c d, writeInstant (.integer i.millis) timestampPattern z = .ok a ∧
      writeInstant (.integer j.millis) timestampPattern z = .ok b ∧
      writeInstant (.integer i.millis) defaultPattern z = .ok c ∧
      writeInstant (.integer j.millis) defaultPattern z = .ok d ∧
      (i.millis < j.millis ↔ a < b) ∧
      (a.length = 17 ∧ b.length = 17) ∧ (∀ x ∈ a ++ b, x.isDigit) ∧
      (c.length = 19 ∧ d.length = 19) ∧
      (c < d ↔ v.wholeSecond.micros < w.wholeSecond.micros) ∧
      (c = d ↔ v.wholeSecond = w.wholeSecond) := by
  have hsecond := sortedBy_second ['-'] [' '] [':']
  refine ⟨_, _, _, _, writeInstant_timestamp hv, writeInstant_timestamp hw, writeInstant_second hv,
    writeInstant_second hw, ?_, ⟨sortedBy_millis.length v, sortedBy_millis.length w⟩, ?_,
    ⟨hsecond.length v, hsecond.length w⟩, ?_, ?_⟩
  · rw [hz.millis_lt_iff hv hw, sortedBy_millis.lt_iff]
  · intro x hx
    rcases List.mem_append.1 hx with h | h
    · exact isDigit_of_mem_millisText h
    · exact isDigit_of_mem_millisText h
  · rw [hsecond.lt_iff, WallTime.wholeSecond_lt_iff]
  · rw [hsecond.eq_iff, WallTime.wholeSecond_eq_iff]

/-- The last millisecond of the year 999 comes before the first one of the year 1000, and so do their
texts. -/
theorem writeInstant_lt_iff_year1000 :
    ∃ a b c d, writeInstant (.integer (-30_610_224_000_001)) timestampPattern .universal = .ok a ∧
      writeInstant (.integer (-30_610_224_000_000)) timestampPattern .universal = .ok b ∧
      writeInstant (.integer (-30_610_224_000_001)) defaultPattern .universal = .ok c ∧
      writeInstant (.integer (-30_610_224_000_000)) defaultPattern .universal = .ok d ∧
      a < b ∧ a.length = b.length ∧ c < d := by
  have hsteady : Zone.universal.Steady 0 := by decide
  have hv : Instant.wallClock ⟨-30_610_224_000_001⟩ .universal
      = .ok ⟨31_525_372_799_999_000, by decide⟩ := by rfl
  have hw : Instant.wallClock ⟨-30_610_224_000_000⟩ .universal
      = .ok ⟨31_525_372_800_000_000, by decide⟩ := by rfl
  obtain ⟨a, b, c, d, ha, hb, hc, hd, hlt, ⟨hla, hlb⟩, -, -, hsecond, -⟩ :=
    writeInstant_lt_iff hsteady hv hw
  exact ⟨a, b, c, d, ha, hb, hc, hd, hlt.1 (by decide), hla.trans hlb.symm,
    hsecond.2 (by decide)⟩

end CivilTime
