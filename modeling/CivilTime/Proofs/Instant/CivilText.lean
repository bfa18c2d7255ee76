import CivilTime.Proofs.Instant.Second

/-!
# The texts of seconds

The default pattern reads one text for each second of the calendar and no other: nineteen characters
`YYYY-MM-DD HH:MM:SS` in ASCII digits that name a time. Digits of other scripts, missing zeros,
other blanks and seconds beyond the minute are all matched on the way, but none of them is written
back as it was.

* `IsNumeral`: numbers in a fixed count of ASCII digits; `isNumeral_iff` says that there is one text
  for each.
* `CivilText`: the texts with the fields that they name, without reference to any pattern.
* `read_second_eq_ok`: the default pattern reads exactly these.
* `readInstant_iff_civilText`: the instants of these texts in a zone with one offset in minutes.
-/

namespace CivilTime

open Text Token

/-! ### Numbers and texts -/

/-- Whether a text is a number in so many ASCII digits. -/
def IsNumeral (places n : Nat) (s : List Char) : Prop :=
  s.length = places ∧ ∃ ds, s.mapM asciiDigit? = some ds ∧ number ds = n

/-- A number that fits has one text, with zeros in front. -/
theorem isNumeral_iff {width n : Nat} {s : List Char} :
    IsNumeral (width + 1) n s ↔ n < 10 ^ (width + 1) ∧ s = padded (width + 1) n := by
  constructor
  · rintro ⟨hlen, ds, hds, rfl⟩
    obtain ⟨rfl, hlt⟩ := mapM_asciiDigit?_eq_some.1 hds
    rw [List.length_map] at hlen
    obtain ⟨hfit, hplaces⟩ := places_number hlt
    rw [hlen] at hfit hplaces
    exact ⟨hfit, by rw [padded_eq_places hfit, hplaces]⟩
  · rintro ⟨hfit, rfl⟩
    refine ⟨length_padded_of_lt hfit, places (width + 1) n, ?_, number_places hfit⟩
    exact mapM_asciiDigit?_eq_some.2 ⟨padded_eq_places hfit, fun _ => lt_of_mem_places⟩

/-- Whether a text is `YYYY-MM-DD HH:MM:SS` with the fields of a time of whole seconds. -/
structure CivilText (f : Fields) (text : List Char) : Prop where
  valid : f.Valid
  whole : f.micro = 0
  spelled : ∃ year month day hour minute second : List Char,
    text = year ++ '-' :: month ++ '-' :: day ++ ' ' :: hour ++ ':' :: minute ++ ':' :: second ∧
      IsNumeral 4 f.year year ∧ IsNumeral 2 f.month month ∧ IsNumeral 2 f.day day ∧
      IsNumeral 2 f.hour hour ∧ IsNumeral 2 f.minute minute ∧ IsNumeral 2 f.second second

theorem CivilText.length_eq {f : Fields} {text : List Char} (h : CivilText f text) :
    text.length = 19 := by
  obtain ⟨year, month, day, hour, minute, second, rfl, hy, hm, hd, hh, hn, hs⟩ := h.spelled
  simp only [List.length_append, List.length_cons, hy.1, hm.1, hd.1, hh.1, hn.1, hs.1]

theorem format_second (w : WallTime) (offset : Option Int) :
    secondPattern.format ⟨w, offset⟩
      = padded 4 w.fields.year ++ '-' :: padded 2 w.fields.month ++ '-' :: padded 2 w.fields.day
        ++ ' ' :: padded 2 w.fields.hour ++ ':' :: padded 2 w.fields.minute
        ++ ':' :: padded 2 w.fields.second := by
  unfold Pattern.format secondPattern CivilTime.render
  have hyear : renderField .year 4 ⟨w, offset⟩ = padded 4 w.fields.year := rfl
  have hmonth : renderField .month 2 ⟨w, offset⟩ = padded 2 w.fields.month := rfl
  simp only [List.flatMap_cons, List.flatMap_nil, Token.render, hyear, hmonth, List.append_assoc,
    List.cons_append, List.nil_append, List.append_nil]
  rfl

/-- The text of a time of whole seconds is the one that the default pattern writes. -/
theorem civilText_iff {w : WallTime} {text : List Char} :
    CivilText w.fields text ↔ w.fields.micro = 0 ∧ text = secondPattern.format ⟨w, none⟩ := by
  obtain ⟨⟨hy1, hy2, hm1, hm2, hd1, hd2⟩, hh, hn, hs, hu⟩ := w.fields_valid
  have hlong := monthLength_le w.fields.year w.fields.month
  constructor
  · rintro ⟨-, hwhole, year, month, day, hour, minute, second, rfl, hy, hm, hd, hh, hn, hs⟩
    refine ⟨hwhole, ?_⟩
    rw [format_second, (isNumeral_iff.1 hy).2, (isNumeral_iff.1 hm).2, (isNumeral_iff.1 hd).2,
      (isNumeral_iff.1 hh).2, (isNumeral_iff.1 hn).2, (isNumeral_iff.1 hs).2]
  · rintro ⟨hwhole, rfl⟩
    refine ⟨w.fields_valid, hwhole, _, _, _, _, _, _, format_second w none, ?_, ?_, ?_, ?_, ?_, ?_⟩
    · exact isNumeral_iff.2 ⟨by omega, rfl⟩
    · exact isNumeral_iff.2 ⟨by omega, rfl⟩
    · exact isNumeral_iff.2 ⟨by omega, rfl⟩
    · exact isNumeral_iff.2 ⟨by omega, rfl⟩
    · exact isNumeral_iff.2 ⟨by omega, rfl⟩
    · exact isNumeral_iff.2 ⟨by omega, rfl⟩

/-- A text is read by the default pattern exactly if it is the text of what is read. -/
theorem read_second_eq_ok {text : List Char} {s : Stamp} :
    secondPattern.read text = .ok s ↔ CivilText s.wall.fields text ∧ s.offset = none := by
  constructor
  · intro h
    have hoffset := Pattern.offset_of_read h (by decide)
    obtain ⟨w, offset⟩ := s
    obtain rfl : offset = none := hoffset
    have htext := (Pattern.read_eq_ok.1 h).2
    -- the text was written, so what it is read as has been cut to the second
    rw [← htext, read_format_second] at h
    have hwhole : w.wholeSecond = w := congrArg Stamp.wall (Except.ok.inj h)
    refine ⟨civilText_iff.2 ⟨?_, htext.symm⟩, rfl⟩
    rw [← hwhole, w.fields_wholeSecond]
  · rintro ⟨htext, hoffset⟩
    obtain ⟨w, offset⟩ := s
    obtain rfl : offset = none := hoffset
    obtain ⟨hwhole, rfl⟩ := civilText_iff.1 htext
    have hcut : w.wholeSecond = w := by
      apply WallTime.fields_injective
      rw [w.fields_wholeSecond, ← hwhole]
    rw [read_format_second, hcut]

/-! ### The instants of texts -/

/-- The offset in minutes of a named or fixed zone that has one for ever. -/
def Zone.minutes? : Zone → Option Int
  | .universal => some 0
  | .fixed n | .named _ (.constant n) => some n
  | _ => none

variable {z : Zone} {i : Instant} {offset : Int}

theorem localize_of_minutes (hz : z.minutes? = some offset) (w : WallTime) :
    z.localize w = .ok ⟨w, offset * minuteMicros⟩ := by
  cases z with
  | universal => rw [← Option.some.inj hz]; rfl
  | fixed n => rw [← Option.some.inj hz]; rfl
  | named name rules =>
    cases rules with
    | constant n => rw [← Option.some.inj hz]; rfl
    | table t => cases hz
  | _ => cases hz

/-- The milliseconds since 1970 of fields at an offset in minutes. -/
def Fields.millisAt (f : Fields) (offset : Int) : Int :=
  1000 * (86_400 * ((f.dayNumber : Int) - (Date.mk 1970 1 1).dayNumber) + 3600 * f.hour
    + 60 * f.minute + f.second - 60 * offset)

/-- The instant of a time of whole seconds counts the days, hours, minutes and seconds since 1970,
less the offset. -/
theorem millis_of_minutes {w : WallTime} (hwhole : w.fields.micro = 0) (offset : Int) :
    (OffsetTime.mk w (offset * minuteMicros)).instant.millis = w.fields.millisAt offset := by
  have hmicros := w.micros_fields
  have hepoch : (Date.mk 1970 1 1).dayNumber = 719_162 := by decide
  rw [Fields.micros, Fields.timeMicros, hwhole] at hmicros
  rw [Fields.millisAt, hepoch]
  simp only [OffsetTime.instant, OffsetTime.sinceEpoch, WallTime.sinceEpoch, epochMicros,
    dayMicros, hourMicros, minuteMicros, secondMicros] at *
  omega

/-- In a zone with one offset in minutes a text is read by the default pattern as an instant exactly
if it is the text of a second of the calendar, and then as that second at the offset. Any other text
gives no instant and leaves one record of an error. -/
theorem readInstant_iff_civilText (hz : z.minutes? = some offset) (text : String) :
    (∀ i logs, readInstant (.text text) defaultPattern z = (some i, logs) ↔
      logs = [] ∧ ∃ f, CivilText f text.toList ∧ i.millis = f.millisAt offset) ∧
    ((¬ ∃ f, CivilText f text.toList) →
      ∃ r, readInstant (.text text) defaultPattern z = (none, [r]) ∧ r.level = .error) := by
  constructor
  · intro i logs
    rw [readInstant_eq_some, ofText_eq_ok ofValue_defaultPattern, and_comm]
    apply and_congr_right'
    constructor
    · rintro ⟨⟨w, o⟩, hread, hi⟩
      obtain ⟨htext, rfl⟩ := read_second_eq_ok.1 hread
      have hplaced := Instant.ofWall_of_localize (localize_of_minutes hz w)
      obtain rfl := Except.ok.inj (hplaced.symm.trans hi)
      exact ⟨w.fields, htext, millis_of_minutes htext.whole offset⟩
    · rintro ⟨f, htext, hi⟩
      obtain ⟨w, hw⟩ : ∃ w, f.toWallTime = .ok w := ⟨_, dif_pos htext.valid⟩
      obtain rfl := WallTime.fields_toWallTime htext.valid hw
      refine ⟨⟨w, none⟩, read_second_eq_ok.2 ⟨htext, rfl⟩, ?_⟩
      have hplaced := Instant.ofWall_of_localize (localize_of_minutes hz w)
      have hmillis := millis_of_minutes htext.whole offset
      exact hplaced.trans (congrArg Except.ok (congrArg Instant.mk (hmillis.trans hi.symm)))
  · intro hnone
    cases h : Instant.ofText (.text text) defaultPattern z with
    | error e =>
      refine ⟨unreadRecord (.text text) defaultPattern e, ?_, rfl⟩
      rw [readInstant, h]
    | ok i =>
      obtain ⟨s, hread, -⟩ := (ofText_eq_ok ofValue_defaultPattern).1 h
      exact absurd ⟨_, (read_second_eq_ok.1 hread).1⟩ hnone

/-- The last second of a leap day, half past five ahead of universal time, is read; with a line end
after it, it is not. -/
theorem readInstant_leapDayEnds :
    readInstant (.text "2024-02-29 23:59:59") defaultPattern (.fixed 330)
        = (some ⟨1_709_231_399_000⟩, []) ∧
      ∃ r, readInstant (.text "2024-02-29 23:59:59\n") defaultPattern (.fixed 330) = (none, [r]) ∧
        r.level = .error := by
  have hz : (Zone.fixed 330).minutes? = some 330 := rfl
  constructor
  · refine ((readInstant_iff_civilText hz _).1 _ _).2 ⟨rfl, ⟨⟨2024, 2, 29⟩, 23, 59, 59, 0⟩, ?_, ?_⟩
    · exact ⟨by decide, rfl, ['2', '0', '2', '4'], ['0', '2'], ['2', '9'], ['2', '3'], ['5', '9'],
        ['5', '9'], by decide, ⟨rfl, _, rfl, rfl⟩, ⟨rfl, _, rfl, rfl⟩, ⟨rfl, _, rfl, rfl⟩,
        ⟨rfl, _, rfl, rfl⟩, ⟨rfl, _, rfl, rfl⟩, ⟨rfl, _, rfl, rfl⟩⟩
    · decide
  · apply (readInstant_iff_civilText hz _).2
    rintro ⟨f, hf⟩
    exact absurd hf.length_eq (by decide)

end CivilTime
