import CivilTime.Instant.Text
import CivilTime.Proofs.Instant.WallClock
import CivilTime.Proofs.Pattern.RoundTrip

/-!
# Instants written and read back

With its offset an instant is written so that it is read back in any zone. Without one, a text that
was read as an instant is written again as that text, in the zone that it was read in.

* `writeDate_eq_ok`, `ofText_eq_ok`, `readInstant_eq_some`: writing and reading, step by step.
* `Pattern.Complete`: a readable pattern that shows all of an instant.
* `readInstant_writeDate`: an instant written by a complete pattern is read back.
* `format_floorMillis`: a time cut to the millisecond is written alike.
* `writeDate_readInstant`: a text that was read as an instant is written again.
-/

namespace CivilTime

open Text Token

variable {z : Zone} {i : Instant} {t : OffsetTime} {p : Pattern}

/-! ### Steps -/

/-- An instant is written by its wall-clock time with the offset. -/
theorem writeDate_eq_ok {v : Value} {text : List Char} (hp : Pattern.ofValue v = .ok p) :
    writeDate (some i) v z = .ok text ↔
      ∃ t, i.toOffsetTime z = .ok t ∧ p.format t.stamp = text := by
  have hwrite : writeDate (some i) v z = i.write p z := by
    rw [writeDate, writeInstant, bind_of_ok hp]
    rfl
  rw [hwrite, Instant.write, bind_eq_ok]
  constructor
  · rintro ⟨t, ht, h⟩
    exact ⟨t, ht, Except.ok.inj h⟩
  · rintro ⟨t, ht, rfl⟩
    exact ⟨t, ht, rfl⟩

/-- An instant is read as the instant of a stamp. -/
theorem ofText_eq_ok {v : Value} {text : String} (hp : Pattern.ofValue v = .ok p) :
    Instant.ofText (.text text) v z = .ok i ↔
      ∃ s, p.read text.toList = .ok s ∧ Instant.ofStamp s z = .ok i := by
  have hread : Stamp.ofText (.text text) v = p.read text.toList := by
    rw [Stamp.ofText, bind_of_ok hp]
    rfl
  rw [Instant.ofText, hread, bind_eq_ok]

theorem readInstant_eq_some {text v : Value} {logs : List Record} :
    readInstant text v z = (some i, logs) ↔ Instant.ofText text v z = .ok i ∧ logs = [] := by
  rw [readInstant]
  cases h : Instant.ofText text v z with
  | error f =>
    constructor
    · intro heq
      cases heq
    · rintro ⟨heq, -⟩
      cases heq
  | ok j =>
    constructor
    · intro heq
      cases heq
      exact ⟨rfl, rfl⟩
    · rintro ⟨heq, rfl⟩
      cases heq
      rfl

/-! ### Instants to text and back -/

/-- Whether a readable pattern shows all of an instant: the date with its full year, the time of day
to the millisecond, and the offset. -/
structure Pattern.Complete (p : Pattern) : Prop where
  readable : p.Readable
  fullYear : 4 ∈ p.widths .year
  noShortYear : 2 ∉ p.widths .year
  date : p.Shows .yearDay ∨ p.Shows .month ∧ p.Shows .day
  hour : p.Shows .hour ∨ p.Shows .halfHour
  minute : p.Shows .minute
  second : p.Shows .second
  millis : ∃ n ∈ p.widths .fraction, 3 ≤ n
  offset : p.Shows .offset

namespace Pattern

/-- Whole milliseconds are kept in three places or more. -/
theorem cutMicro_of_whole {n micro : Nat} (hn : 3 ≤ n) (h : micro % 1000 = 0) :
    cutMicro n micro = micro := by
  have hdvd : 10 ^ (6 - n) ∣ micro :=
    Nat.dvd_trans (Nat.pow_dvd_pow 10 (show 6 - n ≤ 3 by omega)) (Nat.dvd_of_mod_eq_zero h)
  exact Nat.div_mul_cancel hdvd

/-- A complete pattern keeps all fields of a time of whole milliseconds. -/
theorem Complete.kept_eq (hp : p.Complete) {f : Fields} (hf : f.micro % 1000 = 0) :
    p.kept f = f := by
  obtain ⟨n, hn, h3⟩ := hp.millis
  have hmicro : (p.kept f).micro = f.micro := by
    rw [kept_micro hp.readable.once (p.mem_widths.1 hn), cutMicro_of_whole h3 hf]
  have hmonth : p.Shows .month ∨ p.Shows .yearDay := hp.date.elim Or.inr fun h => Or.inl h.1
  have hday : p.Shows .day ∨ p.Shows .yearDay := hp.date.elim Or.inr fun h => Or.inl h.2
  have hkept : p.kept f = { f with micro := (p.kept f).micro } := by
    rw [kept, if_pos hmonth, if_pos hday, if_pos hp.hour, if_pos hp.minute, if_pos hp.second]
  rw [hkept, hmicro]

/-- The year of every stamp is told by the full year alone. -/
theorem Complete.suits (hp : p.Complete) {s : Stamp} (hs : ∀ o ∈ s.offset, isOffset o = true) :
    p.Suits s where
  century h := absurd h hp.noShortYear
  places h := by
    have hfour := p.mem_widths.1 hp.fullYear
    rcases h with h | h
    · have heq := p.width_eq_of_once hp.readable.once hfour (p.mem_widths.1 h) rfl
      omega
    · have heq := p.width_eq_of_once hp.readable.once hfour (p.mem_widths.1 h) rfl
      omega
  offset := hs

end Pattern

/-- The wall-clock time of an instant has whole milliseconds, as the offsets have. -/
theorem Instant.micros_mod_of_toOffsetTime (hz : z.WholeMillis) (h : i.toOffsetTime z = .ok t) :
    t.wall.micros % 1000 = 0 := by
  obtain ⟨u, hu, hoffset, hwall⟩ := Instant.toOffsetTime_eq_ok.1 h
  have hmod := hz.offsetAt_mod u
  simp only [WallTime.sinceEpoch, epochMicros] at *
  omega

theorem Zone.Sound.isOffset_of_toOffsetTime (hz : z.Sound) (h : i.toOffsetTime z = .ok t) :
    isOffset t.offset = true := by
  obtain ⟨u, -, hoffset, -⟩ := Instant.toOffsetTime_eq_ok.1 h
  rw [hoffset]
  exact hz.isOffset_offsetAt u

/-- An instant that a zone can show, written by a complete pattern, is read back in any zone, and
nothing is recorded. -/
theorem readInstant_writeDate {source : String} (hp : Pattern.ofValue (.text source) = .ok p)
    (hcomplete : p.Complete) (hz : z.Sound) (hms : z.WholeMillis)
    (ht : i.toOffsetTime z = .ok t) (z' : Zone) :
    ∃ text, writeDate (some i) (.text source) z = .ok text ∧
      readInstant (.text (String.ofList text)) (.text source) z' = (some i, []) := by
  have hsuits : p.Suits t.stamp := by
    apply hcomplete.suits
    intro o ho
    obtain rfl := Option.some.inj ho
    exact hz.isOffset_of_toOffsetTime ht
  obtain ⟨w, hread, hfields⟩ :=
    (Pattern.ofValue_shaped hp).read_format hcomplete.readable hsuits
  have hwhole := WallTime.micro_fields_mod (i.micros_mod_of_toOffsetTime hms ht)
  obtain rfl : w = t.wall := WallTime.fields_injective (hfields.trans (hcomplete.kept_eq hwhole))
  rw [if_pos hcomplete.offset] at hread
  refine ⟨p.format t.stamp, (writeDate_eq_ok hp).2 ⟨t, ht, rfl⟩, ?_⟩
  rw [readInstant_eq_some, ofText_eq_ok hp, String.toList_ofList]
  refine ⟨⟨_, hread, ?_⟩, rfl⟩
  have hinstant : t.instant = i := by
    rw [OffsetTime.instant, Zone.sinceEpoch_of_toOffsetTime ht,
      Int.mul_ediv_cancel _ (by decide)]
  exact congrArg Except.ok hinstant

/-- A pattern that shows all of an instant. -/
def isoPattern : Pattern :=
  ⟨"yyyy-MM-dd HH:mm:ss.SSS Z".toList,
    [.field .year 4, .literal ['-'], .field .month 2, .literal ['-'], .field .day 2,
      .literal [' '], .field .hour 2, .literal [':'], .field .minute 2, .literal [':'],
      .field .second 2, .literal ['.'], .field .fraction 3, .literal [' '],
      .field .offset 1]⟩

/-- A summer in central Europe. -/
def summer2023 : Table :=
  ⟨⟨3_600, false⟩, [⟨1_679_792_400, ⟨7_200, true⟩⟩, ⟨1_698_541_200, ⟨3_600, false⟩⟩]⟩

/-- Half past two in the night after which the summer ends, for the second time. -/
theorem readInstant_writeDate_repeatedHour :
    ∃ text, writeDate (some ⟨1_698_543_000_007⟩) (.text "yyyy-MM-dd HH:mm:ss.SSS Z")
        (summer2023.zone "Europe/Berlin") = .ok text ∧
      readInstant (.text (String.ofList text)) (.text "yyyy-MM-dd HH:mm:ss.SSS Z") (.fixed (-300))
        = (some ⟨1_698_543_000_007⟩, []) := by
  have hp : Pattern.ofValue (.text "yyyy-MM-dd HH:mm:ss.SSS Z") = .ok isoPattern := by rfl
  have hcomplete : isoPattern.Complete :=
    ⟨by decide +kernel, by decide, by decide, by decide, by decide, by decide, by decide,
      by decide, by decide⟩
  have hshown : Instant.toOffsetTime ⟨1_698_543_000_007⟩ (summer2023.zone "Europe/Berlin")
      = .ok ⟨⟨63_834_143_400_007_000, by decide⟩, 3_600_000_000⟩ :=
    Instant.toOffsetTime_eq_ok.2 ⟨⟨63_834_139_800_007_000, by decide⟩, by decide, by decide, by decide⟩
  exact readInstant_writeDate hp hcomplete (by decide) (by decide) hshown _

/-! ### Texts to instants and back -/

/-- The first three places of a second do not show what lies below the millisecond. -/
theorem take_padded_floor {n micro : Nat} (hn : n ≤ 3) (hmicro : micro < 1_000_000) :
    (padded 6 (micro / 1000 * 1000)).take n = (padded 6 micro).take n := by
  have hpow : 10 ^ (6 - n) = 1000 * 10 ^ (3 - n) := by
    rw [show 6 - n = 3 + (3 - n) by omega, Nat.pow_add]
  have hquotient : micro / 1000 * 1000 / 10 ^ (6 - n) = micro / 10 ^ (6 - n) := by
    rw [hpow, ← Nat.div_div_eq_div_mul, ← Nat.div_div_eq_div_mul,
      Nat.mul_div_cancel _ (show 0 < 1000 by decide)]
  rw [take_padded (by omega) (by omega), take_padded (by omega) hmicro, hquotient]

/-- A pattern that shows no offset and nothing below the millisecond writes a time alike when it is
cut to the millisecond. -/
theorem Pattern.format_floorMillis (hoffset : ¬ p.Shows .offset)
    (hmillis : ∀ n ∈ p.widths .fraction, n ≤ 3) (s : Stamp) (offset : Option Int) :
    p.format ⟨s.wall.floorMillis, offset⟩ = p.format s := by
  have hfields := s.wall.fields_floorMillis
  have hday := s.wall.dayNumber_floorMillis
  apply render_congr
  intro tok htok
  cases tok with
  | literal text => rfl
  | field l n =>
    show renderField l n ⟨s.wall.floorMillis, offset⟩ = renderField l n s
    cases l with
    | fraction =>
      have hn : n ≤ 3 := hmillis n (p.mem_widths.2 htok)
      rw [renderField_fraction (by omega), renderField_fraction (by omega)]
      show (padded 6 s.wall.floorMillis.fields.micro).take n = _
      rw [hfields, take_padded_floor hn s.wall.fields_valid.2.2.2.2]
    | offset => exact absurd (p.shows_iff.2 ⟨n, htok⟩) hoffset
    | month => simp only [renderField, hfields, WallTime.monthName, WallTime.date, hday]
    | weekday => simp only [renderField, WallTime.weekdayName, hday]
    | _ => simp only [renderField, hfields]

/-- A text that was read as an instant is written again, if its wall-clock time is shown in the
zone, three days inside the calendar, and if the pattern shows no offset and nothing below the
millisecond. The fields need not be separated. -/
theorem writeDate_readInstant {source text : String} {logs : List Record} {s : Stamp}
    (hp : Pattern.ofValue (.text source) = .ok p) (hoffset : ¬ p.Shows .offset)
    (hmillis : ∀ n ∈ p.widths .fraction, n ≤ 3) (hz : z.Regular) (hms : z.WholeMillis)
    (hread : readInstant (.text text) (.text source) z = (some i, logs))
    (hs : Stamp.ofText (.text text) (.text source) = .ok s)
    (hshown : ∃ point t, z.toOffsetTime point = .ok t ∧ t.wall = s.wall)
    (hclear : s.wall.Clear (3 * dayMicros)) :
    writeDate (some i) (.text source) z = .ok text.toList := by
  obtain ⟨r, hr, hi⟩ := (ofText_eq_ok hp).1 (readInstant_eq_some.1 hread).1
  obtain rfl : r = s := by
    rw [Stamp.ofText, bind_of_ok hp] at hs
    exact Except.ok.inj (hr.symm.trans hs)
  -- the stamp has no offset, so its time is placed in the zone
  have hnone := Pattern.offset_of_read hr hoffset
  obtain ⟨t, hplace, hwall, hself⟩ := Zone.localize_of_shown hz hclear hshown
  have hplaced : Instant.ofStamp r z = .ok t.instant := by
    rw [Instant.ofStamp, hnone]
    exact Instant.ofWall_of_localize hplace
  obtain rfl : t.instant = i := Except.ok.inj (hplaced.symm.trans hi)
  -- it is seen there cut to the millisecond, which the pattern does not tell from the time itself
  refine (writeDate_eq_ok hp).2 ⟨_, Instant.toOffsetTime_instant hms hself, ?_⟩
  rw [hwall]
  exact (Pattern.format_floorMillis hoffset hmillis r (some t.offset)).trans
    (Pattern.read_eq_ok.1 hr).2

/-- A pattern whose fields stand next to each other. -/
def closePattern : Pattern :=
  ⟨"dMyyyy".toList, [.field .day 1, .field .month 1, .field .year 4]⟩

/-- The start of 11 January 2020. -/
def eleventhOfJanuary : WallTime :=
  ⟨(⟨⟨2020, 1, 11⟩, 0, 0, 0, 0⟩ : Fields).micros, by decide +kernel⟩

/-- Of the ways to divide the digits the first one that leaves four for the year counts. -/
theorem writeDate_readInstant_closeFields :
    closePattern.read "1112020".toList = .ok ⟨eleventhOfJanuary, none⟩ ∧
      writeDate (some ⟨1_578_681_000_000⟩) (.text "dMyyyy") (.fixed 330)
        = .ok "1112020".toList := by
  have hp : Pattern.ofValue (.text "dMyyyy") = .ok closePattern := by rfl
  have hread : closePattern.read "1112020".toList = .ok ⟨eleventhOfJanuary, none⟩ :=
    Pattern.read_eq_ok.2 ⟨by rfl, by decide +kernel⟩
  have hstamp : Stamp.ofText (.text "1112020") (.text "dMyyyy")
      = .ok ⟨eleventhOfJanuary, none⟩ := by
    rw [Stamp.ofText, bind_of_ok hp]
    exact hread
  have hinstant : Instant.ofStamp ⟨eleventhOfJanuary, none⟩ (.fixed 330)
      = .ok ⟨1_578_681_000_000⟩ := by
    have hplace : (OffsetTime.mk eleventhOfJanuary 19_800_000_000).instant
        = ⟨1_578_681_000_000⟩ := by
      decide +kernel
    exact congrArg Except.ok hplace
  have hi := readInstant_eq_some.2 ⟨(ofText_eq_ok hp).2 ⟨_, hread, hinstant⟩, rfl⟩
  have hshown : ∃ point t, (Zone.fixed 330).toOffsetTime point = .ok t ∧
      t.wall = eleventhOfJanuary :=
    ⟨1_578_681_000_000_000, ⟨eleventhOfJanuary, 19_800_000_000⟩,
      Zone.toOffsetTime_eq_ok.2 ⟨⟨63_714_277_800_000_000, by decide⟩, by decide, by decide,
        by decide +kernel⟩, rfl⟩
  exact ⟨hread, writeDate_readInstant hp (by decide) (by decide) (by decide) (by decide) hi hstamp
    hshown (by decide +kernel)⟩

end CivilTime
