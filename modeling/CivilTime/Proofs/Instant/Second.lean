import CivilTime.Proofs.Instant.RoundTrip

/-!
# Instants written to the second

The default pattern shows the date and the time of day to the second. A text that it has written is
read as the wall-clock time that was written, cut to the second; so an instant comes back as one
that shows the same second. It is the same one for all instants that show this second.

* `secondPattern`: the default pattern.
* `format_wholeSecond`: what is written does not depend on the offset or the parts of a second.
* `read_format_second`: what is read again.
* `SameSecond`, `Instant.wholeSecond`: instants that show one second, and instants cut to it.
* `ofWall_wholeSecond`: what a wall-clock time cut to the second is understood as.
* `readInstant_default`: the instant of a second that was written.
* `second_reads_back`: what is left of an instant.
-/

namespace CivilTime

open Text Token

/-! ### The default pattern -/

/-- The pattern of dates and times of day to the second. -/
def secondPattern : Pattern :=
  ⟨"yyyy-MM-dd HH:mm:ss".toList,
    [.field .year 4, .literal ['-'], .field .month 2, .literal ['-'], .field .day 2,
      .literal [' '], .field .hour 2, .literal [':'], .field .minute 2, .literal [':'],
      .field .second 2]⟩

theorem ofValue_defaultPattern : Pattern.ofValue defaultPattern = .ok secondPattern := by rfl

theorem secondPattern_readable : secondPattern.Readable := by decide +kernel

/-- The default pattern keeps all but the parts of a second. -/
theorem kept_secondPattern (f : Fields) : secondPattern.kept f = { f with micro := 0 } := by rfl

variable {z : Zone} {i j r : Instant} {w : WallTime}

theorem WallTime.fields_wholeSecond (w : WallTime) :
    w.wholeSecond.fields = { w.fields with micro := 0 } := by
  have hmicro : w.fields.micro / secondMicros = 0 :=
    Nat.div_eq_of_lt w.fields_valid.2.2.2.2
  rw [wholeSecond, fields_startOf (Nat.dvd_refl _), hmicro, Nat.zero_mul]

theorem WallTime.wholeSecond_wholeSecond (w : WallTime) :
    w.wholeSecond.wholeSecond = w.wholeSecond := by
  apply fields_injective
  rw [fields_wholeSecond, fields_wholeSecond]

theorem WallTime.wholeSecond_mod (w : WallTime) : w.wholeSecond.micros % 1000 = 0 := by
  rw [wholeSecond, micros_startOf]
  simp only [secondMicros]
  omega

/-- A time three days inside the calendar is so when it is cut to the second. -/
theorem WallTime.Clear.wholeSecond (h : w.Clear (3 * dayMicros)) :
    w.wholeSecond.Clear (3 * dayMicros) := by
  obtain ⟨hlo, hhi⟩ := h
  have hmicros : w.wholeSecond.micros = w.micros / secondMicros * secondMicros :=
    micros_startOf w secondMicros
  simp only [Clear, hmicros, dayMicros, secondMicros] at *
  omega

/-- The offset and the parts of a second are not written. -/
theorem format_wholeSecond (w : WallTime) (offset offset' : Option Int) :
    secondPattern.format ⟨w.wholeSecond, offset⟩ = secondPattern.format ⟨w, offset'⟩ := by
  apply Pattern.format_kept secondPattern_readable
  · rw [kept_secondPattern]
    exact w.fields_wholeSecond
  · intro hshows
    exact absurd hshows (by decide)

/-- A text that was written is read as the time that was written, cut to the second. -/
theorem read_format_second (w : WallTime) :
    secondPattern.read (secondPattern.format ⟨w, none⟩) = .ok ⟨w.wholeSecond, none⟩ := by
  have hsuits : secondPattern.Suits ⟨w, none⟩ :=
    ⟨fun h => absurd h (by decide), fun h => absurd h (by decide), fun o ho => by cases ho⟩
  obtain ⟨v, hread, hfields⟩ :=
    (Pattern.ofValue_shaped ofValue_defaultPattern).read_format secondPattern_readable hsuits
  have hv : v = w.wholeSecond := by
    apply WallTime.fields_injective
    rw [hfields, kept_secondPattern, w.fields_wholeSecond]
  rw [hread, hv, if_neg (by decide)]

/-! ### Writing and reading a second -/

/-- Whether two instants show the same second on the wall clock of a zone. -/
def SameSecond (z : Zone) (i j : Instant) : Prop :=
  ∃ v w, i.wallClock z = .ok v ∧ j.wallClock z = .ok w ∧ v.wholeSecond = w.wholeSecond

/-- An instant cut to the second. -/
def Instant.wholeSecond (i : Instant) : Instant := ⟨i.millis - i.millis % 1000⟩

/-- An instant is written by its wall-clock time. -/
theorem writeDate_default (hw : i.wallClock z = .ok w) :
    writeDate (some i) defaultPattern z = .ok (secondPattern.format ⟨w, none⟩) := by
  obtain ⟨t, ht, rfl⟩ := Instant.wallClock_eq_ok.1 hw
  refine (writeDate_eq_ok ofValue_defaultPattern).2 ⟨t, ht, ?_⟩
  rw [← format_wholeSecond t.wall none none]
  exact (format_wholeSecond t.wall none (some t.offset)).symm

/-- What was written is read as the instant that the second is understood as. -/
theorem readInstant_default (hr : Instant.ofWall w.wholeSecond z = .ok r) :
    readInstant (.text (String.ofList (secondPattern.format ⟨w, none⟩))) defaultPattern z
      = (some r, []) := by
  refine readInstant_eq_some.2
    ⟨(ofText_eq_ok ofValue_defaultPattern).2 ⟨⟨w.wholeSecond, none⟩, ?_, hr⟩, rfl⟩
  rw [String.toList_ofList]
  exact read_format_second w

theorem Zone.WholeSeconds.wholeMillis (hz : z.WholeSeconds) : z.WholeMillis := by
  cases z with
  | standard n =>
    have hmod : n % 1_000_000 = 0 := hz
    show n % 1000 = 0
    omega
  | _ => trivial

/-- A second that is shown is understood as an instant of whole seconds that shows it. -/
theorem ofWall_wholeSecond (hz : z.Regular) (hs : z.WholeSeconds) (hw : i.wallClock z = .ok w)
    (hclear : w.Clear (3 * dayMicros)) :
    ∃ r, Instant.ofWall w.wholeSecond z = .ok r ∧ r.wallClock z = .ok w.wholeSecond ∧
      r.wholeSecond = r := by
  obtain ⟨t, ht, rfl⟩ := Instant.wallClock_eq_ok.1 hw
  have hoffset : (secondMicros : Int) ∣ t.offset := by
    obtain ⟨u, -, hoffset, -⟩ := Instant.toOffsetTime_eq_ok.1 ht
    rw [hoffset]
    exact hs.offsetAt_dvd u
  have hcut := Zone.toOffsetTime_startOf (Nat.dvd_refl _) hoffset ht
  obtain ⟨s, hplace, hwall, hself⟩ :=
    Zone.localize_of_shown hz hclear.wholeSecond ⟨_, _, hcut, rfl⟩
  -- the offset in force there has whole seconds too, so the point is that of an instant
  have hpoint : (secondMicros : Int) ∣ s.sinceEpoch := by
    obtain ⟨u, -, hoff, -⟩ := Zone.toOffsetTime_eq_ok.1 hself
    rw [OffsetTime.sinceEpoch, hwall, WallTime.wholeSecond,
      WallTime.sinceEpoch_startOf (Nat.dvd_refl _), hoff]
    exact Int.dvd_sub (Int.dvd_mul_left _ _) (hs.offsetAt_dvd u)
  have hshown : s.instant.toOffsetTime z = .ok ⟨t.wall.wholeSecond, s.offset⟩ := by
    rw [Instant.toOffsetTime_instant hs.wholeMillis hself, hwall,
      WallTime.floorMillis_of_mod t.wall.wholeSecond_mod]
  refine ⟨s.instant, Instant.ofWall_of_localize hplace,
    Instant.wallClock_eq_ok.2 ⟨_, hshown, rfl⟩, ?_⟩
  have hmod : s.sinceEpoch % 1_000_000 = 0 := Int.emod_eq_zero_of_dvd hpoint
  simp only [Instant.wholeSecond, OffsetTime.instant, Instant.mk.injEq]
  omega

/-! ### What is left of an instant -/

/-- An instant that is written to the second and read again comes back as an instant that is written
alike: as itself cut to the second if no other second of the time line shows its second, and else as
one of the instants that show it, cut to the second, and for all of them as the same. -/
theorem second_reads_back (hz : z.Regular) (hs : z.WholeSeconds) (hw : i.wallClock z = .ok w)
    (hclear : w.Clear (3 * dayMicros)) :
    ∃ text r, writeDate (some i) defaultPattern z = .ok text ∧
      readInstant (.text (String.ofList text)) defaultPattern z = (some r, []) ∧
      writeDate (some r) defaultPattern z = .ok text ∧
      ((∀ j, SameSecond z i j → j.wholeSecond = i.wholeSecond) → r = i.wholeSecond) ∧
      (∃ j, SameSecond z i j ∧ r = j.wholeSecond) ∧
      ∀ j, SameSecond z i j → ∃ text', writeDate (some j) defaultPattern z = .ok text' ∧
        readInstant (.text (String.ofList text')) defaultPattern z = (some r, []) := by
  obtain ⟨r, hr, hback, hwhole⟩ := ofWall_wholeSecond hz hs hw hclear
  have hsame : SameSecond z i r := ⟨w, _, hw, hback, (w.wholeSecond_wholeSecond).symm⟩
  refine ⟨_, r, writeDate_default hw, readInstant_default hr, ?_, ?_, ⟨r, hsame, hwhole.symm⟩, ?_⟩
  · rw [writeDate_default hback, format_wholeSecond w none none]
  · intro honly
    rw [← hwhole]
    exact honly r hsame
  · rintro j ⟨v, v', hv, hv', heq⟩
    obtain rfl : v = w := Except.ok.inj (hv.symm.trans hw)
    refine ⟨_, writeDate_default hv', readInstant_default ?_⟩
    rw [← heq]
    exact hr

/-- Half past two in the night after which the summer ends. -/
def nightEnds : WallTime := ⟨63_834_143_400_007_000, by decide⟩

/-- When it is half past two for the second time, the instant comes back as that of the first
time. -/
theorem second_reads_back_repeatedHour :
    ∃ text, writeDate (some ⟨1_698_543_000_007⟩) defaultPattern (summer2023.zone "Europe/Berlin")
        = .ok text ∧
      readInstant (.text (String.ofList text)) defaultPattern (summer2023.zone "Europe/Berlin")
        = (some ⟨1_698_539_400_000⟩, []) ∧
      writeDate (some ⟨1_698_539_400_000⟩) defaultPattern (summer2023.zone "Europe/Berlin")
        = .ok text := by
  have hw : Instant.wallClock ⟨1_698_543_000_007⟩ (summer2023.zone "Europe/Berlin")
      = .ok nightEnds := by rfl
  have hfirst : Instant.ofWall nightEnds.wholeSecond (summer2023.zone "Europe/Berlin")
      = .ok ⟨1_698_539_400_000⟩ := by rfl
  obtain ⟨text, r, hwrite, hread, hagain, -⟩ :=
    second_reads_back (by decide) (by decide) hw (by decide)
  obtain rfl : secondPattern.format ⟨nightEnds, none⟩ = text :=
    Except.ok.inj ((writeDate_default hw).symm.trans hwrite)
  obtain rfl : r = ⟨1_698_539_400_000⟩ := by
    have heq := hread.symm.trans (readInstant_default hfirst)
    exact Option.some.inj (Prod.mk.inj heq).1
  exact ⟨_, hwrite, hread, hagain⟩

end CivilTime
