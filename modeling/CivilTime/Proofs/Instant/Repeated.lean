import CivilTime.Proofs.Instant.Period

/-!
# Times that are shown twice

Where the clocks are set back, a wall-clock time is shown on both sides of the change. It has two
readings then, and the earlier instant reads it under the greater offset. Such a time is understood
as daylight time; so it is the daylight marks of the two regimes that decide, and the order of the
instants only where the marks do not.

* `preferred_daylight`: the daylight time of two readings, in whatever order they were found.
* `localize_of_two`: the regime that a time with two readings is understood in.
* `Instant.regime`: the regime in force at an instant; `Instant.regime_of_wallClock` says that it
  reads the wall-clock time of the instant.
* `ofWall_repeated`: which of the two instants is chosen, and that there are no others.
* `ofWall_markedWinter`: the later one, where winter time alone is marked as daylight time.
-/

namespace CivilTime

/-- The regime in force at an instant. -/
def Instant.regime (i : Instant) (t : Table) : Except Fault Regime := do
  return t.regimeAt (← WallTime.ofEpoch (i.millis * 1000))

namespace Table

variable {t : Table} {w : WallTime} {r s : Regime} {R : Readings}

/-! ### Two readings -/

/-- Of two regimes daylight time is the one with the smaller offset only if that one alone is
marked, whichever of them comes first. -/
theorem preferred_daylight (h : s.offset < r.offset) :
    Regime.preferred true r s = (if r.daylight = false ∧ s.daylight = true then s else r) ∧
      Regime.preferred true s r = if r.daylight = false ∧ s.daylight = true then s else r := by
  have hnot : ¬ r.offset < s.offset := by omega
  unfold Regime.preferred
  cases hr : r.daylight with
  | false => cases hs : s.daylight <;> simp [h, hnot]
  | true => cases hs : s.daylight <;> simp [h, hnot]

/-- A time that two regimes read has these two readings, in the order of the probes. -/
theorem readings_of_two (ht : t.Regular) (hR : t.readings w = .ok R) (hr : t.ReadBy w r)
    (hs : t.ReadBy w s) (h : s.offset < r.offset) : R = .two r s ∨ R = .two s r := by
  obtain ⟨hmem, -⟩ := readings_spec ht hR
  have hrmem := (hmem r).1 hr
  have hsmem := (hmem s).1 hs
  have hne : r ≠ s := by
    rintro rfl
    exact absurd h (Int.lt_irrefl _)
  cases R with
  | none => exact absurd hrmem List.not_mem_nil
  | one q =>
    have hrq : r = q := List.mem_singleton.1 hrmem
    have hsq : s = q := List.mem_singleton.1 hsmem
    exact absurd (hrq.trans hsq.symm) hne
  | two q p =>
    have hrqp : r = q ∨ r = p := by simpa [Readings.regimes] using hrmem
    have hsqp : s = q ∨ s = p := by simpa [Readings.regimes] using hsmem
    rcases hrqp with rfl | rfl
    · rcases hsqp with rfl | rfl
      · exact absurd rfl hne
      · exact .inl rfl
    · rcases hsqp with rfl | rfl
      · exact .inr rfl
      · exact absurd rfl hne

/-- No third regime reads the time. -/
theorem eq_or_eq_of_readBy (ht : t.Regular) (hR : t.readings w = .ok R) (hr : t.ReadBy w r)
    (hs : t.ReadBy w s) (h : s.offset < r.offset) {q : Regime} (hq : t.ReadBy w q) :
    q = r ∨ q = s := by
  have hmem := ((readings_spec ht hR).1 q).1 hq
  rcases readings_of_two ht hR hr hs h with rfl | rfl
  · simpa [Readings.regimes] using hmem
  · have hqsr : q = s ∨ q = r := by simpa [Readings.regimes] using hmem
    exact hqsr.symm

/-- A time with two readings is understood under the greater offset, unless the regime of the
smaller one alone is marked as daylight time. -/
theorem localize_of_two (ht : t.Regular) (hR : t.readings w = .ok R) (hr : t.ReadBy w r)
    (hs : t.ReadBy w s) (h : s.offset < r.offset) :
    t.localize w = .ok (if r.daylight = false ∧ s.daylight = true then s else r) := by
  obtain ⟨hrs, hsr⟩ := preferred_daylight h
  rcases readings_of_two ht hR hr hs h with rfl | rfl
  · rw [localize, hR]
    show Except.ok (Regime.preferred true r s) = _
    rw [hrs]
  · rw [localize, hR]
    show Except.ok (Regime.preferred true s r) = _
    rw [hsr]

end Table

/-! ### Two instants -/

namespace Instant

variable {t : Table} {w : WallTime} {i : Instant} {name : String}

/-- The regime in force at an instant reads its wall-clock time, at the point of the instant. -/
theorem regime_of_wallClock (h : i.wallClock (t.zone name) = .ok w) :
    ∃ r, i.regime t = .ok r ∧ t.ReadBy w r ∧ i.millis * 1000 = w.sinceEpoch - r.micros := by
  obtain ⟨u, hu, hshown⟩ := wallClock_iff_shows.1 h
  have hw : w.sinceEpoch = u.sinceEpoch + (t.regimeAt u).micros := hshown
  refine ⟨t.regimeAt u, ?_, ⟨u, by omega, rfl⟩, by omega⟩
  rw [regime, bind_of_ok (WallTime.ofEpoch_eq_ok.2 hu)]
  rfl

/-- An instant is known from its wall-clock time and the offset in force. -/
theorem eq_instant_of_point {offset : Int} (h : i.millis * 1000 = w.sinceEpoch - offset) :
    (OffsetTime.mk w offset).instant = i := by
  rw [OffsetTime.instant_eq_iff]
  show i.millis * 1000 ≤ w.sinceEpoch - offset ∧ w.sinceEpoch - offset < (i.millis + 1) * 1000
  omega

end Instant

namespace Table

variable {t : Table} {w : WallTime} {i j : Instant} (name : String)

/-- Two instants that read one wall-clock time are the only ones. The time is understood as the
earlier of them, unless the regime of the later one alone is marked as daylight time; then it is
understood as the later one. -/
theorem ofWall_repeated (ht : t.Regular) (hw : w.Clear (3 * dayMicros)) (hij : i.millis < j.millis)
    (hi : i.wallClock (t.zone name) = .ok w) (hj : j.wallClock (t.zone name) = .ok w) :
    ∃ r s, i.regime t = .ok r ∧ j.regime t = .ok s ∧
      (Instant.ofWall w (t.zone name) = .ok i ↔ ¬ (r.daylight = false ∧ s.daylight = true)) ∧
      (Instant.ofWall w (t.zone name) = .ok j ↔ r.daylight = false ∧ s.daylight = true) ∧
      ∀ k : Instant, k.wallClock (t.zone name) = .ok w → k = i ∨ k = j := by
  obtain ⟨r, hir, hr, hri⟩ := Instant.regime_of_wallClock hi
  obtain ⟨s, hjs, hs, hsj⟩ := Instant.regime_of_wallClock hj
  have hoffset : s.offset < r.offset := by
    simp only [Regime.micros, secondMicros] at hri hsj
    omega
  have hclear : w.Clear (32 * hourMicros) :=
    hw.mono (by simp only [dayMicros, hourMicros]; omega)
  obtain ⟨R, hR⟩ := exists_readings ht hclear
  have hplace : Instant.ofWall w (t.zone name) = _ := Instant.ofWall_of_localize
    (Zone.localize_table (localize_of_two ht hR hr hs hoffset))
  have hchoice : Instant.ofWall w (t.zone name)
      = .ok (if r.daylight = false ∧ s.daylight = true then j else i) := by
    refine hplace.trans (congrArg Except.ok ?_)
    split
    · exact Instant.eq_instant_of_point hsj
    · exact Instant.eq_instant_of_point hri
  have hne : i ≠ j := by
    rintro rfl
    exact absurd hij (Int.lt_irrefl _)
  refine ⟨r, s, hir, hjs, ?_, ?_, ?_⟩
  · rw [hchoice]
    by_cases hmark : r.daylight = false ∧ s.daylight = true
    · simp [hmark, hne.symm]
    · simp [hmark]
  · rw [hchoice]
    by_cases hmark : r.daylight = false ∧ s.daylight = true
    · simp [hmark]
    · simp [hmark, hne]
  · intro k hk
    obtain ⟨q, -, hq, hqk⟩ := Instant.regime_of_wallClock hk
    rcases eq_or_eq_of_readBy ht hR hr hs hoffset hq with rfl | rfl
    · left
      rw [← Instant.eq_instant_of_point hqk, Instant.eq_instant_of_point hri]
    · right
      rw [← Instant.eq_instant_of_point hqk, Instant.eq_instant_of_point hsj]

/-- Half past two in the night after which the summer ends is understood as that of summer time. -/
theorem ofWall_repeated_nightEnds :
    Instant.ofWall nightEnds (summer2023.zone "Europe/Berlin") = .ok ⟨1_698_539_400_007⟩ ∧
      ∀ k : Instant, k.wallClock (summer2023.zone "Europe/Berlin") = .ok nightEnds →
        k = ⟨1_698_539_400_007⟩ ∨ k = ⟨1_698_543_000_007⟩ := by
  have hfirst : Instant.wallClock ⟨1_698_539_400_007⟩ (summer2023.zone "Europe/Berlin")
      = .ok nightEnds := by rfl
  have hsecond : Instant.wallClock ⟨1_698_543_000_007⟩ (summer2023.zone "Europe/Berlin")
      = .ok nightEnds := by rfl
  obtain ⟨r, s, hr, -, hearlier, -, honly⟩ :=
    ofWall_repeated "Europe/Berlin" (by decide) (by decide) (by decide) hfirst hsecond
  have hsummer : Instant.regime ⟨1_698_539_400_007⟩ summer2023 = .ok ⟨7_200, true⟩ := by rfl
  obtain rfl : r = ⟨7_200, true⟩ := Except.ok.inj (hr.symm.trans hsummer)
  exact ⟨hearlier.2 (by simp), honly⟩

/-! ### Winter time as daylight time -/

/-- The end of a summer where standard time is kept in summer, and where it is winter time that is
marked as a deviation from it. -/
def markedWinter : Table :=
  ⟨⟨0, true⟩, [⟨1_585_443_600, ⟨3_600, false⟩⟩, ⟨1_603_587_600, ⟨0, true⟩⟩]⟩

/-- Half past one in the night after which that summer ends. -/
def halfPastOne : WallTime := ⟨63_739_186_200_000_000, by decide⟩

/-- A time that is shown twice can be understood as the later of the two instants. -/
theorem ofWall_markedWinter :
    markedWinter.Regular ∧ halfPastOne.Clear (3 * dayMicros) ∧
      Instant.wallClock ⟨1_603_585_800_000⟩ (markedWinter.zone "Europe/Dublin")
        = .ok halfPastOne ∧
      Instant.wallClock ⟨1_603_589_400_000⟩ (markedWinter.zone "Europe/Dublin")
        = .ok halfPastOne ∧
      Instant.ofWall halfPastOne (markedWinter.zone "Europe/Dublin") = .ok ⟨1_603_589_400_000⟩ := by
  refine ⟨by decide, by decide, ?_, ?_, ?_⟩
  · rfl
  · rfl
  · rfl

end Table

end CivilTime
