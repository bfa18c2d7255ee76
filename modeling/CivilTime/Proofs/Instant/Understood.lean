import CivilTime.Proofs.Instant.Period

/-!
# What a wall-clock time is understood as

In every regular zone a wall-clock time of whole milliseconds, three days inside the calendar, is
understood as an instant. The instant reads that time if any instant does. If none does, the clocks
are set forward over the time, and the instant reads it moved forward by as much. A time that is
understood as no instant is one whose search leaves the calendar.

* `Zone.LeapsOver`: that the clocks of a zone are set forward over a time, and by how much.
* `LeapsOver.gapLength_eq`: there is one such length.
* `exists_wallClock_or_leapsOver`: a time is read or leapt over; `LeapsOver.not_wallClock` says not
  both.
* `wallClock_of_ofWall`, `exists_ofWall_of_not_leapsOver`, `wallClock_of_leapsOver`: what the instant
  reads.
* `ofWall_of_only`: a time that one instant reads is understood as that instant.
* `eq_of_wallClock_constant`: in a zone with one offset no time is read twice.
* `wallClock_wholeSecond`: an instant cut to the second reads its time cut to the second.
* `eq_outOfRange_of_ofWall`: why a time can fail to be understood.
-/

namespace CivilTime

/-! ### Times that are leapt over -/

/-- Whether the clocks of a zone are set forward over a wall-clock time, by `n` microseconds. -/
def Zone.LeapsOver (z : Zone) (w : WallTime) (n : Int) : Prop :=
  ∃ t r c, z.table? = some t ∧ t.InGap w r c ∧ n = c.regime.micros - r.micros

/-- All gaps around a time are equally long: they end one regime, and the one in force past it
begins in each of them. -/
theorem Table.InGap.gapLength_eq {t : Table} {w : WallTime} {r : Regime} {c : Change}
    (ht : t.Regular) (hw : w.Clear (3 * dayMicros)) (h : t.InGap w r c) :
    t.gapLength w = c.regime.micros - r.micros := by
  obtain ⟨s, d, hgap, hlength⟩ := Table.exists_gapLength_eq h
  have hplace := Table.localize_of_inGap ht hw h
  obtain rfl : r = s := Except.ok.inj (hplace.symm.trans (Table.localize_of_inGap ht hw hgap))
  have hb := (ht.moderate_of_turn h.turn).1.micros_bounds
  have hhour : (hourMicros : Int) = 3_600_000_000 := rfl
  have hday : (dayMicros : Int) = 24 * hourMicros := rfl
  obtain ⟨u, -, hu⟩ := hw.exists_shift (n := -r.micros) (by push_cast; omega) (by push_cast; omega)
  have hc := h.regimeAt_eq ht (u := u) (by omega)
  have hd := hgap.regimeAt_eq ht (u := u) (by omega)
  rw [hlength, ← hc, hd]

namespace Zone

variable {z : Zone} {w : WallTime} {n : Int}

theorem LeapsOver.gapLength_eq (hz : z.Regular) (hw : w.Clear (3 * dayMicros))
    (h : z.LeapsOver w n) : z.gapLength w = n := by
  obtain ⟨t, r, c, ht, hgap, rfl⟩ := h
  rw [gapLength_of_table ht]
  exact hgap.gapLength_eq (hz.regular_table ht) hw

/-- A time is shown by a zone or leapt over. -/
theorem Regular.shows_or_leapsOver (hz : z.Regular) (hw : w.Clear dayMicros) :
    (∃ u, z.Shows u w) ∨ ∃ n, z.LeapsOver w n := by
  cases hc : z.constantOffset? with
  | some offset =>
    left
    have hshort := isOffset_iff.1 (hz.sound.isOffset_of_constant hc)
    obtain ⟨u, -, hu⟩ := hw.exists_shift (n := -offset) (by omega) (by omega)
    exact ⟨u, by rw [Shows, offsetAt_of_constant hc]; omega⟩
  | none =>
    obtain ⟨t, ht⟩ := exists_table hc
    have hclear : w.Clear (16 * hourMicros) :=
      hw.mono (by simp only [dayMicros, hourMicros]; omega)
    rcases Table.readBy_or_inGap (hz.regular_table ht) hclear with ⟨r, u, hu, hr⟩ | ⟨r, c, hgap⟩
    · left
      refine ⟨u, ?_⟩
      rw [Shows, offsetAt_of_table ht, hr]
      omega
    · exact .inr ⟨_, t, r, c, ht, hgap, rfl⟩

/-- A time that is leapt over is read by no instant. -/
theorem LeapsOver.not_wallClock (hz : z.Regular) (h : z.LeapsOver w n) (j : Instant) :
    j.wallClock z ≠ .ok w := by
  intro hj
  obtain ⟨t, r, c, ht, hgap, -⟩ := h
  obtain ⟨o, ho, rfl⟩ := Instant.wallClock_eq_ok.1 hj
  obtain ⟨s, hs, -⟩ := readBy_of_toOffsetTime ht ho
  exact hgap.not_readBy (hz.regular_table ht) s hs

end Zone

namespace Instant

variable {z : Zone} {w v : WallTime} {i j : Instant} {n : Int} {f : Fault}

/-- A time of whole milliseconds is read by some instant, or the clocks are set forward over it. -/
theorem exists_wallClock_or_leapsOver (hz : z.Regular) (hms : z.WholeMillis)
    (hw : w.micros % 1000 = 0) (hclear : w.Clear dayMicros) :
    (∃ j : Instant, j.wallClock z = .ok w) ∨ ∃ n, z.LeapsOver w n := by
  rcases hz.shows_or_leapsOver hclear with ⟨u, hshown⟩ | hleap
  · obtain ⟨j, -, hj⟩ := exists_of_shows hms hw hshown
    exact .inl ⟨j, hj⟩
  · exact .inr hleap

/-! ### What the instant reads -/

/-- What is understood as an instant is read by it, if it is read at all. -/
theorem wallClock_of_ofWall (hz : z.Regular) (hms : z.WholeMillis) (hw : w.micros % 1000 = 0)
    (hclear : w.Clear (3 * dayMicros)) (hi : ofWall w z = .ok i) (hj : j.wallClock z = .ok w) :
    i.wallClock z = .ok w := by
  obtain ⟨i', v, hi', hv⟩ := exists_ofWall hz hms hw hclear
  obtain rfl : i = i' := Except.ok.inj (hi.symm.trans hi')
  obtain ⟨u, -, hshown⟩ := wallClock_iff_shows.1 hj
  have hmicros := shows_of_ofWall hz hms hw hi hv
  rw [hshown.gapLength_eq hz] at hmicros
  have hvw : v = w := WallTime.ext (by omega)
  rw [hv, hvw]

/-- A time that the clocks are not set forward over is understood as an instant that reads it. -/
theorem exists_ofWall_of_not_leapsOver (hz : z.Regular) (hms : z.WholeMillis)
    (hw : w.micros % 1000 = 0) (hclear : w.Clear (3 * dayMicros))
    (hgap : ∀ n, ¬ z.LeapsOver w n) : ∃ i, ofWall w z = .ok i ∧ i.wallClock z = .ok w := by
  obtain ⟨i, -, hi, -⟩ := exists_ofWall hz hms hw hclear
  refine ⟨i, hi, ?_⟩
  -- some instant reads the time, so the one that it is understood as does
  rcases exists_wallClock_or_leapsOver hz hms hw (hclear.mono (by omega)) with ⟨j, hj⟩ | ⟨n, hn⟩
  · exact wallClock_of_ofWall hz hms hw hclear hi hj
  · exact absurd hn (hgap n)

/-- What is leapt over is read moved forward by the length of the gap. -/
theorem wallClock_of_leapsOver (hz : z.Regular) (hms : z.WholeMillis) (hw : w.micros % 1000 = 0)
    (hclear : w.Clear (3 * dayMicros)) (hi : ofWall w z = .ok i) (h : z.LeapsOver w n) :
    ∃ v, i.wallClock z = .ok v ∧ (v.micros : Int) = w.micros + n := by
  obtain ⟨i', v, hi', hv⟩ := exists_ofWall hz hms hw hclear
  obtain rfl : i = i' := Except.ok.inj (hi.symm.trans hi')
  have hmicros := shows_of_ofWall hz hms hw hi hv
  rw [h.gapLength_eq hz hclear] at hmicros
  exact ⟨v, hv, hmicros⟩

/-- A time that one instant reads and no other is understood as that instant. -/
theorem ofWall_of_only (hz : z.Regular) (hms : z.WholeMillis) (hclear : w.Clear (3 * dayMicros))
    (hj : j.wallClock z = .ok w) (honly : ∀ k : Instant, k.wallClock z = .ok w → k = j) :
    ofWall w z = .ok j := by
  have hw := wallClock_mod hms hj
  obtain ⟨i, -, hi, -⟩ := exists_ofWall hz hms hw hclear
  rw [hi, honly i (wallClock_of_ofWall hz hms hw hclear hi hj)]

theorem eq_of_millis (h : i.millis = j.millis) : i = j := by
  cases i
  cases j
  exact congrArg mk h

/-- In a zone with one offset for ever no two instants read one time. -/
theorem eq_of_wallClock_constant {offset : Int} (hc : z.constantOffset? = some offset)
    (hi : i.wallClock z = .ok w) (hj : j.wallClock z = .ok w) : i = j := by
  obtain ⟨u, hu, hshown⟩ := wallClock_iff_shows.1 hi
  obtain ⟨v, hv, hshown'⟩ := wallClock_iff_shows.1 hj
  rw [Zone.Shows, Zone.offsetAt_of_constant hc] at hshown hshown'
  exact eq_of_millis (by omega)

/-- An instant cut to the second reads its wall-clock time cut to the second. -/
theorem wallClock_wholeSecond (hs : z.WholeSeconds) (hw : i.wallClock z = .ok w) :
    i.wholeSecond.wallClock z = .ok w.wholeSecond := by
  obtain ⟨t, ht, rfl⟩ := wallClock_eq_ok.1 hw
  obtain ⟨u, -, hoffset, -⟩ := Instant.toOffsetTime_eq_ok.1 ht
  have hdvd : (secondMicros : Int) ∣ t.offset := by
    rw [hoffset]
    exact hs.offsetAt_dvd u
  have hcut := Zone.toOffsetTime_startOf (Nat.dvd_refl _) hdvd ht
  have hpoint : i.millis * 1000 / secondMicros * secondMicros = i.wholeSecond.millis * 1000 := by
    show i.millis * 1000 / 1_000_000 * 1_000_000 = (i.millis - i.millis % 1000) * 1000
    omega
  rw [hpoint] at hcut
  exact wallClock_eq_ok.2 ⟨_, hcut, rfl⟩

end Instant

/-! ### Times that are not understood -/

namespace Table

variable {t : Table} {w p : WallTime} {f : Fault}

theorem eq_outOfRange_of_candidate (h : t.candidate w p = .error f) : f = .outOfRange := by
  rcases bind_eq_error.1 h with h | ⟨u, -, h⟩
  · exact WallTime.eq_outOfRange_of_shift h
  · rcases bind_eq_error.1 h with h | ⟨v, -, h⟩
    · exact WallTime.eq_outOfRange_of_shift h
    · cases h

theorem eq_outOfRange_of_readings (h : t.readings w = .error f) : f = .outOfRange := by
  rcases bind_eq_error.1 h with h | ⟨x, -, h⟩
  · exact WallTime.eq_outOfRange_of_shift h
  · rcases bind_eq_error.1 h with h | ⟨a, -, h⟩
    · exact eq_outOfRange_of_candidate h
    · rcases bind_eq_error.1 h with h | ⟨y, -, h⟩
      · exact WallTime.eq_outOfRange_of_shift h
      · rcases bind_eq_error.1 h with h | ⟨b, -, h⟩
        · exact eq_outOfRange_of_candidate h
        · cases h

/-- The walk backwards from a gap fails only where it leaves the calendar. The induction follows the
walk. -/
theorem eq_outOfRange_of_winterRegime (h : t.winterRegime w = .error f) : f = .outOfRange := by
  fun_induction winterRegime t w with
  | case1 w e hR =>
    obtain rfl := Except.error.inj h
    exact eq_outOfRange_of_readings hR
  | case2 w q hR => cases h
  | case3 w q p hR => cases h
  | case4 w hR hin ih => exact ih h
  | case5 w hR hout => exact (Except.error.inj h).symm

theorem eq_outOfRange_of_localize (h : t.localize w = .error f) : f = .outOfRange := by
  rw [localize] at h
  split at h
  · next hR =>
    obtain rfl := Except.error.inj h
    exact eq_outOfRange_of_readings hR
  · cases h
  · cases h
  · exact eq_outOfRange_of_winterRegime h

end Table

theorem Zone.eq_outOfRange_of_localize {z : Zone} {w : WallTime} {f : Fault}
    (h : z.localize w = .error f) : f = .outOfRange := by
  have hanchored : ∀ n, anchored w n = .error f → f = .outOfRange := by
    intro n hn
    rcases bind_eq_error.1 hn with hn | ⟨u, -, hn⟩
    · exact WallTime.eq_outOfRange_of_shift hn
    · cases hn
  cases z with
  | standard n => exact hanchored n h
  | folding name t => exact Table.eq_outOfRange_of_settle h
  | universal => cases h
  | fixed n => cases h
  | named name rules =>
    cases rules with
    | constant n => cases h
    | table t =>
      rcases bind_eq_error.1 h with h | ⟨r, -, h⟩
      · exact Table.eq_outOfRange_of_localize h
      · cases h

/-- A time that is understood as no instant in a zone is one for which the calendar is left. -/
theorem Instant.eq_outOfRange_of_ofWall {z : Zone} {w : WallTime} {f : Fault}
    (h : ofWall w z = .error f) : f = .outOfRange := by
  rcases bind_eq_error.1 h with h | ⟨t, -, h⟩
  · exact Zone.eq_outOfRange_of_localize h
  · cases h

end CivilTime
