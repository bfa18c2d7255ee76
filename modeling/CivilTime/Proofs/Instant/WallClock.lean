import CivilTime.Instant.Basic
import CivilTime.Proofs.Zone.View

/-!
# From the wall clock to an instant and back

A wall-clock time that some instant reads in a zone is understood as an instant that reads it. Where
the clocks are set forward over it, it is understood as the instant that reads it moved forward by
the length of the gap.

* `Instant.toOffsetTime_eq_ok`, `Instant.wallClock_eq_ok`: what a zone shows of an instant.
* `Instant.toOffsetTime_instant`: an instant is seen where its time was placed, cut to the
  millisecond.
* `ReadBy.wallClock_instant`: every reading of a whole millisecond is that of an instant.
* `ofWall_reads_back_or_leaps_gap`: what a wall-clock time is understood as in a regular table.
-/

namespace CivilTime

/-- The zone of a table. -/
def Table.zone (t : Table) (name : String) : Zone := .named name (.table t)

namespace Instant

variable {i : Instant} {z : Zone} {t : OffsetTime} {w : WallTime}

/-- What a zone shows of an instant: its universal time moved by the offset in force. -/
theorem toOffsetTime_eq_ok : i.toOffsetTime z = .ok t ↔
    ∃ u : WallTime, u.sinceEpoch = i.millis * 1000 ∧ t.offset = z.offsetAt u ∧
      t.wall.sinceEpoch = i.millis * 1000 + t.offset :=
  Zone.toOffsetTime_eq_ok

theorem wallClock_eq_ok : i.wallClock z = .ok w ↔ ∃ t, i.toOffsetTime z = .ok t ∧ t.wall = w := by
  rw [wallClock, bind_eq_ok]
  constructor
  · rintro ⟨t, ht, h⟩
    exact ⟨t, ht, Except.ok.inj h⟩
  · rintro ⟨t, ht, rfl⟩
    exact ⟨t, ht, rfl⟩

/-- The instant of a time that a zone shows is seen there as that time, cut to the millisecond. -/
theorem toOffsetTime_instant (hz : z.WholeMillis) (h : z.toOffsetTime t.sinceEpoch = .ok t) :
    t.instant.toOffsetTime z = .ok ⟨t.wall.floorMillis, t.offset⟩ :=
  Zone.toOffsetTime_floor hz h

theorem ofWall_of_localize (h : z.localize w = .ok t) : ofWall w z = .ok t.instant := by
  rw [ofWall, bind_of_ok h]
  rfl

end Instant

/-! ### Tables -/

namespace Table

variable {t : Table} {w : WallTime} {r : Regime} {c : Change} (name : String)

/-- The instant at which a regime reads a time reads it, if the time has whole milliseconds. -/
theorem ReadBy.wallClock_instant (h : t.ReadBy w r) (hms : w.micros % 1000 = 0) :
    (OffsetTime.mk w r.micros).instant.wallClock (t.zone name) = .ok w := by
  have hshown : (t.zone name).toOffsetTime (OffsetTime.mk w r.micros).sinceEpoch
      = .ok ⟨w, r.micros⟩ := Zone.toOffsetTime_of_readBy rfl h
  have hwhole : (t.zone name).WholeMillis := trivial
  rw [Instant.wallClock_eq_ok]
  exact ⟨_, Instant.toOffsetTime_instant hwhole hshown, WallTime.floorMillis_of_mod hms⟩

theorem readBy_of_wallClock {j : Instant} (h : j.wallClock (t.zone name) = .ok w) :
    ∃ r, t.ReadBy w r := by
  obtain ⟨s, hs, rfl⟩ := Instant.wallClock_eq_ok.1 h
  obtain ⟨r, hr, -⟩ := Zone.readBy_of_toOffsetTime rfl hs
  exact ⟨r, hr⟩

/-- Placed under the regime that a gap ends, a time in the gap is past the change, so it is seen
under the regime that the change begins: later by the difference of the two offsets. -/
theorem InGap.wallClock_instant (ht : t.Regular) (hw : w.Clear (3 * dayMicros))
    (h : t.InGap w r c) (hms : w.micros % 1000 = 0) :
    ∃ v, (OffsetTime.mk w r.micros).instant.wallClock (t.zone name) = .ok v ∧
      (v.micros : Int) = w.micros + (c.regime.micros - r.micros) := by
  have hrb := (ht.moderate_of_turn h.turn).1.micros_bounds
  have hcb := (ht.moderate_of_turn h.turn).2.micros_bounds
  have hhour : (hourMicros : Int) = 3_600_000_000 := rfl
  have hday : (dayMicros : Int) = 24 * hourMicros := rfl
  obtain ⟨u, -, hu⟩ := hw.exists_shift (n := -r.micros) (by push_cast; omega) (by push_cast; omega)
  obtain ⟨v, hv, hve⟩ := hw.exists_shift (n := c.regime.micros - r.micros) (by push_cast; omega)
    (by push_cast; omega)
  have hregime := h.regimeAt_eq ht (u := u) (by omega)
  have hread : t.ReadBy v c.regime := ⟨u, by omega, hregime⟩
  have hvm := WallTime.shift_eq_ok.1 hv
  have hvms : v.micros % 1000 = 0 := by
    have hr : ∀ s : Regime, s.micros % 1000 = 0 := by
      intro s
      simp only [Regime.micros, secondMicros]
      omega
    have hr1 := hr r
    have hr2 := hr c.regime
    omega
  refine ⟨v, ?_, hvm⟩
  have hsame : (OffsetTime.mk w r.micros).instant = (OffsetTime.mk v c.regime.micros).instant := by
    simp only [OffsetTime.instant, OffsetTime.sinceEpoch]
    rw [show w.sinceEpoch - r.micros = v.sinceEpoch - c.regime.micros by omega]
  rw [hsame]
  exact hread.wallClock_instant name hvms

/-- A wall-clock time of whole milliseconds, three days inside the calendar, is understood in a
regular table as an instant that reads it if there is one, and so as the only one if there is only
one. Otherwise it lies in a gap, and the instant reads it moved forward by the length of the gap. -/
theorem ofWall_reads_back_or_leaps_gap (ht : t.Regular) (hw : w.Clear (3 * dayMicros))
    (hms : w.micros % 1000 = 0) :
    ∃ i, Instant.ofWall w (t.zone name) = .ok i ∧
      ((∃ j : Instant, j.wallClock (t.zone name) = .ok w) → i.wallClock (t.zone name) = .ok w) ∧
      (∀ j : Instant, j.wallClock (t.zone name) = .ok w →
        (∀ k : Instant, k.wallClock (t.zone name) = .ok w → k = j) → i = j) ∧
      ((∀ j : Instant, j.wallClock (t.zone name) ≠ .ok w) →
        (∃ r c, t.InGap w r c) ∧ ∀ r c, t.InGap w r c →
          ∃ v, i.wallClock (t.zone name) = .ok v ∧
            (v.micros : Int) = w.micros + (c.regime.micros - r.micros)) := by
  have hclear : w.Clear (32 * hourMicros) :=
    hw.mono (by simp only [dayMicros, hourMicros]; omega)
  rcases readBy_or_inGap ht (hclear.mono (by omega)) with ⟨r, hr⟩ | ⟨r, c, hgap⟩
  · obtain ⟨s, hs, hread⟩ := localize_of_readBy ht hclear hr
    have hback := hread.wallClock_instant name hms
    refine ⟨_, Instant.ofWall_of_localize (Zone.localize_table hs), ?_, ?_, ?_⟩
    · intro _
      exact hback
    · intro j _ honly
      exact honly _ hback
    · intro hnone
      exact absurd hback (hnone _)
  · have hplace := localize_of_inGap ht hw hgap
    have hunread : ∀ j : Instant, j.wallClock (t.zone name) ≠ .ok w := by
      intro j hj
      obtain ⟨s, hs⟩ := readBy_of_wallClock name hj
      exact hgap.not_readBy ht s hs
    refine ⟨_, Instant.ofWall_of_localize (Zone.localize_table hplace), ?_, ?_, ?_⟩
    · rintro ⟨j, hj⟩
      exact absurd hj (hunread j)
    · intro j hj _
      exact absurd hj (hunread j)
    · intro _
      refine ⟨⟨r, c, hgap⟩, ?_⟩
      intro r' c' hgap'
      -- two gaps around one time end the same regime, since both say where it is placed
      obtain rfl : r = r' := Except.ok.inj (hplace.symm.trans (localize_of_inGap ht hw hgap'))
      exact hgap'.wallClock_instant name ht hw hms

/-- Clocks that left out a day at the end of 2011, from ten hours behind universal time to fourteen
ahead of it. -/
def dayLeftOut : Table := ⟨⟨-36_000, true⟩, [⟨1_325_239_200, ⟨50_400, true⟩⟩]⟩

/-- Noon of 30 December 2011. -/
def noonLeftOut : WallTime := ⟨63_460_843_200_000_000, by decide⟩

/-- Noon of the day left out is understood as noon of the next day. -/
theorem ofWall_noonLeftOut :
    ∃ i v, Instant.ofWall noonLeftOut (dayLeftOut.zone "Pacific/Apia") = .ok i ∧
      i.wallClock (dayLeftOut.zone "Pacific/Apia") = .ok v ∧
      (v.micros : Int) = noonLeftOut.micros + dayMicros := by
  have hregular : dayLeftOut.Regular := by decide
  have hgap : dayLeftOut.InGap noonLeftOut ⟨-36_000, true⟩ ⟨1_325_239_200, ⟨50_400, true⟩⟩ :=
    ⟨by decide, by decide, by decide⟩
  obtain ⟨i, hi, -, -, hleap⟩ :=
    ofWall_reads_back_or_leaps_gap "Pacific/Apia" hregular (w := noonLeftOut) (by decide)
      (by decide)
  have hunread : ∀ j : Instant, j.wallClock (dayLeftOut.zone "Pacific/Apia") ≠ .ok noonLeftOut := by
    intro j hj
    obtain ⟨s, hs⟩ := readBy_of_wallClock _ hj
    exact hgap.not_readBy hregular s hs
  obtain ⟨v, hv, hmicros⟩ := (hleap hunread).2 _ _ hgap
  exact ⟨i, v, hi, hv, hmicros⟩

end Table

end CivilTime
