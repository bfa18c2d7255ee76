import CivilTime.Proofs.Calendar.MonthEnds
import CivilTime.Proofs.Instant.Steady

/-!
# The ends of a month in a zone with one offset

In a zone with one offset the first and the last day of a month are found where the calendar has
them, whole days away from the instant. At the two ends of the calendar one of them can be missing:
December 9999 has no month after it, by way of which its last day is found, and the first day of
January of the year 1 can begin before the time line of a confined zone.

* `Instant.boundary_firstOfMonth`: the first day by what the instant reads.
* `Instant.boundary_lastOfMonth`: the last day, and the one after it.
* `Instant.monthEnds_exact`: both ends, and when they are not found.
* `Instant.firstOfMonth_outside`: a first day that is not found.
-/

namespace CivilTime.Instant

variable {z : Zone} {offset : Int} {i : Instant} {w : WallTime}

/-- The first day of the month lies as many days back as have passed in the month. -/
theorem boundary_firstOfMonth (hw : i.wallClock z = .ok w) :
    ∃ x : WallTime, x.OnDay w 1 ∧
      (x.micros : Int) = w.micros + -(86_400_000 * ((w.date.day : Int) - 1)) * 1000 ∧
      i.boundary z .firstOfMonth = ofWall x z := by
  obtain ⟨x, hx⟩ := w.exists_firstOfMonth
  have hon := WallTime.firstOfMonth_eq_ok.1 hx
  have hmicros := hon.micros_eq
  refine ⟨x, hon, ?_, ?_⟩
  · simp only [dayMicros] at hmicros
    omega
  · rw [boundary_of_wallClock hw]
    exact bind_of_ok hx _

/-- The last day of the month lies as many days ahead as the month has left, and the first one of the
next month is the day after it. -/
theorem boundary_lastOfMonth (hz : z.Steady offset) (hw : i.wallClock z = .ok w)
    (h : ¬ w.InLastMonth) :
    ∃ last v next x, i.boundary z .lastOfMonth = .ok last ∧ last.wallClock z = .ok v ∧
      v.OnDay w w.daysInMonth ∧ last.add z .day 1 = .ok next ∧ next.wallClock z = .ok x ∧
      x.FirstAfter w ∧
      last.millis = i.millis + 86_400_000 * ((w.daysInMonth : Int) - w.date.day) := by
  obtain ⟨v, hv, hon⟩ := WallTime.exists_lastOfMonth h
  obtain ⟨-, x, -, -, hafter⟩ := WallTime.exists_firstAfter h
  have hvw := hon.micros_eq
  have hxw := hafter.micros_eq
  have hspan := hafter.micros_add_le
  have hlength := w.day_bounds.2
  simp only [dayMicros] at hvw hxw
  have hvm : (v.micros : Int)
      = w.micros + 86_400_000 * ((w.daysInMonth : Int) - w.date.day) * 1000 := by omega
  have hxm : (x.micros : Int) = v.micros + 86_400_000 * 1000 := by omega
  -- the next day lies inside the calendar, so the last one does
  have hvu := hz.exists_universal hw (v := v) (by omega) (by omega)
  rw [(hz.point_of_moved hw hvm).2] at hvu
  obtain ⟨hlast, hlastw⟩ := hz.ofWall_later hw hvm hvu
  have hxu := hz.exists_universal hlastw (v := x) (by omega) hspan
  rw [(hz.point_of_moved hlastw hxm).2] at hxu
  obtain ⟨hnext, hnextw⟩ := hz.ofWall_later hlastw hxm hxu
  have hday : v.addDays 1 = .ok x := by
    refine WallTime.shift_eq_ok.2 ?_
    simp only [dayMicros]
    omega
  refine ⟨_, v, _, x, ?_, hlastw, hon, ?_, hnextw, hafter, rfl⟩
  · rw [boundary_of_wallClock hw]
    exact (bind_of_ok hv _).trans hlast
  · rw [add_day_of_wallClock hlastw, bind_of_ok hday, hnext]

variable {f : Fault} {first last : Instant}

/-- In the last month of the calendar, and in no other one, the last day is not found. -/
theorem boundary_lastOfMonth_eq_error (hz : z.Steady offset) (hw : i.wallClock z = .ok w) :
    i.boundary z .lastOfMonth = .error f ↔ w.InLastMonth ∧ f = .invalidValue := by
  rw [boundary_of_wallClock hw]
  show (w.lastOfMonth >>= fun v => ofWall v z) = .error f ↔ _
  rw [bind_eq_error, WallTime.lastOfMonth_eq_error]
  constructor
  · intro h
    rcases h with h | ⟨v, hv, hfails⟩
    · exact h
    · -- a last day that the calendar has is understood as an instant
      obtain ⟨last, -, -, -, hlast, -⟩ :=
        boundary_lastOfMonth hz hw (WallTime.lastOfMonth_eq_ok.1 hv).1
      rw [boundary_of_wallClock hw] at hlast
      have hfound : ofWall v z = .ok last := (bind_of_ok hv _).symm.trans hlast
      rw [hfails] at hfound
      cases hfound
  · exact .inl

/-- A first day that is found lies as many days back as have passed in the month. -/
theorem millis_of_firstOfMonth (hz : z.Steady offset) (hw : i.wallClock z = .ok w)
    (h : i.boundary z .firstOfMonth = .ok first) :
    first.millis = i.millis - 86_400_000 * ((w.date.day : Int) - 1) ∧
      ∀ v, first.wallClock z = .ok v → v.OnDay w 1 := by
  obtain ⟨x, hon, hxm, hfirst⟩ := boundary_firstOfMonth hw
  rw [hfirst] at h
  constructor
  · rw [hz.eq_later_of_ofWall hw hxm h, millis_later]
    exact Int.sub_eq_add_neg.symm
  · intro v hv
    rw [hz.wallClock_of_ofWall (hz.point_of_moved hw hxm).1 h hv]
    exact hon

theorem millis_of_lastOfMonth (hz : z.Steady offset) (hw : i.wallClock z = .ok w)
    (h : i.boundary z .lastOfMonth = .ok last) :
    last.millis = i.millis + 86_400_000 * ((w.daysInMonth : Int) - w.date.day) := by
  have hin : ¬ w.InLastMonth := by
    intro hin
    rw [(boundary_lastOfMonth_eq_error hz hw).2 ⟨hin, rfl⟩] at h
    cases h
  obtain ⟨last', -, -, -, hlast, -, -, -, -, -, hmillis⟩ := boundary_lastOfMonth hz hw hin
  obtain rfl := Except.ok.inj (hlast.symm.trans h)
  exact hmillis

/-- The last day of the month of an instant is read at its time of day on the last day that the
calendar gives the month, and a day later it is the first of the next month. It is not found exactly
in the last month of the calendar. The first day is read on the first; it is not found exactly if
the zone is confined and the universal time lies outside the calendar. The instant lies between the
two, which are as far apart as the month is long less one day, and they are the same for all instants
of the month that read the same time of day. -/
theorem monthEnds_exact (hz : z.Steady offset) (hw : i.wallClock z = .ok w) :
    (∀ f, i.boundary z .lastOfMonth = .error f ↔ w.InLastMonth ∧ f = .invalidValue) ∧
    (∀ f, i.boundary z .firstOfMonth = .error f ↔ f = .outOfRange ∧ z.Confined ∧
      ∀ u : WallTime, u.sinceEpoch ≠ (i.millis - 86_400_000 * (w.date.day - 1)) * 1000) ∧
    (¬ w.InLastMonth → ∃ last v next x, i.boundary z .lastOfMonth = .ok last ∧
      last.wallClock z = .ok v ∧ v.OnDay w w.daysInMonth ∧ i.millis ≤ last.millis ∧
      last.add z .day 1 = .ok next ∧ next.wallClock z = .ok x ∧ x.FirstAfter w) ∧
    (∀ first, i.boundary z .firstOfMonth = .ok first → first.millis ≤ i.millis ∧
      (∀ v, first.wallClock z = .ok v → v.OnDay w 1) ∧
      ∀ last, i.boundary z .lastOfMonth = .ok last →
        last.millis = first.millis + 86_400_000 * (w.daysInMonth - 1)) ∧
    ∀ (j : Instant) v n, j.wallClock z = .ok v → v.OnDay w n →
      j.boundary z .firstOfMonth = i.boundary z .firstOfMonth ∧
        j.boundary z .lastOfMonth = i.boundary z .lastOfMonth := by
  obtain ⟨hday, hlength⟩ := w.day_bounds
  refine ⟨fun f => boundary_lastOfMonth_eq_error hz hw, ?_, ?_, ?_, ?_⟩
  · intro f
    obtain ⟨x, -, hxm, hfirst⟩ := boundary_firstOfMonth hw
    rw [hfirst, hz.ofWall_eq_error, (hz.point_of_moved hw hxm).2]
    rfl
  · intro hin
    obtain ⟨last, v, next, x, hlast, hv, hon, hnext, hx, hafter, hmillis⟩ :=
      boundary_lastOfMonth hz hw hin
    exact ⟨last, v, next, x, hlast, hv, hon, by omega, hnext, hx, hafter⟩
  · intro first hfirst
    obtain ⟨hmillis, hread⟩ := millis_of_firstOfMonth hz hw hfirst
    refine ⟨by omega, hread, ?_⟩
    intro last hlast
    have hmillis' := millis_of_lastOfMonth hz hw hlast
    omega
  · intro j v n hv hon
    rw [boundary_of_wallClock hv, boundary_of_wallClock hv, boundary_of_wallClock hw,
      boundary_of_wallClock hw]
    constructor
    · exact congrArg (· >>= fun u => ofWall u z) hon.firstOfMonth_eq
    · exact congrArg (· >>= fun u => ofWall u z) hon.lastOfMonth_eq

/-- Half past eleven in the evening of 31 January 1900. -/
def januaryEnds : WallTime := ⟨59_929_284_600_007_000, by decide⟩

/-- The first day of that January lies thirty days before its last one, three and a half hours behind
universal time; and the day after it is the first of February. -/
theorem monthEnds_exact_january1900 :
    ∃ first last next v x,
      boundary ⟨-2_206_299_599_993⟩ (.fixed (-210)) .firstOfMonth = .ok first ∧
      boundary ⟨-2_206_299_599_993⟩ (.fixed (-210)) .lastOfMonth = .ok last ∧
      last.millis = first.millis + 86_400_000 * 30 ∧
      last.wallClock (.fixed (-210)) = .ok v ∧ v.date = ⟨1900, 1, 31⟩ ∧
      last.add (.fixed (-210)) .day 1 = .ok next ∧ next.wallClock (.fixed (-210)) = .ok x ∧
      x.FirstAfter januaryEnds := by
  have hsteady : (Zone.fixed (-210)).Steady (-12_600_000_000) := by decide
  have hshown : wallClock ⟨-2_206_299_599_993⟩ (.fixed (-210)) = .ok januaryEnds := by rfl
  have hdate : januaryEnds.date = ⟨1900, 1, 31⟩ := by decide +kernel
  have hdays : januaryEnds.daysInMonth = 31 := by decide +kernel
  have hfirst : boundary ⟨-2_206_299_599_993⟩ (.fixed (-210)) .firstOfMonth
      = .ok ⟨-2_208_891_599_993⟩ := by decide +kernel
  obtain ⟨-, -, hends, hstart, -⟩ := monthEnds_exact hsteady hshown
  obtain ⟨last, v, next, x, hlast, hv, hon, -, hnext, hx, hafter⟩ := hends (by decide +kernel)
  obtain ⟨-, -, hapart⟩ := hstart _ hfirst
  have hmillis := hapart last hlast
  rw [hdays] at hmillis
  refine ⟨_, last, next, v, x, hfirst, hlast, hmillis, hv, ?_, hnext, hx, hafter⟩
  rw [hon.date, hdate, hdays]

/-- Half past midnight of 2 January of the first year. -/
def secondDay : WallTime := ⟨88_200_000_000, by decide⟩

/-- An hour ahead of universal time the first day of that January began before the calendar, so in a
confined zone it is not found. -/
theorem firstOfMonth_outside :
    (Zone.standard 3_600_000_000).Steady 3_600_000_000 ∧
      wallClock ⟨-62_135_512_200_000⟩ (.standard 3_600_000_000) = .ok secondDay ∧
      ¬ secondDay.InLastMonth ∧
      boundary ⟨-62_135_512_200_000⟩ (.standard 3_600_000_000) .firstOfMonth
        = .error .outOfRange :=
  ⟨by decide, by rfl, by decide +kernel, by decide +kernel⟩

end CivilTime.Instant
