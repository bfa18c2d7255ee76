import CivilTime.Proofs.Instant.Steady

/-!
# Days and hours in a zone with one offset

In a zone with one offset the wall clock is the time line moved by the offset, so a day or an hour
starts at a floor of the moved line. The days tile the line, and so do the hours; and hours on the
wall clock are hours that elapse.

* `Instant.cut`: the start of a period as a floor, with `cut_eq_iff` for the instants that share it
  and `cut_later` for whole periods that are added.
* `Instant.eq_cut_of_start`, `Instant.millis_of_stop`: the ends of days and hours by such floors.
* `Instant.periods_tile`: the instants of a period, the next period, and two periods with a common
  millisecond.
* `Instant.hourFrom_of_later`, `Instant.exists_of_hourFrom`: the start of an hour some hours away.
* `Instant.hourFrom_elapsed`: hours on the wall clock and hours that elapse.
-/

namespace CivilTime.Instant

/-! ### Floors of the time line -/

/-- The start of the period of `unit` milliseconds that an instant lies in, where clocks are some
milliseconds ahead. -/
def cut (i : Instant) (ahead unit : Int) : Instant :=
  ⟨(i.millis + ahead) / unit * unit - ahead⟩

variable {z : Zone} {offset ahead unit n : Int} {i j k a first last : Instant} {v w : WallTime}
  {length : Nat} {start stop : Boundary}

/-- The instants that share a start are those between it and the next one. -/
theorem cut_eq_iff (hu : 0 < unit) : j.cut ahead unit = i.cut ahead unit ↔
    (i.cut ahead unit).millis ≤ j.millis ∧ j.millis < (i.cut ahead unit).millis + unit := by
  have hfloor : j.cut ahead unit = i.cut ahead unit ↔
      (j.millis + ahead) / unit = (i.millis + ahead) / unit := by
    constructor
    · intro h
      have hmillis : (j.millis + ahead) / unit * unit - ahead
          = (i.millis + ahead) / unit * unit - ahead := congrArg millis h
      exact Int.eq_of_mul_eq_mul_right (Int.ne_of_gt hu) (by omega)
    · intro h
      rw [cut, cut, h]
  rw [hfloor, Int.ediv_eq_iff_of_pos hu]
  simp only [cut]
  omega

theorem cut_cut (hu : 0 < unit) (i : Instant) :
    (i.cut ahead unit).cut ahead unit = i.cut ahead unit := by
  rw [cut_eq_iff hu]
  omega

/-- Whole periods that are added move the start by as much. -/
theorem cut_later (hu : 0 < unit) (i : Instant) (n : Int) :
    (i.later (n * unit)).cut ahead unit = (i.cut ahead unit).later (n * unit) := by
  apply eq_of_millis
  have hmoved : i.millis + n * unit + ahead = i.millis + ahead + n * unit := by omega
  simp only [cut, millis_later, hmoved]
  rw [Int.add_mul_ediv_right _ _ (Int.ne_of_gt hu), Int.add_mul]
  omega

/-! ### The ends of a period -/

/-- On the wall clock a period starts at a floor of the time line, and it ends a millisecond before
the next one. -/
theorem exists_ends (hz : z.Steady offset) (hp : Boundary.Delimits start stop length)
    (hw : i.wallClock z = .ok w) :
    ∃ s e : WallTime, start.of w = .ok s ∧ stop.of w = .ok e ∧
      s.micros % 1000 = 0 ∧ e.micros % 1000 = 0 ∧
      s.sinceEpoch = (i.cut (offset / 1000) (length / 1000)).millis * 1000 + offset ∧
      e.sinceEpoch = s.sinceEpoch + (length - 1000) := by
  obtain ⟨s, e, hs, he, hsm, hem⟩ := hp.exists_of w
  obtain ⟨-, -, -, hs0, he0⟩ := hp.bounds hsm hem
  have hi := hz.point_of_wallClock hw
  have hmod := hz.millis
  have hepoch : epochMicros = 62_135_596_800_000_000 := rfl
  refine ⟨s, e, hs, he, hs0, he0, ?_, ?_⟩
  · rw [WallTime.sinceEpoch] at *
    rw [hsm]
    -- the calendar begins whole days before 1970
    cases hp with
    | day =>
      simp only [cut, dayMicros] at *
      omega
    | hour =>
      simp only [cut, hourMicros] at *
      omega
  · have hlength : 1000 ≤ length := Nat.le_of_dvd hp.length_spec.2.2 hp.length_spec.2.1
    rw [WallTime.sinceEpoch, WallTime.sinceEpoch]
    omega

/-- The start of a period is the floor. -/
theorem eq_cut_of_start (hz : z.Steady offset) (hp : Boundary.Delimits start stop length)
    (h : i.boundary z start = .ok first) : first = i.cut (offset / 1000) (length / 1000) := by
  obtain ⟨w, u, hw, hu, hfirst⟩ := boundary_eq_ok.1 h
  obtain ⟨s, -, hs, -, hs0, -, hpoint, -⟩ := exists_ends hz hp hw
  obtain rfl := Except.ok.inj (hs.symm.trans hu)
  have hplaced := hz.point_of_ofWall hs0 hfirst
  exact eq_of_millis (by omega)

/-- The end of a period is the last millisecond before the next floor. -/
theorem millis_of_stop (hz : z.Steady offset) (hp : Boundary.Delimits start stop length)
    (hfirst : i.boundary z start = .ok first) (hlast : i.boundary z stop = .ok last) :
    last.millis = first.millis + length / 1000 - 1 := by
  obtain ⟨w, u, hw, hu, hlast⟩ := boundary_eq_ok.1 hlast
  obtain ⟨s, e, -, he, -, he0, hpoint, hend⟩ := exists_ends hz hp hw
  obtain rfl := Except.ok.inj (he.symm.trans hu)
  have hplaced := hz.point_of_ofWall he0 hlast
  have hdvd := hp.length_spec.2.1
  rw [eq_cut_of_start hz hp hfirst]
  omega

theorem unit_pos (hp : Boundary.Delimits start stop length) : 0 < (length : Int) / 1000 := by
  have hlength := hp.length_spec.2
  omega

/-- An instant has its floor where a period starts exactly if it lies between the ends. -/
theorem cut_eq_first_iff (hz : z.Steady offset) (hp : Boundary.Delimits start stop length)
    (hfirst : i.boundary z start = .ok first) (hlast : i.boundary z stop = .ok last) :
    k.cut (offset / 1000) (length / 1000) = first ↔
      first.millis ≤ k.millis ∧ k.millis ≤ last.millis := by
  have hstop := millis_of_stop hz hp hfirst hlast
  rw [eq_cut_of_start hz hp hfirst] at hstop ⊢
  rw [cut_eq_iff (unit_pos hp)]
  omega

/-- Instants with one floor have one start. -/
theorem boundary_start_of_cut_eq (hz : z.Steady offset) (hp : Boundary.Delimits start stop length)
    (hw : i.wallClock z = .ok w) (hv : j.wallClock z = .ok v)
    (h : j.cut (offset / 1000) (length / 1000) = i.cut (offset / 1000) (length / 1000)) :
    j.boundary z start = i.boundary z start := by
  obtain ⟨s, -, hs, -, -, -, hpoint, -⟩ := exists_ends hz hp hw
  obtain ⟨s', -, hs', -, -, -, hpoint', -⟩ := exists_ends hz hp hv
  have hsame : s' = s := WallTime.eq_of_sinceEpoch_eq (by rw [hpoint, hpoint', h])
  rw [boundary_of_wallClock hv, boundary_of_wallClock hw, bind_of_ok hs, bind_of_ok hs', hsame]

/-- An instant that is a floor is its own start. -/
theorem boundary_start_of_cut (hz : z.Steady offset) (hp : Boundary.Delimits start stop length)
    (hv : j.wallClock z = .ok v) (h : j.cut (offset / 1000) (length / 1000) = j) :
    j.boundary z start = .ok j := by
  obtain ⟨s, -, hs, -, -, -, hpoint, -⟩ := exists_ends hz hp hv
  have hread := hz.point_of_wallClock hv
  have hsame : s = v := WallTime.eq_of_sinceEpoch_eq (by rw [hpoint, h]; omega)
  rw [boundary_of_wallClock hv, bind_of_ok hs, hsame, hz.ofWall_of_wallClock hv]

/-! ### Tiling -/

/-- The days of a zone with one offset tile the time line, and so do its hours. A period is as many
milliseconds long as it should be; an instant has the same start exactly if it lies between the
ends; the millisecond after the end starts the next period; and no millisecond is in two periods. -/
theorem periods_tile (hz : z.Steady offset) (hp : Boundary.Delimits start stop length)
    (hfirst : i.boundary z start = .ok first) (hlast : i.boundary z stop = .ok last) :
    last.millis = first.millis + length / 1000 - 1 ∧
    (first.millis ≤ i.millis ∧ i.millis ≤ last.millis) ∧
    (∀ (j : Instant) v, j.wallClock z = .ok v →
      (j.boundary z start = .ok first ↔ first.millis ≤ j.millis ∧ j.millis ≤ last.millis)) ∧
    (∀ v, (last.later 1).wallClock z = .ok v →
      (last.later 1).boundary z start = .ok (last.later 1)) ∧
    ∀ j first' last' k : Instant, j.boundary z start = .ok first' → j.boundary z stop = .ok last' →
      first.millis ≤ k.millis ∧ k.millis ≤ last.millis →
      first'.millis ≤ k.millis ∧ k.millis ≤ last'.millis → first' = first ∧ last' = last := by
  have hstop := millis_of_stop hz hp hfirst hlast
  have hstart := eq_cut_of_start hz hp hfirst
  have hshared : ∀ k : Instant, k.cut (offset / 1000) (length / 1000) = first ↔
      first.millis ≤ k.millis ∧ k.millis ≤ last.millis := fun k => cut_eq_first_iff hz hp hfirst hlast
  obtain ⟨w, -, hw, -⟩ := boundary_eq_ok.1 hfirst
  refine ⟨hstop, (hshared i).1 hstart.symm, ?_, ?_, ?_⟩
  · intro j v hv
    rw [← hshared j]
    constructor
    · intro h
      exact (eq_cut_of_start hz hp h).symm
    · intro h
      rw [boundary_start_of_cut_eq hz hp hw hv (h.trans hstart), hfirst]
  · intro v hv
    have hnext : last.later 1 = (i.cut (offset / 1000) (length / 1000)).later
        (1 * ((length : Int) / 1000)) := by
      apply eq_of_millis
      rw [millis_later, millis_later, ← hstart]
      omega
    apply boundary_start_of_cut hz hp hv
    rw [hnext, cut_later (unit_pos hp), cut_cut (unit_pos hp)]
  · intro j first' last' k hfirst' hlast' hk hk'
    -- both start at the floor of the common millisecond
    have hsame : first' = first :=
      ((cut_eq_first_iff hz hp hfirst' hlast').2 hk').symm.trans ((hshared k).2 hk)
    have hstop' := millis_of_stop hz hp hfirst' hlast'
    rw [hsame] at hstop'
    exact ⟨hsame, eq_of_millis (by omega)⟩

/-- Five hours and three quarters ahead of universal time the epoch lies in the hour of the
millisecond before it. -/
theorem periods_tile_epoch :
    ∃ first last, boundary ⟨-1⟩ (.fixed 345) .startOfHour = .ok first ∧
      boundary ⟨-1⟩ (.fixed 345) .endOfHour = .ok last ∧
      last.millis = first.millis + 3_599_999 ∧
      boundary ⟨0⟩ (.fixed 345) .startOfHour = .ok first ∧
      (last.later 1).boundary (.fixed 345) .startOfHour = .ok (last.later 1) := by
  have hsteady : (Zone.fixed 345).Steady 20_700_000_000 := by decide
  have hfirst : boundary ⟨-1⟩ (.fixed 345) .startOfHour = .ok ⟨-2_700_000⟩ := by decide +kernel
  have hlast : boundary ⟨-1⟩ (.fixed 345) .endOfHour = .ok ⟨899_999⟩ := by decide +kernel
  have hepoch : wallClock ⟨0⟩ (.fixed 345) = .ok ⟨62_135_617_500_000_000, by decide⟩ := by rfl
  have hnext : wallClock ⟨900_000⟩ (.fixed 345) = .ok ⟨62_135_618_400_000_000, by decide⟩ := by rfl
  obtain ⟨hlength, -, hshared, hafter, -⟩ := periods_tile hsteady .hour hfirst hlast
  exact ⟨_, _, hfirst, hlast, hlength, (hshared _ _ hepoch).2 (by decide), hafter _ hnext⟩

/-! ### Hours -/

/-- The start of an hour some hours away is that of the hour which is read after as many hours. -/
theorem hourFrom_of_later (hz : z.Steady offset) (hw : i.wallClock z = .ok w)
    (hv : (i.later (n * 3_600_000)).wallClock z = .ok v) :
    i.hourFrom z n = (i.later (n * 3_600_000)).boundary z .startOfHour := by
  have hmicros := hz.micros_of_later hw hv
  have hshift : w.startOfHour.shift (n * hourMicros) = .ok v.startOfHour := by
    rw [WallTime.shift_eq_ok, WallTime.startOfHour, WallTime.startOfHour, WallTime.micros_startOf,
      WallTime.micros_startOf]
    simp only [hourMicros] at *
    omega
  rw [hourFrom, onWall_of_wallClock hw, bind_of_ok hshift, boundary_of_wallClock hv]
  rfl

/-- What is found as the start of an hour some hours away, on the wall clock. -/
theorem exists_of_hourFrom (hz : z.Steady offset) (hw : i.wallClock z = .ok w)
    (h : i.hourFrom z n = .ok a) :
    ∃ v : WallTime, (v.micros : Int) = w.startOfHour.micros + n * hourMicros ∧
      a.millis * 1000 = v.sinceEpoch - offset ∧ ∀ x, a.wallClock z = .ok x → x = v := by
  rw [hourFrom, onWall_of_wallClock hw] at h
  obtain ⟨v, hv, ha⟩ := bind_eq_ok.1 h
  rw [WallTime.shift_eq_ok] at hv
  have hmod : v.micros % 1000 = 0 := by
    have hstart := w.startOfHour_mod
    simp only [hourMicros] at hv
    omega
  exact ⟨v, hv, hz.point_of_ofWall hmod ha, fun x hx => hz.wallClock_of_ofWall hmod ha hx⟩

theorem hourIndex_of_wallClock (hw : i.wallClock z = .ok w) : i.hourIndex z = .ok w.hour := by
  rw [hourIndex_eq, bind_of_ok hw]
  rfl

/-- The hours that elapse from the start of an hour lead to the start of the hour as many hours away
on the wall clock. -/
theorem add_hour_start (hz : z.Steady offset) (hw : i.wallClock z = .ok w)
    (h : i.hourFrom z n = .ok a) (hfirst : i.boundary z .startOfHour = .ok first) :
    first.add z .hour n = .ok a := by
  obtain ⟨v, hv, hpoint, -⟩ := exists_of_hourFrom hz hw h
  obtain ⟨w', u, hw', hu, hplaced⟩ := boundary_eq_ok.1 hfirst
  obtain rfl := Except.ok.inj (hw.symm.trans hw')
  obtain rfl : w.startOfHour = u := Except.ok.inj hu
  have hstart := hz.point_of_ofWall w.startOfHour_mod hplaced
  show Except.ok (first.later (n * 3_600_000)) = .ok a
  refine congrArg Except.ok (eq_of_millis ?_)
  rw [millis_later]
  simp only [WallTime.sinceEpoch, hourMicros] at *
  omega

/-- In a zone with one offset the hours of the wall clock are hours that elapse. The start of the hour
some hours away is the start of the hour after as many hours, found or not, and where it is found it
lies as many hours after the start of this hour. Its hour of the day is the sum less whole days, and
there is one if its universal time lies in the calendar. -/
theorem hourFrom_elapsed (hz : z.Steady offset) (hw : i.wallClock z = .ok w) (n : Int) :
    (∀ (j : Instant) v, i.add z .hour n = .ok j → j.wallClock z = .ok v →
      j.boundary z .startOfHour = i.hourFrom z n) ∧
    ∀ a, i.hourFrom z n = .ok a →
      (∀ first, i.boundary z .startOfHour = .ok first → first.add z .hour n = .ok a) ∧
      (∀ h, a.hourIndex z = .ok h → h < 24 ∧
        ∀ h', i.hourIndex z = .ok h' → (h : Int) = (h' + n) % 24) ∧
      ((∃ h, a.hourIndex z = .ok h) ↔ ∃ u : WallTime, u.sinceEpoch = a.millis * 1000) := by
  constructor
  · intro j v hj hv
    obtain rfl : i.later (n * 3_600_000) = j := Except.ok.inj hj
    exact (hourFrom_of_later hz hw hv).symm
  · intro a ha
    obtain ⟨v, hv, hpoint, hread⟩ := exists_of_hourFrom hz hw ha
    refine ⟨fun first hfirst => add_hour_start hz hw ha hfirst, ?_, ?_⟩
    · intro h hh
      obtain ⟨x, hx, hxh⟩ := bind_eq_ok.1 hh
      obtain rfl := hread x hx
      obtain rfl : x.hour = h := Except.ok.inj hxh
      refine ⟨x.hour_lt, ?_⟩
      intro h' hh'
      rw [hourIndex_of_wallClock hw] at hh'
      obtain rfl := Except.ok.inj hh'
      exact WallTime.hour_hoursAfter hv
    · constructor
      · intro h
        obtain ⟨h, hh⟩ := h
        obtain ⟨x, hx, -⟩ := bind_eq_ok.1 hh
        exact (hz.wallClock_iff.1 hx).2
      · intro hu
        exact ⟨v.hour, hourIndex_of_wallClock (hz.wallClock_iff.2 ⟨by omega, hu⟩)⟩

/-- Thirty-one hours before the seventh hour of 1970, five hours and three quarters ahead of universal
time, lies the last hour of the day before the last one of 1969. -/
theorem hourFrom_elapsed_newYear1970 :
    ∃ first a, boundary ⟨1_800_007⟩ (.fixed 345) .startOfHour = .ok first ∧
      hourFrom ⟨1_800_007⟩ (.fixed 345) (-31) = .ok a ∧ first.add (.fixed 345) .hour (-31) = .ok a ∧
      hourIndex ⟨1_800_007⟩ (.fixed 345) = .ok 6 ∧ a.hourIndex (.fixed 345) = .ok 23 := by
  have hsteady : (Zone.fixed 345).Steady 20_700_000_000 := by decide
  have hshown : wallClock ⟨1_800_007⟩ (.fixed 345) = .ok ⟨62_135_619_300_007_000, by decide⟩ := by
    rfl
  have hindex : hourIndex ⟨1_800_007⟩ (.fixed 345) = .ok 6 := by rfl
  have hfirst : boundary ⟨1_800_007⟩ (.fixed 345) .startOfHour = .ok ⟨900_000⟩ := by decide +kernel
  have ha : hourFrom ⟨1_800_007⟩ (.fixed 345) (-31) = .ok ⟨-110_700_000⟩ := by decide +kernel
  obtain ⟨-, hfound⟩ := hourFrom_elapsed hsteady hshown (-31)
  obtain ⟨helapsed, hhours, hsome⟩ := hfound _ ha
  obtain ⟨h, hh⟩ := hsome.2 ⟨⟨62_135_486_100_000_000, by decide⟩, by decide⟩
  have hsum := (hhours h hh).2 6 hindex
  obtain rfl : h = 23 := by omega
  exact ⟨_, _, hfirst, ha, helapsed _ hfirst, hindex, hh⟩

end CivilTime.Instant
