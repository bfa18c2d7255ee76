import CivilTime.Proofs.Instant.Given
import CivilTime.Proofs.Instant.Second
import CivilTime.Proofs.Zone.Order

/-!
# The ends of days and hours

The ends of a period are found on the wall clock and placed on the time line again. So they lie on
both sides of the instant and show the period that it shows, except next to a change of the clocks:
where the clocks are set forward over an end it is found past the gap, and where they are set back
over the end of a period it is found in the first of the two passes. In a zone in which readings are
sought the start of a period can be found in the second pass, too.

* `Boundary.Delimits`: the two ends of days and of hours.
* `Delimits.exists_of`: the times at the ends, on the wall clock.
* `Instant.Around`: how the ends lie about an instant; `boundary_around` proves it of those that are
  found.
* `Instant.exists_boundary`: away from the ends of the calendar they are found.
* `Instant.boundary_apart`: what the changes of the clocks do not allow.
-/

namespace CivilTime

/-! ### Periods on the wall clock -/

/-- The two ends of a period, with its length. -/
inductive Boundary.Delimits : Boundary → Boundary → Nat → Prop
  | day : Delimits .startOfDay .endOfDay dayMicros
  | hour : Delimits .startOfHour .endOfHour hourMicros

variable {z : Zone} {i j : Instant} {u w : WallTime} {length : Nat} {start stop b : Boundary}

/-- Times in one period of a length that goes into the day have one date. -/
theorem WallTime.date_eq_of_div {v : WallTime} (hl : length ∣ dayMicros)
    (h : v.micros / length = w.micros / length) : v.date = w.date := by
  have hday : v.dayNumber = w.dayNumber := by
    rw [dayNumber, dayNumber, ← cut_div hl, h, cut_div hl]
  rw [date, date, hday]

namespace Boundary.Delimits

/-- The ends of a period on the wall clock: its first and its last millisecond. -/
theorem exists_of (h : Delimits start stop length) (w : WallTime) :
    ∃ s e : WallTime, start.of w = .ok s ∧ stop.of w = .ok e ∧
      s.micros = w.micros / length * length ∧ e.micros = s.micros + (length - 1000) := by
  cases h with
  | day => exact ⟨w.startOfDay, w.endOfDay, rfl, rfl, w.micros_startOf dayMicros, rfl⟩
  | hour => exact ⟨w.startOfHour, w.endOfHour, rfl, rfl, w.micros_startOf hourMicros, rfl⟩

theorem length_spec (h : Delimits start stop length) :
    length ∣ dayMicros ∧ 1000 ∣ length ∧ 0 < length := by
  cases h <;> decide

variable {s e : WallTime}

/-- The ends are whole milliseconds around the time, less than a day apart. -/
theorem bounds (h : Delimits start stop length) (hs : s.micros = w.micros / length * length)
    (he : e.micros = s.micros + (length - 1000)) :
    s.micros ≤ w.micros ∧ w.micros < e.micros + 1000 ∧ e.micros + 1000 ≤ s.micros + dayMicros ∧
      s.micros % 1000 = 0 ∧ e.micros % 1000 = 0 := by
  obtain ⟨hday, hmilli, hpos⟩ := h.length_spec
  have hlow : w.micros / length * length ≤ w.micros := Nat.div_mul_le_self _ _
  have hhigh : w.micros < w.micros / length * length + length := Nat.lt_div_mul_add hpos
  have hle : length ≤ dayMicros := Nat.le_of_dvd (by decide) hday
  have hmod : length % 1000 = 0 := Nat.mod_eq_zero_of_dvd hmilli
  have hcut : w.micros / length * length % 1000 = 0 :=
    Nat.mod_eq_zero_of_dvd (Nat.dvd_mul_left_of_dvd hmilli _)
  omega

/-- The ends of a period have the date of all of its times. -/
theorem date_eq (h : Delimits start stop length) (hs : s.micros = w.micros / length * length)
    (he : e.micros = s.micros + (length - 1000)) : s.date = w.date ∧ e.date = w.date := by
  obtain ⟨hday, -, hpos⟩ := h.length_spec
  have hrest : (length - 1000) / length = 0 := by
    cases h <;> decide
  constructor
  · apply WallTime.date_eq_of_div hday
    rw [hs, Nat.mul_div_cancel _ hpos]
  · apply WallTime.date_eq_of_div hday
    rw [he, hs, Nat.add_comm, Nat.add_mul_div_right _ _ hpos, hrest, Nat.zero_add]

end Boundary.Delimits

namespace Instant

/-! ### Instants and placed times -/

theorem wallClock_iff_shows :
    i.wallClock z = .ok w ↔ ∃ u : WallTime, u.sinceEpoch = i.millis * 1000 ∧ z.Shows u w := by
  rw [wallClock_eq_ok]
  constructor
  · rintro ⟨t, ht, rfl⟩
    obtain ⟨u, hu, hoffset, hwall⟩ := Instant.toOffsetTime_eq_ok.1 ht
    exact ⟨u, hu, by rw [Zone.Shows, hu, ← hoffset, hwall]⟩
  · rintro ⟨u, hu, hshown⟩
    refine ⟨⟨w, z.offsetAt u⟩, Instant.toOffsetTime_eq_ok.2 ⟨u, hu, rfl, ?_⟩, rfl⟩
    rw [← hu]
    exact hshown

theorem wallClock_mod (hz : z.WholeMillis) (h : i.wallClock z = .ok w) : w.micros % 1000 = 0 := by
  obtain ⟨u, hu, hshown⟩ := wallClock_iff_shows.1 h
  have hmod := hz.offsetAt_mod u
  have hepoch : epochMicros % 1000 = 0 := by decide
  rw [Zone.Shows, WallTime.sinceEpoch] at hshown
  omega

/-- Where a zone shows a time of whole milliseconds, there is an instant. -/
theorem exists_of_shows (hz : z.WholeMillis) (hw : w.micros % 1000 = 0) (h : z.Shows u w) :
    ∃ j : Instant, j.millis * 1000 = u.sinceEpoch ∧ j.wallClock z = .ok w := by
  have hmod := hz.offsetAt_mod u
  have hepoch : epochMicros % 1000 = 0 := by decide
  have hu : u.sinceEpoch / 1000 * 1000 = u.sinceEpoch := by
    rw [Zone.Shows, WallTime.sinceEpoch] at h
    omega
  exact ⟨⟨u.sinceEpoch / 1000⟩, hu, wallClock_iff_shows.2 ⟨u, hu.symm, h⟩⟩

/-- The instant that a time of whole milliseconds is understood as is where the time is placed. -/
theorem placed_of_ofWall (hz : z.Regular) (hms : z.WholeMillis) (hw : w.micros % 1000 = 0)
    (h : ofWall w z = .ok i) :
    ∃ offset, z.Placed w offset ∧ i.millis * 1000 = w.sinceEpoch - offset := by
  obtain ⟨t, ht, h⟩ := bind_eq_ok.1 h
  obtain rfl := Except.ok.inj h
  obtain ⟨offset, hplaced, hpoint⟩ := Zone.placed_of_localize hz ht
  have hmod := hplaced.offset_mod hms
  have hepoch : epochMicros % 1000 = 0 := by decide
  refine ⟨offset, hplaced, ?_⟩
  simp only [OffsetTime.instant, hpoint, WallTime.sinceEpoch]
  omega

theorem boundary_eq_ok : i.boundary z b = .ok j ↔
    ∃ w v, i.wallClock z = .ok w ∧ b.of w = .ok v ∧ ofWall v z = .ok j := by
  rw [boundary, onWall_eq, bind_eq_ok]
  constructor
  · rintro ⟨w, hw, h⟩
    obtain ⟨v, hv, h⟩ := bind_eq_ok.1 h
    exact ⟨w, v, hw, hv, h⟩
  · rintro ⟨w, v, hw, hv, h⟩
    exact ⟨w, hw, bind_eq_ok.2 ⟨v, hv, h⟩⟩

/-! ### The ends about an instant -/

/-- How the ends of a period lie about an instant that shows `w` in it, where `s` and `e` are its
first and its last millisecond on the wall clock. -/
structure Around (z : Zone) (i first last : Instant) (w s e : WallTime) : Prop where
  /-- The first end shows `s`, or what is as far past it as the gap is long that `s` lies in. -/
  first_shows : ∀ v, first.wallClock z = .ok v → (v.micros : Int) = s.micros + z.gapLength s
  last_shows : ∀ v, last.wallClock z = .ok v → (v.micros : Int) = e.micros + z.gapLength e
  /-- The first end is not later than the instant if it shows no later time, unless readings are sought
  and there was an earlier instant to choose. -/
  first_le : (s.micros : Int) + z.gapLength s ≤ w.micros → first.millis ≤ i.millis ∨
    z.Searched ∧
      ∃ j : Instant, j.millis ≤ i.millis ∧ j.millis < first.millis ∧ j.wallClock z = .ok s
  /-- The last end is not earlier than the instant, unless the clocks have been set back over both
  and the instant is in the second pass. -/
  le_last : i.millis ≤ last.millis ∨
    (∃ j : Instant, j.millis < i.millis ∧ j.wallClock z = .ok w) ∧
      ∃ k : Instant, i.millis ≤ k.millis ∧ k.wallClock z = .ok e

theorem shows_of_ofWall (hz : z.Regular) (hms : z.WholeMillis) (hw : w.micros % 1000 = 0)
    (hi : ofWall w z = .ok i) {v : WallTime} (hv : i.wallClock z = .ok v) :
    (v.micros : Int) = w.micros + z.gapLength w := by
  obtain ⟨offset, hplaced, hmillis⟩ := placed_of_ofWall hz hms hw hi
  obtain ⟨u, hu, hshown⟩ := wallClock_iff_shows.1 hv
  have hoffset := hplaced.offsetAt_eq hz (hu.trans hmillis)
  rw [Zone.Shows, hoffset, hu, hmillis, WallTime.sinceEpoch, WallTime.sinceEpoch] at hshown
  omega

/-- Where readings are not sought, a time is understood as the first instant that reads it. -/
theorem ofWall_le_of_wallClock (hz : z.Regular) (hs : ¬ z.Searched) (hj : ofWall w z = .ok j)
    (hi : i.wallClock z = .ok w) : j.millis ≤ i.millis := by
  obtain ⟨t, ht, h⟩ := bind_eq_ok.1 hj
  obtain rfl := Except.ok.inj h
  obtain ⟨u, hu, hshown⟩ := wallClock_iff_shows.1 hi
  have hle := Zone.le_of_localize_of_shows hz hs ht hshown
  show t.sinceEpoch / 1000 ≤ i.millis
  omega

theorem ofWall_le {s : WallTime} (hz : z.Regular) (hms : z.WholeMillis) (hs : s.micros % 1000 = 0)
    (hj : ofWall s z = .ok j) (hi : i.wallClock z = .ok w)
    (hle : (s.micros : Int) + z.gapLength s ≤ w.micros) :
    j.millis ≤ i.millis ∨ z.Searched ∧
      ∃ k : Instant, k.millis ≤ i.millis ∧ k.millis < j.millis ∧ k.wallClock z = .ok s := by
  obtain ⟨offset, hplaced, hmillis⟩ := placed_of_ofWall hz hms hs hj
  obtain ⟨x, hx, hshown⟩ := wallClock_iff_shows.1 hi
  have hle' : s.sinceEpoch + z.gapLength s ≤ w.sinceEpoch := by
    rw [WallTime.sinceEpoch, WallTime.sinceEpoch]
    omega
  rcases hplaced.le_of_shows hz hshown hle' with h | ⟨u, hux, hu, hshown'⟩
  · left
    omega
  · obtain ⟨k, hk, hkw⟩ := exists_of_shows hms hs hshown'
    by_cases hsearched : z.Searched
    · exact .inr ⟨hsearched, k, by omega, by omega, hkw⟩
    · have hearliest := ofWall_le_of_wallClock hz hsearched hj hkw
      omega

theorem le_ofWall {e : WallTime} (hz : z.Regular) (hms : z.WholeMillis) (he : e.micros % 1000 = 0)
    (hj : ofWall e z = .ok j) (hi : i.wallClock z = .ok w)
    (hclear : z.Searched → w.Clear dayMicros) (hle : w.micros ≤ e.micros) :
    i.millis ≤ j.millis ∨
      (∃ k : Instant, k.millis < i.millis ∧ k.wallClock z = .ok w) ∧
        ∃ k : Instant, i.millis ≤ k.millis ∧ k.wallClock z = .ok e := by
  obtain ⟨offset, hplaced, hmillis⟩ := placed_of_ofWall hz hms he hj
  obtain ⟨x, hx, hshown⟩ := wallClock_iff_shows.1 hi
  have hle' : w.sinceEpoch ≤ e.sinceEpoch := by
    rw [WallTime.sinceEpoch, WallTime.sinceEpoch]
    omega
  rcases hplaced.ge_of_shows hz hclear hshown hle' with h | ⟨⟨u, hu, hshown'⟩, v, hv, hshown''⟩
  · left
    omega
  · obtain ⟨k, hk, hkw⟩ := exists_of_shows hms (wallClock_mod hms hi) hshown'
    obtain ⟨l, hl, hle⟩ := exists_of_shows hms he hshown''
    exact .inr ⟨⟨k, by omega, hkw⟩, l, by omega, hle⟩

/-- The ends of the day or the hour that are found for an instant lie about it, as far as the
changes of the clocks allow. -/
theorem boundary_around {first last : Instant} (hz : z.Regular) (hms : z.WholeMillis)
    (hp : Boundary.Delimits start stop length) (hfirst : i.boundary z start = .ok first)
    (hlast : i.boundary z stop = .ok last) :
    ∃ w s e : WallTime, i.wallClock z = .ok w ∧ s.micros = w.micros / length * length ∧
      e.micros = s.micros + (length - 1000) ∧ s.date = w.date ∧ e.date = w.date ∧
      Around z i first last w s e := by
  obtain ⟨w, s, hw, hs, hfirst⟩ := boundary_eq_ok.1 hfirst
  obtain ⟨w', e, hw', he, hlast⟩ := boundary_eq_ok.1 hlast
  obtain rfl := Except.ok.inj (hw.symm.trans hw')
  obtain ⟨s', e', hs', he', hsm, hem⟩ := hp.exists_of w
  obtain rfl := Except.ok.inj (hs.symm.trans hs')
  obtain rfl := Except.ok.inj (he.symm.trans he')
  obtain ⟨hsdate, hedate⟩ := hp.date_eq hsm hem
  obtain ⟨hsw, hwe, -, hs0, he0⟩ := hp.bounds hsm hem
  have hwm := wallClock_mod hms hw
  refine ⟨w, s, e, hw, hsm, hem, hsdate, hedate, ?_⟩
  have hclear : z.Searched → w.Clear dayMicros := by
    intro hsearched
    obtain ⟨_, hsplaced, -⟩ := placed_of_ofWall hz hms hs0 hfirst
    obtain ⟨_, heplaced, -⟩ := placed_of_ofWall hz hms he0 hlast
    have hsc := hsplaced.clear hsearched
    have hec := heplaced.clear hsearched
    exact ⟨by have := hsc.1; omega, by have := hec.2; omega⟩
  exact
    { first_shows := fun v => shows_of_ofWall hz hms hs0 hfirst
      last_shows := fun v => shows_of_ofWall hz hms he0 hlast
      first_le := ofWall_le hz hms hs0 hfirst hw
      le_last := le_ofWall hz hms he0 hlast hw hclear (by omega) }

/-- At half past two for the second time the hour ends before, at the end of the first pass; the
end is shown once more later. Where the earlier reading is taken, the hour has begun before. -/
theorem boundary_around_repeatedHour :
    ∃ first last : Instant,
      boundary ⟨1_698_543_000_007⟩ (summer2023.zone "Europe/Berlin") .startOfHour = .ok first ∧
      boundary ⟨1_698_543_000_007⟩ (summer2023.zone "Europe/Berlin") .endOfHour = .ok last ∧
      last.millis < 1_698_543_000_007 ∧
      (∃ j : Instant, j.millis < 1_698_543_000_007 ∧
        j.wallClock (summer2023.zone "Europe/Berlin") = .ok nightEnds) ∧
      (∃ k : Instant, 1_698_543_000_007 ≤ k.millis ∧
        k.wallClock (summer2023.zone "Europe/Berlin") = .ok nightEnds.endOfHour) ∧
      ∃ first last : Instant,
        boundary ⟨1_698_543_000_007⟩ (.hostLocal summer2023) .startOfHour = .ok first ∧
        boundary ⟨1_698_543_000_007⟩ (.hostLocal summer2023) .endOfHour = .ok last ∧
        first.millis ≤ 1_698_543_000_007 := by
  have hfirst : boundary ⟨1_698_543_000_007⟩ (summer2023.zone "Europe/Berlin") .startOfHour
      = .ok ⟨1_698_537_600_000⟩ := by rfl
  have hlast : boundary ⟨1_698_543_000_007⟩ (summer2023.zone "Europe/Berlin") .endOfHour
      = .ok ⟨1_698_541_199_999⟩ := by rfl
  have hshown : wallClock ⟨1_698_543_000_007⟩ (summer2023.zone "Europe/Berlin") = .ok nightEnds := by
    rfl
  obtain ⟨w, s, e, hw, hs, he, -, -, haround⟩ :=
    boundary_around (by decide) (by decide) .hour hfirst hlast
  obtain rfl : nightEnds = w := Except.ok.inj (hshown.symm.trans hw)
  obtain rfl : nightEnds.endOfHour = e := by
    apply WallTime.ext
    rw [he, hs]
    rfl
  have hfirst' : boundary ⟨1_698_543_000_007⟩ (.hostLocal summer2023) .startOfHour
      = .ok ⟨1_698_537_600_000⟩ := by rfl
  have hlast' : boundary ⟨1_698_543_000_007⟩ (.hostLocal summer2023) .endOfHour
      = .ok ⟨1_698_541_199_999⟩ := by rfl
  have hshown' : wallClock ⟨1_698_543_000_007⟩ (.hostLocal summer2023) = .ok nightEnds := by rfl
  obtain ⟨w', s', e', hw', hs', -, -, -, haround'⟩ :=
    boundary_around (by decide) (by decide) .hour hfirst' hlast'
  obtain rfl : nightEnds = w' := Except.ok.inj (hshown'.symm.trans hw')
  obtain rfl : nightEnds.startOfHour = s' := by
    apply WallTime.ext
    rw [hs']
    rfl
  have hpasses := haround.le_last.resolve_left (by decide)
  refine ⟨_, _, hfirst, hlast, by decide, hpasses.1, hpasses.2, _, _, hfirst', hlast', ?_⟩
  exact (haround'.first_le (by decide)).resolve_right fun h => h.1

/-- Three days away from the ends of the calendar a time of whole milliseconds is understood as an
instant that has a wall clock. -/
theorem exists_ofWall (hz : z.Regular) (hms : z.WholeMillis) (hw : w.micros % 1000 = 0)
    (hclear : w.Clear (3 * dayMicros)) :
    ∃ j v, ofWall w z = .ok j ∧ j.wallClock z = .ok v := by
  obtain ⟨t, ht⟩ := hz.exists_localize hclear
  have hj := ofWall_of_localize ht
  obtain ⟨offset, hplaced, hmillis⟩ := placed_of_ofWall hz hms hw hj
  obtain ⟨u, v, hu, hshown⟩ := hplaced.exists_shows hz (hclear.mono (by omega))
  exact ⟨_, v, hj, wallClock_iff_shows.2 ⟨u, by rw [hu, hmillis], hshown⟩⟩

/-- Four days away from the ends of the calendar the ends of a period are found, and each of them
has a wall clock. -/
theorem exists_boundary (hz : z.Regular) (hms : z.WholeMillis)
    (hp : Boundary.Delimits start stop length) (hw : i.wallClock z = .ok w)
    (hclear : w.Clear (4 * dayMicros)) :
    ∃ first last v v', i.boundary z start = .ok first ∧ i.boundary z stop = .ok last ∧
      first.wallClock z = .ok v ∧ last.wallClock z = .ok v' := by
  obtain ⟨s, e, hs, he, hsm, hem⟩ := hp.exists_of w
  obtain ⟨hsw, hwe, hday, hs0, he0⟩ := hp.bounds hsm hem
  have hlo := hclear.1
  have hhi := hclear.2
  obtain ⟨first, v, hfirst, hv⟩ := exists_ofWall hz hms hs0 ⟨by omega, by omega⟩
  obtain ⟨last, v', hlast, hv'⟩ := exists_ofWall hz hms he0 ⟨by omega, by omega⟩
  exact ⟨first, last, v, v', boundary_eq_ok.2 ⟨w, s, hw, hs, hfirst⟩,
    boundary_eq_ok.2 ⟨w, e, hw, he, hlast⟩, hv, hv'⟩

/-! ### Ends that do not lie about an instant -/

/-- Clocks that were set forward from half past eleven in the evening of 30 March 1919. -/
def spring1919 : Table := ⟨⟨-18_000, false⟩, [⟨-1_601_753_400, ⟨-14_400, true⟩⟩]⟩

/-- Midnight of that night, and the last millisecond before it. -/
def midnight1919 : WallTime := ⟨60_533_827_200_000_000, by decide⟩

def evening1919 : WallTime := ⟨60_533_827_199_999_000, by decide⟩

/-- Clocks that are set forward by an hour twice in one day, first from a quarter to two. -/
def twice1970 : Table := ⟨⟨0, false⟩, [⟨6_300, ⟨3_600, true⟩⟩, ⟨49_500, ⟨7_200, true⟩⟩]⟩

/-- Two o'clock of that day, which is skipped. -/
def skipped1970 : WallTime := ⟨62_135_604_000_000_000, by decide⟩

/-- An hour can end before an instant in it, where the clocks are set back; a day can start after
one of its instants, and end on the next date, where they are set forward over midnight; and it can
start on the date before, under an offset that is not of whole milliseconds. How the readings of a time
are found does not matter. Where changes follow each other too fast, the start of an hour that is skipped
is not even found past the gap by the length of the gap. -/
theorem boundary_apart :
    (∃ last, boundary ⟨1_698_543_000_007⟩ (summer2023.zone "Europe/Berlin") .endOfHour = .ok last ∧
      last.millis < 1_698_543_000_007) ∧
    (∃ last, boundary ⟨1_698_543_000_007⟩ (.hostLocal summer2023) .endOfHour = .ok last ∧
      last.millis < 1_698_543_000_007) ∧
    (∃ first, boundary ⟨-1_601_752_500_000⟩ (.hostLocal spring1919) .startOfDay = .ok first ∧
      -1_601_752_500_000 < first.millis) ∧
    (∃ first, boundary ⟨-1_601_752_500_000⟩ (spring1919.zone "America/Toronto") .startOfDay
        = .ok first ∧ -1_601_752_500_000 < first.millis) ∧
    (∃ last v w, boundary ⟨-1_601_766_000_000⟩ (spring1919.zone "America/Toronto") .endOfDay
        = .ok last ∧ last.wallClock (spring1919.zone "America/Toronto") = .ok v ∧
      wallClock ⟨-1_601_766_000_000⟩ (spring1919.zone "America/Toronto") = .ok w ∧
      v.date ≠ w.date) ∧
    (∃ first v w, boundary ⟨0⟩ (.standard 500) .startOfDay = .ok first ∧
      first.wallClock (.standard 500) = .ok v ∧ wallClock ⟨0⟩ (.standard 500) = .ok w ∧
      v.date ≠ w.date) ∧
    ∃ first v w, boundary ⟨6_600_000⟩ (.hostLocal twice1970) .startOfHour = .ok first ∧
      first.wallClock (.hostLocal twice1970) = .ok v ∧
      wallClock ⟨6_600_000⟩ (.hostLocal twice1970) = .ok w ∧ w.startOfHour = skipped1970 ∧
      (v.micros : Int) ≠ skipped1970.micros + (Zone.hostLocal twice1970).gapLength skipped1970 := by
  have hregular : spring1919.Regular := by decide
  have hmidnight : spring1919.localize midnight1919 = .ok ⟨-18_000, false⟩ :=
    Table.localize_of_inGap hregular (c := ⟨-1_601_753_400, ⟨-14_400, true⟩⟩) (by decide) (by decide)
  have hevening : spring1919.localize evening1919 = .ok ⟨-18_000, false⟩ :=
    Table.localize_of_inGap hregular (c := ⟨-1_601_753_400, ⟨-14_400, true⟩⟩) (by decide) (by decide)
  refine ⟨⟨⟨1_698_541_199_999⟩, by rfl, by decide⟩, ⟨⟨1_698_541_199_999⟩, by rfl, by decide⟩,
    ⟨⟨-1_601_751_600_000⟩, by rfl, by decide⟩, ⟨⟨-1_601_751_600_000⟩, ?_, by decide⟩,
    ⟨⟨-1_601_751_600_001⟩, ⟨60_533_830_799_999_000, by decide⟩,
      ⟨60_533_812_800_000_000, by decide⟩, ?_, by rfl, by rfl, by decide +kernel⟩,
    ⟨⟨-1⟩, ⟨62_135_596_799_999_500, by decide⟩, ⟨62_135_596_800_000_500, by decide⟩, by rfl, by rfl,
      by rfl, by decide +kernel⟩,
    ⟨⟨10_800_000⟩, ⟨62_135_611_200_000_000, by decide⟩, ⟨62_135_607_000_000_000, by decide⟩, by rfl,
      by rfl, by rfl, by decide +kernel, by decide +kernel⟩⟩
  · exact boundary_eq_ok.2 ⟨⟨60_533_829_900_000_000, by decide⟩, midnight1919, by rfl, by rfl,
      ofWall_of_localize (Zone.localize_table hmidnight)⟩
  · exact boundary_eq_ok.2 ⟨⟨60_533_812_800_000_000, by decide⟩, evening1919, by rfl, by rfl,
      ofWall_of_localize (Zone.localize_table hevening)⟩

end Instant

end CivilTime
