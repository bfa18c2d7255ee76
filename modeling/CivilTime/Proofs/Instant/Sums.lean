import CivilTime.Proofs.Calendar.MonthSteps
import CivilTime.Proofs.Instant.Steady
import CivilTime.Proofs.Zone.Search

/-!
# Sums of weeks, months and years

What is added on the wall clock is placed on the time line less than three days away. Two sums of weeks,
months or years are at least a week apart on the wall clock, which is more than two places can make up
for: in every sound zone the sum of more units is the later instant. In a zone with one
offset, months that are added in two steps lead where the whole sum leads, but for days that the month
on the way does not have.

* `Instant.lt_of_ofWall`: times a week apart are understood in their order.
* `CalendarUnit.Long`, `Instant.add_lt_add`: more units of a week and longer.
* `Instant.MeantBy`: an instant that a time is understood as and that shows it.
* `Instant.addMonths_addMonths`: months in two steps and at once.
-/

namespace CivilTime

variable {z : Zone} {offset a b : Int} {i j k l : Instant} {u : CalendarUnit} {v w x y : WallTime}

/-! ### More units -/

/-- Whether a unit has seven days or more. -/
def CalendarUnit.Long : CalendarUnit → Prop
  | .year | .month | .week => True
  | _ => False

namespace Instant

/-- In a sound zone times that are a week apart are understood in their order. -/
theorem lt_of_ofWall (hz : z.Sound) (hi : ofWall v z = .ok i) (hj : ofWall w z = .ok j)
    (h : v.micros + 7 * dayMicros ≤ w.micros) : i.millis < j.millis := by
  obtain ⟨s, hs, hi⟩ := bind_eq_ok.1 hi
  obtain ⟨t, ht, hj⟩ := bind_eq_ok.1 hj
  obtain rfl := Except.ok.inj hi
  obtain rfl := Except.ok.inj hj
  obtain ⟨-, hbelow⟩ := hz.near_of_localize hs
  obtain ⟨habove, -⟩ := hz.near_of_localize ht
  show s.sinceEpoch / 1000 < t.sinceEpoch / 1000
  simp only [WallTime.sinceEpoch, dayMicros] at *
  omega

/-- Two sums of long units are understood from times at least a week apart. -/
theorem exists_of_add_long (hu : u.Long) (hab : a < b) (hj : i.add z u a = .ok j)
    (hk : i.add z u b = .ok k) :
    ∃ v x, ofWall v z = .ok j ∧ ofWall x z = .ok k ∧ v.micros + 7 * dayMicros ≤ x.micros := by
  have hmonths : ∀ {a b : Int}, a < b → i.add z .month a = .ok j → i.add z .month b = .ok k →
      ∃ v x, ofWall v z = .ok j ∧ ofWall x z = .ok k ∧ v.micros + 7 * dayMicros ≤ x.micros := by
    intro a b hab hj hk
    obtain ⟨w, hw, -⟩ := bind_eq_ok.1 hj
    obtain ⟨v, hv, hj⟩ := (add_month_eq_ok hw).1 hj
    obtain ⟨x, hx, hk⟩ := (add_month_eq_ok hw).1 hk
    have hapart := hv.micros_add_le hx hab
    exact ⟨v, x, hj, hk, by omega⟩
  cases u with
  | year =>
    rw [add_year_eq_add_month] at hj hk
    exact hmonths (by omega) hj hk
  | month => exact hmonths hab hj hk
  | week =>
    obtain ⟨w, hw, hj⟩ := bind_eq_ok.1 hj
    obtain ⟨w', hw', hk⟩ := bind_eq_ok.1 hk
    obtain rfl := Except.ok.inj (hw.symm.trans hw')
    obtain ⟨v, hv, hj⟩ := bind_eq_ok.1 hj
    obtain ⟨x, hx, hk⟩ := bind_eq_ok.1 hk
    have hv := WallTime.shift_eq_ok.1 hv
    have hx := WallTime.shift_eq_ok.1 hx
    refine ⟨v, x, hj, hk, ?_⟩
    simp only [dayMicros] at *
    omega
  | _ => exact False.elim hu

/-- In every sound zone, whatever its table, more years, months or weeks lead to a later instant,
where both are found. -/
theorem add_lt_add (hz : z.Sound) (hu : u.Long) (hab : a < b) (hj : i.add z u a = .ok j)
    (hk : i.add z u b = .ok k) : j.millis < k.millis := by
  obtain ⟨v, x, hv, hx, hapart⟩ := exists_of_add_long hu hab hj hk
  exact lt_of_ofWall hz hv hx hapart

/-- From noon of 23 December 2011 one week leads to a day that the clocks leave out and two weeks to
one that they show; yet the second instant is later. -/
theorem add_lt_add_dayLeftOut :
    ∃ j k, Instant.add ⟨1_324_677_600_000⟩ (Table.dayLeftOut.zone "Pacific/Apia") .week 1 = .ok j ∧
      Instant.add ⟨1_324_677_600_000⟩ (Table.dayLeftOut.zone "Pacific/Apia") .week 2 = .ok k ∧
      j.millis < k.millis := by
  have hsound : (Table.dayLeftOut.zone "Pacific/Apia").Sound := by decide
  have hj : Instant.add ⟨1_324_677_600_000⟩ (Table.dayLeftOut.zone "Pacific/Apia") .week 1
      = .ok ⟨1_325_282_400_000⟩ := by decide +kernel
  have hk : Instant.add ⟨1_324_677_600_000⟩ (Table.dayLeftOut.zone "Pacific/Apia") .week 2
      = .ok ⟨1_325_800_800_000⟩ := by decide +kernel
  exact ⟨_, _, hj, hk, add_lt_add hsound (u := .week) trivial (by decide) hj hk⟩

/-! ### Months in two steps -/

/-- Whether an instant is what a time is understood as, and shows no other time. It shows this one if
its universal time lies in the calendar. -/
structure MeantBy (i : Instant) (z : Zone) (w : WallTime) : Prop where
  understood : ofWall w z = .ok i
  shows : ∀ v, i.wallClock z = .ok v ↔ v = w ∧ ∃ t : WallTime, t.sinceEpoch = i.millis * 1000

theorem meantBy_of_ofWall (hz : z.Steady offset) (hw : w.micros % 1000 = 0)
    (h : ofWall w z = .ok i) : i.MeantBy z w := by
  have hpoint := hz.point_of_ofWall hw h
  refine ⟨h, ?_⟩
  intro v
  rw [hz.wallClock_iff]
  constructor
  · intro hv
    exact ⟨WallTime.eq_of_sinceEpoch_eq (by omega), hv.2⟩
  · intro hv
    rw [hv.1]
    exact ⟨by omega, hv.2⟩

/-- In a zone with one offset, months in two steps lead to the same month and time of day as the whole
sum. The day is that of the whole sum, cut to the length of the month on the way; so if that month
has the day of the start, the instant is the same, and the first step can be taken back. -/
theorem addMonths_addMonths (hz : z.Steady offset) (hw : i.wallClock z = .ok w)
    (hj : i.add z .month a = .ok j) (hk : j.add z .month b = .ok k)
    (hl : i.add z .month (a + b) = .ok l) :
    ∃ v x y, j.wallClock z = .ok v ∧ k.MeantBy z x ∧ l.MeantBy z y ∧
      x.date.year = y.date.year ∧ x.date.month = y.date.month ∧ x.timeOfDay = y.timeOfDay ∧
      x.date.day = min y.date.day v.daysInMonth ∧
      (w.date.day ≤ 28 ∨ w.date.day ≤ v.daysInMonth →
        k = l ∧ j.add z .month (-a) = .ok i) := by
  obtain ⟨v', hvw, hjv⟩ := (add_month_eq_ok hw).1 hj
  obtain ⟨v, hv, -⟩ := bind_eq_ok.1 hk
  obtain rfl := hz.wallClock_of_ofWall (hvw.micros_mod (hz.micros_mod hw)) hjv hv
  obtain ⟨x, hxv, hkx⟩ := (add_month_eq_ok hv).1 hk
  obtain ⟨y, hyw, hly⟩ := (add_month_eq_ok hw).1 hl
  have hindex := WallTime.MonthsAfter.index_eq hvw hxv hyw
  obtain ⟨hyear, hmonth⟩ := Date.year_month_of_monthIndex x.date_valid y.date_valid hindex
  refine ⟨v, x, y, hv, meantBy_of_ofWall hz (hxv.micros_mod (hz.micros_mod hv)) hkx,
    meantBy_of_ofWall hz (hyw.micros_mod (hz.micros_mod hw)) hly, hyear, hmonth,
    WallTime.MonthsAfter.timeOfDay_eq hvw hxv hyw, WallTime.MonthsAfter.day_eq hvw hxv hyw, ?_⟩
  intro h
  have hday : w.date.day ≤ v.daysInMonth := by
    have hlength := v.le_daysInMonth
    omega
  constructor
  · obtain rfl := WallTime.MonthsAfter.eq_of_steps hvw hxv hyw hday
    exact Except.ok.inj (hkx.symm.trans hly)
  · exact (add_month_eq_ok hv).2 ⟨w, hvw.back_iff.2 hday, hz.ofWall_of_wallClock hw⟩

/-- Noon of the last day of January 2023, five hours and three quarters ahead of universal time. -/
def lastOfJanuary : Instant := ⟨1_675_145_700_007⟩

/-- Noon of the last day of February. -/
def lastOfFebruary : Instant := ⟨1_677_564_900_007⟩

/-- Noon of the last day of March. -/
def lastOfMarch : Instant := ⟨1_680_243_300_007⟩

/-- From the end of January two months at once lead to the end of March, and by way of February to the
28th; but less one month the end of March leads to the end of February, and less two to the start. -/
theorem addMonths_addMonths_ends :
    ∃ k x m, lastOfJanuary.add (.fixed 345) .month 1 = .ok lastOfFebruary ∧
      lastOfFebruary.add (.fixed 345) .month 1 = .ok k ∧ k.MeantBy (.fixed 345) x ∧
      x.date.day = 28 ∧ lastOfJanuary.add (.fixed 345) .month 2 = .ok lastOfMarch ∧
      lastOfMarch.add (.fixed 345) .month (-1) = .ok m ∧ m = lastOfFebruary ∧
      lastOfMarch.add (.fixed 345) .month (-2) = .ok lastOfJanuary := by
  have hsteady : (Zone.fixed 345).Steady 20_700_000_000 := by decide
  have hjanuary : lastOfJanuary.wallClock (.fixed 345)
      = .ok ⟨63_810_763_200_007_000, by decide⟩ := by rfl
  have hfebruary : lastOfFebruary.wallClock (.fixed 345)
      = .ok ⟨63_813_182_400_007_000, by decide⟩ := by rfl
  have hmarch : lastOfMarch.wallClock (.fixed 345)
      = .ok ⟨63_815_860_800_007_000, by decide⟩ := by rfl
  have hone : lastOfJanuary.add (.fixed 345) .month 1 = .ok lastOfFebruary := by decide +kernel
  have htwo : lastOfJanuary.add (.fixed 345) .month 2 = .ok lastOfMarch := by decide +kernel
  have hthird : lastOfFebruary.add (.fixed 345) .month 1 = .ok ⟨1_679_984_100_007⟩ := by
    decide +kernel
  have hless : lastOfMarch.add (.fixed 345) .month (-1) = .ok ⟨1_677_564_900_007⟩ := by
    decide +kernel
  obtain ⟨v, x, y, hv, hx, hy, -, -, -, hcut, -⟩ :=
    addMonths_addMonths hsteady hjanuary hone hthird htwo
  obtain rfl := Except.ok.inj (hfebruary.symm.trans hv)
  have hshown := ((hy.shows _).1 hmarch).1
  rw [← hshown] at hcut
  obtain ⟨u, -, -, hu, -, -, -, -, -, -, hkept⟩ :=
    addMonths_addMonths hsteady hjanuary htwo hless hone
  obtain rfl := Except.ok.inj (hmarch.symm.trans hu)
  obtain ⟨hsame, hback⟩ := hkept (.inr (by decide +kernel))
  exact ⟨_, x, _, hone, hthird, hx, hcut.trans (by decide +kernel), htwo, hless, hsame, hback⟩

end Instant

end CivilTime
