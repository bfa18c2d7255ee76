import CivilTime.Proofs.Calendar.Week
import CivilTime.Proofs.Instant.Steady

/-!
# Weeks in a zone with one offset

In a zone with one offset Monday and Sunday are found at the ends of one and the same week, six days
apart, from every instant in it. Two instants lie in one week if no week begins between them.

* `Boundary.EndsWeek`: the two ends of a week, by the number of the day.
* `Instant.millis_of_endsWeek`: how far they lie from the instant, and what they read.
* `Instant.boundary_of_onWeekday`: they are the same from every day of the week.
* `Instant.startOfWeek`: midnight before the Monday; `startOfWeek_eq_iff` says for which instants it
  is the same.
* `Instant.week_delimited`: both ends of a week, and the weeks of two instants.
-/

namespace CivilTime

/-- The two ends of a week, with the number of the day. -/
inductive Boundary.EndsWeek : Boundary → Nat → Prop
  | monday : EndsWeek .monday 0
  | sunday : EndsWeek .sunday 6

variable {z : Zone} {offset : Int} {i j a b : Instant} {v w : WallTime} {m n : Nat} {e : Boundary}

namespace Boundary.EndsWeek

theorem lt (h : EndsWeek e n) : n < 7 := by cases h <;> decide

theorem of_eq (h : EndsWeek e n) (w : WallTime) : e.of w = w.addDays ((n : Int) - w.weekday) := by
  cases h with
  | monday => exact w.monday_eq_addDays
  | sunday => exact w.sunday_eq_addDays

end Boundary.EndsWeek

namespace Instant

/-! ### The ends of a week -/

/-- An end of the week lies as many days away as the numbers of the days say, and is read there. -/
theorem millis_of_endsWeek (hz : z.Steady offset) (hw : i.wallClock z = .ok w)
    (he : e.EndsWeek n) (h : i.boundary z e = .ok j) :
    j.millis = i.millis + 86_400_000 * ((n : Int) - w.weekday) ∧
      ∀ v, j.wallClock z = .ok v → v.OnWeekday w n := by
  rw [boundary_of_wallClock hw, he.of_eq] at h
  obtain ⟨u, hu, hj⟩ := bind_eq_ok.1 h
  have hon := (WallTime.addDays_eq_ok_iff_onWeekday he.lt).1 hu
  have hmicros := (WallTime.onWeekday_iff he.lt).1 hon
  have hmoved : (u.micros : Int)
      = w.micros + 86_400_000 * ((n : Int) - w.weekday) * 1000 := by
    simp only [dayMicros] at hmicros
    omega
  constructor
  · rw [hz.eq_later_of_ofWall hw hmoved hj, millis_later]
  · intro v hv
    rw [hz.wallClock_of_ofWall (hz.point_of_moved hw hmoved).1 hj hv]
    exact hon

/-- From every day of the week the same ends are found, or none. -/
theorem boundary_of_onWeekday (hw : i.wallClock z = .ok w) (hv : j.wallClock z = .ok v)
    (hon : v.OnWeekday w n) (he : e.EndsWeek m) : j.boundary z e = i.boundary z e := by
  rw [boundary_of_wallClock hv, boundary_of_wallClock hw, he.of_eq, he.of_eq, hon.addDays_eq m]

/-! ### Two instants -/

/-- Midnight before the Monday of the week. -/
def startOfWeek (i : Instant) (z : Zone) : Except Fault Instant := do
  (← i.boundary z .monday).boundary z .startOfDay

theorem point_of_startOfWeek (hz : z.Steady offset) (h : i.startOfWeek z = .ok a) :
    ∃ w, i.wallClock z = .ok w ∧
      a.millis * 1000 = (w.micros / weekMicros * weekMicros : Nat) - epochMicros - offset := by
  obtain ⟨monday, hmonday, ha⟩ := bind_eq_ok.1 h
  obtain ⟨w, -, hw, -⟩ := boundary_eq_ok.1 hmonday
  obtain ⟨v, s, hv, hs, ha⟩ := boundary_eq_ok.1 ha
  obtain rfl : v.startOfDay = s := Except.ok.inj hs
  have hon := (millis_of_endsWeek hz hw .monday hmonday).2 v hv
  have hstart := hon.micros_startOfDay
  have hmod : v.startOfDay.micros % 1000 = 0 := by
    rw [hstart, weekMicros]
    omega
  refine ⟨w, hw, ?_⟩
  rw [hz.point_of_ofWall hmod ha, WallTime.sinceEpoch, hstart]

/-- Of two instants the later one lies in another week exactly if a week begins on the way to it. -/
theorem startOfWeek_eq_iff (hz : z.Steady offset) (hij : i.millis ≤ j.millis)
    (ha : i.startOfWeek z = .ok a) (hb : j.startOfWeek z = .ok b) :
    a = b ↔ ¬ ∃ (k : Instant) (x : WallTime), k.wallClock z = .ok x ∧ x.StartsWeek ∧
      i.millis < k.millis ∧ k.millis ≤ j.millis := by
  obtain ⟨v, hv, hapoint⟩ := point_of_startOfWeek hz ha
  obtain ⟨w, hw, hbpoint⟩ := point_of_startOfWeek hz hb
  obtain ⟨hvread, p, hp⟩ := hz.wallClock_iff.1 hv
  obtain ⟨hwread, q, hq⟩ := hz.wallClock_iff.1 hw
  constructor
  · intro hab hex
    obtain ⟨k, x, hx, hstarts, hik, hkj⟩ := hex
    have hk := hz.point_of_wallClock hx
    have hmod := WallTime.startsWeek_iff.1 hstarts
    rw [hab] at hapoint
    simp only [WallTime.sinceEpoch, weekMicros] at *
    omega
  · intro hnone
    by_contra hab
    have hmillis : a.millis ≠ b.millis := fun h => hab (eq_of_millis h)
    -- the week of the later instant begins between the two
    have hbetween : i.millis < b.millis ∧ b.millis ≤ j.millis := by
      simp only [WallTime.sinceEpoch, weekMicros] at *
      omega
    have hmicros := w.micros_startOf weekMicros
    have hread : b.wallClock z = .ok (w.startOf weekMicros) := by
      refine hz.wallClock_iff.2 ⟨?_, ?_⟩
      · rw [WallTime.sinceEpoch, hmicros, hbpoint]
        omega
      · exact WallTime.exists_between (v := p) (w := q) (by omega) (by omega)
    refine hnone ⟨b, _, hread, WallTime.startsWeek_iff.2 ?_, hbetween.1, hbetween.2⟩
    rw [hmicros]
    exact Nat.mul_mod_left _ _

/-- Monday and Sunday of the week of an instant lie on both sides of it, six days apart, and are read
on the first and the last day of its week at its time of day; from there the same ends are found. Two
instants have the same start of the week exactly if at no instant after the earlier one, up to the
later one, a Monday begins. -/
theorem week_delimited (hz : z.Steady offset) :
    (∀ (i : Instant) w, i.wallClock z = .ok w →
      (∀ monday, i.boundary z .monday = .ok monday → monday.millis ≤ i.millis ∧
        ∀ v, monday.wallClock z = .ok v → v.OnWeekday w 0 ∧
          monday.boundary z .monday = .ok monday ∧
          monday.boundary z .sunday = i.boundary z .sunday) ∧
      (∀ sunday, i.boundary z .sunday = .ok sunday → i.millis ≤ sunday.millis ∧
        ∀ v, sunday.wallClock z = .ok v → v.OnWeekday w 6 ∧
          sunday.boundary z .sunday = .ok sunday ∧
          sunday.boundary z .monday = i.boundary z .monday) ∧
      ∀ monday sunday, i.boundary z .monday = .ok monday → i.boundary z .sunday = .ok sunday →
        sunday.millis = monday.millis + 6 * 86_400_000) ∧
    ∀ i j a b : Instant, i.millis ≤ j.millis → i.startOfWeek z = .ok a → j.startOfWeek z = .ok b →
      (a = b ↔ ¬ ∃ (k : Instant) (x : WallTime), k.wallClock z = .ok x ∧ x.StartsWeek ∧
        i.millis < k.millis ∧ k.millis ≤ j.millis) := by
  refine ⟨?_, fun i j a b hij ha hb => startOfWeek_eq_iff hz hij ha hb⟩
  intro i w hw
  have hday := w.weekday_lt
  refine ⟨?_, ?_, ?_⟩
  · intro monday h
    obtain ⟨hmillis, hread⟩ := millis_of_endsWeek hz hw .monday h
    refine ⟨by omega, ?_⟩
    intro v hv
    have hon := hread v hv
    exact ⟨hon, (boundary_of_onWeekday hw hv hon .monday).trans h,
      boundary_of_onWeekday hw hv hon .sunday⟩
  · intro sunday h
    obtain ⟨hmillis, hread⟩ := millis_of_endsWeek hz hw .sunday h
    refine ⟨by omega, ?_⟩
    intro v hv
    have hon := hread v hv
    exact ⟨hon, (boundary_of_onWeekday hw hv hon .sunday).trans h,
      boundary_of_onWeekday hw hv hon .monday⟩
  · intro monday sunday hm hs
    have hmillis := (millis_of_endsWeek hz hw .monday hm).1
    have hmillis' := (millis_of_endsWeek hz hw .sunday hs).1
    omega

/-- A quarter of an hour into 1970, a Thursday, five hours and three quarters ahead of universal time.
The week of that Thursday began in 1969, and at midnight before the next Monday another one begins. -/
theorem week_delimited_newYear1970 :
    ∃ monday sunday a b, boundary ⟨-19_799_993⟩ (.fixed 345) .monday = .ok monday ∧
      boundary ⟨-19_799_993⟩ (.fixed 345) .sunday = .ok sunday ∧
      sunday.millis = monday.millis + 518_400_000 ∧
      startOfWeek ⟨-19_799_993⟩ (.fixed 345) = .ok a ∧
      startOfWeek ⟨324_900_000⟩ (.fixed 345) = .ok b ∧ a ≠ b := by
  have hsteady : (Zone.fixed 345).Steady 20_700_000_000 := by decide
  have hthursday : wallClock ⟨-19_799_993⟩ (.fixed 345)
      = .ok ⟨62_135_597_700_007_000, by decide⟩ := by rfl
  have hnext : wallClock ⟨324_900_000⟩ (.fixed 345)
      = .ok ⟨62_135_942_400_000_000, by decide⟩ := by rfl
  have hmonday : boundary ⟨-19_799_993⟩ (.fixed 345) .monday = .ok ⟨-278_999_993⟩ := by
    decide +kernel
  have hsunday : boundary ⟨-19_799_993⟩ (.fixed 345) .sunday = .ok ⟨239_400_007⟩ := by
    decide +kernel
  have ha : startOfWeek ⟨-19_799_993⟩ (.fixed 345) = .ok ⟨-279_900_000⟩ := by decide +kernel
  have hb : startOfWeek ⟨324_900_000⟩ (.fixed 345) = .ok ⟨324_900_000⟩ := by decide +kernel
  obtain ⟨hweek, hsame⟩ := week_delimited hsteady
  obtain ⟨-, -, hapart⟩ := hweek _ _ hthursday
  refine ⟨_, _, _, _, hmonday, hsunday, hapart _ _ hmonday hsunday, ha, hb, ?_⟩
  intro hab
  refine (hsame _ _ _ _ (by decide) ha hb).1 hab ⟨_, _, hnext, ?_, by decide, by decide⟩
  exact WallTime.startsWeek_iff.2 (by decide)

end Instant

end CivilTime
