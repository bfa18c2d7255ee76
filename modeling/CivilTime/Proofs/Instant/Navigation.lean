import CivilTime.Session
import CivilTime.Proofs.Calendar.Month
import CivilTime.Proofs.Instant.Understood

/-!
# Months and days on the wall clock

Years, months, weeks and days are added to the reading of an instant, and the sum is understood in
the zone again. What is exact on the wall clock is thus exact for the reading, and the instants
differ by as much and by the change of the offset.

* `Operation.run_addUnits`: what it does to add a number of units to a date.
* `Instant.add_month_eq_ok`, `Instant.add_month_eq_error`: what months lead to; years are months.
* `Instant.addMonths_exact`: the reading some months away, and when there is none.
* `Instant.addDays_exact`: the reading some days away, its instant, and further days from there.
-/

namespace CivilTime

/-! ### Units added to a date -/

variable {s : Session} {tz : Option Zone} {z : Zone} {i j : Instant} {t : OffsetTime}
  {v w : WallTime} {n a : Int}

/-- Units are added in the zone that is given or the default one, and the session is left alone. -/
theorem Operation.run_addUnits (u : CalendarUnit) (date : Option Instant) (n : Int)
    (tz : Option Zone) (s : Session) :
    (addUnits u date n tz).run s
      = ((requireDate date >>= fun i => i.add (s.zoneOr tz) u n).map Answer.ofInstant, s) := by
  show s.answer Answer.ofInstant (addUnitsToDate u date n s.defaultZone tz) = _
  simp only [addUnitsToDate_inZone, Instant.add_inZone]
  rfl

namespace Instant

/-- An operation on the wall clock begins with what the instant reads. -/
theorem onWall_of_wallClock (hw : i.wallClock z = .ok w) (move : WallTime → Except Fault WallTime) :
    i.onWall z move = (move w >>= fun v => ofWall v z) := by
  rw [onWall_eq, bind_of_ok hw]

/-! ### Months and years -/

/-- The years of a move are added as months. -/
theorem add_year_eq_add_month (i : Instant) (z : Zone) (n : Int) :
    i.add z .year n = i.add z .month (12 * n) := by
  show i.onWall z (·.addYears n) = i.onWall z (·.addMonths (12 * n))
  simp only [WallTime.addYears_eq_addMonths]

theorem add_month_eq_ok (hw : i.wallClock z = .ok w) :
    i.add z .month n = .ok j ↔ ∃ v, v.MonthsAfter w n ∧ ofWall v z = .ok j := by
  show i.onWall z (·.addMonths n) = .ok j ↔ _
  simp only [onWall_of_wallClock hw, bind_eq_ok, WallTime.addMonths_eq_ok]

theorem add_month_eq_error {f : Fault} (hw : i.wallClock z = .ok w) :
    i.add z .month n = .error f ↔
      ¬ InYears (w.date.monthIndex + n) ∧ f = yearFault ((w.date.monthIndex + n) / 12) ∨
        ∃ v, v.MonthsAfter w n ∧ ofWall v z = .error f := by
  show i.onWall z (·.addMonths n) = .error f ↔ _
  simp only [onWall_of_wallClock hw, bind_eq_error, WallTime.addMonths_eq_error,
    WallTime.addMonths_eq_ok]

open Operation (addUnits run_addUnits)

/-- Months are added to what an instant reads, and the sum is understood in the zone again: the
number of the month is the sum, the day is kept or is the last one of the month, and the time of day
is kept. This fails where the month is in no year of the calendar, or where the sum is understood as
no instant, and the session is left alone. Years are added as twelve months each, and fail as those
do. -/
theorem addMonths_exact (s : Session) (date : Option Instant) (n : Int) (tz : Option Zone) :
    (addUnits .year date n tz).run s = (addUnits .month date (12 * n) tz).run s ∧
      ((addUnits .month date n tz).run s).2 = s ∧
      ∀ i w, date = some i → i.wallClock (s.zoneOr tz) = .ok w →
        ((∃ v : WallTime, v.MonthsAfter w n) ↔ InYears (w.date.monthIndex + n)) ∧
        (∀ r, ((addUnits .month date n tz).run s).1 = .ok r ↔
          ∃ v j, v.MonthsAfter w n ∧ ofWall v (s.zoneOr tz) = .ok j ∧ r = .ofInstant j) ∧
        ∀ f, ((addUnits .month date n tz).run s).1 = .error f ↔
          ¬ InYears (w.date.monthIndex + n) ∧ f = yearFault ((w.date.monthIndex + n) / 12) ∨
            f = .outOfRange ∧ ∃ v, v.MonthsAfter w n ∧ ofWall v (s.zoneOr tz) = .error f := by
  simp only [run_addUnits, add_year_eq_add_month, true_and]
  intro i w hdate hw
  subst hdate
  refine ⟨WallTime.exists_monthsAfter_iff, ?_, ?_⟩
  · intro r
    rw [map_eq_ok]
    constructor
    · intro h
      obtain ⟨j, hj, rfl⟩ := h
      obtain ⟨v, hafter, hv⟩ := (add_month_eq_ok hw).1 hj
      exact ⟨v, j, hafter, hv, rfl⟩
    · intro h
      obtain ⟨v, j, hafter, hv, rfl⟩ := h
      exact ⟨j, (add_month_eq_ok hw).2 ⟨v, hafter, hv⟩, rfl⟩
  · intro f
    rw [map_eq_error]
    show i.add (s.zoneOr tz) .month n = .error f ↔ _
    rw [add_month_eq_error hw]
    constructor
    · intro h
      rcases h with h | ⟨v, hafter, hv⟩
      · exact .inl h
      · exact .inr ⟨eq_outOfRange_of_ofWall hv, v, hafter, hv⟩
    · intro h
      rcases h with h | ⟨-, h⟩
      · exact .inl h
      · exact .inr h

/-- Ten o'clock of 31 March 2024, as universal time. -/
def marchEnds : Instant := ⟨1_711_879_200_007⟩

/-- What universal time shows then. -/
def marchEndsShown : WallTime := ⟨63_847_476_000_007_000, by decide⟩

/-- Ten o'clock of 28 February 2023. -/
def februaryEndsShown : WallTime := ⟨63_813_175_200_007_000, by decide⟩

/-- Thirteen months before 31 March 2024 lies 28 February 2023; and so many months before it that no
year of the calendar is left, lies nothing. -/
theorem addMonths_exact_marchEnds :
    ((addUnits .month (some marchEnds) (-13) (some .universal)).run {}).1
        = .ok (.number 1_677_578_400_007) ∧
      ((addUnits .month (some marchEnds) (-24_291) (some .universal)).run {}).1
        = .error .invalidValue := by
  have hshown : marchEnds.wallClock .universal = .ok marchEndsShown := by rfl
  have hafter : februaryEndsShown.MonthsAfter marchEndsShown (-13) :=
    ⟨⟨by decide, by decide +kernel⟩, by decide⟩
  obtain ⟨-, -, hexact⟩ := addMonths_exact {} (some marchEnds) (-13) (some .universal)
  obtain ⟨-, -, hlost⟩ := addMonths_exact {} (some marchEnds) (-24_291) (some .universal)
  constructor
  · exact ((hexact _ _ rfl hshown).2.1 _).2 ⟨_, ⟨1_677_578_400_007⟩, hafter, by rfl, rfl⟩
  · exact ((hlost _ _ rfl hshown).2.2 _).2 (.inl ⟨by decide, by decide⟩)

end Instant

/-! ### Days and weeks -/

/-- Days that are added one after the other are added at once. -/
theorem WallTime.addDays_addDays (h : w.addDays a = .ok v) (b : Int) :
    v.addDays b = w.addDays (a + b) := by
  have hv := shift_eq_ok.1 h
  rw [addDays, addDays, shift, shift, hv, Int.add_mul, Int.add_assoc]

namespace Instant

theorem add_day_of_wallClock (hw : i.wallClock z = .ok w) (n : Int) :
    i.add z .day n = (w.addDays n >>= fun v => ofWall v z) :=
  onWall_of_wallClock hw (·.addDays n)

/-- What is read and the offset say which instant it is. -/
theorem millis_of_toOffsetTime (h : i.toOffsetTime z = .ok t) :
    i.millis * 1000 = t.wall.sinceEpoch - t.offset :=
  (Zone.sinceEpoch_of_toOffsetTime h).symm

theorem offset_of_constant {offset : Int} (hc : z.constantOffset? = some offset)
    (h : i.toOffsetTime z = .ok t) : t.offset = offset := by
  obtain ⟨u, -, hoffset, -⟩ := Instant.toOffsetTime_eq_ok.1 h
  rw [hoffset, Zone.offsetAt_of_constant hc]

/-- The reading some days away is read by the instant that it is understood as, unless the clocks
are set forward over it. That instant is as many days of 24 hours away, less what the offset has
become greater. From there it is as far to any other day as it is all at once, whatever reading lies
between. Weeks are seven days each, and in a zone with one offset days are 24 hours each. -/
theorem addDays_exact (hz : z.Regular) (hms : z.WholeMillis) (ht : i.toOffsetTime z = .ok t)
    (hv : t.wall.addDays a = .ok v) (hclear : v.Clear (3 * dayMicros))
    (hgap : ∀ n, ¬ z.LeapsOver v n) :
    ∃ j t', i.add z .day a = .ok j ∧ j.toOffsetTime z = .ok t' ∧ t'.wall = v ∧
      j.millis * 1000 = (i.millis + 86_400_000 * a) * 1000 - (t'.offset - t.offset) ∧
      (∀ b, j.add z .day b = i.add z .day (a + b)) ∧
      (∀ n, i.add z .week n = i.add z .day (7 * n)) ∧
      ∀ offset, z.constantOffset? = some offset → i.add z .hour (24 * a) = .ok j := by
  have hw : i.wallClock z = .ok t.wall := wallClock_eq_ok.2 ⟨t, ht, rfl⟩
  have hmoved : (v.micros : Int) = t.wall.micros + a * 86_400_000_000 :=
    WallTime.shift_eq_ok.1 hv
  have hmod : v.micros % 1000 = 0 := by
    have hw0 := wallClock_mod hms hw
    omega
  obtain ⟨j, hj, hread⟩ := exists_ofWall_of_not_leapsOver hz hms hmod hclear hgap
  obtain ⟨t', ht', hwall⟩ := wallClock_eq_ok.1 hread
  have hi := millis_of_toOffsetTime ht
  have hi' := millis_of_toOffsetTime ht'
  have hmillis : j.millis * 1000 = (i.millis + 86_400_000 * a) * 1000 - (t'.offset - t.offset) := by
    rw [hwall] at hi'
    simp only [WallTime.sinceEpoch] at hi hi'
    omega
  refine ⟨j, t', ?_, ht', hwall, hmillis, ?_, fun n => rfl, ?_⟩
  · rw [add_day_of_wallClock hw, bind_of_ok hv, hj]
  · intro b
    rw [add_day_of_wallClock hw, add_day_of_wallClock hread, WallTime.addDays_addDays hv]
  · intro offset hc
    rw [offset_of_constant hc ht, offset_of_constant hc ht'] at hmillis
    show Except.ok (Instant.mk (i.millis + 24 * a * 3_600_000)) = .ok j
    have heq : i.millis + 24 * a * 3_600_000 = j.millis := by omega
    rw [heq]

/-- Half past two, a day before the night in which the summer ends. -/
def dayBeforeNightEnds : Instant := ⟨1_698_453_000_007⟩

/-- What the clocks show then. -/
def dayBeforeShown : WallTime := ⟨63_834_057_000_007_000, by decide⟩

/-- What they show two days later. -/
def dayAfterShown : WallTime := ⟨63_834_229_800_007_000, by decide⟩

/-- A day later it is half past two for the first time, after 24 hours; and a day later again, after
25 more hours, though the clocks show half past two twice in between. -/
theorem addDays_exact_nightEnds :
    ∃ j k, dayBeforeNightEnds.add (summer2023.zone "Europe/Berlin") .day 1 = .ok j ∧
      j.millis = dayBeforeNightEnds.millis + 86_400_000 ∧
      j.add (summer2023.zone "Europe/Berlin") .day 1 = .ok k ∧
      dayBeforeNightEnds.add (summer2023.zone "Europe/Berlin") .day 2 = .ok k ∧
      k.millis = j.millis + 90_000_000 := by
  have hsummer : (summer2023.zone "Europe/Berlin").Regular ∧
      (summer2023.zone "Europe/Berlin").WholeMillis := by decide
  have hshown : dayBeforeNightEnds.toOffsetTime (summer2023.zone "Europe/Berlin")
      = .ok ⟨dayBeforeShown, 2 * hourMicros⟩ := by rfl
  have hread : Instant.wallClock ⟨1_698_539_400_007⟩ (summer2023.zone "Europe/Berlin")
      = .ok nightEnds := by rfl
  have hday : dayBeforeShown.addDays 1 = .ok nightEnds := WallTime.shift_eq_ok.2 (by rfl)
  have hnext : nightEnds.addDays 1 = .ok dayAfterShown := WallTime.shift_eq_ok.2 (by rfl)
  have hj : ofWall nightEnds (summer2023.zone "Europe/Berlin") = .ok ⟨1_698_539_400_007⟩ := by rfl
  have hk : ofWall dayAfterShown (summer2023.zone "Europe/Berlin") = .ok ⟨1_698_629_400_007⟩ := by
    rfl
  have hgap : ∀ n, ¬ (summer2023.zone "Europe/Berlin").LeapsOver nightEnds n := by
    intro n h
    exact h.not_wallClock hsummer.1 _ hread
  obtain ⟨j, t', hfirst, -, -, -, hdays, -⟩ :=
    addDays_exact hsummer.1 hsummer.2 hshown hday (by decide) hgap
  have hj' : dayBeforeNightEnds.add (summer2023.zone "Europe/Berlin") .day 1
      = .ok ⟨1_698_539_400_007⟩ := by
    rw [add_day_of_wallClock (wallClock_eq_ok.2 ⟨_, hshown, rfl⟩), bind_of_ok hday, hj]
  obtain rfl := Except.ok.inj (hfirst.symm.trans hj')
  have hk' : Instant.add ⟨1_698_539_400_007⟩ (summer2023.zone "Europe/Berlin") .day 1
      = .ok ⟨1_698_629_400_007⟩ := by
    rw [add_day_of_wallClock hread, bind_of_ok hnext, hk]
  exact ⟨_, _, hfirst, rfl, hk', (hdays 1).symm.trans hk', rfl⟩

end Instant

end CivilTime
