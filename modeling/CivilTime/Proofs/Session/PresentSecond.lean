import CivilTime.Session
import CivilTime.Proofs.Instant.Repeated
import CivilTime.Proofs.Instant.Understood

/-!
# The present second

The present second is found by way of its text: what the clock reads in the zone is written to the
second and read again. So it is the second of the clock unless the zone shows that second twice.
Then it is that of the two which its text is understood as, also while the other one passes.

* `Session.presentSecond`: the second of the clock.
* `Table.ofWall_of_two`: which of two instants with one reading is chosen.
* `Operation.run_currentDate_of_ofWall`: the operation by what the second is understood as.
* `currentDate_presentSecond`: what the operation yields at every moment.
* `currentDate_hourEarlier`, `currentDate_hourLater`: moments at which it is not the second of the
  clock.
-/

namespace CivilTime

/-- The second of the clock. -/
def Session.presentSecond (s : Session) : Instant := ⟨s.clock / 1_000_000_000 * 1000⟩

variable {s : Session} {tz : Option Zone} {w : WallTime} {r : Instant}

theorem Session.wholeSecond_now (s : Session) : s.now.wholeSecond = s.presentSecond := by
  show Instant.mk (s.clock / 1_000_000 - s.clock / 1_000_000 % 1000)
    = ⟨s.clock / 1_000_000_000 * 1000⟩
  rw [Instant.mk.injEq]
  omega

/-! ### The choice between two instants -/

/-- Of two instants that read one time the later one is chosen if its regime alone is marked as
daylight time, and else the earlier one. -/
theorem Table.ofWall_of_two {t : Table} {i j : Instant} (name : String) (ht : t.Regular)
    (hw : w.Clear (3 * dayMicros)) (hij : i.millis < j.millis)
    (hi : i.wallClock (t.zone name) = .ok w) (hj : j.wallClock (t.zone name) = .ok w) :
    ∃ p q, i.regime t = .ok p ∧ j.regime t = .ok q ∧
      Instant.ofWall w (t.zone name)
        = .ok (if p.daylight = false ∧ q.daylight = true then j else i) := by
  obtain ⟨p, hip, hp, hpi⟩ := Instant.regime_of_wallClock hi
  obtain ⟨q, hjq, hq, hqj⟩ := Instant.regime_of_wallClock hj
  refine ⟨p, q, hip, hjq, ?_⟩
  have hoffset : q.offset < p.offset := by
    simp only [Regime.micros, secondMicros] at hpi hqj
    omega
  obtain ⟨R, hR⟩ := exists_readings ht
    (hw.mono (show 32 * hourMicros ≤ 3 * dayMicros by decide))
  have hplace : Instant.ofWall w (t.zone name) = _ := Instant.ofWall_of_localize
    (Zone.localize_table (localize_of_two ht hR hp hq hoffset))
  rw [hplace]
  split
  · exact congrArg Except.ok (Instant.eq_instant_of_point hqj)
  · exact congrArg Except.ok (Instant.eq_instant_of_point hpi)

/-! ### The present second by way of its text -/

/-- The second of the clock is written and read again, and nothing is recorded. -/
theorem Operation.run_currentDate_of_ofWall (hw : s.now.wallClock (s.zoneOr tz) = .ok w)
    (hr : Instant.ofWall w.wholeSecond (s.zoneOr tz) = .ok r) :
    (Operation.currentDate tz).run s = (.ok (.ofInstant r), s) := by
  have hwritten : CivilTime.currentText s.now defaultPattern (s.zoneOr tz)
      = .ok (secondPattern.format ⟨w, none⟩) := writeDate_default hw
  show s.answerWith Answer.ofInstant? (CivilTime.currentDate s.now (s.zoneOr tz)) = _
  rw [CivilTime.currentDate, bind_of_ok hwritten, readInstant_default hr]
  rfl

/-- The operation yields an instant that reads the second of the clock, and leaves the session
alone. It is the second of the clock if no other instant reads it, so always in a zone with one
offset. Of two instants that read it, of which the second of the clock is one, it is the earlier one,
or the later one if readings are sought and the regime of that one alone is marked as daylight
time. -/
theorem currentDate_presentSecond (hz : (s.zoneOr tz).Regular) (hs : (s.zoneOr tz).WholeSeconds)
    (hw : s.now.wallClock (s.zoneOr tz) = .ok w) (hclear : w.Clear (3 * dayMicros)) :
    ∃ r, (Operation.currentDate tz).run s = (.ok (.ofInstant r), s) ∧
      r.wallClock (s.zoneOr tz) = .ok w.wholeSecond ∧
      s.presentSecond.wallClock (s.zoneOr tz) = .ok w.wholeSecond ∧
      ((∀ k : Instant, k.wallClock (s.zoneOr tz) = .ok w.wholeSecond → k = s.presentSecond) →
        r = s.presentSecond) ∧
      (∀ offset, (s.zoneOr tz).constantOffset? = some offset → r = s.presentSecond) ∧
      (¬ (s.zoneOr tz).Searched →
        ∀ k : Instant, k.wallClock (s.zoneOr tz) = .ok w.wholeSecond → r.millis ≤ k.millis) ∧
      ∀ name (t : Table) (i j : Instant), s.zoneOr tz = t.zone name → i.millis < j.millis →
        i.wallClock (s.zoneOr tz) = .ok w.wholeSecond →
        j.wallClock (s.zoneOr tz) = .ok w.wholeSecond →
        ∃ p q, i.regime t = .ok p ∧ j.regime t = .ok q ∧
          r = if p.daylight = false ∧ q.daylight = true then j else i := by
  obtain ⟨r, hr, hread, -⟩ := ofWall_wholeSecond hz hs hw hclear
  have hnow := Instant.wallClock_wholeSecond hs hw
  rw [s.wholeSecond_now] at hnow
  refine ⟨r, Operation.run_currentDate_of_ofWall hw hr, hread, hnow, ?_, ?_, ?_, ?_⟩
  · intro honly
    exact honly r hread
  · intro offset hc
    exact Instant.eq_of_wallClock_constant hc hread hnow
  · intro hsought k hk
    exact Instant.ofWall_le_of_wallClock hz hsought hr hk
  · intro name t i j hzone hij hi hj
    rw [hzone] at hz hi hj hr
    obtain ⟨p, q, hp, hq, hchosen⟩ := Table.ofWall_of_two name hz hclear.wholeSecond hij hi hj
    exact ⟨p, q, hp, hq, Except.ok.inj (hr.symm.trans hchosen)⟩

/-! ### Moments at which it is another second -/

/-- A session in which it is half past one for the first time, in the night after which a summer
ends, where winter time is the marked one. -/
def winterMarked : Session where
  defaultZone := Table.markedWinter.zone "Europe/Dublin"
  clock := 1_603_585_800_000_000_000

/-- In that night the present second is an hour later than the clock. -/
theorem currentDate_hourLater :
    (Operation.currentDate none).run winterMarked
        = (.ok (.number 1_603_589_400_000), winterMarked) ∧
      winterMarked.presentSecond = ⟨1_603_585_800_000⟩ := by
  have hregular : (winterMarked.zoneOr none).Regular ∧ (winterMarked.zoneOr none).WholeSeconds := by
    decide
  have hfirst : winterMarked.now.wallClock (winterMarked.zoneOr none) = .ok Table.halfPastOne := by
    rfl
  have hsecond : Instant.wallClock ⟨1_603_589_400_000⟩ (winterMarked.zoneOr none)
      = .ok Table.halfPastOne := by rfl
  have hwhole : Table.halfPastOne.wholeSecond = Table.halfPastOne := by decide
  have hsummer : winterMarked.now.regime Table.markedWinter = .ok ⟨3600, false⟩ := by rfl
  have hwinter : Instant.regime ⟨1_603_589_400_000⟩ Table.markedWinter = .ok ⟨0, true⟩ := by rfl
  obtain ⟨r, hrun, -, -, -, -, -, hchosen⟩ :=
    currentDate_presentSecond hregular.1 hregular.2 hfirst (by decide)
  rw [hwhole] at hchosen
  obtain ⟨p, q, hp, hq, hr⟩ := hchosen _ _ _ _ rfl (by decide) hfirst hsecond
  obtain rfl := Except.ok.inj (hsummer.symm.trans hp)
  obtain rfl := Except.ok.inj (hwinter.symm.trans hq)
  rw [if_pos (by decide)] at hr
  subst hr
  exact ⟨hrun, by rfl⟩

/-- A session in which it is half past two for the second time, in the night after which the summer
ends. -/
def summerEnded : Session where
  defaultZone := summer2023.zone "Europe/Berlin"
  clock := 1_698_543_000_007_000_000

/-- In that night the present second is an hour earlier than the clock. -/
theorem currentDate_hourEarlier :
    (summerEnded.zoneOr none).Regular ∧ (summerEnded.zoneOr none).WholeSeconds ∧
      summerEnded.now.wallClock (summerEnded.zoneOr none) = .ok nightEnds ∧
      nightEnds.Clear (3 * dayMicros) ∧
      (Operation.currentDate none).run summerEnded
        = (.ok (.number 1_698_539_400_000), summerEnded) ∧
      summerEnded.presentSecond = ⟨1_698_543_000_000⟩ := by
  have hshown : summerEnded.now.wallClock (summerEnded.zoneOr none) = .ok nightEnds := by rfl
  have hfirst : Instant.ofWall nightEnds.wholeSecond (summerEnded.zoneOr none)
      = .ok ⟨1_698_539_400_000⟩ := by rfl
  exact ⟨by decide, by decide, hshown, by decide, Operation.run_currentDate_of_ofWall hshown hfirst,
    by rfl⟩

end CivilTime
