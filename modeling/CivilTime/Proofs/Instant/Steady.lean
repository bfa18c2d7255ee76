import CivilTime.Proofs.Instant.Anchored
import CivilTime.Proofs.Instant.Navigation

/-!
# Zones with one offset

In a zone that has one offset for ever the wall clock and the time line run side by side. A time is
understood as the instant that reads it, and no other instant does; times and instants have the same
order and the same distances. Only at the ends of the calendar a time can be without an instant.

* `Zone.Steady`: one offset of whole milliseconds, shorter than a day.
* `Zone.Confined`: the zones that place no time outside the calendar.
* `Steady.wallClock_iff`: what an instant reads.
* `Steady.point_of_ofWall`: where a time is placed; `Steady.ofWall_eq_error` says when it is not.
* `Steady.ofWall_of_wallClock`, `Steady.wallClock_of_ofWall`: reading a time and understanding it.
* `Instant.boundary_of_wallClock`: the end of a period by what an instant reads.
-/

namespace CivilTime

/-- One offset of whole milliseconds, shorter than a day. -/
structure Zone.Steady (z : Zone) (offset : Int) : Prop where
  regular : z.Regular
  constant : z.constantOffset? = some offset
  millis : offset % 1000 = 0

instance (z : Zone) (offset : Int) : Decidable (z.Steady offset) :=
  decidable_of_iff (z.Regular ∧ z.constantOffset? = some offset ∧ offset % 1000 = 0)
    ⟨fun h => ⟨h.1, h.2.1, h.2.2⟩, fun h => ⟨h.regular, h.constant, h.millis⟩⟩

/-- Whether a zone places a time only if its universal time lies in the calendar. -/
def Zone.Confined : Zone → Prop
  | .standard _ | .folding _ _ => True
  | _ => False

instance : (z : Zone) → Decidable z.Confined
  | .standard _ | .folding _ _ => .isTrue trivial
  | .universal | .fixed _ | .named _ _ => .isFalse id

variable {z : Zone} {offset m : Int} {i j : Instant} {v w : WallTime} {f : Fault}

theorem Instant.millis_later (i : Instant) (m : Int) : (i.later m).millis = i.millis + m := rfl

/-- A move leads nowhere exactly where it leaves the calendar. -/
theorem WallTime.shift_eq_error {d : Int} :
    w.shift d = .error f ↔ f = .outOfRange ∧ ∀ u : WallTime, u.sinceEpoch ≠ w.sinceEpoch + d := by
  cases hu : w.shift d with
  | error g =>
    obtain rfl := eq_outOfRange_of_shift hu
    constructor
    · intro h
      refine ⟨(Except.error.inj h).symm, ?_⟩
      intro u hsum
      rw [shift_eq_ok_iff_sinceEpoch.2 hsum] at hu
      cases hu
    · intro h
      rw [h.1]
  | ok u =>
    constructor
    · intro h
      cases h
    · intro h
      exact absurd (shift_eq_ok_iff_sinceEpoch.1 hu) (h.2 u)

/-- Between two times of the calendar every point is one. -/
theorem WallTime.exists_between {n : Int} (hlo : v.sinceEpoch ≤ n) (hhi : n ≤ w.sinceEpoch) :
    ∃ u : WallTime, u.sinceEpoch = n := by
  have hcal := w.inCalendar
  simp only [sinceEpoch] at hlo hhi
  refine ⟨⟨(n + epochMicros).toNat, by omega⟩, ?_⟩
  simp only [sinceEpoch]
  omega

namespace Zone.Steady

/-! ### What an instant reads -/

theorem wholeMillis (hz : z.Steady offset) : z.WholeMillis :=
  Instant.wholeMillis_of_constant hz.constant hz.millis

/-- An instant reads the time that is ahead of it by the offset, if its universal time lies in the
calendar. -/
theorem wallClock_iff (hz : z.Steady offset) :
    i.wallClock z = .ok w ↔ w.sinceEpoch = i.millis * 1000 + offset ∧
      ∃ u : WallTime, u.sinceEpoch = i.millis * 1000 := by
  rw [Instant.wallClock_iff_shows]
  constructor
  · intro h
    obtain ⟨u, hu, hshown⟩ := h
    rw [Zone.Shows, Zone.offsetAt_of_constant hz.constant, hu] at hshown
    exact ⟨hshown, u, hu⟩
  · intro h
    obtain ⟨hread, u, hu⟩ := h
    exact ⟨u, hu, by rw [Zone.Shows, Zone.offsetAt_of_constant hz.constant, hu, hread]⟩

theorem point_of_wallClock (hz : z.Steady offset) (h : i.wallClock z = .ok w) :
    i.millis * 1000 = w.sinceEpoch - offset := by
  have hread := (hz.wallClock_iff.1 h).1
  omega

theorem micros_mod (hz : z.Steady offset) (h : i.wallClock z = .ok w) : w.micros % 1000 = 0 :=
  Instant.wallClock_mod hz.wholeMillis h

/-! ### What a time is understood as -/

theorem point_of_ofWall (hz : z.Steady offset) (hw : w.micros % 1000 = 0)
    (h : Instant.ofWall w z = .ok i) : i.millis * 1000 = w.sinceEpoch - offset := by
  obtain ⟨t, ht, h⟩ := bind_eq_ok.1 h
  obtain rfl := Zone.eq_of_localize_constant hz.constant ht
  obtain rfl := Except.ok.inj h
  have hmod := hz.millis
  have hepoch : epochMicros % 1000 = 0 := by decide
  simp only [OffsetTime.instant, OffsetTime.sinceEpoch, WallTime.sinceEpoch]
  omega

/-- The instant that a time is understood as reads no other time. -/
theorem wallClock_of_ofWall (hz : z.Steady offset) (hw : w.micros % 1000 = 0)
    (h : Instant.ofWall w z = .ok i) (hv : i.wallClock z = .ok v) : v = w := by
  have hpoint := hz.point_of_ofWall hw h
  have hread := hz.point_of_wallClock hv
  exact WallTime.eq_of_sinceEpoch_eq (by omega)

/-- A time whose universal time lies in the calendar is understood as an instant that reads it. -/
theorem exists_ofWall (hz : z.Steady offset) (hw : w.micros % 1000 = 0)
    (hu : ∃ u : WallTime, u.sinceEpoch = w.sinceEpoch - offset) :
    ∃ i, Instant.ofWall w z = .ok i ∧ i.wallClock z = .ok w := by
  obtain ⟨u, hu⟩ := hu
  have hback : w.shift (-offset) = .ok u := WallTime.shift_eq_ok_iff_sinceEpoch.2 (by omega)
  have hplaced := Instant.ofWall_of_localize (Zone.localize_of_constant hz.constant hback)
  have hpoint := hz.point_of_ofWall hw hplaced
  exact ⟨_, hplaced, hz.wallClock_iff.2 ⟨by omega, u, by omega⟩⟩

/-- What an instant reads is understood as that instant. -/
theorem ofWall_of_wallClock (hz : z.Steady offset) (h : i.wallClock z = .ok w) :
    Instant.ofWall w z = .ok i := by
  obtain ⟨hread, u, hu⟩ := hz.wallClock_iff.1 h
  obtain ⟨j, hj, hjw⟩ := hz.exists_ofWall (hz.micros_mod h) ⟨u, by omega⟩
  rw [hj, Instant.eq_of_wallClock_constant hz.constant h hjw]

/-- A time is understood as no instant only in a confined zone, and there exactly if its universal
time lies outside the calendar. -/
theorem ofWall_eq_error (hz : z.Steady offset) :
    Instant.ofWall w z = .error f ↔ f = .outOfRange ∧ z.Confined ∧
      ∀ u : WallTime, u.sinceEpoch ≠ w.sinceEpoch - offset := by
  have hc := hz.constant
  have hanchored : (anchored w offset >>= fun t => .ok t.instant) = .error f ↔
      f = .outOfRange ∧ True ∧ ∀ u : WallTime, u.sinceEpoch ≠ w.sinceEpoch - offset := by
    rw [true_and, Int.sub_eq_add_neg, ← WallTime.shift_eq_error, anchored]
    cases w.shift (-offset) with
    | error g =>
      constructor
      · intro h
        exact congrArg Except.error (Except.error.inj h)
      · intro h
        exact congrArg Except.error (Except.error.inj h)
    | ok u =>
      constructor
      · intro h
        cases h
      · intro h
        cases h
  have hplaced : ∀ t : OffsetTime, Except.ok t.instant = .error f ↔
      f = .outOfRange ∧ False ∧ ∀ u : WallTime, u.sinceEpoch ≠ w.sinceEpoch - offset := by
    intro t
    constructor
    · intro h
      cases h
    · intro h
      exact h.2.1.elim
  cases z with
  | standard n =>
    obtain rfl := Option.some.inj hc
    exact hanchored
  | folding name t =>
    obtain ⟨first, changes⟩ := t
    cases changes with
    | nil =>
      obtain rfl := Option.some.inj hc
      rw [← Table.settle_of_constant] at hanchored
      exact hanchored
    | cons c cs => cases hc
  | universal => exact hplaced _
  | fixed n => exact hplaced _
  | named name rules =>
    cases rules with
    | constant n => exact hplaced _
    | table t => cases hc

/-! ### Moves -/

/-- What a time is placed at when it lies some milliseconds after one that an instant reads. -/
theorem point_of_moved (hz : z.Steady offset) (hw : i.wallClock z = .ok w)
    (hv : (v.micros : Int) = w.micros + m * 1000) :
    v.micros % 1000 = 0 ∧ v.sinceEpoch - offset = (i.later m).millis * 1000 := by
  have hmod := hz.micros_mod hw
  have hpoint := hz.point_of_wallClock hw
  have hlater := i.millis_later m
  simp only [WallTime.sinceEpoch] at *
  omega

/-- A move on the wall clock moves the instant as far, if the time is understood at all. -/
theorem eq_later_of_ofWall (hz : z.Steady offset) (hw : i.wallClock z = .ok w)
    (hv : (v.micros : Int) = w.micros + m * 1000) (h : Instant.ofWall v z = .ok j) :
    j = i.later m := by
  obtain ⟨hmod, hmoved⟩ := hz.point_of_moved hw hv
  have hpoint := hz.point_of_ofWall hmod h
  exact Instant.eq_of_millis (by omega)

/-- It is understood if the universal time lies in the calendar, and then it is read again. -/
theorem ofWall_later (hz : z.Steady offset) (hw : i.wallClock z = .ok w)
    (hv : (v.micros : Int) = w.micros + m * 1000)
    (hu : ∃ u : WallTime, u.sinceEpoch = (i.later m).millis * 1000) :
    Instant.ofWall v z = .ok (i.later m) ∧ (i.later m).wallClock z = .ok v := by
  obtain ⟨hmod, hmoved⟩ := hz.point_of_moved hw hv
  rw [← hmoved] at hu
  obtain ⟨j, hj, hread⟩ := hz.exists_ofWall hmod hu
  obtain rfl := hz.eq_later_of_ofWall hw hv hj
  exact ⟨hj, hread⟩

/-- What is read some milliseconds later is as much later on the wall clock. -/
theorem micros_of_later (hz : z.Steady offset) (hw : i.wallClock z = .ok w)
    (hv : (i.later m).wallClock z = .ok v) : (v.micros : Int) = w.micros + m * 1000 := by
  have hpoint := hz.point_of_wallClock hw
  have hpoint' := hz.point_of_wallClock hv
  have hlater := i.millis_later m
  simp only [WallTime.sinceEpoch] at *
  omega

/-- A later time, at least a day before the end of the calendar, has its universal time there. -/
theorem exists_universal (hz : z.Steady offset) (hw : i.wallClock z = .ok w)
    (hle : w.micros ≤ v.micros) (hv : v.micros + dayMicros ≤ Date.span * dayMicros) :
    ∃ u : WallTime, u.sinceEpoch = v.sinceEpoch - offset := by
  obtain ⟨hread, x, hx⟩ := hz.wallClock_iff.1 hw
  have hshort := isOffset_iff.1 (hz.regular.sound.isOffset_of_constant hz.constant)
  simp only [WallTime.sinceEpoch] at hread hx
  refine ⟨⟨(v.micros - offset).toNat, by omega⟩, ?_⟩
  simp only [WallTime.sinceEpoch]
  omega

end Zone.Steady

/-- The end of a period is found on the wall clock and understood in the zone again. -/
theorem Instant.boundary_of_wallClock (hw : i.wallClock z = .ok w) (b : Boundary) :
    i.boundary z b = (b.of w >>= fun v => ofWall v z) :=
  onWall_of_wallClock hw b.of

end CivilTime
