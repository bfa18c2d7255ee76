import CivilTime.Proofs.Instant.RoundTrip

/-!
# Times that carry their offset

A wall-clock time with its offset stands for one point of the time line, whatever zone it was seen
in and whatever zone is asked. So an instant that a zone shows comes back from what is shown,
although the wall-clock time alone may be shown twice; and the fields of a time at an offset name
the last millisecond that is not later than their point.

* `Fields.microsAt`: the microseconds since 1970 of fields at an offset.
* `WallTime.microsAt_fields`: a time lies at the point of its fields.
* `Instant.instant_of_toOffsetTime`: what a zone shows of an instant names that instant.
* `Instant.toOffsetTime_of_constant`: what a zone with that offset shows of the instant of a time.
* `Instant.independent_of_zone`: both ways between instants and times with their offset.
-/

namespace CivilTime

/-- The microseconds since 1970 of fields at an offset: whole days, the time of day, and the offset
taken away. -/
def Fields.microsAt (f : Fields) (offset : Int) : Int :=
  ((f.dayNumber : Int) - (Date.mk 1970 1 1).dayNumber) * dayMicros + f.timeMicros - offset

/-- The time that fields name lies at their point of the time line. -/
theorem WallTime.microsAt_fields (w : WallTime) (offset : Int) :
    w.fields.microsAt offset = w.sinceEpoch - offset := by
  have hmicros := w.micros_fields
  have hdays : ((Date.mk 1970 1 1).dayNumber : Int) * dayMicros = epochMicros := by decide
  rw [Fields.micros] at hmicros
  rw [Fields.microsAt, WallTime.sinceEpoch, ← hmicros, Int.sub_mul, hdays]
  push_cast
  omega

namespace Instant

variable {z : Zone} {i : Instant} {t : OffsetTime} {w : WallTime} {offset : Int}

/-- What a zone shows of an instant names that instant. -/
theorem instant_of_toOffsetTime (h : i.toOffsetTime z = .ok t) : t.instant = i := by
  have hpoint : t.sinceEpoch = i.millis * 1000 := Zone.sinceEpoch_of_toOffsetTime h
  rw [OffsetTime.instant_eq_iff, hpoint]
  constructor
  · exact Int.le_refl _
  · omega

/-- A zone that has one offset of whole milliseconds has no others. -/
theorem wholeMillis_of_constant (hz : z.constantOffset? = some offset)
    (hms : offset % 1000 = 0) : z.WholeMillis := by
  cases z with
  | standard n =>
    obtain rfl := Option.some.inj hz
    exact hms
  | _ => trivial

/-- In a zone that has one offset for ever the instant of a time at that offset is seen as that time
cut to the millisecond, if the universal time lies in the calendar. -/
theorem toOffsetTime_of_constant (hz : z.constantOffset? = some offset) (hms : offset % 1000 = 0)
    (hu : ∃ u : WallTime, u.sinceEpoch = w.sinceEpoch - offset) :
    (OffsetTime.mk w offset).instant.toOffsetTime z = .ok ⟨w.floorMillis, offset⟩ := by
  obtain ⟨u, hu⟩ := hu
  have hshown : z.toOffsetTime (OffsetTime.mk w offset).sinceEpoch = .ok ⟨w, offset⟩ := by
    refine Zone.toOffsetTime_eq_ok.2 ⟨u, hu, (Zone.offsetAt_of_constant hz u).symm, ?_⟩
    show w.sinceEpoch = w.sinceEpoch - offset + offset
    omega
  exact toOffsetTime_instant (wholeMillis_of_constant hz hms) hshown

/-- An instant that a zone shows is the instant of what is shown, in whatever zone that is read; and
what is shown is the stamp that its fields and its offset name. Conversely the stamp of valid fields
at an offset is read in every zone as the one instant that is the last millisecond not later than
its point of the time line. If the offset is of whole milliseconds and the universal time lies in
the calendar, that instant is seen at the offset under the same fields, cut to the millisecond. -/
theorem independent_of_zone :
    (∀ (z z' : Zone) (i : Instant) (t : OffsetTime), i.toOffsetTime z = .ok t →
      ofStamp t.stamp z' = .ok i ∧
        (isOffset t.offset = true →
          Stamp.ofFields t.wall.fields (some t.offset) = .ok t.stamp)) ∧
    ∀ (f : Fields) (offset : Int), f.Valid → isOffset offset = true →
      ∃ s i, Stamp.ofFields f (some offset) = .ok s ∧ (∀ z', ofStamp s z' = .ok i) ∧
        (∀ j : Instant, j = i ↔
          j.millis * 1000 ≤ f.microsAt offset ∧ f.microsAt offset < (j.millis + 1) * 1000) ∧
        (offset % 1000 = 0 → (∃ u : WallTime, u.sinceEpoch = f.microsAt offset) →
          ∀ z : Zone, z.constantOffset? = some offset →
            ∃ v : WallTime, i.toOffsetTime z = .ok ⟨v, offset⟩ ∧
              v.fields = { f with micro := f.micro / 1000 * 1000 }) := by
  constructor
  · intro z z' i t h
    constructor
    · show Except.ok t.instant = .ok i
      rw [instant_of_toOffsetTime h]
    · intro hoffset
      have hsome : ∀ o, some t.offset = some o → isOffset o = true := by
        intro o ho
        rw [← Option.some.inj ho]
        exact hoffset
      obtain ⟨w, hw, hfields⟩ := Stamp.ofFields_eq_ok t.wall.fields_valid hsome
      rw [hw, WallTime.fields_injective hfields]
      rfl
  · intro f offset hf hoffset
    have hsome : ∀ o, some offset = some o → isOffset o = true := by
      intro o ho
      rw [← Option.some.inj ho]
      exact hoffset
    obtain ⟨w, hw, rfl⟩ := Stamp.ofFields_eq_ok hf hsome
    refine ⟨⟨w, some offset⟩, (OffsetTime.mk w offset).instant, hw, fun z' => rfl, ?_, ?_⟩
    · intro j
      rw [eq_comm, OffsetTime.instant_eq_iff, w.microsAt_fields]
      rfl
    · intro hms hu z hz
      rw [w.microsAt_fields] at hu
      exact ⟨w.floorMillis, toOffsetTime_of_constant hz hms hu, w.fields_floorMillis⟩

/-- Half past two for the second time comes back from what is shown, through a zone five hours
behind; and the last microsecond of 1969, half past five ahead of universal time, names the last
millisecond before half past six in the evening. -/
theorem independent_of_zone_lastOf1969 :
    (∃ t, toOffsetTime ⟨1_698_543_000_007⟩ (summer2023.zone "Europe/Berlin") = .ok t ∧
      ofStamp t.stamp (.fixed (-300)) = .ok ⟨1_698_543_000_007⟩) ∧
    ∃ s v, Stamp.ofFields ⟨⟨1969, 12, 31⟩, 23, 59, 59, 999_999⟩ (some 19_800_000_000) = .ok s ∧
      ofStamp s (.hostLocal .universal) = .ok ⟨-19_800_001⟩ ∧
      toOffsetTime ⟨-19_800_001⟩ (.standard 19_800_000_000) = .ok ⟨v, 19_800_000_000⟩ ∧
      v.fields = ⟨⟨1969, 12, 31⟩, 23, 59, 59, 999_000⟩ := by
  obtain ⟨hshown, hnamed⟩ := independent_of_zone
  constructor
  · have ht : toOffsetTime ⟨1_698_543_000_007⟩ (summer2023.zone "Europe/Berlin")
        = .ok ⟨⟨63_834_143_400_007_000, by decide⟩, 3_600_000_000⟩ := by rfl
    exact ⟨_, ht, (hshown _ (.fixed (-300)) _ _ ht).1⟩
  · obtain ⟨s, i, hs, hi, honly, hview⟩ :=
      hnamed ⟨⟨1969, 12, 31⟩, 23, 59, 59, 999_999⟩ 19_800_000_000 (by decide) (by decide)
    obtain rfl : ⟨-19_800_001⟩ = i := (honly _).2 (by decide)
    obtain ⟨v, hv, hfields⟩ := hview (by decide)
      ⟨⟨62_135_577_000_000_000 - 1, by decide⟩, by decide⟩ (.standard 19_800_000_000) rfl
    exact ⟨s, v, hs, hi (.hostLocal .universal), hv, hfields⟩

end Instant

end CivilTime
