import CivilTime.Proofs.Zone.View

/-!
# The order of the wall clock and of the time line

Unless the clocks are set back, what the wall clock shows later is later on the time line. If they
are, both times are shown on both sides: the earlier one once more before, and the later one once
more after. So a time that was placed on the time line is in order with every other time that is
shown, except where it was placed on one side of such a change and shown on the other as well.

* `Zone.Shows`: what a zone shows at a universal time.
* `Regular.exists_across`: points near a change; if readings are not sought it lies inside the calendar.
* `Shows.exists_earlier`, `Shows.exists_later`: times that are shown in the wrong order.
* `Table.gapLength`, `Zone.gapLength`: by how much the clocks are set forward over a time.
* `Zone.Placed`: where a time can be placed; `placed_of_localize` says that it is, if it has a place,
  and `Regular.exists_localize` that it has.
* `Placed.le_of_shows`, `Placed.ge_of_shows`: the order of a placed time and one that is shown;
  `le_of_localize_of_shows`: no time is placed late if its earlier reading is taken.
-/

namespace CivilTime

namespace Zone

variable {z : Zone} {u v w x y : WallTime} {offset : Int}

/-- Whether a zone shows `w` at the universal time `u`. -/
def Shows (z : Zone) (u w : WallTime) : Prop := w.sinceEpoch = u.sinceEpoch + z.offsetAt u

/-! ### Offsets of a regular zone -/

/-- Of two universal times at most two days apart one has the offset of a time between them. -/
theorem Regular.offsetAt_between (hz : z.Regular) (hxu : x.sinceEpoch ≤ u.sinceEpoch)
    (huy : u.sinceEpoch ≤ y.sinceEpoch) (hxy : y.sinceEpoch ≤ x.sinceEpoch + calmMicros) :
    z.offsetAt u = z.offsetAt x ∨ z.offsetAt u = z.offsetAt y := by
  cases hc : z.constantOffset? with
  | some offset =>
    left
    rw [offsetAt_of_constant hc, offsetAt_of_constant hc]
  | none =>
    obtain ⟨t, ht⟩ := exists_table hc
    rw [offsetAt_of_table ht, offsetAt_of_table ht, offsetAt_of_table ht]
    rcases (hz.regular_table ht).regimeAt_between hxu huy hxy with h | h
    · exact .inl (congrArg Regime.micros h)
    · exact .inr (congrArg Regime.micros h)

/-- Two offsets of a zone are at most 32 hours apart. -/
theorem Regular.offsetAt_le (hz : z.Regular) (u v : WallTime) :
    z.offsetAt u ≤ z.offsetAt v + 32 * hourMicros := by
  have hhour : (hourMicros : Int) = 3_600_000_000 := rfl
  cases hc : z.constantOffset? with
  | some offset =>
    rw [offsetAt_of_constant hc, offsetAt_of_constant hc]
    omega
  | none =>
    obtain ⟨t, ht⟩ := exists_table hc
    have hu := ((hz.regular_table ht).regimeAt_moderate u).micros_bounds
    have hv := ((hz.regular_table ht).regimeAt_moderate v).micros_bounds
    rw [offsetAt_of_table ht, offsetAt_of_table ht]
    omega

/-- A day away from the ends of the calendar, a time has a universal time under every offset of a
zone. -/
theorem Regular.exists_universal (hz : z.Regular) (hw : w.Clear dayMicros) (x : WallTime) :
    ∃ u : WallTime, u.sinceEpoch = w.sinceEpoch - z.offsetAt x := by
  have hx := isOffset_iff.1 (hz.sound.isOffset_offsetAt x)
  obtain ⟨u, -, hu⟩ := hw.exists_shift (n := -z.offsetAt x) (by omega) (by omega)
  exact ⟨u, by omega⟩

/-- Between two offsets of a zone in which readings are not sought there is a change, which lies inside
the calendar with the hours around it. -/
theorem Regular.exists_across {n : Int} (hz : z.Regular) (hs : ¬ z.Searched)
    (hxy : x.sinceEpoch ≤ y.sinceEpoch) (hne : z.offsetAt x ≠ z.offsetAt y)
    (hlo : y.sinceEpoch - 32 * hourMicros ≤ n) (hhi : n ≤ x.sinceEpoch + 32 * hourMicros) :
    ∃ u : WallTime, u.sinceEpoch = n := by
  have hhour : (hourMicros : Int) = 3_600_000_000 := rfl
  have hday : (dayMicros : Int) = 24 * 3_600_000_000 := rfl
  cases hc : z.constantOffset? with
  | some offset =>
    rw [offsetAt_of_constant hc, offsetAt_of_constant hc] at hne
    exact absurd rfl hne
  | none =>
    obtain ⟨t, ht⟩ := exists_table hc
    rw [offsetAt_of_table ht, offsetAt_of_table ht] at hne
    have hregime : t.regimeAt x ≠ t.regimeAt y := fun h => hne (congrArg Regime.micros h)
    obtain ⟨c, hmem, hxc, hcy⟩ := exists_change_between hxy hregime
    obtain ⟨hstart, hend⟩ := (hz.gentle hs ht).1.inside c hmem
    exact WallTime.exists_sinceEpoch (by omega) (by omega)

/-! ### Clocks that are set back -/

/-- If a time is shown although a later one was shown before, it was shown before that as well. -/
theorem Shows.exists_earlier (hz : z.Regular) (hw : z.Searched → w.Clear dayMicros)
    (hx : z.Shows x v) (hy : z.Shows y w) (hwv : w.sinceEpoch ≤ v.sinceEpoch)
    (hxy : x.sinceEpoch < y.sinceEpoch) : ∃ u, u.sinceEpoch ≤ x.sinceEpoch ∧ z.Shows u w := by
  have hcalm : calmMicros = 48 * 3_600_000_000 := rfl
  have hhour : (hourMicros : Int) = 3_600_000_000 := rfl
  have hle := hz.offsetAt_le x y
  rw [Shows] at hx hy
  have hback : ∃ u : WallTime, u.sinceEpoch = w.sinceEpoch - z.offsetAt x := by
    by_cases hs : z.Searched
    · exact hz.exists_universal (hw hs) x
    · exact hz.exists_across hs (Int.le_of_lt hxy) (by omega) (by omega) (by omega)
  obtain ⟨u, hu⟩ := hback
  have hux : u.sinceEpoch ≤ x.sinceEpoch := by omega
  refine ⟨u, hux, ?_⟩
  -- the offset changes between `x` and `y`, so it does not between `u` and `x`
  rcases hz.offsetAt_between hux (Int.le_of_lt hxy) (by omega) with h | h
  · rw [Shows, ← h]
    omega
  · omega

/-- If a time is shown and an earlier one after it, the later one is shown again after that. -/
theorem Shows.exists_later (hz : z.Regular) (hv : z.Searched → v.Clear dayMicros)
    (hx : z.Shows x v) (hy : z.Shows y w) (hwv : w.sinceEpoch ≤ v.sinceEpoch)
    (hxy : x.sinceEpoch < y.sinceEpoch) : ∃ u, y.sinceEpoch ≤ u.sinceEpoch ∧ z.Shows u v := by
  have hcalm : calmMicros = 48 * 3_600_000_000 := rfl
  have hhour : (hourMicros : Int) = 3_600_000_000 := rfl
  have hle := hz.offsetAt_le x y
  rw [Shows] at hx hy
  have hagain : ∃ u : WallTime, u.sinceEpoch = v.sinceEpoch - z.offsetAt y := by
    by_cases hs : z.Searched
    · exact hz.exists_universal (hv hs) y
    · exact hz.exists_across hs (Int.le_of_lt hxy) (by omega) (by omega) (by omega)
  obtain ⟨u, hu⟩ := hagain
  have hyu : y.sinceEpoch ≤ u.sinceEpoch := by omega
  refine ⟨u, hyu, ?_⟩
  rcases hz.offsetAt_between (Int.le_of_lt hxy) hyu (by omega) with h | h
  · omega
  · rw [Shows, ← h]
    omega

end Zone

/-! ### Clocks that are set forward -/

namespace Table

variable {t : Table} {w x : WallTime} {r : Regime} {c : Change}

/-- Where the clocks show no less than where a time in a gap is placed, they are not before it: just
before the gap they have not come to the time yet. -/
theorem InGap.le_of_shows {s : WallTime} (ht : t.Regular) (h : t.InGap s r c)
    (hx : w.sinceEpoch = x.sinceEpoch + (t.regimeAt x).micros)
    (hle : s.sinceEpoch + (c.regime.micros - r.micros) ≤ w.sinceEpoch) :
    s.sinceEpoch - r.micros ≤ x.sinceEpoch := by
  have hrb := (ht.moderate_of_turn h.turn).1.micros_bounds
  have hcb := (ht.moderate_of_turn h.turn).2.micros_bounds
  have hxb := (ht.regimeAt_moderate x).micros_bounds
  have hpast := h.past
  have hearly := h.early
  have hcalm : calmMicros = 48 * hourMicros := rfl
  have hhour : (hourMicros : Int) = 3_600_000_000 := rfl
  by_contra hlt
  by_cases hside : x.sinceEpoch < c.point
  · rw [ht.regimeAt_before_turn h.turn (by omega) hside] at hx
    omega
  · rw [ht.regimeAt_after_turn h.turn (Int.not_lt.1 hside) (by omega)] at hx
    omega

/-- Where the clocks show no more than a time in a gap, they are not past the place of the time: just
after the gap they show more. -/
theorem InGap.ge_of_shows {e : WallTime} (ht : t.Regular) (h : t.InGap e r c)
    (hx : w.sinceEpoch = x.sinceEpoch + (t.regimeAt x).micros)
    (hle : w.sinceEpoch ≤ e.sinceEpoch) : x.sinceEpoch ≤ e.sinceEpoch - r.micros := by
  have hcb := (ht.moderate_of_turn h.turn).2.micros_bounds
  have hxb := (ht.regimeAt_moderate x).micros_bounds
  have hpast := h.past
  have hearly := h.early
  have hcalm : calmMicros = 48 * hourMicros := rfl
  have hhour : (hourMicros : Int) = 3_600_000_000 := rfl
  by_contra hlt
  rw [ht.regimeAt_after_turn h.turn (by omega) (by omega)] at hx
  omega

instance (t : Table) (w : WallTime) (r : Regime) (c : Change) : Decidable (t.InGap w r c) :=
  decidable_of_iff ((r, c) ∈ t.turns ∧ c.point + r.micros ≤ w.sinceEpoch ∧
    w.sinceEpoch < c.point + c.regime.micros)
    ⟨fun h => ⟨h.1, h.2.1, h.2.2⟩, fun h => ⟨h.turn, h.past, h.early⟩⟩

/-- The length of the gap that a wall-clock time lies in, or zero if it lies in none. -/
def gapLength (t : Table) (w : WallTime) : Int :=
  match t.turns.find? fun turn => t.InGap w turn.1 turn.2 with
  | some (r, c) => c.regime.micros - r.micros
  | none => 0

theorem gapLength_of_not_inGap (h : ∀ r c, ¬ t.InGap w r c) : t.gapLength w = 0 := by
  have hnone : (t.turns.find? fun turn => t.InGap w turn.1 turn.2) = none := by
    rw [List.find?_eq_none]
    intro turn _ hturn
    exact h turn.1 turn.2 (of_decide_eq_true hturn)
  rw [gapLength, hnone]

theorem exists_gapLength_eq (h : t.InGap w r c) :
    ∃ s d, t.InGap w s d ∧ t.gapLength w = d.regime.micros - s.micros := by
  rw [gapLength]
  split
  · next s d hfind =>
    have hfound := List.find?_some hfind
    exact ⟨s, d, of_decide_eq_true hfound, rfl⟩
  · next hnone =>
    rw [List.find?_eq_none] at hnone
    exact absurd (decide_eq_true h) (hnone (r, c) h.turn)

end Table

namespace Zone

variable {z : Zone} {t : Table} {u w x : WallTime} {offset : Int}

/-- The length of the gap that a wall-clock time lies in, or zero if it lies in none. -/
def gapLength (z : Zone) (w : WallTime) : Int :=
  match z.table? with
  | some t => t.gapLength w
  | none => 0

theorem gapLength_of_table (h : z.table? = some t) (w : WallTime) :
    z.gapLength w = t.gapLength w := by
  rw [gapLength, h]

theorem gapLength_of_constant (h : z.constantOffset? = some offset) (w : WallTime) :
    z.gapLength w = 0 := by
  cases z with
  | folding name t =>
    obtain ⟨first, changes⟩ := t
    cases changes with
    | nil => rfl
    | cons c cs => cases h
  | named name rules =>
    cases rules with
    | constant n => rfl
    | table t => cases h
  | _ => rfl

/-- A time that is shown lies in no gap. -/
theorem Shows.gapLength_eq (hz : z.Regular) (h : z.Shows u w) : z.gapLength w = 0 := by
  cases hc : z.constantOffset? with
  | some offset => exact gapLength_of_constant hc w
  | none =>
    obtain ⟨t, ht⟩ := exists_table hc
    rw [Shows, offsetAt_of_table ht] at h
    have hread : t.ReadBy w (t.regimeAt u) := ⟨u, by omega, rfl⟩
    rw [gapLength_of_table ht]
    exact Table.gapLength_of_not_inGap fun r c hgap =>
      hgap.not_readBy (hz.regular_table ht) _ hread

/-! ### Placed times -/

/-- Where a wall-clock time can be placed on the time line: under the one offset of a zone without
changes, where it is shown, or past the gap that it lies in. If its readings were sought, that was a day
away from the ends of the calendar. -/
inductive Placed : Zone → WallTime → Int → Prop
  | constant {z : Zone} {w : WallTime} {offset : Int} (h : z.constantOffset? = some offset) :
    Placed z w offset
  | shown {z : Zone} {u w : WallTime} (clear : z.Searched → w.Clear dayMicros) (h : z.Shows u w) :
    Placed z w (z.offsetAt u)
  | leapt {z : Zone} {t : Table} {w : WallTime} {r : Regime} {c : Change}
    (table : z.table? = some t) (clear : z.Searched → w.Clear dayMicros) (h : t.InGap w r c)
    (length : t.gapLength w = c.regime.micros - r.micros) : Placed z w r.micros

theorem eq_of_localize_constant {t : OffsetTime} (hc : z.constantOffset? = some offset)
    (h : z.localize w = .ok t) : t = ⟨w, offset⟩ := by
  have hanchored : ∀ n, anchored w n = .ok t → t = ⟨w, n⟩ := by
    intro n hn
    obtain ⟨-, -, hn⟩ := bind_eq_ok.1 hn
    exact (Except.ok.inj hn).symm
  cases z with
  | standard n => rw [← Option.some.inj hc]; exact hanchored n h
  | folding name t =>
    obtain ⟨first, changes⟩ := t
    cases changes with
    | nil =>
      rw [← Option.some.inj hc]
      exact hanchored _ ((Table.settle_of_constant first w).symm.trans h)
    | cons c cs => cases hc
  | universal => rw [← Option.some.inj hc]; exact (Except.ok.inj h).symm
  | fixed n => rw [← Option.some.inj hc]; exact (Except.ok.inj h).symm
  | named name rules =>
    cases rules with
    | constant n => rw [← Option.some.inj hc]; exact (Except.ok.inj h).symm
    | table t => cases hc

/-- A regime that reads a time places it where it is shown. -/
theorem placed_of_readBy {r : Regime} (ht : z.table? = some t)
    (clear : z.Searched → w.Clear dayMicros) (h : t.ReadBy w r) : z.Placed w r.micros := by
  obtain ⟨u, hu, rfl⟩ := h
  rw [← offsetAt_of_table ht]
  refine .shown clear ?_
  rw [Shows, offsetAt_of_table ht]
  omega

/-- Every time that has a place is placed in one of these ways. If it lies in a gap and its earlier
reading is asked for, the place may be that of the time past the gap. -/
theorem placed_of_localize {o : OffsetTime} (hz : z.Regular) (h : z.localize w = .ok o) :
    ∃ offset, z.Placed w offset ∧ o.sinceEpoch = w.sinceEpoch - offset := by
  cases hc : z.constantOffset? with
  | some offset =>
    obtain rfl := eq_of_localize_constant hc h
    exact ⟨offset, .constant hc, rfl⟩
  | none =>
    by_cases hs : z.Searched
    · obtain ⟨name, table, rfl⟩ := hs.exists_table
      obtain ⟨r, hr, h⟩ := bind_eq_ok.1 h
      obtain rfl := Except.ok.inj h
      refine ⟨r.micros, ?_, rfl⟩
      have hclear := Table.clear_of_localize hr
      have hnear : w.Clear (16 * hourMicros) :=
        hclear.mono (by simp only [dayMicros, hourMicros]; omega)
      rcases Table.readBy_or_inGap hz hnear with ⟨s, hs⟩ | ⟨s, c, hgap⟩
      · exact placed_of_readBy rfl (fun _ => hclear) (Table.readBy_of_localize hz hr hs)
      · obtain ⟨q, d, hgap, hlength⟩ := Table.exists_gapLength_eq hgap
        obtain rfl := Table.eq_of_localize_inGap hz hr hgap
        exact .leapt rfl (fun _ => hclear) hgap hlength
    · obtain ⟨table, htable⟩ := exists_table hc
      obtain ⟨hgentle, hlocalize⟩ := hz.gentle hs htable
      rw [hlocalize] at h
      obtain ⟨hpoint, hread | ⟨c, hgap⟩⟩ := Table.sinceEpoch_of_settle hgentle h
      · exact ⟨_, placed_of_readBy htable (fun hs' => absurd hs' hs) hread, hpoint⟩
      · obtain ⟨q, d, hgap, hlength⟩ := Table.exists_gapLength_eq hgap
        rw [hgap.passedAt_eq hgentle] at hpoint
        exact ⟨_, .leapt htable (fun hs' => absurd hs' hs) hgap hlength, hpoint⟩

/-- Away from the ends of the calendar every time has a place. -/
theorem Regular.exists_localize (hz : z.Regular) (hw : w.Clear (3 * dayMicros)) :
    ∃ t, z.localize w = .ok t := by
  cases hc : z.constantOffset? with
  | some offset =>
    have hshort := isOffset_iff.1 (hz.sound.isOffset_of_constant hc)
    obtain ⟨u, hu, -⟩ := hw.exists_shift (n := -offset) (by omega) (by omega)
    exact ⟨_, localize_of_constant hc hu⟩
  | none =>
    obtain ⟨t, ht⟩ := exists_table hc
    by_cases hs : z.Searched
    · obtain ⟨name, t, rfl⟩ := hs.exists_table
      have hclear : w.Clear (16 * hourMicros) :=
        hw.mono (by simp only [dayMicros, hourMicros]; omega)
      rcases Table.readBy_or_inGap hz hclear with ⟨r, hr⟩ | ⟨r, c, hgap⟩
      · obtain ⟨s, hs, -⟩ := localize_of_readBy hz rfl hw hr
        exact ⟨_, hs⟩
      · exact ⟨_, localize_table (Table.localize_of_inGap hz hw hgap)⟩
    · obtain ⟨hgentle, hlocalize⟩ := hz.gentle hs ht
      rw [hlocalize]
      exact Table.exists_settle hgentle.regular hw

/-- If readings are sought, only a time a day away from the ends of the calendar has a place. -/
theorem Placed.clear (h : z.Placed w offset) (hs : z.Searched) : w.Clear dayMicros := by
  cases h with
  | constant h =>
    rw [hs.constantOffset?] at h
    cases h
  | shown clear h => exact clear hs
  | leapt table clear h length => exact clear hs

theorem Placed.isOffset (hz : z.Regular) (h : z.Placed w offset) : isOffset offset = true := by
  cases h with
  | constant h => exact hz.sound.isOffset_of_constant h
  | @shown u _ clear h => exact hz.sound.isOffset_offsetAt u
  | leapt table clear h length =>
    exact ((hz.regular_table table).moderate_of_turn h.turn).1.short.isOffset_micros

/-- The offset of a placed time is of whole milliseconds if all offsets are. -/
theorem Placed.offset_mod (hz : z.WholeMillis) (h : z.Placed w offset) : offset % 1000 = 0 := by
  cases h with
  | constant h =>
    rw [← offsetAt_of_constant h w]
    exact hz.offsetAt_mod w
  | @shown u _ clear h => exact hz.offsetAt_mod u
  | @leapt t _ r c table clear h length =>
    simp only [Regime.micros, secondMicros]
    omega

/-- Where a time is placed, the offset in force is the one under which it was placed, increased by
the length of the gap that it lies in. -/
theorem Placed.offsetAt_eq (hz : z.Regular) (h : z.Placed w offset)
    (hu : u.sinceEpoch = w.sinceEpoch - offset) : z.offsetAt u = offset + z.gapLength w := by
  cases h with
  | constant h => rw [offsetAt_of_constant h, gapLength_of_constant h, Int.add_zero]
  | @shown v _ clear h =>
    have huv : u = v := WallTime.eq_of_sinceEpoch_eq (by rw [Shows] at h; omega)
    rw [huv, h.gapLength_eq hz, Int.add_zero]
  | @leapt t _ r c table clear h hlength =>
    rw [offsetAt_of_table table, gapLength_of_table table,
      h.regimeAt_eq (hz.regular_table table) hu, hlength]
    omega

/-- Away from the ends of the calendar the zone shows some time where a time is placed. -/
theorem Placed.exists_shows (hz : z.Regular) (h : z.Placed w offset)
    (hw : w.Clear (2 * dayMicros)) :
    ∃ u v : WallTime, u.sinceEpoch = w.sinceEpoch - offset ∧ z.Shows u v := by
  have hshort := isOffset_iff.1 (h.isOffset hz)
  obtain ⟨u, -, hu⟩ := hw.exists_shift (n := -offset) (by omega) (by omega)
  have hshort' := isOffset_iff.1 (hz.sound.isOffset_offsetAt u)
  obtain ⟨v, -, hv⟩ := hw.exists_shift (n := z.offsetAt u - offset) (by omega) (by omega)
  exact ⟨u, v, by omega, by rw [Shows]; omega⟩

/-- A time is placed no later than a universal time at which the clock shows what it shows there or
more, or it was shown at that universal time or before. -/
theorem Placed.le_of_shows {s : WallTime} (hz : z.Regular) (h : z.Placed s offset)
    (hx : z.Shows x w) (hle : s.sinceEpoch + z.gapLength s ≤ w.sinceEpoch) :
    s.sinceEpoch - offset ≤ x.sinceEpoch ∨
      ∃ u : WallTime, u.sinceEpoch ≤ x.sinceEpoch ∧ u.sinceEpoch < s.sinceEpoch - offset ∧
        z.Shows u s := by
  cases h with
  | constant h =>
    left
    rw [gapLength_of_constant h] at hle
    rw [Shows, offsetAt_of_constant h] at hx
    omega
  | @shown y _ clear h =>
    have hplace : s.sinceEpoch - z.offsetAt y = y.sinceEpoch := by rw [Shows] at h; omega
    rw [h.gapLength_eq hz, Int.add_zero] at hle
    rw [hplace]
    by_cases hxy : x.sinceEpoch < y.sinceEpoch
    · obtain ⟨u, hu, hshown⟩ := Shows.exists_earlier hz clear hx h hle hxy
      exact .inr ⟨u, hu, by omega, hshown⟩
    · exact .inl (Int.not_lt.1 hxy)
  | @leapt t _ r c table clear h hlength =>
    rw [gapLength_of_table table, hlength] at hle
    rw [Shows, offsetAt_of_table table] at hx
    exact .inl (h.le_of_shows (hz.regular_table table) hx hle)

/-- A time is placed no earlier than a universal time at which the clock shows it or less, or the
clocks have been set back over both of them, and each is shown on the other side as well. -/
theorem Placed.ge_of_shows {e : WallTime} (hz : z.Regular) (h : z.Placed e offset)
    (hw : z.Searched → w.Clear dayMicros) (hx : z.Shows x w)
    (hle : w.sinceEpoch ≤ e.sinceEpoch) :
    x.sinceEpoch ≤ e.sinceEpoch - offset ∨
      (∃ u : WallTime, u.sinceEpoch < x.sinceEpoch ∧ z.Shows u w) ∧
        ∃ u : WallTime, x.sinceEpoch ≤ u.sinceEpoch ∧ z.Shows u e := by
  cases h with
  | constant h =>
    left
    rw [Shows, offsetAt_of_constant h] at hx
    omega
  | @shown y _ clear h =>
    have hplace : e.sinceEpoch - z.offsetAt y = y.sinceEpoch := by rw [Shows] at h; omega
    rw [hplace]
    by_cases hyx : y.sinceEpoch < x.sinceEpoch
    · obtain ⟨u, hu, hushown⟩ := Shows.exists_earlier hz hw h hx hle hyx
      obtain ⟨v, hv, hvshown⟩ := Shows.exists_later hz clear h hx hle hyx
      exact .inr ⟨⟨u, by omega, hushown⟩, v, hv, hvshown⟩
    · exact .inl (Int.not_lt.1 hyx)
  | leapt table clear h length =>
    rw [Shows, offsetAt_of_table table] at hx
    exact .inl (h.ge_of_shows (hz.regular_table table) hx hle)

/-- Where readings are not sought, no time is placed after one of its readings. -/
theorem le_of_localize_of_shows {o : OffsetTime} (hz : z.Regular) (hs : ¬ z.Searched)
    (h : z.localize w = .ok o) (hu : z.Shows u w) : o.sinceEpoch ≤ u.sinceEpoch := by
  rw [Shows] at hu
  cases hc : z.constantOffset? with
  | some offset =>
    obtain rfl := eq_of_localize_constant hc h
    rw [offsetAt_of_constant hc] at hu
    show w.sinceEpoch - offset ≤ u.sinceEpoch
    omega
  | none =>
    obtain ⟨t, ht⟩ := exists_table hc
    obtain ⟨hgentle, hlocalize⟩ := hz.gentle hs ht
    rw [offsetAt_of_table ht] at hu
    rw [hlocalize] at h
    have hread : t.ReadBy w (t.regimeAt u) := ⟨u, by omega, rfl⟩
    have hmost := hread.micros_le_passedAt hgentle.regular
    have hpoint := (Table.sinceEpoch_of_settle hgentle h).1
    omega

end Zone

end CivilTime
