import CivilTime.Proofs.Zone.Order

/-!
# How far from itself a time is placed

The probes and the walk backwards from a gap can miss a reading, or end far from it, if the changes
of a table come close together. But whatever they find is a regime that was in force at some time,
and a time is placed under its offset. Where the earlier reading is taken a time may be moved as well,
by what two offsets differ. So in every sound zone a time is placed less than three days away from
itself as universal time.

* `Table.exists_readBy_of_localize`: what is found was in force, in any table.
* `Zone.Sound.near_of_localize`: the distance of a placed time.
-/

namespace CivilTime

namespace Table

variable {t : Table} {w : WallTime} {r : Regime}

/-- The walk backwards ends at a time that is read. The induction follows the walk. -/
theorem exists_readBy_of_winterRegime (h : t.winterRegime w = .ok r) : ∃ v, t.ReadBy v r := by
  fun_induction winterRegime t w with
  | case1 w e hR => cases h
  | case2 w q hR =>
    obtain rfl := Except.ok.inj h
    exact ⟨w, readBy_of_mem_regimes hR List.mem_cons_self⟩
  | case3 w q p hR =>
    obtain rfl := Except.ok.inj h
    exact ⟨w, readBy_of_preferred false hR⟩
  | case4 w hR hin ih => exact ih h
  | case5 w hR hout => cases h

/-- A time is placed under a regime that reads some time. -/
theorem exists_readBy_of_localize (h : t.localize w = .ok r) : ∃ v, t.ReadBy v r := by
  rw [localize] at h
  split at h
  · cases h
  · next hR =>
    obtain rfl := Except.ok.inj h
    exact ⟨w, readBy_of_mem_regimes hR List.mem_cons_self⟩
  · next hR =>
    obtain rfl := Except.ok.inj h
    exact ⟨w, readBy_of_preferred true hR⟩
  · exact exists_readBy_of_winterRegime h

theorem Short.passedAt_short (h : t.Short) (w : WallTime) : (t.passedAt w).Short := by
  rcases passedRegime_eq_or_passed t.first t.changes w with heq | ⟨c, hc, -, heq⟩
  · rw [passedAt, heq]
    exact h.1
  · rw [passedAt, heq]
    exact h.2 c hc

end Table

namespace Zone

variable {z : Zone} {w : WallTime} {t : OffsetTime}

/-- In a sound zone a time is placed less than three days away from itself. -/
theorem Sound.near_of_localize (hz : z.Sound) (h : z.localize w = .ok t) :
    w.sinceEpoch - 3 * dayMicros < t.sinceEpoch ∧ t.sinceEpoch < w.sinceEpoch + 3 * dayMicros := by
  have hstays : t.wall = w → isOffset t.offset = true →
      w.sinceEpoch - 3 * dayMicros < t.sinceEpoch ∧
        t.sinceEpoch < w.sinceEpoch + 3 * dayMicros := by
    rintro rfl hoffset
    rw [isOffset_iff] at hoffset
    rw [OffsetTime.sinceEpoch]
    omega
  cases z with
  | universal =>
    obtain rfl := Except.ok.inj h
    exact hstays rfl rfl
  | fixed n =>
    obtain rfl := Except.ok.inj h
    exact hstays rfl (ShortMinutes.isOffset_micros hz)
  | standard n =>
    obtain rfl := eq_of_localize_constant rfl h
    exact hstays rfl hz
  | folding name table =>
    have hshort : ∀ v, ((table.passedAt v).micros.natAbs : Int) < dayMicros := fun v =>
      Int.ofNat_lt.2 (isOffset_iff.1 (Table.Short.passedAt_short hz v).isOffset_micros)
    obtain ⟨u, v, -, -, ⟨-, rfl⟩ | ⟨-, after, before, moved, -, -, hmoved, rfl⟩⟩ :=
      Table.settle_eq_ok.1 h
    · exact hstays rfl (Table.Short.passedAt_short hz w).isOffset_micros
    · have hafter := hshort after
      have hbefore := hshort before
      have hlast := hshort moved
      rw [WallTime.shift_eq_ok_iff_sinceEpoch] at hmoved
      rw [OffsetTime.sinceEpoch]
      dsimp only
      omega
  | named name rules =>
    cases rules with
    | constant n =>
      obtain rfl := Except.ok.inj h
      exact hstays rfl (ShortMinutes.isOffset_micros hz)
    | table table =>
      obtain ⟨r, hr, h⟩ := bind_eq_ok.1 h
      obtain rfl := Except.ok.inj h
      obtain ⟨v, u, -, rfl⟩ := Table.exists_readBy_of_localize hr
      exact hstays rfl (Table.Short.regimeAt_short hz u).isOffset_micros

end Zone

end CivilTime
