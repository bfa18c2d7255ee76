import CivilTime.Proofs.Zone.Readings

/-!
# Placing a wall-clock time on the time line

In a regular table a wall-clock time that is read is placed under a regime that reads it. A time in
a gap is placed under the regime that the gap ends: stepping back six hours at a time leaves the gap
within the last six hours of that regime, however long the gap is.

* `winterRegime_of_near_gap`: the walk backwards ends at the regime before the gap.
* `readBy_of_localize`, `eq_of_localize_inGap`: the place of a time that is read, and of one in a gap.
* `localize_of_readBy`, `localize_of_inGap`: away from the ends of the calendar there is one.
-/

namespace CivilTime

namespace Table

variable {t : Table} {w : WallTime} {r s : Regime} {c : Change}

theorem eq_none_of_not_readBy (ht : t.Regular) {R : Readings} (hR : t.readings w = .ok R)
    (h : ∀ s, ¬ t.ReadBy w s) : R = .none := by
  obtain ⟨hmem, -⟩ := readings_spec ht hR
  cases R with
  | none => rfl
  | one q => exact absurd ((hmem q).2 List.mem_cons_self) (h q)
  | two q p => exact absurd ((hmem q).2 List.mem_cons_self) (h q)

theorem eq_one_of_readBy_iff (ht : t.Regular) {R : Readings} (hR : t.readings w = .ok R)
    (h : ∀ s, t.ReadBy w s ↔ s = r) : R = .one r := by
  obtain ⟨hmem, hdistinct⟩ := readings_spec ht hR
  have hiff : ∀ s, s ∈ R.regimes ↔ s = r := fun s => (hmem s).symm.trans (h s)
  cases R with
  | none => exact absurd ((hiff r).2 rfl) List.not_mem_nil
  | one q => rw [(hiff q).1 List.mem_cons_self]
  | two q p =>
    have hq := (hiff q).1 List.mem_cons_self
    have hp := (hiff p).1 (List.mem_cons_of_mem q List.mem_cons_self)
    have hne := List.rel_of_pairwise_cons hdistinct (List.mem_cons_self (a := p))
    rw [hq, hp] at hne
    exact absurd rfl hne

theorem readings_of_not_readBy (ht : t.Regular) (hw : w.Clear (32 * hourMicros))
    (h : ∀ s, ¬ t.ReadBy w s) : t.readings w = .ok .none := by
  obtain ⟨R, hR⟩ := exists_readings ht hw
  rw [hR, eq_none_of_not_readBy ht hR h]

theorem readings_of_readBy_iff (ht : t.Regular) (hw : w.Clear (32 * hourMicros))
    (h : ∀ s, t.ReadBy w s ↔ s = r) : t.readings w = .ok (.one r) := by
  obtain ⟨R, hR⟩ := exists_readings ht hw
  rw [hR, eq_one_of_readBy_iff ht hR h]

theorem preferred_eq (daylight : Bool) (r s : Regime) :
    Regime.preferred daylight r s = r ∨ Regime.preferred daylight r s = s := by
  unfold Regime.preferred
  split_ifs <;> simp

/-- The probes find only regimes that read the time. -/
theorem readBy_of_mem_regimes {R : Readings} (h : t.readings w = .ok R) (hr : r ∈ R.regimes) :
    t.ReadBy w r := by
  obtain ⟨x, y, a, b, -, -, ha, hb, rfl⟩ := readings_eq_ok.1 h
  have hfirst := (candidate_spec ha).1
  have hsecond := (candidate_spec hb).1
  rw [Readings.mem_regimes_ofProbes fun r s har hbs =>
    (hfirst r har).eq_of_offset (hsecond s hbs)] at hr
  rcases hr with hr | hr
  · exact hfirst r hr
  · exact hsecond r hr

/-- Of two regimes that are found either may be preferred. -/
theorem readBy_of_preferred {q p : Regime} (daylight : Bool)
    (h : t.readings w = .ok (.two q p)) : t.ReadBy w (Regime.preferred daylight q p) := by
  apply readBy_of_mem_regimes h
  rcases preferred_eq daylight q p with heq | heq
  · rw [heq]
    exact List.mem_cons_self
  · rw [heq]
    exact List.mem_cons_of_mem q List.mem_cons_self

/-! ### Stepping back from a gap -/

theorem sub_backStep_inCalendar (w : WallTime) : w.micros - backStep < Date.span * dayMicros :=
  Nat.lt_of_le_of_lt (Nat.sub_le _ _) w.inCalendar

/-- The time six hours before. -/
def stepBack (w : WallTime) : WallTime := ⟨w.micros - backStep, sub_backStep_inCalendar w⟩

theorem winterRegime_of_one (h : t.readings w = .ok (.one r)) : t.winterRegime w = .ok r := by
  rw [winterRegime, h]

theorem winterRegime_of_none (h : t.readings w = .ok .none) (hin : backStep ≤ w.micros) :
    t.winterRegime w = t.winterRegime (stepBack w) := by
  rw [winterRegime, h]
  exact dif_pos hin

theorem sinceEpoch_stepBack (hin : backStep ≤ w.micros) :
    (stepBack w).sinceEpoch = w.sinceEpoch - backStep := by
  show ((w.micros - backStep : Nat) : Int) - epochMicros = (w.micros - epochMicros) - backStep
  omega

/-- From a gap, or the six hours before it, the walk backwards ends at the regime before the gap.
The induction is on the time itself; its step is a time in the gap, where nothing is read. -/
theorem winterRegime_of_near_gap (ht : t.Regular) (hturn : (r, c) ∈ t.turns)
    (hforward : r.micros < c.regime.micros)
    (hcal : (32 * hourMicros : Int) ≤ c.point + r.micros - backStep + epochMicros)
    (hw : w.Clear (32 * hourMicros)) (hlo : c.point + r.micros - backStep ≤ w.sinceEpoch)
    (hhi : w.sinceEpoch < c.point + c.regime.micros) : t.winterRegime w = .ok r := by
  have hback : (backStep : Int) = 6 * hourMicros := rfl
  have hhour : (hourMicros : Int) = 3_600_000_000 := rfl
  induction hn : w.micros using Nat.strong_induction_on generalizing w with
  | _ n ih =>
    by_cases hside : w.sinceEpoch < c.point + r.micros
    · apply winterRegime_of_one
      apply readings_of_readBy_iff ht hw
      intro s
      exact readBy_iff_before_gap ht (hw.mono (by omega)) hturn hforward (by omega) hside
    · have hgap : t.InGap w r c := ⟨hturn, Int.not_lt.1 hside, hhi⟩
      have hin : backStep ≤ w.micros := by
        have := hw.1
        omega
      have hstep := sinceEpoch_stepBack hin
      have hmicros : (stepBack w).micros = w.micros - backStep := rfl
      rw [winterRegime_of_none (readings_of_not_readBy ht hw (hgap.not_readBy ht)) hin]
      apply ih (stepBack w).micros (by omega) _ _ _ rfl
      · constructor
        · have : ((stepBack w).micros : Int) = (stepBack w).sinceEpoch + epochMicros := by
            rw [WallTime.sinceEpoch]
            omega
          omega
        · have := hw.2
          omega
      · omega
      · omega

/-- Where the walk backwards from near a gap ends, it ends at the regime before the gap. -/
theorem eq_of_winterRegime_near_gap (ht : t.Regular) (hturn : (r, c) ∈ t.turns)
    (hforward : r.micros < c.regime.micros) (h : t.winterRegime w = .ok s)
    (hlo : c.point + r.micros - backStep ≤ w.sinceEpoch)
    (hhi : w.sinceEpoch < c.point + c.regime.micros) : s = r := by
  have hback : (backStep : Int) = 6 * hourMicros := rfl
  have hhour : (hourMicros : Int) = 3_600_000_000 := rfl
  induction hn : w.micros using Nat.strong_induction_on generalizing w with
  | _ n ih =>
    cases hR : t.readings w with
    | error e =>
      rw [winterRegime, hR] at h
      cases h
    | ok R =>
      by_cases hside : w.sinceEpoch < c.point + r.micros
      · have hclear : w.Clear (16 * hourMicros) :=
          (clear_of_readings hR).mono (by simp only [dayMicros, hourMicros]; omega)
        have hiff : ∀ q, t.ReadBy w q ↔ q = r := fun q =>
          readBy_iff_before_gap ht hclear hturn hforward (by omega) hside
        rw [eq_one_of_readBy_iff ht hR hiff] at hR
        rw [winterRegime_of_one hR] at h
        exact (Except.ok.inj h).symm
      · have hgap : t.InGap w r c := ⟨hturn, Int.not_lt.1 hside, hhi⟩
        rw [eq_none_of_not_readBy ht hR (hgap.not_readBy ht)] at hR
        by_cases hin : backStep ≤ w.micros
        · have hstep := sinceEpoch_stepBack hin
          have hmicros : (stepBack w).micros = w.micros - backStep := rfl
          rw [winterRegime_of_none hR hin] at h
          exact ih (stepBack w).micros (by omega) h (by omega) (by omega) rfl
        · rw [winterRegime, hR] at h
          simp only [dif_neg hin] at h
          cases h

/-! ### The regime of a time -/

/-- If a time that is read has a place, that is under a regime that reads it. -/
theorem readBy_of_localize (ht : t.Regular) (h : t.localize w = .ok s) (hr : t.ReadBy w r) :
    t.ReadBy w s := by
  rw [localize] at h
  split at h
  · cases h
  · next q hR =>
    obtain rfl := Except.ok.inj h
    exact readBy_of_mem_regimes hR List.mem_cons_self
  · next q p hR =>
    obtain rfl := Except.ok.inj h
    exact readBy_of_preferred true hR
  · next hR => exact absurd (((readings_spec ht hR).1 r).1 hr) List.not_mem_nil

/-- If a time in a gap has a place, that is under the regime that the gap ends. -/
theorem eq_of_localize_inGap (ht : t.Regular) (h : t.localize w = .ok s) (hgap : t.InGap w r c) :
    s = r := by
  have hback : (backStep : Int) = 6 * hourMicros := rfl
  have hhour : (hourMicros : Int) = 3_600_000_000 := rfl
  have hpast := hgap.past
  have hearly := hgap.early
  rw [localize] at h
  split at h
  · cases h
  · next q hR =>
    exact absurd (((readings_spec ht hR).1 q).2 List.mem_cons_self) (hgap.not_readBy ht q)
  · next q p hR =>
    exact absurd (((readings_spec ht hR).1 q).2 List.mem_cons_self) (hgap.not_readBy ht q)
  · exact eq_of_winterRegime_near_gap ht hgap.turn (by omega) h (by omega) hearly

/-- A time has a place only a day away from the ends of the calendar. -/
theorem clear_of_localize (h : t.localize w = .ok r) : w.Clear dayMicros := by
  rw [localize] at h
  split at h
  · cases h
  · next hR => exact clear_of_readings hR
  · next hR => exact clear_of_readings hR
  · next hR => exact clear_of_readings hR

/-- A time that is read is placed under a regime that reads it. -/
theorem localize_of_readBy (ht : t.Regular) (hw : w.Clear (32 * hourMicros)) (h : t.ReadBy w r) :
    ∃ s, t.localize w = .ok s ∧ t.ReadBy w s := by
  obtain ⟨R, hR⟩ := exists_readings ht hw
  have hplaced : ∃ s, t.localize w = .ok s := by
    rw [localize, hR]
    cases R with
    | none => exact absurd (((readings_spec ht hR).1 r).1 h) List.not_mem_nil
    | one q => exact ⟨q, rfl⟩
    | two q p => exact ⟨Regime.preferred true q p, rfl⟩
  obtain ⟨s, hs⟩ := hplaced
  exact ⟨s, hs, readBy_of_localize ht hs h⟩

/-- A time in a gap is placed under the regime that the gap ends. -/
theorem localize_of_inGap (ht : t.Regular) (hw : w.Clear (3 * dayMicros)) (h : t.InGap w r c) :
    t.localize w = .ok r := by
  have hday : dayMicros = 24 * hourMicros := rfl
  have hclear : w.Clear (32 * hourMicros) := hw.mono (by omega)
  have hback : (backStep : Int) = 6 * hourMicros := rfl
  have hrb := (ht.moderate_of_turn h.turn).1.micros_bounds
  have hcb := (ht.moderate_of_turn h.turn).2.micros_bounds
  have hpast := h.past
  have hearly := h.early
  have hmicros : (w.micros : Int) = w.sinceEpoch + epochMicros := by
    rw [WallTime.sinceEpoch]
    omega
  rw [localize, readings_of_not_readBy ht hclear (h.not_readBy ht)]
  apply winterRegime_of_near_gap ht h.turn (by omega) _ hclear (by omega) hearly
  -- the gap is at most 32 hours long, so six hours before it are still in the calendar
  have := hw.1
  omega

end Table

end CivilTime
