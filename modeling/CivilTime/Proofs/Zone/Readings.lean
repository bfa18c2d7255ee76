import CivilTime.Proofs.Calendar.WallTime
import CivilTime.Proofs.Outcome
import CivilTime.Proofs.Zone.Regimes

/-!
# The readings of a wall-clock time

A wall-clock time of a regular table is read under a regime when its universal time under the
offset of the regime falls where that regime is in force. The two probes a day before and a day
after find every such regime and no other, and a time that no regime reads lies in a gap.

* `Table.ReadBy`: the regimes that read a wall-clock time.
* `readings_spec`: the probes find exactly these regimes; `exists_readings` and `clear_of_readings` say
  where they do not fail.
* `readBy_or_inGap`: a time that is not read lies in a gap; `InGap.not_readBy` is the converse.
* `readBy_iff_before_gap`: the hours before a gap are read under the regime that it ends.
-/

namespace CivilTime

namespace Table

/-- Whether a wall-clock time is read while a regime is in force. -/
def ReadBy (t : Table) (w : WallTime) (r : Regime) : Prop :=
  ∃ u : WallTime, u.sinceEpoch = w.sinceEpoch - r.micros ∧ t.regimeAt u = r

variable {t : Table} {w p : WallTime} {r s : Regime} {c : Change}

/-- Two regimes with one offset read a time at one point, so they are the same. -/
theorem ReadBy.eq_of_offset (hr : t.ReadBy w r) (hs : t.ReadBy w s) (h : r.offset = s.offset) :
    r = s := by
  obtain ⟨u, hu, rfl⟩ := hr
  obtain ⟨v, hv, rfl⟩ := hs
  have hm : (t.regimeAt u).micros = (t.regimeAt v).micros := by rw [Regime.micros, Regime.micros, h]
  rw [WallTime.eq_of_sinceEpoch_eq (show u.sinceEpoch = v.sinceEpoch by rw [hu, hv, hm])]

theorem ReadBy.moderate (ht : t.Regular) (h : t.ReadBy w r) : r.Moderate := by
  obtain ⟨u, -, rfl⟩ := h
  exact ht.regimeAt_moderate u

/-! ### The two probes -/

/-- A probe yields a regime that reads the time, and it yields its own regime if that reads it. -/
theorem candidate_spec {o : Option Regime} (h : t.candidate w p = .ok o) :
    (∀ r, o = some r → t.ReadBy w r) ∧ (t.ReadBy w (t.regimeAt p) → o = some (t.regimeAt p)) := by
  obtain ⟨u, hu, h⟩ := bind_eq_ok.1 h
  obtain ⟨v, hshown, h⟩ := bind_eq_ok.1 h
  obtain rfl := Except.ok.inj h
  rw [WallTime.shift_eq_ok_iff_sinceEpoch] at hu
  rw [Regime.wallAt, WallTime.shift_eq_ok_iff_sinceEpoch] at hshown
  constructor
  · intro r hr
    split at hr
    · next hvw =>
      obtain rfl := Option.some.inj hr
      rw [hvw] at hshown
      exact ⟨u, by omega, rfl⟩
    · cases hr
  · rintro ⟨u', hu', hread⟩
    have huu : u = u' := WallTime.eq_of_sinceEpoch_eq (by omega)
    subst huu
    rw [hread] at hshown ⊢
    rw [if_pos (WallTime.eq_of_sinceEpoch_eq (show v.sinceEpoch = w.sinceEpoch by omega))]

/-- Away from the ends of the calendar a probe does not fail. -/
theorem exists_candidate (ht : t.Regular) (hw : w.Clear (32 * hourMicros)) (p : WallTime) :
    ∃ o, t.candidate w p = .ok o := by
  have hp := (ht.regimeAt_moderate p).micros_bounds
  have hhour : (hourMicros : Int) = 3_600_000_000 := rfl
  obtain ⟨u, hu, hue⟩ := hw.exists_shift (n := -(t.regimeAt p).micros) (by push_cast; omega)
    (by push_cast; omega)
  have hr := (ht.regimeAt_moderate u).micros_bounds
  obtain ⟨v, -, hve⟩ := hw.exists_shift (n := -(t.regimeAt p).micros + (t.regimeAt u).micros)
    (by push_cast; omega) (by push_cast; omega)
  have hshown : (t.regimeAt u).wallAt u = .ok v := by
    rw [Regime.wallAt, WallTime.shift_eq_ok_iff_sinceEpoch]
    omega
  exact ⟨_, bind_eq_ok.2 ⟨u, hu, bind_eq_ok.2 ⟨v, hshown, rfl⟩⟩⟩

end Table

/-- The regimes of readings. -/
def Readings.regimes : Readings → List Regime
  | .none => []
  | .one r => [r]
  | .two r s => [r, s]

/-- The readings that two probes make up. -/
def Readings.ofProbes : Option Regime → Option Regime → Readings
  | .none, .none => .none
  | .some r, .none => .one r
  | .none, .some s => .one s
  | .some r, .some s => if r.offset = s.offset then .one r else .two r s

/-- Nothing that a probe yields is lost if regimes with one offset are one regime. -/
theorem Readings.mem_regimes_ofProbes {a b : Option Regime}
    (h : ∀ r s, a = some r → b = some s → r.offset = s.offset → r = s) (q : Regime) :
    q ∈ (ofProbes a b).regimes ↔ a = some q ∨ b = some q := by
  cases a with
  | none =>
    cases b with
    | none => simp [ofProbes, regimes]
    | some s => simp [ofProbes, regimes, eq_comm]
  | some r =>
    cases b with
    | none => simp [ofProbes, regimes, eq_comm]
    | some s =>
      by_cases hrs : r.offset = s.offset
      · have heq := h r s rfl rfl hrs
        subst heq
        simp [ofProbes, regimes, eq_comm]
      · simp [ofProbes, regimes, hrs, eq_comm]

theorem Readings.pairwise_regimes_ofProbes (a b : Option Regime) :
    (ofProbes a b).regimes.Pairwise fun r s => r.offset ≠ s.offset := by
  cases a with
  | none => cases b <;> simp [ofProbes, regimes]
  | some r =>
    cases b with
    | none => simp [ofProbes, regimes]
    | some s => by_cases hrs : r.offset = s.offset <;> simp [ofProbes, regimes, hrs]

namespace Table

variable {t : Table} {w : WallTime} {r s : Regime} {c : Change}

theorem readings_eq_ok {R : Readings} : t.readings w = .ok R ↔
    ∃ x y a b, w.shift (-(dayMicros : Int)) = .ok x ∧ w.shift dayMicros = .ok y ∧
      t.candidate w x = .ok a ∧ t.candidate w y = .ok b ∧ R = Readings.ofProbes a b := by
  constructor
  · intro h
    obtain ⟨x, hx, h⟩ := bind_eq_ok.1 h
    obtain ⟨a, ha, h⟩ := bind_eq_ok.1 h
    obtain ⟨y, hy, h⟩ := bind_eq_ok.1 h
    obtain ⟨b, hb, h⟩ := bind_eq_ok.1 h
    refine ⟨x, y, a, b, hx, hy, ha, hb, (Except.ok.inj h).symm.trans ?_⟩
    cases a <;> cases b <;> rfl
  · rintro ⟨x, y, a, b, hx, hy, ha, hb, rfl⟩
    rw [readings, bind_of_ok hx, bind_of_ok ha, bind_of_ok hy, bind_of_ok hb]
    cases a <;> cases b <;> rfl

/-- A time has readings only a day away from the ends of the calendar. -/
theorem clear_of_readings {R : Readings} (h : t.readings w = .ok R) : w.Clear dayMicros := by
  obtain ⟨x, y, -, -, hx, hy, -⟩ := readings_eq_ok.1 h
  rw [WallTime.shift_eq_ok] at hx hy
  have hin := y.inCalendar
  exact ⟨by omega, by omega⟩

/-- Away from the ends of the calendar a time has readings. -/
theorem exists_readings (ht : t.Regular) (hw : w.Clear (32 * hourMicros)) :
    ∃ R, t.readings w = .ok R := by
  have hday : (dayMicros : Int) = 24 * hourMicros := rfl
  obtain ⟨x, hx, -⟩ := hw.exists_shift (n := -dayMicros) (by push_cast; omega) (by push_cast; omega)
  obtain ⟨y, hy, -⟩ := hw.exists_shift (n := dayMicros) (by push_cast; omega) (by push_cast; omega)
  obtain ⟨a, ha⟩ := exists_candidate ht hw x
  obtain ⟨b, hb⟩ := exists_candidate ht hw y
  exact ⟨_, readings_eq_ok.2 ⟨x, y, a, b, hx, hy, ha, hb, rfl⟩⟩

/-- The probes find exactly the regimes that read a time, and two of them differ in their offset. -/
theorem readings_spec (ht : t.Regular) {R : Readings} (h : t.readings w = .ok R) :
    (∀ r, t.ReadBy w r ↔ r ∈ R.regimes) ∧ R.regimes.Pairwise fun r s => r.offset ≠ s.offset := by
  have hday : (dayMicros : Int) = 24 * 3_600_000_000 := rfl
  have hhour : (hourMicros : Int) = 3_600_000_000 := rfl
  have hcalm : calmMicros = 48 * 3_600_000_000 := rfl
  obtain ⟨x, y, a, b, hx, hy, ha, hb, rfl⟩ := readings_eq_ok.1 h
  rw [WallTime.shift_eq_ok_iff_sinceEpoch] at hx hy
  obtain ⟨ha1, ha2⟩ := candidate_spec ha
  obtain ⟨hb1, hb2⟩ := candidate_spec hb
  refine ⟨fun r => ?_, Readings.pairwise_regimes_ofProbes a b⟩
  rw [Readings.mem_regimes_ofProbes fun r s har hbs => (ha1 r har).eq_of_offset (hb1 s hbs)]
  constructor
  · intro hr
    have hm := (hr.moderate ht).micros_bounds
    obtain ⟨u, hu, hur⟩ := id hr
    -- a reading lies between the probes, so one of them has its regime
    have hbetween : t.regimeAt u = t.regimeAt x ∨ t.regimeAt u = t.regimeAt y :=
      ht.regimeAt_between (by omega) (by omega) (by omega)
    rcases hbetween with h | h
    · left
      rw [← hur, h] at hr ⊢
      exact ha2 hr
    · right
      rw [← hur, h] at hr ⊢
      exact hb2 hr
  · rintro (h | h)
    · exact ha1 r h
    · exact hb1 r h

/-! ### Gaps -/

/-- A time is read under a regime of the list, or the clocks are set forward over it. -/
theorem exists_reading_or_gap (hw : w.Clear (16 * hourMicros)) {cs : List Change} (hr : r.Moderate)
    (hcs : ∀ c ∈ cs, c.regime.Moderate) (hspaced : cs.IsChain Change.Follows) :
    (∃ u : WallTime, u.sinceEpoch = w.sinceEpoch - (latestRegime r cs u).micros) ∨
      ∃ s c, (s, c) ∈ turnsFrom r cs ∧ c.point + s.micros ≤ w.sinceEpoch ∧
        w.sinceEpoch < c.point + c.regime.micros := by
  have hb := hr.micros_bounds
  obtain ⟨u, -, hu⟩ := hw.exists_shift (n := -r.micros) (by push_cast; omega) (by push_cast; omega)
  induction cs generalizing r u with
  | nil => exact Or.inl ⟨u, hu⟩
  | cons c cs ih =>
    by_cases hpast : u.sinceEpoch < c.point
    · left
      exact ⟨u, by rw [latestRegime_of_ahead hpast, hu]; rfl⟩
    · by_cases hearly : w.sinceEpoch < c.point + c.regime.micros
      · exact Or.inr ⟨r, c, List.mem_cons_self, by omega, hearly⟩
      · -- the clocks of the next regime have shown this time or will do so
        have hc := hcs c List.mem_cons_self
        have hcb := hc.micros_bounds
        obtain ⟨v, -, hv⟩ := hw.exists_shift (n := -c.regime.micros) (by push_cast; omega)
          (by push_cast; omega)
        rcases ih hc (fun d hd => hcs d (List.mem_cons_of_mem c hd)) (isChain_tail hspaced) hcb v hv
          with ⟨x, hx⟩ | ⟨s, d, hmem, hpd, hed⟩
        · left
          refine ⟨x, ?_⟩
          have hbegun : c.point ≤ x.sinceEpoch := by
            rcases latestRegime_eq_or_begun c.regime cs x with heq | ⟨d, hd, hpoint, -⟩
            · rw [heq] at hx
              omega
            · have hcalm : (0 : Int) ≤ calmMicros := by decide
              have := point_le_of_mem_spaced hspaced hd
              omega
          rw [latestRegime_of_begun hbegun]
          exact hx
        · exact Or.inr ⟨s, d, List.mem_cons_of_mem _ hmem, hpd, hed⟩

/-- A wall-clock time is read under some regime or lies in a gap. -/
theorem readBy_or_inGap (ht : t.Regular) (hw : w.Clear (16 * hourMicros)) :
    (∃ r, t.ReadBy w r) ∨ ∃ r c, t.InGap w r c := by
  rcases exists_reading_or_gap hw ht.first ht.changes ht.spaced with
    ⟨u, hu⟩ | ⟨r, c, hturn, hpast, hearly⟩
  · exact Or.inl ⟨t.regimeAt u, u, hu, rfl⟩
  · exact Or.inr ⟨r, c, hturn, hpast, hearly⟩

/-- Near a change only the regimes on its two sides read a time, each on its own side. -/
theorem ReadBy.side_of_turn (ht : t.Regular) (hturn : (r, c) ∈ t.turns) (h : t.ReadBy w s)
    (hlo : c.point - 32 * hourMicros ≤ w.sinceEpoch)
    (hhi : w.sinceEpoch < c.point + 32 * hourMicros) :
    s = r ∧ w.sinceEpoch < c.point + r.micros ∨
      s = c.regime ∧ c.point + c.regime.micros ≤ w.sinceEpoch := by
  have hb := (h.moderate ht).micros_bounds
  have hcalm : calmMicros = 48 * hourMicros := rfl
  have hhour : (hourMicros : Int) = 3_600_000_000 := rfl
  obtain ⟨u, hu, rfl⟩ := h
  by_cases hside : u.sinceEpoch < c.point
  · left
    have heq := ht.regimeAt_before_turn hturn (by omega) hside
    rw [heq] at hu ⊢
    exact ⟨rfl, by omega⟩
  · right
    have heq := ht.regimeAt_after_turn hturn (Int.not_lt.1 hside) (by omega)
    rw [heq] at hu ⊢
    exact ⟨rfl, by omega⟩

/-- A time in a gap is not read. -/
theorem InGap.not_readBy (ht : t.Regular) (h : t.InGap w r c) (s : Regime) : ¬ t.ReadBy w s := by
  intro hs
  obtain ⟨hr, hc⟩ := ht.moderate_of_turn h.turn
  have hrb := hr.micros_bounds
  have hcb := hc.micros_bounds
  have hpast := h.past
  have hearly := h.early
  rcases hs.side_of_turn ht h.turn (by omega) (by omega) with ⟨-, hlt⟩ | ⟨-, hle⟩
  · omega
  · omega

/-- Under the regime that a gap ends, a time in the gap falls past the change. -/
theorem InGap.regimeAt_eq (ht : t.Regular) (h : t.InGap w r c) {u : WallTime}
    (hu : u.sinceEpoch = w.sinceEpoch - r.micros) : t.regimeAt u = c.regime := by
  have hrb := (ht.moderate_of_turn h.turn).1.micros_bounds
  have hcb := (ht.moderate_of_turn h.turn).2.micros_bounds
  have hpast := h.past
  have hearly := h.early
  have hcalm : calmMicros = 48 * hourMicros := rfl
  have hhour : (hourMicros : Int) = 3_600_000_000 := rfl
  exact ht.regimeAt_after_turn h.turn (by omega) (by omega)

/-- In the sixteen hours before a gap only the regime that it ends reads a time. -/
theorem readBy_iff_before_gap (ht : t.Regular) (hw : w.Clear (16 * hourMicros))
    (hturn : (r, c) ∈ t.turns) (hforward : r.micros < c.regime.micros)
    (hlo : c.point + r.micros - 16 * hourMicros ≤ w.sinceEpoch)
    (hhi : w.sinceEpoch < c.point + r.micros) : t.ReadBy w s ↔ s = r := by
  have hrb := (ht.moderate_of_turn hturn).1.micros_bounds
  have hhour : (hourMicros : Int) = 3_600_000_000 := rfl
  constructor
  · intro hs
    rcases hs.side_of_turn ht hturn (by omega) (by omega) with ⟨heq, -⟩ | ⟨-, hle⟩
    · exact heq
    · omega
  · rintro rfl
    obtain ⟨u, -, hu⟩ := hw.exists_shift (n := -s.micros) (by push_cast; omega)
      (by push_cast; omega)
    have hcalm : calmMicros = 48 * hourMicros := rfl
    exact ⟨u, by omega, ht.regimeAt_before_turn hturn (by omega) (by omega)⟩

end Table

end CivilTime
