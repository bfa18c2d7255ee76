import CivilTime.Proofs.Zone.Readings
import CivilTime.Zone.Basic

/-!
# Placing a wall-clock time under its earlier reading

A wall-clock time has passed a change once it is past what the regimes on both sides show there. The
regime of the last change that it has passed reads it, earlier than any other regime does, unless it lies
in a gap; then that is the regime that the gap ends. A day before and a day after the gap the offsets on
its two sides are found, and the time is moved by their difference, so it stands for the same point of
the time line as under the regime that the gap ends.

* `Table.Gentle`: a regular table whose clocks are set back by a day at most, and inside the calendar.
* `passedRegime_reads`, `micros_le_passedRegime`: the last change that has been passed.
* `passedRegime_before_turn`, `passedRegime_after_turn`: the regime a day around a change.
* `Table.passedAt_of_readBy`, `Table.InGap.passedAt_eq`: times that are read, and times in a gap.
* `Table.sinceEpoch_of_settle`: the point of a time, if it has one; `Table.exists_settle` says where it
  has, and `Table.eq_of_settle_of_readBy` that it stays as it is if it is read.
* `Table.settle_of_constant`: a table without changes.
-/

namespace CivilTime

namespace Table

/-- Whether changes lie four days inside the calendar and set the clocks back by no more than a day. -/
structure Gentle (t : Table) : Prop where
  regular : t.Regular
  back : ∀ turn ∈ t.turns, turn.1.offset ≤ turn.2.regime.offset + 86_400
  inside : ∀ c ∈ t.changes, 4 * (dayMicros : Int) ≤ c.point + epochMicros ∧
    c.point + epochMicros + 4 * (dayMicros : Int) ≤ Date.span * dayMicros

instance (t : Table) : Decidable t.Gentle :=
  decidable_of_iff (t.Regular ∧ (∀ turn ∈ t.turns, turn.1.offset ≤ turn.2.regime.offset + 86_400) ∧
      ∀ c ∈ t.changes, 4 * (dayMicros : Int) ≤ c.point + epochMicros ∧
        c.point + epochMicros + 4 * (dayMicros : Int) ≤ Date.span * dayMicros)
    ⟨fun h => ⟨h.1, h.2.1, h.2.2⟩, fun h => ⟨h.regular, h.back, h.inside⟩⟩

end Table

variable {r s : Regime} {c : Change} {cs : List Change} {u w : WallTime}

/-! ### The last change that has been passed -/

theorem passedRegime_of_passed (h : c.point + max r.micros c.regime.micros ≤ w.sinceEpoch) :
    passedRegime r (c :: cs) w = passedRegime c.regime cs w := by
  rw [passedRegime]
  exact if_pos h

theorem passedRegime_of_ahead (h : w.sinceEpoch < c.point + max r.micros c.regime.micros) :
    passedRegime r (c :: cs) w = r := by
  rw [passedRegime]
  exact if_neg (Int.not_le.2 h)

/-- Either no change has been passed or the regime is that of a change that has. -/
theorem passedRegime_eq_or_passed (r : Regime) (cs : List Change) (w : WallTime) :
    passedRegime r cs w = r ∨
      ∃ c ∈ cs, c.point + c.regime.micros ≤ w.sinceEpoch ∧ passedRegime r cs w = c.regime := by
  induction cs generalizing r with
  | nil => exact .inl rfl
  | cons c cs ih =>
    by_cases h : c.point + max r.micros c.regime.micros ≤ w.sinceEpoch
    · rw [passedRegime_of_passed h]
      right
      rcases ih c.regime with hc | ⟨d, hd, hpassed, heq⟩
      · exact ⟨c, List.mem_cons_self, by omega, hc⟩
      · exact ⟨d, List.mem_cons_of_mem c hd, hpassed, heq⟩
    · exact .inl (passedRegime_of_ahead (Int.not_le.1 h))

/-- The regime of the last change that has been passed reads the time, or it ends a gap that the time
lies in. -/
theorem passedRegime_reads (hcs : cs.IsChain Change.Follows)
    (hu : u.sinceEpoch = w.sinceEpoch - (passedRegime r cs w).micros) :
    latestRegime r cs u = passedRegime r cs w ∨
      ∃ c, (passedRegime r cs w, c) ∈ Table.turnsFrom r cs ∧
        c.point + (passedRegime r cs w).micros ≤ w.sinceEpoch ∧
        w.sinceEpoch < c.point + c.regime.micros := by
  induction cs generalizing r with
  | nil => exact .inl rfl
  | cons c cs ih =>
    by_cases h : c.point + max r.micros c.regime.micros ≤ w.sinceEpoch
    · rw [passedRegime_of_passed h] at hu ⊢
      have hbegun : c.point ≤ u.sinceEpoch := by
        rcases passedRegime_eq_or_passed c.regime cs w with heq | ⟨d, hd, hpassed, heq⟩
        · rw [heq] at hu
          omega
        · have hcalm : (0 : Int) ≤ calmMicros := by decide
          have hlater := point_le_of_mem_spaced hcs hd
          rw [heq] at hu
          omega
      rw [latestRegime_of_begun hbegun]
      rcases ih (isChain_tail hcs) hu with hread | ⟨d, hturn, hgap⟩
      · exact .inl hread
      · exact .inr ⟨d, List.mem_cons_of_mem _ hturn, hgap⟩
    · rw [passedRegime_of_ahead (Int.not_le.1 h)] at hu ⊢
      by_cases hpast : u.sinceEpoch < c.point
      · exact .inl (latestRegime_of_ahead hpast)
      · exact .inr ⟨c, List.mem_cons_self, by omega, by omega⟩

/-- No regime that reads a time is further ahead of universal time, so none reads it earlier. -/
theorem micros_le_passedRegime (hr : r.Moderate) (hmoderate : ∀ d ∈ cs, d.regime.Moderate)
    (hcs : cs.IsChain Change.Follows)
    (hu : u.sinceEpoch = w.sinceEpoch - (latestRegime r cs u).micros) :
    (latestRegime r cs u).micros ≤ (passedRegime r cs w).micros := by
  induction cs generalizing r with
  | nil => exact Int.le_refl _
  | cons c cs ih =>
    have hc := hmoderate c List.mem_cons_self
    have hlater : ∀ d ∈ cs, d.regime.Moderate := fun d hd => hmoderate d (List.mem_cons_of_mem c hd)
    by_cases hpast : u.sinceEpoch < c.point
    · rw [latestRegime_of_ahead hpast] at hu
      refine Int.le_of_eq (congrArg Regime.micros ?_)
      rw [latestRegime_of_ahead hpast, passedRegime_of_ahead (by omega)]
    · rw [latestRegime_of_begun (Int.not_lt.1 hpast)] at hu ⊢
      by_cases h : c.point + max r.micros c.regime.micros ≤ w.sinceEpoch
      · rw [passedRegime_of_passed h]
        exact ih hc hlater (isChain_tail hcs) hu
      · rw [passedRegime_of_ahead (Int.not_le.1 h)]
        -- the time has not passed the change that has begun, so no further change has begun either
        rcases latestRegime_eq_or_begun c.regime cs u with heq | ⟨d, hd, hpoint, heq⟩
        · rw [heq] at hu ⊢
          omega
        · have hfollows := point_le_of_mem_spaced hcs hd
          have hrb := hr.micros_bounds
          have hcb := hc.micros_bounds
          have hdb := (hlater d hd).micros_bounds
          have hcalm : calmMicros = 48 * hourMicros := rfl
          have hhour : (hourMicros : Int) = 3_600_000_000 := rfl
          rw [heq] at hu
          omega

/-! ### A day around a change -/

/-- From a day before the gap or the pass that a change brings, the regime is the one that it ends. -/
theorem passedRegime_before_turn (hr : r.Moderate) (hmoderate : ∀ d ∈ cs, d.regime.Moderate)
    (hcs : cs.IsChain Change.Follows)
    (hback : ∀ turn ∈ Table.turnsFrom r cs, turn.1.micros ≤ turn.2.regime.micros + dayMicros)
    (h : (s, c) ∈ Table.turnsFrom r cs)
    (hlo : c.point + s.micros - dayMicros ≤ w.sinceEpoch)
    (hhi : w.sinceEpoch < c.point + max s.micros c.regime.micros) : passedRegime r cs w = s := by
  have hday : (dayMicros : Int) = 24 * hourMicros := rfl
  have hcalm : calmMicros = 48 * hourMicros := rfl
  have hhour : (hourMicros : Int) = 3_600_000_000 := rfl
  induction cs generalizing r with
  | nil => cases h
  | cons d cs ih =>
    rcases List.mem_cons.1 h with heq | hmem
    · obtain ⟨rfl, rfl⟩ := Prod.mk.inj heq
      exact passedRegime_of_ahead hhi
    · have hd := hmoderate d List.mem_cons_self
      have hlater : ∀ e ∈ cs, e.regime.Moderate :=
        fun e he => hmoderate e (List.mem_cons_of_mem d he)
      have hrb := hr.micros_bounds
      have hdb := hd.micros_bounds
      have hsb := (moderate_of_mem_turnsFrom hd hlater hmem).micros_bounds
      have hfirst : r.micros ≤ d.regime.micros + dayMicros := hback (r, d) List.mem_cons_self
      have hpassed : d.point + max r.micros d.regime.micros ≤ w.sinceEpoch := by
        have hfollows := point_le_of_mem_spaced hcs (mem_of_mem_turnsFrom hmem)
        -- `d` is the change before `c`, or two days further away
        cases cs with
        | nil => cases hmem
        | cons e cs =>
          rcases List.mem_cons.1 hmem with heq | hmem
          · obtain ⟨rfl, rfl⟩ := Prod.mk.inj heq
            omega
          · have he := (List.isChain_cons_cons.1 hcs).1.point_le
            have hc := point_le_of_mem_spaced (isChain_tail hcs) (mem_of_mem_turnsFrom hmem)
            omega
      rw [passedRegime_of_passed hpassed]
      exact ih hd hlater (isChain_tail hcs)
        (fun turn hturn => hback turn (List.mem_cons_of_mem _ hturn)) hmem

/-- For two days past a change the regime is the one that it begins. -/
theorem passedRegime_after_turn (hr : r.Moderate) (hmoderate : ∀ d ∈ cs, d.regime.Moderate)
    (hcs : cs.IsChain Change.Follows) (h : (s, c) ∈ Table.turnsFrom r cs)
    (hlo : c.point + max s.micros c.regime.micros ≤ w.sinceEpoch)
    (hhi : w.sinceEpoch < c.point + c.regime.micros + calmMicros) :
    passedRegime r cs w = c.regime := by
  have hcalm : calmMicros = 48 * hourMicros := rfl
  have hhour : (hourMicros : Int) = 3_600_000_000 := rfl
  induction cs generalizing r with
  | nil => cases h
  | cons d cs ih =>
    have hd := hmoderate d List.mem_cons_self
    have hlater : ∀ e ∈ cs, e.regime.Moderate :=
      fun e he => hmoderate e (List.mem_cons_of_mem d he)
    rcases List.mem_cons.1 h with heq | hmem
    · obtain ⟨rfl, rfl⟩ := Prod.mk.inj heq
      rw [passedRegime_of_passed hlo]
      cases cs with
      | nil => rfl
      | cons e cs =>
        have he := (List.isChain_cons_cons.1 hcs).1.point_le
        exact passedRegime_of_ahead (by omega)
    · have hrb := hr.micros_bounds
      have hdb := hd.micros_bounds
      have hsb := (moderate_of_mem_turnsFrom hd hlater hmem).micros_bounds
      have hfollows := point_le_of_mem_spaced hcs (mem_of_mem_turnsFrom hmem)
      rw [passedRegime_of_passed (by omega)]
      exact ih hd hlater (isChain_tail hcs) hmem

namespace Table

variable {t : Table} {r s : Regime} {c : Change} {w : WallTime} {o : OffsetTime} {f : Fault}

theorem Gentle.back_micros (ht : t.Gentle) {turn : Regime × Change} (h : turn ∈ t.turns) :
    turn.1.micros ≤ turn.2.regime.micros + dayMicros := by
  have hback := ht.back turn h
  simp only [Regime.micros, secondMicros, dayMicros]
  omega

/-- Before the end of a gap, from a day before it on, the regime is the one that it ends. -/
theorem Gentle.passedAt_before_turn (ht : t.Gentle) (h : (r, c) ∈ t.turns)
    (hlo : c.point + r.micros - dayMicros ≤ w.sinceEpoch)
    (hhi : w.sinceEpoch < c.point + max r.micros c.regime.micros) : t.passedAt w = r :=
  passedRegime_before_turn ht.regular.first ht.regular.changes ht.regular.spaced
    (fun _ hturn => ht.back_micros hturn) h hlo hhi

/-- For two days past a change the regime is the one that it begins. -/
theorem Regular.passedAt_after_turn (ht : t.Regular) (h : (r, c) ∈ t.turns)
    (hlo : c.point + max r.micros c.regime.micros ≤ w.sinceEpoch)
    (hhi : w.sinceEpoch < c.point + c.regime.micros + calmMicros) : t.passedAt w = c.regime :=
  passedRegime_after_turn ht.first ht.changes ht.spaced h hlo hhi

theorem Regular.passedAt_moderate (ht : t.Regular) (w : WallTime) : (t.passedAt w).Moderate := by
  rcases passedRegime_eq_or_passed t.first t.changes w with heq | ⟨c, hc, -, heq⟩
  · rw [passedAt, heq]
    exact ht.first
  · rw [passedAt, heq]
    exact ht.changes c hc

/-- A time that is read at all is read under the regime of the last change that it has passed. -/
theorem passedAt_of_readBy (ht : t.Regular) (h : t.ReadBy w s) {u : WallTime}
    (hu : u.sinceEpoch = w.sinceEpoch - (t.passedAt w).micros) : t.regimeAt u = t.passedAt w := by
  rcases passedRegime_reads ht.spaced hu with hread | ⟨c, hturn, hpast, hearly⟩
  · exact hread
  · exact absurd h (InGap.not_readBy ht ⟨hturn, hpast, hearly⟩ s)

/-- No regime reads a time earlier. -/
theorem ReadBy.micros_le_passedAt (ht : t.Regular) (h : t.ReadBy w s) :
    s.micros ≤ (t.passedAt w).micros := by
  obtain ⟨u, hu, rfl⟩ := h
  exact micros_le_passedRegime ht.first ht.changes ht.spaced hu

/-- In a gap the last change that has been passed is the one before it. -/
theorem InGap.passedAt_eq (ht : t.Gentle) (h : t.InGap w r c) : t.passedAt w = r := by
  have hpast := h.past
  have hearly := h.early
  exact ht.passedAt_before_turn h.turn (by omega) (by omega)

/-! ### The place of a time -/

theorem settle_eq_ok : t.settle w = .ok o ↔
    ∃ u v, w.shift (-(t.passedAt w).micros) = .ok u ∧ (t.regimeAt u).wallAt u = .ok v ∧
      (v = w ∧ o = ⟨w, (t.passedAt w).micros⟩ ∨ v ≠ w ∧
        ∃ after before moved, w.shift dayMicros = .ok after ∧
          w.shift (-(dayMicros : Int)) = .ok before ∧
          w.shift ((t.passedAt after).micros - (t.passedAt before).micros) = .ok moved ∧
          o = ⟨moved, (t.passedAt moved).micros⟩) := by
  constructor
  · intro h
    obtain ⟨u, hu, h⟩ := bind_eq_ok.1 h
    obtain ⟨v, hv, h⟩ := bind_eq_ok.1 h
    refine ⟨u, v, hu, hv, ?_⟩
    split at h
    · next hvw => exact .inl ⟨hvw, (Except.ok.inj h).symm⟩
    · next hvw =>
      obtain ⟨after, hafter, h⟩ := bind_eq_ok.1 h
      obtain ⟨before, hbefore, h⟩ := bind_eq_ok.1 h
      obtain ⟨moved, hmoved, h⟩ := bind_eq_ok.1 h
      exact .inr ⟨hvw, after, before, moved, hafter, hbefore, hmoved, (Except.ok.inj h).symm⟩
  · rintro ⟨u, v, hu, hv, ⟨hvw, rfl⟩ | ⟨hvw, after, before, moved, hafter, hbefore, hmoved, rfl⟩⟩
    · rw [settle, bind_of_ok hu, bind_of_ok hv, if_pos hvw]
      rfl
    · rw [settle, bind_of_ok hu, bind_of_ok hv, if_neg hvw, bind_of_ok hafter, bind_of_ok hbefore,
        bind_of_ok hmoved]
      rfl

/-- A time comes back from its universal time exactly if that falls under the regime it was taken by. -/
theorem wallAt_eq_self {u v : WallTime} (hu : w.shift (-(t.passedAt w).micros) = .ok u)
    (hv : (t.regimeAt u).wallAt u = .ok v) :
    v = w ↔ (t.regimeAt u).micros = (t.passedAt w).micros := by
  rw [WallTime.shift_eq_ok_iff_sinceEpoch] at hu
  rw [Regime.wallAt, WallTime.shift_eq_ok_iff_sinceEpoch] at hv
  constructor
  · rintro rfl
    omega
  · intro heq
    exact WallTime.eq_of_sinceEpoch_eq (by omega)

/-- If a time that is read has a place, it is as it is under the earliest regime that reads it. -/
theorem eq_of_settle_of_readBy (ht : t.Regular) (h : t.settle w = .ok o) (hs : t.ReadBy w s) :
    o = ⟨w, (t.passedAt w).micros⟩ ∧ t.ReadBy w (t.passedAt w) := by
  obtain ⟨u, v, hu, hv, hplace⟩ := settle_eq_ok.1 h
  have hpoint := WallTime.shift_eq_ok_iff_sinceEpoch.1 hu
  have hread := passedAt_of_readBy ht hs (u := u) (by omega)
  refine ⟨?_, u, by omega, hread⟩
  rcases hplace with ⟨-, ho⟩ | ⟨hne, -⟩
  · exact ho
  · exact absurd ((wallAt_eq_self hu hv).2 (by rw [hread])) hne

/-- If a time in a gap has a place, it stands for the point that the regime before the gap gives. It is
moved by the length of the gap, or left where it is if the gap lasts longer than the day after it. -/
theorem InGap.sinceEpoch_of_settle (ht : t.Gentle) (h : t.InGap w r c) (ho : t.settle w = .ok o) :
    o.sinceEpoch = w.sinceEpoch - r.micros := by
  have hpassed := h.passedAt_eq ht
  have hpast := h.past
  have hearly := h.early
  have hrb := (ht.regular.moderate_of_turn h.turn).1.micros_bounds
  have hcb := (ht.regular.moderate_of_turn h.turn).2.micros_bounds
  have hday : (dayMicros : Int) = 24 * hourMicros := rfl
  have hcalm : calmMicros = 48 * hourMicros := rfl
  have hhour : (hourMicros : Int) = 3_600_000_000 := rfl
  obtain ⟨u, v, hu, hv, ⟨-, rfl⟩ | ⟨-, after, before, moved, hafter, hbefore, hmoved, rfl⟩⟩ :=
    settle_eq_ok.1 ho
  · rw [hpassed]
    rfl
  · rw [WallTime.shift_eq_ok_iff_sinceEpoch] at hafter hbefore hmoved
    have hy : t.passedAt before = r := ht.passedAt_before_turn h.turn (by omega) (by omega)
    by_cases hlong : after.sinceEpoch < c.point + c.regime.micros
    · have hx : t.passedAt after = r := ht.passedAt_before_turn h.turn (by omega) (by omega)
      rw [hx, hy, Int.sub_self, Int.add_zero] at hmoved
      rw [WallTime.eq_of_sinceEpoch_eq hmoved, hpassed]
      rfl
    · have hx : t.passedAt after = c.regime :=
        ht.regular.passedAt_after_turn h.turn (by omega) (by omega)
      rw [hx, hy] at hmoved
      have hm : t.passedAt moved = c.regime :=
        ht.regular.passedAt_after_turn h.turn (by omega) (by omega)
      show moved.sinceEpoch - (t.passedAt moved).micros = _
      rw [hm]
      omega

/-- Where a time has a place, the last change that it has passed gives the point that it stands for. The
regime of that change reads the time or ends a gap that it lies in. -/
theorem sinceEpoch_of_settle (ht : t.Gentle) (ho : t.settle w = .ok o) :
    o.sinceEpoch = w.sinceEpoch - (t.passedAt w).micros ∧
      (t.ReadBy w (t.passedAt w) ∨ ∃ c, t.InGap w (t.passedAt w) c) := by
  obtain ⟨u, -, hu, -⟩ := settle_eq_ok.1 ho
  have hpoint := WallTime.shift_eq_ok_iff_sinceEpoch.1 hu
  rcases passedRegime_reads (r := t.first) ht.regular.spaced (u := u) (w := w)
    (by rw [hpoint]; rfl) with hread | ⟨c, hturn, hpast, hearly⟩
  · have hreads : t.ReadBy w (t.passedAt w) := ⟨u, by omega, hread⟩
    rw [(eq_of_settle_of_readBy ht.regular ho hreads).1]
    exact ⟨rfl, .inl hreads⟩
  · have hgap : t.InGap w (t.passedAt w) c := ⟨hturn, hpast, hearly⟩
    exact ⟨hgap.sinceEpoch_of_settle ht ho, .inr ⟨c, hgap⟩⟩

/-- Three days away from the ends of the calendar every time has a place. -/
theorem exists_settle (ht : t.Regular) (hw : w.Clear (3 * dayMicros)) : ∃ o, t.settle w = .ok o := by
  have hday : dayMicros = 24 * hourMicros := rfl
  have hwb := (ht.passedAt_moderate w).micros_bounds
  obtain ⟨u, hu, hpoint⟩ := hw.exists_shift (n := -(t.passedAt w).micros) (by omega) (by omega)
  have hub := (ht.regimeAt_moderate u).micros_bounds
  obtain ⟨v, -, hshown⟩ := hw.exists_shift (n := (t.regimeAt u).micros - (t.passedAt w).micros)
    (by omega) (by omega)
  have hv : (t.regimeAt u).wallAt u = .ok v := by
    rw [Regime.wallAt, WallTime.shift_eq_ok_iff_sinceEpoch]
    omega
  by_cases hvw : v = w
  · exact ⟨_, settle_eq_ok.2 ⟨u, v, hu, hv, .inl ⟨hvw, rfl⟩⟩⟩
  · obtain ⟨after, hafter, -⟩ := hw.exists_shift (n := dayMicros) (by omega) (by omega)
    obtain ⟨before, hbefore, -⟩ := hw.exists_shift (n := -(dayMicros : Int)) (by omega) (by omega)
    have hab := (ht.passedAt_moderate after).micros_bounds
    have hbb := (ht.passedAt_moderate before).micros_bounds
    obtain ⟨moved, hmoved, -⟩ := hw.exists_shift
      (n := (t.passedAt after).micros - (t.passedAt before).micros) (by omega) (by omega)
    exact ⟨_, settle_eq_ok.2
      ⟨u, v, hu, hv, .inr ⟨hvw, after, before, moved, hafter, hbefore, hmoved, rfl⟩⟩⟩

/-- Under a table without changes a time stays as it is. -/
theorem settle_of_constant (r : Regime) (w : WallTime) :
    settle ⟨r, []⟩ w = Zone.anchored w r.micros := by
  have hpassed : passedAt ⟨r, []⟩ w = r := rfl
  cases hu : w.shift (-r.micros) with
  | error f =>
    rw [settle, Zone.anchored, hpassed, hu]
    rfl
  | ok u =>
    have hpoint := WallTime.shift_eq_ok_iff_sinceEpoch.1 hu
    have hv : (regimeAt ⟨r, []⟩ u).wallAt u = .ok w := by
      rw [Regime.wallAt, WallTime.shift_eq_ok_iff_sinceEpoch]
      show w.sinceEpoch = u.sinceEpoch + r.micros
      omega
    rw [Zone.anchored, bind_of_ok hu]
    exact settle_eq_ok.2 ⟨u, w, hu, hv, .inl ⟨rfl, rfl⟩⟩

/-- A time fails to have a place only where the calendar is left. -/
theorem eq_outOfRange_of_settle (h : t.settle w = .error f) : f = .outOfRange := by
  rcases bind_eq_error.1 h with h | ⟨u, -, h⟩
  · exact WallTime.eq_outOfRange_of_shift h
  rcases bind_eq_error.1 h with h | ⟨v, -, h⟩
  · exact WallTime.eq_outOfRange_of_shift h
  split at h
  · cases h
  rcases bind_eq_error.1 h with h | ⟨after, -, h⟩
  · exact WallTime.eq_outOfRange_of_shift h
  rcases bind_eq_error.1 h with h | ⟨before, -, h⟩
  · exact WallTime.eq_outOfRange_of_shift h
  rcases bind_eq_error.1 h with h | ⟨moved, -, h⟩
  · exact WallTime.eq_outOfRange_of_shift h
  · cases h

end Table

end CivilTime
