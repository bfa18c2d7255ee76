import CivilTime.Zone.Table
import Mathlib.Data.List.Chain

/-!
# The regime in force

A table is regular when its offsets lie within sixteen hours and its changes are two days apart.
Around a change of a regular table the regime is known for two days on either side, and of any two
points at most two days apart one has the regime of each point between them.

* `Table.Regular`: moderate offsets and changes that are two days apart.
* `Table.turns`: the changes with the regime that each of them ends.
* `Table.InGap`: a wall-clock time that the clocks are set forward over.
* `regimeAt_between`: one of two near points has the regime of a point between them.
* `regimeAt_before_turn`, `regimeAt_after_turn`: the regime for two days around a change.
-/

namespace CivilTime

/-- Whether the offset of a regime lies within sixteen hours. -/
def Regime.Moderate (r : Regime) : Prop := -57_600 ≤ r.offset ∧ r.offset ≤ 57_600

instance (r : Regime) : Decidable r.Moderate := by unfold Regime.Moderate; infer_instance

/-- The offset of a moderate regime in microseconds. -/
theorem Regime.Moderate.micros_bounds {r : Regime} (h : r.Moderate) :
    -(16 * hourMicros : Int) ≤ r.micros ∧ r.micros ≤ 16 * hourMicros := by
  obtain ⟨hlo, hhi⟩ := h
  simp only [Regime.micros, secondMicros, hourMicros]
  omega

/-- The point of the time line at which a change takes place. -/
def Change.point (c : Change) : Int := c.start * secondMicros

/-- Whether a change follows another by two days or more. -/
def Change.Follows (c d : Change) : Prop := c.start + 172_800 ≤ d.start

instance : DecidableRel Change.Follows := fun c d => by unfold Change.Follows; infer_instance

/-- Two days. -/
def calmMicros : Int := 2 * dayMicros

theorem Change.Follows.point_le {c d : Change} (h : c.Follows d) :
    c.point + calmMicros ≤ d.point := by
  simp only [Change.Follows] at h
  simp only [Change.point, calmMicros, dayMicros, secondMicros]
  omega

namespace Table

/-- Offsets within sixteen hours, and changes two days apart. -/
structure Regular (t : Table) : Prop where
  first : t.first.Moderate
  changes : ∀ c ∈ t.changes, c.regime.Moderate
  spaced : t.changes.IsChain Change.Follows

instance (t : Table) : Decidable t.Regular :=
  decidable_of_iff
    (t.first.Moderate ∧ (∀ c ∈ t.changes, c.regime.Moderate) ∧ t.changes.IsChain Change.Follows)
    ⟨fun h => ⟨h.1, h.2.1, h.2.2⟩, fun h => ⟨h.first, h.changes, h.spaced⟩⟩

/-- The changes of a list, each with the regime that it ends. -/
def turnsFrom (r : Regime) : List Change → List (Regime × Change)
  | [] => []
  | c :: cs => (r, c) :: turnsFrom c.regime cs

/-- The changes of a table, each with the regime that it ends. -/
def turns (t : Table) : List (Regime × Change) := turnsFrom t.first t.changes

/-- Whether the clocks are set forward over a wall-clock time: it is past the end of the regime `r`
but before the start of the regime that `c` begins. -/
structure InGap (t : Table) (w : WallTime) (r : Regime) (c : Change) : Prop where
  turn : (r, c) ∈ t.turns
  past : c.point + r.micros ≤ w.sinceEpoch
  early : w.sinceEpoch < c.point + c.regime.micros

end Table

/-! ### The last change that has begun -/

theorem latestRegime_of_begun {r : Regime} {c : Change} {cs : List Change} {u : WallTime}
    (h : c.point ≤ u.sinceEpoch) : latestRegime r (c :: cs) u = latestRegime c.regime cs u := by
  rw [latestRegime]
  exact if_pos h

theorem latestRegime_of_ahead {r : Regime} {c : Change} {cs : List Change} {u : WallTime}
    (h : u.sinceEpoch < c.point) : latestRegime r (c :: cs) u = r := by
  rw [latestRegime]
  exact if_neg (Int.not_le.2 h)

/-- Either no change has begun or the regime is that of a change that has. -/
theorem latestRegime_eq_or_begun (r : Regime) (cs : List Change) (u : WallTime) :
    latestRegime r cs u = r ∨
      ∃ c ∈ cs, c.point ≤ u.sinceEpoch ∧ latestRegime r cs u = c.regime := by
  induction cs generalizing r with
  | nil => exact Or.inl rfl
  | cons c cs ih =>
    by_cases h : c.point ≤ u.sinceEpoch
    · rw [latestRegime_of_begun h]
      right
      rcases ih c.regime with hc | ⟨d, hd, hpoint, heq⟩
      · exact ⟨c, List.mem_cons_self, h, hc⟩
      · exact ⟨d, List.mem_cons_of_mem c hd, hpoint, heq⟩
    · exact Or.inl (latestRegime_of_ahead (Int.not_le.1 h))

/-- In a spaced list each later change lies two days after the first. -/
theorem point_le_of_mem_spaced {c d : Change} {cs : List Change}
    (h : (c :: cs).IsChain Change.Follows) (hd : d ∈ cs) : c.point + calmMicros ≤ d.point := by
  induction cs generalizing c with
  | nil => cases hd
  | cons e cs ih =>
    have hce := (List.isChain_cons_cons.1 h).1.point_le
    rcases List.mem_cons.1 hd with rfl | hmem
    · exact hce
    · have hed := ih (List.isChain_cons_cons.1 h).2 hmem
      have hcalm : (0 : Int) ≤ calmMicros := by decide
      omega

/-- For two days after a change no other change begins. -/
theorem latestRegime_of_calm {c : Change} {cs : List Change} {u : WallTime}
    (h : (c :: cs).IsChain Change.Follows) (hu : u.sinceEpoch < c.point + calmMicros) :
    latestRegime c.regime cs u = c.regime := by
  rcases latestRegime_eq_or_begun c.regime cs u with heq | ⟨d, hd, hpoint, -⟩
  · exact heq
  · have := point_le_of_mem_spaced h hd
    omega

theorem isChain_tail {c : Change} {cs : List Change} (h : (c :: cs).IsChain Change.Follows) :
    cs.IsChain Change.Follows := by
  cases cs with
  | nil => exact List.IsChain.nil
  | cons d cs => exact (List.isChain_cons_cons.1 h).2

theorem latestRegime_between {cs : List Change} (h : cs.IsChain Change.Follows) {x u y : WallTime}
    (hxu : x.sinceEpoch ≤ u.sinceEpoch) (huy : u.sinceEpoch ≤ y.sinceEpoch)
    (hxy : y.sinceEpoch ≤ x.sinceEpoch + calmMicros) (r : Regime) :
    latestRegime r cs u = latestRegime r cs x ∨ latestRegime r cs u = latestRegime r cs y := by
  induction cs generalizing r with
  | nil => exact Or.inl rfl
  | cons c cs ih =>
    by_cases hx : c.point ≤ x.sinceEpoch
    · rw [latestRegime_of_begun hx, latestRegime_of_begun (Int.le_trans hx hxu),
        latestRegime_of_begun (Int.le_trans hx (Int.le_trans hxu huy))]
      exact ih (isChain_tail h) c.regime
    · by_cases hu : c.point ≤ u.sinceEpoch
      · -- the change falls between `x` and `u`, so the next one lies beyond `y`
        right
        rw [latestRegime_of_begun hu, latestRegime_of_begun (Int.le_trans hu huy),
          latestRegime_of_calm h (by omega), latestRegime_of_calm h (by omega)]
      · left
        rw [latestRegime_of_ahead (Int.not_le.1 hu), latestRegime_of_ahead (Int.not_le.1 hx)]

/-- Where the regime has changed, a change has begun. -/
theorem exists_change_between {r : Regime} {cs : List Change} {x y : WallTime}
    (hxy : x.sinceEpoch ≤ y.sinceEpoch) (h : latestRegime r cs x ≠ latestRegime r cs y) :
    ∃ c ∈ cs, x.sinceEpoch < c.point ∧ c.point ≤ y.sinceEpoch := by
  induction cs generalizing r with
  | nil => exact absurd rfl h
  | cons c cs ih =>
    by_cases hx : c.point ≤ x.sinceEpoch
    · rw [latestRegime_of_begun hx, latestRegime_of_begun (Int.le_trans hx hxy)] at h
      obtain ⟨d, hd, hbetween⟩ := ih h
      exact ⟨d, List.mem_cons_of_mem c hd, hbetween⟩
    · by_cases hy : c.point ≤ y.sinceEpoch
      · exact ⟨c, List.mem_cons_self, Int.not_le.1 hx, hy⟩
      · rw [latestRegime_of_ahead (Int.not_le.1 hx), latestRegime_of_ahead (Int.not_le.1 hy)] at h
        exact absurd rfl h

/-! ### Two days around a change -/

theorem mem_of_mem_turnsFrom {r s : Regime} {c : Change} {cs : List Change}
    (h : (s, c) ∈ Table.turnsFrom r cs) : c ∈ cs := by
  induction cs generalizing r with
  | nil => cases h
  | cons d cs ih =>
    rcases List.mem_cons.1 h with heq | hmem
    · rw [(Prod.mk.inj heq).2]
      exact List.mem_cons_self
    · exact List.mem_cons_of_mem d (ih hmem)

theorem moderate_of_mem_turnsFrom {r s : Regime} {c : Change} {cs : List Change} (hr : r.Moderate)
    (hcs : ∀ d ∈ cs, d.regime.Moderate) (h : (s, c) ∈ Table.turnsFrom r cs) : s.Moderate := by
  induction cs generalizing r with
  | nil => cases h
  | cons d cs ih =>
    rcases List.mem_cons.1 h with heq | hmem
    · rw [(Prod.mk.inj heq).1]
      exact hr
    · exact ih (hcs d List.mem_cons_self) (fun e he => hcs e (List.mem_cons_of_mem d he)) hmem

theorem latestRegime_before_turn {r s : Regime} {c : Change} {cs : List Change} {u : WallTime}
    (hcs : cs.IsChain Change.Follows) (h : (s, c) ∈ Table.turnsFrom r cs)
    (hlo : c.point - calmMicros ≤ u.sinceEpoch) (hhi : u.sinceEpoch < c.point) :
    latestRegime r cs u = s := by
  induction cs generalizing r with
  | nil => cases h
  | cons d cs ih =>
    rcases List.mem_cons.1 h with heq | hmem
    · obtain ⟨rfl, rfl⟩ := Prod.mk.inj heq
      exact latestRegime_of_ahead hhi
    · have hd := point_le_of_mem_spaced hcs (mem_of_mem_turnsFrom hmem)
      rw [latestRegime_of_begun (by omega)]
      exact ih (isChain_tail hcs) hmem

theorem latestRegime_after_turn {r s : Regime} {c : Change} {cs : List Change} {u : WallTime}
    (hcs : cs.IsChain Change.Follows) (h : (s, c) ∈ Table.turnsFrom r cs)
    (hlo : c.point ≤ u.sinceEpoch) (hhi : u.sinceEpoch < c.point + calmMicros) :
    latestRegime r cs u = c.regime := by
  induction cs generalizing r with
  | nil => cases h
  | cons d cs ih =>
    rcases List.mem_cons.1 h with heq | hmem
    · obtain ⟨rfl, rfl⟩ := Prod.mk.inj heq
      rw [latestRegime_of_begun hlo]
      exact latestRegime_of_calm hcs hhi
    · have hd := point_le_of_mem_spaced hcs (mem_of_mem_turnsFrom hmem)
      have hcalm : (0 : Int) ≤ calmMicros := by decide
      rw [latestRegime_of_begun (by omega)]
      exact ih (isChain_tail hcs) hmem

namespace Table

variable {t : Table} {r : Regime} {c : Change} {u w x y : WallTime}

theorem Regular.regimeAt_moderate (ht : t.Regular) (u : WallTime) : (t.regimeAt u).Moderate := by
  rcases latestRegime_eq_or_begun t.first t.changes u with heq | ⟨c, hc, -, heq⟩
  · rw [regimeAt, heq]
    exact ht.first
  · rw [regimeAt, heq]
    exact ht.changes c hc

/-- Of two points at most two days apart one has the regime of a point between them. -/
theorem Regular.regimeAt_between (ht : t.Regular) (hxu : x.sinceEpoch ≤ u.sinceEpoch)
    (huy : u.sinceEpoch ≤ y.sinceEpoch) (hxy : y.sinceEpoch ≤ x.sinceEpoch + calmMicros) :
    t.regimeAt u = t.regimeAt x ∨ t.regimeAt u = t.regimeAt y :=
  latestRegime_between ht.spaced hxu huy hxy t.first

/-- For two days before a change the regime is the one that it ends. -/
theorem Regular.regimeAt_before_turn (ht : t.Regular) (h : (r, c) ∈ t.turns)
    (hlo : c.point - calmMicros ≤ u.sinceEpoch) (hhi : u.sinceEpoch < c.point) :
    t.regimeAt u = r :=
  latestRegime_before_turn ht.spaced h hlo hhi

/-- For two days from a change on the regime is the one that it begins. -/
theorem Regular.regimeAt_after_turn (ht : t.Regular) (h : (r, c) ∈ t.turns)
    (hlo : c.point ≤ u.sinceEpoch) (hhi : u.sinceEpoch < c.point + calmMicros) :
    t.regimeAt u = c.regime :=
  latestRegime_after_turn ht.spaced h hlo hhi

/-- The regimes on both sides of a change are moderate. -/
theorem Regular.moderate_of_turn (ht : t.Regular) (h : (r, c) ∈ t.turns) :
    r.Moderate ∧ c.regime.Moderate :=
  ⟨moderate_of_mem_turnsFrom ht.first ht.changes h, ht.changes c (mem_of_mem_turnsFrom h)⟩

end Table

end CivilTime
