import CivilTime.Proofs.Zone.Folding
import CivilTime.Proofs.Zone.Localize

/-!
# The time line seen from a zone

A point of the time line has one wall-clock time in a zone. Placing a wall-clock time that the zone
shows at some point gives a point at which it is shown, and cutting a point to the millisecond or
the second cuts its wall-clock time alike.

* `Zone.Sound`: offsets shorter than a day, as all zones have that can be given.
* `Zone.Regular`: a sound zone whose table, if it has one, is regular; where the earlier reading is
  taken it must be gentle too.
* `Zone.table?`, `Zone.constantOffset?`: the table of a zone, and the one offset of a zone without
  changes; `exists_table` says that a zone has one of them.
* `Zone.WholeMillis`, `Zone.WholeSeconds`: offsets of whole milliseconds, and of whole seconds.
* `toOffsetTime_eq_ok`: what a zone shows at a point.
* `localize_of_shown`: a time that is shown is placed where it is shown.
* `toOffsetTime_startOf`: cutting to a part of a second; `toOffsetTime_floor`: to the millisecond.
-/

namespace CivilTime

/-- Whether an offset in minutes is shorter than a day. -/
def ShortMinutes (n : Int) : Prop := -1440 < n ∧ n < 1440

instance (n : Int) : Decidable (ShortMinutes n) := by unfold ShortMinutes; infer_instance

theorem isOffset_iff {n : Int} : isOffset n = true ↔ n.natAbs < dayMicros := decide_eq_true_iff

theorem ShortMinutes.isOffset_micros {n : Int} (h : ShortMinutes n) :
    isOffset (n * minuteMicros) = true := by
  obtain ⟨hlo, hhi⟩ := h
  rw [isOffset_iff]
  simp only [minuteMicros, dayMicros]
  omega

/-- Whether the offset of a regime is shorter than a day. -/
def Regime.Short (r : Regime) : Prop := -86_400 < r.offset ∧ r.offset < 86_400

instance (r : Regime) : Decidable r.Short := by unfold Regime.Short; infer_instance

theorem Regime.Short.isOffset_micros {r : Regime} (h : r.Short) : isOffset r.micros = true := by
  obtain ⟨hlo, hhi⟩ := h
  rw [isOffset_iff]
  simp only [Regime.micros, secondMicros, dayMicros]
  omega

theorem Regime.Moderate.short {r : Regime} (h : r.Moderate) : r.Short := by
  obtain ⟨hlo, hhi⟩ := h
  exact ⟨by omega, by omega⟩

/-- Whether the offsets of a table are shorter than a day. -/
def Table.Short (t : Table) : Prop := t.first.Short ∧ ∀ c ∈ t.changes, c.regime.Short

instance (t : Table) : Decidable t.Short := by unfold Table.Short; infer_instance

theorem Table.Regular.short {t : Table} (h : t.Regular) : t.Short :=
  ⟨h.first.short, fun c hc => (h.changes c hc).short⟩

theorem Table.Short.regimeAt_short {t : Table} (h : t.Short) (u : WallTime) :
    (t.regimeAt u).Short := by
  rcases latestRegime_eq_or_begun t.first t.changes u with heq | ⟨c, hc, -, heq⟩
  · rw [regimeAt, heq]
    exact h.1
  · rw [regimeAt, heq]
    exact h.2 c hc

namespace Zone

/-- Offsets shorter than a day. -/
def Sound : Zone → Prop
  | .universal => True
  | .fixed n | .named _ (.constant n) => ShortMinutes n
  | .standard n => isOffset n = true
  | .folding _ t | .named _ (.table t) => t.Short

/-- Offsets shorter than a day, and a regular table where there is one. -/
def Regular : Zone → Prop
  | .folding _ t => t.Gentle
  | .named _ (.table t) => t.Regular
  | z => z.Sound

/-- Offsets of whole milliseconds. -/
def WholeMillis : Zone → Prop
  | .standard n => n % 1000 = 0
  | _ => True

/-- Offsets of whole seconds. -/
def WholeSeconds : Zone → Prop
  | .standard n => n % secondMicros = 0
  | _ => True

instance (z : Zone) : Decidable z.Sound := by
  unfold Sound
  split <;> infer_instance

instance (z : Zone) : Decidable z.Regular := by
  unfold Regular
  split <;> infer_instance

instance (z : Zone) : Decidable z.WholeMillis := by
  unfold WholeMillis
  split <;> infer_instance

instance (z : Zone) : Decidable z.WholeSeconds := by
  unfold WholeSeconds
  split <;> infer_instance

variable {z : Zone} {t : OffsetTime} {point : Int}

/-- The offsets of a sound zone are shorter than a day. -/
theorem Sound.isOffset_offsetAt (hz : z.Sound) (u : WallTime) : isOffset (z.offsetAt u) = true := by
  cases z with
  | universal => rfl
  | fixed n => exact ShortMinutes.isOffset_micros hz
  | standard n => exact hz
  | folding name t => exact (Table.Short.regimeAt_short hz u).isOffset_micros
  | named name rules =>
    cases rules with
    | constant n => exact ShortMinutes.isOffset_micros hz
    | table t => exact (Table.Short.regimeAt_short hz u).isOffset_micros

/-- A regular zone is sound. -/
theorem Regular.sound (hz : z.Regular) : z.Sound := by
  cases z with
  | folding name t => exact Table.Regular.short (Table.Gentle.regular hz)
  | named name rules =>
    cases rules with
    | constant n => exact hz
    | table t => exact Table.Regular.short hz
  | _ => exact hz

/-- A unit that goes into the second goes into all offsets, if it goes into the standard ones. -/
theorem offsetAt_dvd {n : Nat} (hn : n ∣ secondMicros)
    (hstandard : ∀ offset, z = .standard offset → (n : Int) ∣ offset) (u : WallTime) :
    (n : Int) ∣ z.offsetAt u := by
  have hseconds : ∀ k : Int, (n : Int) ∣ k * secondMicros :=
    fun k => Int.dvd_mul_of_dvd_right (Int.natCast_dvd_natCast.2 hn)
  have hminutes : ∀ k : Int, (n : Int) ∣ k * minuteMicros := fun k =>
    Int.dvd_mul_of_dvd_right (Int.natCast_dvd_natCast.2 (Nat.dvd_trans hn (by decide)))
  cases z with
  | universal => exact Int.dvd_zero _
  | fixed k => exact hminutes k
  | standard offset => exact hstandard offset rfl
  | folding name t => exact hseconds (t.regimeAt u).offset
  | named name rules =>
    cases rules with
    | constant k => exact hminutes k
    | table t => exact hseconds (t.regimeAt u).offset

/-- The offsets of a zone of whole milliseconds are whole milliseconds. -/
theorem WholeMillis.offsetAt_mod (hz : z.WholeMillis) (u : WallTime) : z.offsetAt u % 1000 = 0 := by
  apply Int.emod_eq_zero_of_dvd
  apply offsetAt_dvd (n := 1000) (by decide)
  rintro offset rfl
  exact Int.dvd_of_emod_eq_zero hz

/-- The offsets of a zone of whole seconds are whole seconds. -/
theorem WholeSeconds.offsetAt_dvd (hz : z.WholeSeconds) (u : WallTime) :
    (secondMicros : Int) ∣ z.offsetAt u := by
  apply Zone.offsetAt_dvd (by decide)
  rintro offset rfl
  exact Int.dvd_of_emod_eq_zero hz

/-! ### What a zone shows -/

/-- What a zone shows at a point: the universal time moved by the offset in force. -/
theorem toOffsetTime_eq_ok : z.toOffsetTime point = .ok t ↔
    ∃ u : WallTime, u.sinceEpoch = point ∧ t.offset = z.offsetAt u ∧
      t.wall.sinceEpoch = point + t.offset := by
  rw [toOffsetTime, bind_eq_ok]
  constructor
  · rintro ⟨u, hu, h⟩
    obtain ⟨w, hw, h⟩ := bind_eq_ok.1 h
    obtain rfl := Except.ok.inj h
    rw [WallTime.ofEpoch_eq_ok] at hu
    rw [WallTime.shift_eq_ok_iff_sinceEpoch, hu] at hw
    exact ⟨u, hu, rfl, hw⟩
  · rintro ⟨u, hu, hoffset, hwall⟩
    refine ⟨u, WallTime.ofEpoch_eq_ok.2 hu, bind_eq_ok.2 ⟨t.wall, ?_, ?_⟩⟩
    · rw [WallTime.shift_eq_ok_iff_sinceEpoch, hu, ← hoffset, hwall]
    · rw [← hoffset]
      rfl

/-- A time with its offset stands for the point at which it is shown. -/
theorem sinceEpoch_of_toOffsetTime (h : z.toOffsetTime point = .ok t) : t.sinceEpoch = point := by
  obtain ⟨u, -, -, hwall⟩ := toOffsetTime_eq_ok.1 h
  rw [OffsetTime.sinceEpoch, hwall]
  omega

/-- So a zone shows it there. -/
theorem toOffsetTime_self (h : z.toOffsetTime point = .ok t) :
    z.toOffsetTime t.sinceEpoch = .ok t := by
  rw [sinceEpoch_of_toOffsetTime h]
  exact h

/-- The table of a zone. -/
def table? : Zone → Option Table
  | .folding _ t | .named _ (.table t) => some t
  | _ => none

/-- Whether the readings of a time are sought in the table of a zone. -/
def Searched : Zone → Prop
  | .named _ (.table _) => True
  | _ => False

variable {table : Table}

/-- The table of a regular zone is regular. -/
theorem Regular.regular_table (hz : z.Regular) (h : z.table? = some table) : table.Regular := by
  cases z with
  | folding name t =>
    obtain rfl := Option.some.inj h
    exact Table.Gentle.regular hz
  | named name rules =>
    cases rules with
    | constant n => cases h
    | table t =>
      obtain rfl := Option.some.inj h
      exact hz
  | _ => cases h

/-- A table in which readings are not sought is one of which the earlier reading is taken. -/
theorem Regular.gentle (hz : z.Regular) (hs : ¬ z.Searched) (h : z.table? = some table) :
    table.Gentle ∧ ∀ w, z.localize w = table.settle w := by
  cases z with
  | folding name t =>
    obtain rfl := Option.some.inj h
    exact ⟨hz, fun _ => rfl⟩
  | named name rules =>
    cases rules with
    | constant n => cases h
    | table t => exact absurd trivial hs
  | _ => cases h

/-- Where readings are sought there is a table. -/
theorem Searched.exists_table (hs : z.Searched) :
    ∃ name table, z = .named name (.table table) := by
  cases z with
  | named name rules =>
    cases rules with
    | constant n => exact False.elim hs
    | table t => exact ⟨name, t, rfl⟩
  | _ => exact False.elim hs

theorem offsetAt_of_table (h : z.table? = some table) (u : WallTime) :
    z.offsetAt u = (table.regimeAt u).micros := by
  cases z with
  | folding name t =>
    obtain rfl := Option.some.inj h
    rfl
  | named name rules =>
    cases rules with
    | constant n => cases h
    | table t =>
      obtain rfl := Option.some.inj h
      rfl
  | _ => cases h

/-- What a table shows is read by the regime in force. -/
theorem readBy_of_toOffsetTime (hz : z.table? = some table) (h : z.toOffsetTime point = .ok t) :
    ∃ r, table.ReadBy t.wall r ∧ t.offset = r.micros := by
  obtain ⟨u, hu, hoffset, hwall⟩ := toOffsetTime_eq_ok.1 h
  rw [offsetAt_of_table hz] at hoffset
  exact ⟨table.regimeAt u, ⟨u, by omega, rfl⟩, hoffset⟩

/-- A table shows a time under each regime that reads it. -/
theorem toOffsetTime_of_readBy {w : WallTime} {r : Regime} (hz : z.table? = some table)
    (h : table.ReadBy w r) :
    z.toOffsetTime (OffsetTime.mk w r.micros).sinceEpoch = .ok ⟨w, r.micros⟩ := by
  obtain ⟨u, hu, rfl⟩ := h
  refine toOffsetTime_eq_ok.2 ⟨u, hu, (offsetAt_of_table hz u).symm, ?_⟩
  show w.sinceEpoch = w.sinceEpoch - (table.regimeAt u).micros + (table.regimeAt u).micros
  omega

/-! ### From the wall clock to the time line -/

/-- The offset of a zone that has one for ever. -/
def constantOffset? : Zone → Option Int
  | .universal => some 0
  | .fixed n | .named _ (.constant n) => some (n * minuteMicros)
  | .standard n => some n
  | .folding _ ⟨r, []⟩ => some r.micros
  | .folding _ ⟨_, _ :: _⟩ | .named _ (.table _) => none

/-- A zone without such an offset has a table. -/
theorem exists_table (hc : z.constantOffset? = none) : ∃ table, z.table? = some table := by
  cases z with
  | folding name t => exact ⟨t, rfl⟩
  | named name rules =>
    cases rules with
    | constant n => cases hc
    | table t => exact ⟨t, rfl⟩
  | _ => cases hc

/-- Where readings are sought there may be more than one offset. -/
theorem Searched.constantOffset? (hs : z.Searched) : z.constantOffset? = none := by
  obtain ⟨name, table, rfl⟩ := hs.exists_table
  rfl

theorem offsetAt_of_constant {offset : Int} (h : z.constantOffset? = some offset) (u : WallTime) :
    z.offsetAt u = offset := by
  cases z with
  | folding name t =>
    obtain ⟨first, changes⟩ := t
    cases changes with
    | nil => exact Option.some.inj h
    | cons c cs => cases h
  | named name rules =>
    cases rules with
    | constant n => exact Option.some.inj h
    | table t => cases h
  | _ => exact Option.some.inj h

/-- The one offset of a sound zone is shorter than a day. -/
theorem Sound.isOffset_of_constant {offset : Int} (hz : z.Sound)
    (hc : z.constantOffset? = some offset) : isOffset offset = true := by
  rw [← offsetAt_of_constant hc ⟨0, by decide⟩]
  exact hz.isOffset_offsetAt _

/-- A constant offset is attached to a time whose universal time lies in the calendar. -/
theorem localize_of_constant {offset : Int} {w u : WallTime} (h : z.constantOffset? = some offset)
    (hu : w.shift (-offset) = .ok u) : z.localize w = .ok ⟨w, offset⟩ := by
  have hanchored : anchored w offset = .ok ⟨w, offset⟩ := by
    rw [anchored, bind_of_ok hu]
    rfl
  cases z with
  | standard n =>
    obtain rfl := Option.some.inj h
    exact hanchored
  | folding name t =>
    obtain ⟨first, changes⟩ := t
    cases changes with
    | nil =>
      obtain rfl := Option.some.inj h
      exact (Table.settle_of_constant first w).trans hanchored
    | cons c cs => cases h
  | universal => rw [← Option.some.inj h]; rfl
  | fixed n => rw [← Option.some.inj h]; rfl
  | named name rules =>
    cases rules with
    | constant n => rw [← Option.some.inj h]; rfl
    | table t => cases h

theorem localize_table {name : String} {w : WallTime} {r : Regime}
    (h : table.localize w = .ok r) :
    (Zone.named name (.table table)).localize w = .ok ⟨w, r.micros⟩ := by
  rw [localize, bind_of_ok h]
  rfl

/-- A time that a table reads is placed as it is, under a regime that reads it. -/
theorem localize_of_readBy {w : WallTime} {r : Regime} (hz : z.Regular)
    (htable : z.table? = some table) (hw : w.Clear (3 * dayMicros)) (hr : table.ReadBy w r) :
    ∃ s, z.localize w = .ok ⟨w, s.micros⟩ ∧ table.ReadBy w s := by
  by_cases hs : z.Searched
  · obtain ⟨name, t, rfl⟩ := hs.exists_table
    obtain rfl := Option.some.inj htable
    have hclear : w.Clear (32 * hourMicros) :=
      hw.mono (by simp only [dayMicros, hourMicros]; omega)
    obtain ⟨s, hs, hread⟩ := Table.localize_of_readBy hz hclear hr
    exact ⟨s, localize_table hs, hread⟩
  · obtain ⟨hgentle, hlocalize⟩ := hz.gentle hs htable
    obtain ⟨o, ho⟩ := Table.exists_settle hgentle.regular hw
    obtain ⟨rfl, hread⟩ := Table.eq_of_settle_of_readBy hgentle.regular ho hr
    exact ⟨_, (hlocalize w).trans ho, hread⟩

/-- A wall-clock time that a zone shows is placed at a point at which it is shown. -/
theorem localize_of_shown {w : WallTime} (hz : z.Regular) (hw : w.Clear (3 * dayMicros))
    (h : ∃ point t, z.toOffsetTime point = .ok t ∧ t.wall = w) :
    ∃ t, z.localize w = .ok t ∧ t.wall = w ∧ z.toOffsetTime t.sinceEpoch = .ok t := by
  obtain ⟨point, t, ht, rfl⟩ := h
  cases hc : z.constantOffset? with
  | some offset =>
    obtain ⟨u, hu, hoffset, hwall⟩ := toOffsetTime_eq_ok.1 ht
    rw [offsetAt_of_constant hc] at hoffset
    have hback : t.wall.shift (-offset) = .ok u := by
      rw [WallTime.shift_eq_ok_iff_sinceEpoch]
      omega
    have hself := toOffsetTime_self ht
    subst hoffset
    exact ⟨t, localize_of_constant hc hback, rfl, hself⟩
  | none =>
    obtain ⟨table, htable⟩ := exists_table hc
    obtain ⟨r, hr, -⟩ := readBy_of_toOffsetTime htable ht
    obtain ⟨s, hs, hread⟩ := localize_of_readBy hz htable hw hr
    exact ⟨⟨t.wall, s.micros⟩, hs, rfl, toOffsetTime_of_readBy htable hread⟩

end Zone

/-! ### Parts of a second -/

/-- Changes take place at whole seconds, so cutting a point to a part of a second crosses none. -/
theorem latestRegime_startOf {n : Nat} (hn : n ∣ secondMicros) (r : Regime) (cs : List Change)
    (u : WallTime) : latestRegime r cs (u.startOf n) = latestRegime r cs u := by
  induction cs generalizing r with
  | nil => rfl
  | cons c cs ih =>
    have hpoint : c.point ≤ (u.startOf n).sinceEpoch ↔ c.point ≤ u.sinceEpoch := by
      have hpos : (0 : Int) < n := Int.natCast_pos.2 (Nat.pos_of_dvd_of_pos hn (by decide))
      obtain ⟨k, hk⟩ := Int.dvd_mul_of_dvd_right (b := c.start) (Int.natCast_dvd_natCast.2 hn)
      rw [Change.point, hk, u.sinceEpoch_startOf hn, Int.mul_comm _ (n : Int),
        Int.mul_le_mul_left hpos, Int.le_ediv_iff_mul_le hpos, Int.mul_comm k]
    by_cases h : c.point ≤ u.sinceEpoch
    · rw [latestRegime_of_begun h, latestRegime_of_begun (hpoint.2 h)]
      exact ih c.regime
    · rw [latestRegime_of_ahead (Int.not_le.1 h),
        latestRegime_of_ahead (Int.not_le.1 (mt hpoint.1 h))]

namespace Zone

variable {z : Zone} {t : OffsetTime} {point : Int} {n : Nat}

theorem offsetAt_startOf (hn : n ∣ secondMicros) (z : Zone) (u : WallTime) :
    z.offsetAt (u.startOf n) = z.offsetAt u := by
  cases hc : z.constantOffset? with
  | some offset => rw [offsetAt_of_constant hc, offsetAt_of_constant hc]
  | none =>
    obtain ⟨t, ht⟩ := exists_table hc
    rw [offsetAt_of_table ht, offsetAt_of_table ht, Table.regimeAt, latestRegime_startOf hn]
    rfl

/-- At a point cut to a part of a second a zone shows its wall-clock time cut alike, if the offset
is made of such parts. -/
theorem toOffsetTime_startOf (hn : n ∣ secondMicros) (hoffset : (n : Int) ∣ t.offset)
    (h : z.toOffsetTime point = .ok t) :
    z.toOffsetTime (point / n * n) = .ok ⟨t.wall.startOf n, t.offset⟩ := by
  obtain ⟨u, hu, heq, hwall⟩ := toOffsetTime_eq_ok.1 h
  refine toOffsetTime_eq_ok.2 ⟨u.startOf n, ?_, ?_, ?_⟩
  · rw [u.sinceEpoch_startOf hn, hu]
  · rw [offsetAt_startOf hn]
    exact heq
  · show (t.wall.startOf n).sinceEpoch = point / n * n + t.offset
    rw [t.wall.sinceEpoch_startOf hn, hwall, Int.add_ediv_of_dvd_right hoffset, Int.add_mul,
      Int.ediv_mul_cancel hoffset]

/-- At a point cut to the millisecond a zone shows its wall-clock time cut to the millisecond. -/
theorem toOffsetTime_floor (hz : z.WholeMillis) (h : z.toOffsetTime point = .ok t) :
    z.toOffsetTime (point / 1000 * 1000) = .ok ⟨t.wall.floorMillis, t.offset⟩ := by
  obtain ⟨u, -, hoffset, -⟩ := toOffsetTime_eq_ok.1 h
  have hmod := hz.offsetAt_mod u
  rw [← hoffset] at hmod
  rw [WallTime.floorMillis_eq]
  exact toOffsetTime_startOf (by decide) (Int.dvd_of_emod_eq_zero hmod) h

end Zone

end CivilTime
