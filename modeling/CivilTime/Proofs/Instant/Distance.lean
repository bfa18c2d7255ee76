import CivilTime.Instant.Duration
import Mathlib.Data.Rat.Floor

/-!
# The distance of two instants

The distance of two instants is told in milliseconds, seconds, minutes or hours. A coarser unit rounds
up what the finer one has already rounded up, and that is the same as rounding once: a count covers a
span if its units reach as far, and the least count that does is found in one step or in several.

* `coveringUnits_le_iff`: the whole units that cover a span are the fewest that reach as far.
* `coveringUnits_coveringUnits`: rounding up to one unit and then to a larger one.
* `coveringUnits_eq_ceil`: the same as a quotient of rational numbers, rounded up.
* `IsDistance`: symmetry, distinction of unequal instants, and the triangle inequality;
  `isDistance_coveringUnits` says that rounding up keeps them.
* `differ_roundsOnce`: the distance in each unit.
-/

namespace CivilTime

variable {m n k : Int} {unit : Nat}

/-! ### Covering units -/

/-- A count of units covers a span exactly if it is not below the covering one. -/
theorem coveringUnits_le_iff (hunit : 0 < unit) :
    coveringUnits n unit ≤ k ↔ n ≤ k * unit := by
  have hpos : (0 : Int) < unit := Int.natCast_pos.2 hunit
  have hfloor := Int.le_ediv_iff_mul_le (a := -k) (b := -n) hpos
  rw [Int.neg_mul] at hfloor
  unfold coveringUnits
  omega

theorem le_coveringUnits_mul (n : Int) (hunit : 0 < unit) : n ≤ coveringUnits n unit * unit :=
  (coveringUnits_le_iff hunit).1 (Int.le_refl _)

theorem coveringUnits_mono (hunit : 0 < unit) (h : m ≤ n) :
    coveringUnits m unit ≤ coveringUnits n unit :=
  (coveringUnits_le_iff hunit).2 (h.trans (le_coveringUnits_mul n hunit))

/-- Two spans in a row are covered by what covers each of them. -/
theorem coveringUnits_add_le (m n : Int) (hunit : 0 < unit) :
    coveringUnits (m + n) unit ≤ coveringUnits m unit + coveringUnits n unit := by
  rw [coveringUnits_le_iff hunit, Int.add_mul]
  exact Int.add_le_add (le_coveringUnits_mul m hunit) (le_coveringUnits_mul n hunit)

/-- Only a span of length zero is covered by no unit. -/
theorem coveringUnits_eq_zero_iff (hunit : 0 < unit) (hn : 0 ≤ n) :
    coveringUnits n unit = 0 ↔ n = 0 := by
  constructor
  · intro h
    have hle := le_coveringUnits_mul n hunit
    rw [h, Int.zero_mul] at hle
    exact Int.le_antisymm hle hn
  · rintro rfl
    simp [coveringUnits]

/-- Rounding up to a unit and then to a multiple of it is rounding up to the multiple. -/
theorem coveringUnits_coveringUnits (n : Int) (unit count : Nat) :
    coveringUnits (coveringUnits n unit) count = coveringUnits n (unit * count) := by
  simp only [coveringUnits, Int.neg_neg]
  rw [Int.ediv_ediv_of_nonneg (Int.natCast_nonneg unit), Int.natCast_mul]

theorem coveringUnits_eq_ceil (n : Int) (unit : Nat) :
    coveringUnits n unit = ⌈(n : ℚ) / unit⌉ :=
  (Rat.ceil_intCast_div_natCast n unit).symm

/-! ### Distances -/

/-- Whether a function of two instants behaves as a distance. -/
structure IsDistance (d : Instant → Instant → Int) : Prop where
  symm : ∀ a b, d a b = d b a
  eq_zero_iff : ∀ a b, d a b = 0 ↔ a = b
  triangle : ∀ a b c, d a c ≤ d a b + d b c

theorem distance_nonneg (a b : Instant) : 0 ≤ distance a b := Int.natCast_nonneg _

theorem distance_eq_abs (a b : Instant) : distance a b = |a.millis - b.millis| :=
  (Int.abs_eq_natAbs _).symm

theorem isDistance_distance : IsDistance distance := by
  refine ⟨?_, ?_, ?_⟩
  · intro a b
    rw [distance_eq_abs, distance_eq_abs, abs_sub_comm]
  · intro a b
    rw [distance_eq_abs, abs_eq_zero, sub_eq_zero]
    exact (Instant.mk.injEq a.millis b.millis).symm.to_iff
  · intro a b c
    rw [distance_eq_abs, distance_eq_abs, distance_eq_abs]
    exact abs_sub_le _ _ _

/-- A distance that is rounded up is one. -/
theorem isDistance_coveringUnits (hunit : 0 < unit) :
    IsDistance fun a b => coveringUnits (distance a b) unit := by
  refine ⟨?_, ?_, ?_⟩
  · intro a b
    show coveringUnits (distance a b) unit = coveringUnits (distance b a) unit
    rw [isDistance_distance.symm]
  · intro a b
    show coveringUnits (distance a b) unit = 0 ↔ a = b
    rw [coveringUnits_eq_zero_iff hunit (distance_nonneg a b), isDistance_distance.eq_zero_iff]
  · intro a b c
    calc coveringUnits (distance a c) unit
        ≤ coveringUnits (distance a b + distance b c) unit :=
          coveringUnits_mono hunit (isDistance_distance.triangle a b c)
      _ ≤ coveringUnits (distance a b) unit + coveringUnits (distance b c) unit :=
          coveringUnits_add_le _ _ hunit

theorem differMinutes_eq (a b : Instant) :
    differMinutes (some a) (some b) = coveringUnits (distance a b) minuteMillis :=
  coveringUnits_coveringUnits (distance a b) secondMillis 60

theorem differHours_eq (a b : Instant) :
    differHours (some a) (some b) = coveringUnits (distance a b) hourMillis := by
  show coveringUnits (differMinutes (some a) (some b)) 60 = _
  rw [differMinutes_eq]
  exact coveringUnits_coveringUnits (distance a b) minuteMillis 60

/-- The distance of two instants in seconds, minutes and hours is the distance in milliseconds, rounded
up once. In each unit, milliseconds included, it is symmetric, is zero only for equal instants, and is
never longer than by way of a third instant. -/
theorem differ_roundsOnce :
    (∀ a b : Instant,
      differ (some a) (some b) = .ok |a.millis - b.millis| ∧
      differSeconds (some a) (some b) = ⌈(|a.millis - b.millis| : ℚ) / 1000⌉ ∧
      differMinutes (some a) (some b) = ⌈(|a.millis - b.millis| : ℚ) / 60_000⌉ ∧
      differHours (some a) (some b) = ⌈(|a.millis - b.millis| : ℚ) / 3_600_000⌉) ∧
    (∃ d, (∀ a b, differ (some a) (some b) = .ok (d a b)) ∧ IsDistance d) ∧
    IsDistance (fun a b => differSeconds (some a) (some b)) ∧
    IsDistance (fun a b => differMinutes (some a) (some b)) ∧
    IsDistance (fun a b => differHours (some a) (some b)) := by
  refine ⟨?_, ⟨distance, fun a b => rfl, isDistance_distance⟩, ?_, ?_, ?_⟩
  · intro a b
    have hcast : (|a.millis - b.millis| : ℚ) = (distance a b : Int) := by
      rw [distance_eq_abs, Int.cast_abs, Int.cast_sub]
    refine ⟨congrArg Except.ok (distance_eq_abs a b), ?_, ?_, ?_⟩
    · rw [hcast]
      exact coveringUnits_eq_ceil (distance a b) secondMillis
    · rw [hcast, differMinutes_eq]
      exact coveringUnits_eq_ceil (distance a b) minuteMillis
    · rw [hcast, differHours_eq]
      exact coveringUnits_eq_ceil (distance a b) hourMillis
  · show IsDistance fun a b => coveringUnits (distance a b) secondMillis
    exact isDistance_coveringUnits (by decide)
  · simp only [differMinutes_eq]
    exact isDistance_coveringUnits (by decide)
  · simp only [differHours_eq]
    exact isDistance_coveringUnits (by decide)

/-- A millisecond more than an hour takes a second hour. -/
example : differHours (some ⟨0⟩) (some ⟨-3_600_001⟩) = 2 := by decide

end CivilTime
