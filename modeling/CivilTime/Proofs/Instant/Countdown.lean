import CivilTime.Instant.Navigation
import CivilTime.Proofs.Instant.Distance
import CivilTime.Proofs.Instant.Duration

/-!
# Counting down

What is left of an interval is told in whole seconds, and the time that has passed is rounded toward
zero. So what is left is rounded up once the interval has begun, and down before. At the beginning the
two meet, and the count goes down across it as it does on either side.

* `Instant.due`: the instant at which an interval is over.
* `remainingSeconds_of_begun`, `remainingSeconds_of_ahead`: the two ways of rounding.
* `remainingSeconds_antitone`: later, no more is left.
* `lt_remainingSeconds_iff`: when more than some seconds are left; `remainingSeconds_pos_iff` and
  `remainingSeconds_neg_iff`: when something is left, and when the interval has been over for a second.
* `remainingSeconds_later`: the count depends on the time that has passed alone.
* `remainingSeconds_countdown`: all this together.
-/

namespace CivilTime

variable {m k : Int} {unit : Nat} {base now later : Instant} {interval : Int}

theorem wholeUnits_of_nonneg (h : 0 ≤ m) : wholeUnits m unit = m / unit :=
  Int.tdiv_eq_ediv_of_nonneg h

theorem wholeUnits_of_nonpos (h : m ≤ 0) : wholeUnits m unit = coveringUnits m unit := by
  have hneg := wholeUnits_neg (-m) unit
  rw [Int.neg_neg, wholeUnits_of_nonneg (Int.neg_nonneg.2 h)] at hneg
  exact hneg

theorem wholeUnits_mono {n : Int} (hunit : 0 < unit) (h : m ≤ n) :
    wholeUnits m unit ≤ wholeUnits n unit :=
  Int.tdiv_le_tdiv (Int.natCast_pos.2 hunit) h

/-- The instant at which an interval of seconds is over. -/
def Instant.due (base : Instant) (interval : Int) : Instant := base.later (secondMillis * interval)

/-- Once an interval has begun, what is left of it is rounded up. -/
theorem remainingSeconds_of_begun (h : base.millis ≤ now.millis) :
    remainingSeconds (some base) interval now
      = coveringUnits ((base.due interval).millis - now.millis) secondMillis := by
  show interval - wholeUnits (now.millis - base.millis) secondMillis = _
  rw [wholeUnits_of_nonneg (Int.sub_nonneg.2 h)]
  simp only [coveringUnits, Instant.due, Instant.later, secondMillis]
  omega

/-- Before an interval has begun, what is left until its end is rounded down. -/
theorem remainingSeconds_of_ahead (h : now.millis ≤ base.millis) :
    remainingSeconds (some base) interval now
      = ((base.due interval).millis - now.millis) / secondMillis := by
  show interval - wholeUnits (now.millis - base.millis) secondMillis = _
  rw [wholeUnits_of_nonpos (Int.sub_nonpos_of_le h)]
  simp only [coveringUnits, Instant.due, Instant.later, secondMillis]
  omega

/-- Later, no more is left, whether or not the interval begins in between. -/
theorem remainingSeconds_antitone (h : now.millis ≤ later.millis) :
    remainingSeconds (some base) interval later ≤ remainingSeconds (some base) interval now := by
  have hpassed : wholeUnits (now.millis - base.millis) secondMillis
      ≤ wholeUnits (later.millis - base.millis) secondMillis :=
    wholeUnits_mono (by decide) (Int.sub_le_sub_right h base.millis)
  exact Int.sub_le_sub_left hpassed interval

/-- More than some seconds are left exactly as long as the interval less these seconds is not over. It
must not be over before it begins, where the count is rounded down. -/
theorem lt_remainingSeconds_iff (h : k < interval) :
    k < remainingSeconds (some base) interval now ↔
      now.millis < (base.due (interval - k)).millis := by
  rcases Int.le_total base.millis now.millis with hbegun | hahead
  · rw [remainingSeconds_of_begun hbegun]
    simp only [coveringUnits, Instant.due, Instant.later, secondMillis]
    omega
  · rw [remainingSeconds_of_ahead hahead]
    simp only [Instant.due, Instant.later, secondMillis]
    omega

/-- Something is left of an interval of a second or more exactly as long as it is not over. -/
theorem remainingSeconds_pos_iff (hinterval : 1 ≤ interval) :
    0 < remainingSeconds (some base) interval now ↔ now.millis < (base.due interval).millis := by
  rw [lt_remainingSeconds_iff (by omega), Int.sub_zero]

/-- The count falls below zero a second after the interval is over. This does not hold of a negative
length. -/
theorem remainingSeconds_neg_iff (hinterval : 0 ≤ interval) :
    remainingSeconds (some base) interval now < 0 ↔
      (base.due interval).millis + 1000 ≤ now.millis := by
  have hmore : -1 < remainingSeconds (some base) interval now ↔
      now.millis < (base.due (interval + 1)).millis := lt_remainingSeconds_iff (by omega)
  have hdue : (base.due (interval + 1)).millis = (base.due interval).millis + 1000 := by
    simp only [Instant.due, Instant.later, secondMillis]
    omega
  omega

/-- What is left depends on the time since the beginning alone. -/
theorem remainingSeconds_later (base now : Instant) (interval k : Int) :
    remainingSeconds (some (base.later k)) interval (now.later k)
      = remainingSeconds (some base) interval now := by
  have hpassed : now.millis + k - (base.millis + k) = now.millis - base.millis := by omega
  show interval - Measure.seconds.of (now.millis + k - (base.millis + k)) = _
  rw [hpassed]
  rfl

/-- What is left of an interval is the time until its end in seconds, rounded up from its beginning on
and down before. It never gets more as time goes on. For an interval of a second or more it is positive
exactly until the end, and negative exactly from a second after the end on. It stays the same when the
beginning and the present instant are moved together. -/
theorem remainingSeconds_countdown (base : Instant) (interval : Int) :
    (∀ now : Instant,
      (base.millis ≤ now.millis → remainingSeconds (some base) interval now
        = ⌈(((base.millis + 1000 * interval - now.millis : Int) : ℚ) / 1000)⌉) ∧
      (now.millis < base.millis → remainingSeconds (some base) interval now
        = ⌊(((base.millis + 1000 * interval - now.millis : Int) : ℚ) / 1000)⌋)) ∧
    (∀ now later : Instant, now.millis ≤ later.millis →
      remainingSeconds (some base) interval later ≤ remainingSeconds (some base) interval now) ∧
    (1 ≤ interval → ∀ now : Instant,
      (0 < remainingSeconds (some base) interval now
        ↔ now.millis < base.millis + 1000 * interval) ∧
      (remainingSeconds (some base) interval now < 0
        ↔ base.millis + 1000 * interval + 1000 ≤ now.millis)) ∧
    ∀ (k : Int) (now : Instant),
      remainingSeconds (some ⟨base.millis + k⟩) interval ⟨now.millis + k⟩
        = remainingSeconds (some base) interval now := by
  refine ⟨?_, ?_, ?_, ?_⟩
  · intro now
    constructor
    · intro h
      rw [remainingSeconds_of_begun h]
      exact coveringUnits_eq_ceil _ secondMillis
    · intro h
      rw [remainingSeconds_of_ahead (Int.le_of_lt h)]
      exact (Rat.floor_intCast_div_natCast _ secondMillis).symm
  · intro now later h
    exact remainingSeconds_antitone h
  · intro h now
    exact ⟨remainingSeconds_pos_iff h, remainingSeconds_neg_iff (by omega)⟩
  · intro k now
    exact remainingSeconds_later base now interval k

/-- An interval of ten seconds that begins in a second and a half: eleven seconds are left of it, and
something is left to its last millisecond. Half a second after its end none is left, and the count is
below zero when the second is full. -/
theorem remainingSeconds_countdown_tenSeconds :
    remainingSeconds (some ⟨1500⟩) 10 ⟨0⟩ = ⌊((11_500 : Int) : ℚ) / 1000⌋ ∧
      remainingSeconds (some ⟨1500⟩) 10 ⟨12_000⟩ = ⌈((-500 : Int) : ℚ) / 1000⌉ ∧
      remainingSeconds (some ⟨1500⟩) 10 ⟨12_000⟩ ≤ remainingSeconds (some ⟨1500⟩) 10 ⟨0⟩ ∧
      0 < remainingSeconds (some ⟨1500⟩) 10 ⟨11_499⟩ ∧
      ¬ remainingSeconds (some ⟨1500⟩) 10 ⟨12_499⟩ < 0 ∧
      remainingSeconds (some ⟨1500⟩) 10 ⟨12_500⟩ < 0 ∧
      remainingSeconds (some ⟨2000⟩) 10 ⟨500⟩ = remainingSeconds (some ⟨1500⟩) 10 ⟨0⟩ := by
  obtain ⟨hrounded, hdown, hends, hmoved⟩ := remainingSeconds_countdown ⟨1500⟩ 10
  refine ⟨(hrounded ⟨0⟩).2 (by decide), (hrounded ⟨12_000⟩).1 (by decide),
    hdown ⟨0⟩ ⟨12_000⟩ (by decide), ?_, ?_, ?_, hmoved 500 ⟨0⟩⟩
  · exact ((hends (by decide) ⟨11_499⟩).1).2 (by decide)
  · intro h
    exact absurd (((hends (by decide) ⟨12_499⟩).2).1 h) (by decide)
  · exact ((hends (by decide) ⟨12_500⟩).2).2 (by decide)

/-- Before the beginning the count is rounded down: it is eleven and not twelve. -/
example : remainingSeconds (some ⟨1500⟩) 10 ⟨0⟩ = 11 := by decide

end CivilTime
