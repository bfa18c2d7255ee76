import CivilTime.Instant.Duration

/-!
# Durations in units

A span of time is split into days, hours, minutes and seconds by division that rounds toward zero. Each
part is computed by itself, from what a larger unit leaves of the span; that the parts fit together is
one law about two units, one of which is a multiple of the other. Division toward zero is odd, so what
holds of the spans that are not negative holds of all.

* `wholeUnits_neg`, `leftOver_neg`: the opposite span; `wholeUnits_natCast`, `leftOver_natCast`: spans
  that are not negative.
* `wholeUnits_eq_add`: units counted in larger ones and in what these leave.
* `SignOf`: numbers that are zero or have the sign of another one.
* `Duration.Splits`: days, hours, minutes and seconds of a span, without reference to any division;
  `Splits.unique` says that a span is split in one way.
* `Duration.ofMillis_splits`: the parts of a span.
-/

namespace CivilTime

variable {m n : Int} {unit count : Nat}

/-! ### Whole units -/

theorem wholeUnits_neg (m : Int) (unit : Nat) : wholeUnits (-m) unit = -wholeUnits m unit :=
  Int.neg_tdiv m unit

theorem leftOver_neg (m : Int) (unit : Nat) : leftOver (-m) unit = -leftOver m unit :=
  Int.neg_tmod m unit

theorem wholeUnits_natCast (n unit : Nat) : wholeUnits n unit = (n / unit : Nat) := rfl

theorem leftOver_natCast (n unit : Nat) : leftOver n unit = (n % unit : Nat) := rfl

/-- Units are counted in larger ones and in what these leave. -/
theorem wholeUnits_eq_add (m : Int) (unit count : Nat) :
    wholeUnits m unit
      = count * wholeUnits m (unit * count) + wholeUnits (leftOver m (unit * count)) unit := by
  have hnat : ∀ k : Nat, wholeUnits k unit
      = count * wholeUnits k (unit * count) + wholeUnits (leftOver k (unit * count)) unit := by
    intro k
    rw [wholeUnits_natCast, wholeUnits_natCast, leftOver_natCast, wholeUnits_natCast,
      Nat.mod_mul_right_div_self, ← Nat.div_div_eq_div_mul, ← Int.natCast_mul,
      ← Int.natCast_add, Nat.div_add_mod]
  obtain ⟨k, rfl | rfl⟩ := m.eq_nat_or_neg
  · exact hnat k
  · rw [wholeUnits_neg, wholeUnits_neg, leftOver_neg, wholeUnits_neg, hnat k, Int.neg_add,
      Int.mul_neg]

theorem natAbs_leftOver_lt (m : Int) (h : 0 < unit) : (leftOver m unit).natAbs < unit := by
  rw [leftOver, Int.natAbs_tmod]
  exact Nat.mod_lt _ h

theorem natAbs_wholeUnits_lt (h : m.natAbs < unit * count) :
    (wholeUnits m unit).natAbs < count := by
  rw [wholeUnits, Int.natAbs_tdiv]
  exact Nat.div_lt_of_lt_mul h

/-! ### Signs -/

/-- Whether a number is zero or has the sign of another one. -/
def SignOf (m n : Int) : Prop := n = 0 ∨ n.sign = m.sign

theorem signOf_iff : SignOf m n ↔ (0 ≤ m → 0 ≤ n) ∧ (m ≤ 0 → n ≤ 0) := by
  rcases Int.lt_trichotomy m 0 with hm | rfl | hm
  · rw [SignOf, Int.sign_eq_neg_one_of_neg hm, Int.sign_eq_neg_one_iff_neg]
    omega
  · rw [SignOf, Int.sign_zero, Int.sign_eq_zero_iff_zero]
    omega
  · rw [SignOf, Int.sign_eq_one_of_pos hm, Int.sign_eq_one_iff_pos]
    omega

theorem SignOf.trans {k : Int} (h : SignOf m n) (hk : SignOf n k) : SignOf m k := by
  rw [signOf_iff] at h hk ⊢
  omega

theorem signOf_neg : SignOf (-m) (-n) ↔ SignOf m n := by
  rw [signOf_iff, signOf_iff]
  omega

theorem signOf_wholeUnits (m : Int) (unit : Nat) : SignOf m (wholeUnits m unit) := by
  have hnat : ∀ k : Nat, SignOf k (wholeUnits k unit) := by
    intro k
    have hle := Nat.div_le_self k unit
    rw [wholeUnits_natCast, signOf_iff]
    generalize k / unit = q at hle
    omega
  obtain ⟨k, rfl | rfl⟩ := m.eq_nat_or_neg
  · exact hnat k
  · rw [wholeUnits_neg, signOf_neg]
    exact hnat k

theorem signOf_leftOver (m : Int) (unit : Nat) : SignOf m (leftOver m unit) := by
  have hnat : ∀ k : Nat, SignOf k (leftOver k unit) := by
    intro k
    have hle := Nat.mod_le k unit
    rw [leftOver_natCast, signOf_iff]
    generalize k % unit = r at hle
    omega
  obtain ⟨k, rfl | rfl⟩ := m.eq_nat_or_neg
  · exact hnat k
  · rw [leftOver_neg, signOf_neg]
    exact hnat k

/-! ### Days, hours, minutes and seconds -/

namespace Duration

/-- The opposite of a span, part by part. -/
instance : Neg Duration := ⟨fun d => ⟨-d.days, -d.hours, -d.minutes, -d.seconds⟩⟩

/-- The milliseconds of the parts of a span. -/
def millis (d : Duration) : Int :=
  1000 * (86_400 * d.days + 3600 * d.hours + 60 * d.minutes + d.seconds)

/-- Whether days, hours, minutes and seconds split a span: less than a second is left, no part reaches
the next larger unit, and neither the parts nor what is left have the opposite sign. -/
structure Splits (d : Duration) (m : Int) : Prop where
  rest : (m - d.millis).natAbs < 1000
  hours : d.hours.natAbs < 24
  minutes : d.minutes.natAbs < 60
  seconds : d.seconds.natAbs < 60
  signs : ∀ n ∈ [d.days, d.hours, d.minutes, d.seconds, m - d.millis], SignOf m n

variable {d e : Duration}

theorem neg_neg_parts (d : Duration) : -(-d) = d := by
  obtain ⟨days, hours, minutes, seconds⟩ := d
  show Duration.mk (- -days) (- -hours) (- -minutes) (- -seconds) = _
  simp only [Int.neg_neg]

theorem millis_neg (d : Duration) : (-d).millis = -d.millis := by
  obtain ⟨days, hours, minutes, seconds⟩ := d
  show 1000 * (86_400 * -days + 3600 * -hours + 60 * -minutes + -seconds)
    = -(1000 * (86_400 * days + 3600 * hours + 60 * minutes + seconds))
  omega

/-- The opposite parts split the opposite span. -/
theorem Splits.neg (h : d.Splits m) : (-d).Splits (-m) := by
  have hrest : -m - (-d).millis = -(m - d.millis) := by
    rw [millis_neg]
    omega
  have hpart : ∀ {n : Int} {bound : Nat}, n.natAbs < bound → (-n).natAbs < bound := by
    intro n bound hn
    rwa [Int.natAbs_neg]
  refine ⟨?_, hpart h.hours, hpart h.minutes, hpart h.seconds, ?_⟩
  · rw [hrest]
    exact hpart h.rest
  · have hsigns := h.signs
    rw [hrest]
    simp only [List.forall_mem_cons] at hsigns ⊢
    obtain ⟨hdays, hhours, hminutes, hseconds, hleft, -⟩ := hsigns
    exact ⟨signOf_neg.2 hdays, signOf_neg.2 hhours, signOf_neg.2 hminutes, signOf_neg.2 hseconds,
      signOf_neg.2 hleft, fun _ h => absurd h List.not_mem_nil⟩

/-- The parts of a span that is not negative are the digits of its seconds. -/
theorem Splits.bounds (h : d.Splits m) (hm : 0 ≤ m) :
    (0 ≤ d.hours ∧ d.hours < 24) ∧ (0 ≤ d.minutes ∧ d.minutes < 60) ∧
      (0 ≤ d.seconds ∧ d.seconds < 60) ∧ d.millis ≤ m ∧ m < d.millis + 1000 := by
  have hsign : ∀ {n : Int} {bound : Nat}, SignOf m n → n.natAbs < bound → 0 ≤ n ∧ n < bound := by
    intro n bound hn hbound
    have := (signOf_iff.1 hn).1 hm
    omega
  have hsigns := h.signs
  simp only [List.forall_mem_cons] at hsigns
  obtain ⟨-, hhours, hminutes, hseconds, hleft, -⟩ := hsigns
  have hrest := hsign hleft h.rest
  exact ⟨hsign hhours h.hours, hsign hminutes h.minutes, hsign hseconds h.seconds, by omega,
    by omega⟩

theorem Splits.eq_of_nonneg (hd : d.Splits m) (he : e.Splits m) (hm : 0 ≤ m) : d = e := by
  obtain ⟨hhours, hminutes, hseconds, hfrom, hto⟩ := hd.bounds hm
  obtain ⟨hhours', hminutes', hseconds', hfrom', hto'⟩ := he.bounds hm
  obtain ⟨days, hours, minutes, seconds⟩ := d
  obtain ⟨days', hours', minutes', seconds'⟩ := e
  simp only [millis] at *
  have hminuteCount : 1440 * days + 60 * hours + minutes
      = 1440 * days' + 60 * hours' + minutes' := by omega
  have hhourCount : 24 * days + hours = 24 * days' + hours' := by omega
  obtain rfl : days = days' := by omega
  obtain rfl : hours = hours' := by omega
  obtain rfl : minutes = minutes' := by omega
  obtain rfl : seconds = seconds' := by omega
  rfl

/-- A span is split in one way. -/
theorem Splits.unique (hd : d.Splits m) (he : e.Splits m) : d = e := by
  rcases Int.le_total 0 m with hm | hm
  · exact hd.eq_of_nonneg he hm
  · have hneg : -d = -e := hd.neg.eq_of_nonneg he.neg (by omega)
    rw [← neg_neg_parts d, hneg, neg_neg_parts]

/-! ### Counts of a span -/

theorem hours_of_eq (m : Int) :
    Measure.hours.of m = 24 * (ofMillis m).days + (ofMillis m).hours :=
  wholeUnits_eq_add m hourMillis 24

theorem minutes_of_eq (m : Int) :
    Measure.minutes.of m
      = 1440 * (ofMillis m).days + 60 * (ofMillis m).hours + (ofMillis m).minutes := by
  have h : Measure.minutes.of m = 60 * Measure.hours.of m + (ofMillis m).minutes :=
    wholeUnits_eq_add m minuteMillis 60
  rw [h, hours_of_eq]
  omega

theorem seconds_of_eq (m : Int) :
    Measure.seconds.of m = 86_400 * (ofMillis m).days + 3600 * (ofMillis m).hours
      + 60 * (ofMillis m).minutes + (ofMillis m).seconds := by
  have h : Measure.seconds.of m = 60 * Measure.minutes.of m + (ofMillis m).seconds :=
    wholeUnits_eq_add m secondMillis 60
  rw [h, minutes_of_eq]
  omega

/-- What the parts leave of a span is what whole seconds leave of it. -/
theorem sub_millis_ofMillis (m : Int) : m - (ofMillis m).millis = leftOver m secondMillis := by
  have h := wholeUnits_add_leftOver m secondMillis
  have hseconds : wholeUnits m secondMillis = _ := seconds_of_eq m
  rw [millis, ← hseconds]
  simp only [secondMillis] at h ⊢
  omega

theorem splits_ofMillis (m : Int) : (ofMillis m).Splits m := by
  have hpart : ∀ unit larger, SignOf m (wholeUnits (leftOver m larger) unit) := fun unit larger =>
    (signOf_leftOver m larger).trans (signOf_wholeUnits _ unit)
  refine ⟨?_, ?_, ?_, ?_, ?_⟩
  · rw [sub_millis_ofMillis]
    exact natAbs_leftOver_lt m (by decide)
  · exact natAbs_wholeUnits_lt (natAbs_leftOver_lt m (by decide))
  · exact natAbs_wholeUnits_lt (natAbs_leftOver_lt m (by decide))
  · exact natAbs_wholeUnits_lt (natAbs_leftOver_lt m (by decide))
  · rw [sub_millis_ofMillis]
    simp only [List.forall_mem_cons]
    exact ⟨signOf_wholeUnits m _, hpart _ _, hpart _ _, hpart _ _, signOf_leftOver m _,
      fun _ h => absurd h List.not_mem_nil⟩

theorem ofMillis_neg (m : Int) : ofMillis (-m) = -ofMillis m := by
  simp only [ofMillis, Measure.of, wholeUnits_neg, leftOver_neg]
  rfl

/-- The parts of a span are the only days, hours, minutes and seconds that split it; the opposite span
has the opposite parts; and the whole seconds, minutes and hours of a span are what its parts add up
to. -/
theorem ofMillis_splits (m : Int) :
    (∀ d, d.Splits m ↔ d = ofMillis m) ∧
    ofMillis (-m) = -ofMillis m ∧
    Measure.seconds.of m = 86_400 * (ofMillis m).days + 3600 * (ofMillis m).hours
      + 60 * (ofMillis m).minutes + (ofMillis m).seconds ∧
    Measure.minutes.of m
      = 1440 * (ofMillis m).days + 60 * (ofMillis m).hours + (ofMillis m).minutes ∧
    Measure.hours.of m = 24 * (ofMillis m).days + (ofMillis m).hours := by
  refine ⟨?_, ofMillis_neg m, seconds_of_eq m, minutes_of_eq m, hours_of_eq m⟩
  intro d
  constructor
  · intro hd
    exact hd.unique (splits_ofMillis m)
  · rintro rfl
    exact splits_ofMillis m

/-- A second and a half before a day has passed, and the same before the start. -/
example : ofMillis 86_398_500 = ⟨0, 23, 59, 58⟩ ∧ ofMillis (-1500) = ⟨0, 0, 0, -1⟩ := by decide

end Duration

end CivilTime
