/-!
# Dates of the Gregorian calendar

The calendar is taken back to the first year. Days are counted from 1 January of the year 1, which
is day 0 and a Monday.

* `isLeap`, `monthLength`: the Gregorian leap rule and the lengths of the months.
* `daysBeforeYear`, `daysBeforeMonth`: the days that precede a year, and a month of its year.
* `yearOfDay`, `monthOfDay`: the year and the month of a day; no other holds it (`yearOfDay_eq`,
  `monthOfDay_eq`).
* `Date`, `Date.Valid`: year, month and day, and when they name a day of the calendar.
* `Date.dayNumber`, `Date.ofDayNumber`: the count of a date and the date of a count; they undo each
  other (`dayNumber_ofDayNumber`, `ofDayNumber_dayNumber`), and every count has a valid date
  (`ofDayNumber_valid`).
* `Date.dayOfYear`, `Date.weekday`: the day's place in its year and in its week.
-/

namespace CivilTime

/-- Every fourth year is a leap year, a full century only if four hundred divides it. -/
def isLeap (year : Nat) : Bool := year % 4 = 0 && (year % 100 ≠ 0 || year % 400 = 0)

/-- The leap day of a year: one or none. -/
def leapDay (year : Nat) : Nat := if isLeap year then 1 else 0

/-- The number of days of a month; no other month has a day. -/
def monthLength (year month : Nat) : Nat :=
  match month with
  | 1 | 3 | 5 | 7 | 8 | 10 | 12 => 31
  | 4 | 6 | 9 | 11 => 30
  | 2 => 28 + leapDay year
  | _ => 0

/-- The days from the first year up to a year. -/
def daysBeforeYear (year : Nat) : Nat :=
  (year - 1) * 365 + (year - 1) / 4 - (year - 1) / 100 + (year - 1) / 400

/-- The days from the start of a year up to a month: the lengths of the months before it. -/
def daysBeforeMonth (year : Nat) : Nat → Nat
  | 0 => 0
  | month + 1 => daysBeforeMonth year month + monthLength year month

/-- The year of a day. The quotient by the mean length of a year is at most one year off. -/
def yearOfDay (n : Nat) : Nat :=
  let guess := n * 400 / 146097 + 1
  if n < daysBeforeYear guess then guess - 1
  else if daysBeforeYear (guess + 1) ≤ n then guess + 1
  else guess

/-- The last month, up to a given one, that has begun on a day of the year. -/
def monthUpTo (year n : Nat) : Nat → Nat
  | 0 => 0
  | month + 1 =>
    if daysBeforeMonth year (month + 1) ≤ n then month + 1 else monthUpTo year n month

/-- The month of a day that is counted within its year, from 0. -/
def monthOfDay (year n : Nat) : Nat := monthUpTo year n 12

/-- A year, a month and a day. -/
structure Date where
  year : Nat
  month : Nat
  day : Nat
  deriving DecidableEq, Repr

namespace Date

/-- The number of days of the calendar, which ends with the year 9999. -/
def span : Nat := 3652059

/-- Whether year, month and day name a day of the calendar. -/
def Valid (d : Date) : Prop :=
  1 ≤ d.year ∧ d.year ≤ 9999 ∧ 1 ≤ d.month ∧ d.month ≤ 12 ∧
    1 ≤ d.day ∧ d.day ≤ monthLength d.year d.month

instance (d : Date) : Decidable d.Valid := by unfold Valid; infer_instance

/-- The number of days before a date. -/
def dayNumber (d : Date) : Nat :=
  daysBeforeYear d.year + daysBeforeMonth d.year d.month + (d.day - 1)

/-- The date that a number of days precedes. -/
def ofDayNumber (n : Nat) : Date :=
  let year := yearOfDay n
  let rest := n - daysBeforeYear year
  let month := monthOfDay year rest
  ⟨year, month, rest - daysBeforeMonth year month + 1⟩

/-- The place of a date in its year, from 1. -/
def dayOfYear (d : Date) : Nat := daysBeforeMonth d.year d.month + d.day

/-- The place of a date in its week, from 0 on Monday. -/
def weekday (d : Date) : Nat := d.dayNumber % 7

end Date

/-! ### Years -/

/-- The leap rule as a case distinction. -/
theorem leapDay_cases (year : Nat) :
    leapDay year = 1 ∧ year % 4 = 0 ∧ (year % 100 ≠ 0 ∨ year % 400 = 0) ∨
      leapDay year = 0 ∧ (year % 4 ≠ 0 ∨ year % 100 = 0 ∧ year % 400 ≠ 0) := by
  unfold leapDay
  split
  · next h => simp [isLeap] at h; omega
  · next h => simp [isLeap] at h; omega

theorem leapDay_le (year : Nat) : leapDay year ≤ 1 := by
  have := leapDay_cases year
  omega

/-- A year has 365 days and its leap day. -/
theorem daysBeforeYear_succ {year : Nat} (h : 1 ≤ year) :
    daysBeforeYear (year + 1) = daysBeforeYear year + 365 + leapDay year := by
  obtain ⟨k, rfl⟩ : ∃ k, year = k + 1 := ⟨year - 1, by omega⟩
  have leap := leapDay_cases (k + 1)
  have h4 : (k + 1) % 4 = 0 ∧ (k + 1) / 4 = k / 4 + 1 ∨
      (k + 1) % 4 ≠ 0 ∧ (k + 1) / 4 = k / 4 := by omega
  have h100 : (k + 1) % 100 = 0 ∧ (k + 1) / 100 = k / 100 + 1 ∨
      (k + 1) % 100 ≠ 0 ∧ (k + 1) / 100 = k / 100 := by omega
  have h400 : (k + 1) % 400 = 0 ∧ (k + 1) / 400 = k / 400 + 1 ∨
      (k + 1) % 400 ≠ 0 ∧ (k + 1) / 400 = k / 400 := by omega
  have m100 : (k + 1) % 100 = 0 → (k + 1) % 4 = 0 := by omega
  have m400 : (k + 1) % 400 = 0 → (k + 1) % 100 = 0 := by omega
  have hle : k / 100 ≤ k / 4 := by omega
  simp only [daysBeforeYear, Nat.add_sub_cancel]
  generalize (k + 1) % 4 = r4, (k + 1) % 100 = r100, (k + 1) % 400 = r400,
    (k + 1) / 4 = s4, (k + 1) / 100 = s100, (k + 1) / 400 = s400 at *
  generalize k / 4 = q4, k / 100 = q100, k / 400 = q400 at *
  omega

theorem daysBeforeYear_le_succ (year : Nat) : daysBeforeYear year ≤ daysBeforeYear (year + 1) := by
  rcases Nat.eq_zero_or_pos year with h | h
  · subst h; decide
  · have := daysBeforeYear_succ h; omega

theorem daysBeforeYear_mono {a b : Nat} (h : a ≤ b) : daysBeforeYear a ≤ daysBeforeYear b := by
  induction b with
  | zero => simp [Nat.le_zero.1 h]
  | succ b ih =>
    rcases Nat.lt_or_ge a (b + 1) with hlt | hge
    · exact Nat.le_trans (ih (by omega)) (daysBeforeYear_le_succ b)
    · exact Nat.le_of_eq (by rw [Nat.le_antisymm h hge])

theorem one_le_yearOfDay (n : Nat) : 1 ≤ yearOfDay n := by
  simp only [yearOfDay]
  split
  · next h =>
    have : n * 400 / 146097 ≠ 0 := fun h0 => by rw [h0] at h; simp [daysBeforeYear] at h
    omega
  · split <;> omega

/-- A day lies in its year. -/
theorem yearOfDay_bounds (n : Nat) :
    daysBeforeYear (yearOfDay n) ≤ n ∧ n < daysBeforeYear (yearOfDay n + 1) := by
  simp only [yearOfDay]
  split
  · next h =>
    simp only [daysBeforeYear] at h ⊢
    omega
  · split <;> (simp only [daysBeforeYear] at *; omega)

/-- Only one year holds a day. -/
theorem yearOfDay_eq {n year : Nat} (hlo : daysBeforeYear year ≤ n)
    (hhi : n < daysBeforeYear (year + 1)) : yearOfDay n = year := by
  have hb := yearOfDay_bounds n
  rcases Nat.lt_trichotomy (yearOfDay n) year with h | h | h
  · have := daysBeforeYear_mono (show yearOfDay n + 1 ≤ year by omega); omega
  · exact h
  · have := daysBeforeYear_mono (show year + 1 ≤ yearOfDay n by omega); omega

/-! ### Months -/

/-- A month starts where the one before it ends. -/
theorem daysBeforeMonth_succ (year month : Nat) :
    daysBeforeMonth year (month + 1) = daysBeforeMonth year month + monthLength year month := rfl

/-- The months make up the year. -/
theorem daysBeforeMonth_thirteen (year : Nat) : daysBeforeMonth year 13 = 365 + leapDay year := by
  show 0 + 0 + 31 + (28 + leapDay year) + 31 + 30 + 31 + 30 + 31 + 31 + 30 + 31 + 30 + 31 = _
  omega

theorem daysBeforeMonth_mono (year : Nat) {a b : Nat} (h : a ≤ b) :
    daysBeforeMonth year a ≤ daysBeforeMonth year b := by
  induction h with
  | refl => exact Nat.le_refl _
  | step _ ih => exact Nat.le_trans ih (Nat.le_add_right _ _)

/-- A month ends by the end of the year. -/
theorem daysBeforeMonth_add_le (year : Nat) {month : Nat} (h : month ≤ 12) :
    daysBeforeMonth year month + monthLength year month ≤ 365 + leapDay year := by
  rw [← daysBeforeMonth_succ, ← daysBeforeMonth_thirteen]
  exact daysBeforeMonth_mono year (Nat.succ_le_succ h)

/-- The last month that has begun on a day holds the day. -/
theorem monthUpTo_bounds {year n month : Nat} (h : n < daysBeforeMonth year (month + 1)) :
    (1 ≤ monthUpTo year n month ∧ monthUpTo year n month ≤ month) ∧
      daysBeforeMonth year (monthUpTo year n month) ≤ n ∧
      n < daysBeforeMonth year (monthUpTo year n month + 1) := by
  induction month with
  | zero => exact absurd h (Nat.not_lt_zero n)
  | succ month ih =>
    simp only [monthUpTo]
    split
    · next hle => exact ⟨⟨Nat.succ_pos _, Nat.le_refl _⟩, hle, h⟩
    · next hlt =>
      have hb := ih (Nat.lt_of_not_le hlt)
      exact ⟨⟨hb.1.1, Nat.le_succ_of_le hb.1.2⟩, hb.2⟩

/-- A month is in the calendar year, and a day lies in its month. -/
theorem monthOfDay_bounds {year n : Nat} (h : n < 365 + leapDay year) :
    (1 ≤ monthOfDay year n ∧ monthOfDay year n ≤ 12) ∧
      daysBeforeMonth year (monthOfDay year n) ≤ n ∧
      n < daysBeforeMonth year (monthOfDay year n) + monthLength year (monthOfDay year n) :=
  monthUpTo_bounds (by rwa [daysBeforeMonth_thirteen])

/-- Only one month holds a day. -/
theorem monthOfDay_eq {year month n : Nat} (h12 : month ≤ 12)
    (hlo : daysBeforeMonth year month ≤ n)
    (hhi : n < daysBeforeMonth year month + monthLength year month) :
    monthOfDay year n = month := by
  have hle := daysBeforeMonth_add_le year h12
  obtain ⟨-, glo, ghi⟩ := monthOfDay_bounds (show n < 365 + leapDay year by omega)
  rw [← daysBeforeMonth_succ] at hhi ghi
  rcases Nat.lt_trichotomy (monthOfDay year n) month with h | h | h
  · have := daysBeforeMonth_mono year (show monthOfDay year n + 1 ≤ month from h)
    omega
  · exact h
  · have := daysBeforeMonth_mono year (show month + 1 ≤ monthOfDay year n from h)
    omega

/-! ### Dates and day numbers -/

namespace Date

/-- A date lies inside its year. -/
theorem dayNumber_lt_next_year {d : Date} (h : d.Valid) :
    d.dayNumber < daysBeforeYear (d.year + 1) := by
  obtain ⟨hy, -, h1, h12, hd, hl⟩ := h
  have := daysBeforeMonth_add_le d.year h12
  rw [daysBeforeYear_succ hy, dayNumber]
  omega

theorem dayNumber_lt_span {d : Date} (h : d.Valid) : d.dayNumber < span :=
  Nat.lt_of_lt_of_le (dayNumber_lt_next_year h)
    (Nat.le_trans (daysBeforeYear_mono (show d.year + 1 ≤ 10000 by have := h.2.1; omega))
      (by decide))

/-- The date of a day number has this day number. -/
theorem dayNumber_ofDayNumber (n : Nat) : (ofDayNumber n).dayNumber = n := by
  have hb := yearOfDay_bounds n
  have hs := daysBeforeYear_succ (one_le_yearOfDay n)
  have hm := monthOfDay_bounds
    (show n - daysBeforeYear (yearOfDay n) < 365 + leapDay (yearOfDay n) by omega)
  simp only [ofDayNumber, dayNumber]
  omega

/-- Every day number of the calendar belongs to a valid date. -/
theorem ofDayNumber_valid {n : Nat} (h : n < span) : (ofDayNumber n).Valid := by
  have hb := yearOfDay_bounds n
  have hs := daysBeforeYear_succ (one_le_yearOfDay n)
  have hm := monthOfDay_bounds
    (show n - daysBeforeYear (yearOfDay n) < 365 + leapDay (yearOfDay n) by omega)
  have hy : yearOfDay n ≤ 9999 := by
    refine Nat.le_of_not_lt fun hlt => ?_
    have := daysBeforeYear_mono (show 10000 ≤ yearOfDay n by omega)
    have : daysBeforeYear 10000 = span := by decide
    omega
  exact ⟨one_le_yearOfDay n, hy, hm.1.1, hm.1.2, by simp only [ofDayNumber]; omega,
    by simp only [ofDayNumber]; omega⟩

/-- A valid date is the date of its day number. -/
theorem ofDayNumber_dayNumber {d : Date} (h : d.Valid) : ofDayNumber d.dayNumber = d := by
  have hlt := dayNumber_lt_next_year h
  obtain ⟨hy, -, h1, h12, hd, hl⟩ := h
  have hyear : yearOfDay d.dayNumber = d.year :=
    yearOfDay_eq (by simp only [dayNumber]; omega) hlt
  have hrest : d.dayNumber - daysBeforeYear d.year
      = daysBeforeMonth d.year d.month + (d.day - 1) := by
    simp only [dayNumber]; omega
  have hmonth : monthOfDay d.year (daysBeforeMonth d.year d.month + (d.day - 1)) = d.month :=
    monthOfDay_eq h12 (by omega) (by omega)
  simp only [ofDayNumber, hyear, hrest, hmonth]
  have : daysBeforeMonth d.year d.month + (d.day - 1) - daysBeforeMonth d.year d.month + 1
      = d.day := by omega
  rw [this]

end Date

end CivilTime
