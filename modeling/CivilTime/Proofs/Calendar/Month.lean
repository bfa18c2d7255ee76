import CivilTime.Calendar.Shift
import CivilTime.Proofs.Outcome

/-!
# Moves by months

The months of the calendar are numbered through its years, so a move by months is an addition. The
months that are split into years, and the carry into the year before or after, come out as the
quotient by twelve.

* `Date.monthIndex`: the number of the month of a date; `InYears` says which are in the calendar.
* `Date.MonthsAfter`, `WallTime.MonthsAfter`: what lies some months after a date or a time.
* `carryMonths_eq`: the carry is a division.
* `Date.moveMonth_eq_ok`, `Date.moveMonth_eq_error`: the date some years and months away.
* `WallTime.addMonths_eq_ok`, `WallTime.addMonths_eq_error`: the wall-clock time some months away.
* `WallTime.addYears_eq_addMonths`: a year is twelve months.
-/

namespace CivilTime

/-! ### Numbers of months -/

/-- The number of the month of a date; the calendar begins with 12. -/
def Date.monthIndex (d : Date) : Int := 12 * d.year + (d.month - 1)

/-- Whether the month with a number is one of the years 1 to 9999. -/
def InYears (k : Int) : Prop := 1 ≤ k / 12 ∧ k / 12 ≤ 9999

instance (k : Int) : Decidable (InYears k) := by unfold InYears; infer_instance

/-- What is wrong with a year outside the calendar. -/
def yearFault (year : Int) : Fault :=
  if year < -maxYearNumber - 1 ∨ maxYearNumber < year then .outOfRange else .invalidValue

/-- Every month of the year has four weeks. -/
theorem le_monthLength (year : Nat) {month : Nat} (h1 : 1 ≤ month) (h12 : month ≤ 12) :
    28 ≤ monthLength year month := by
  unfold monthLength
  grind

/-- Months are split into years and less than twelve months, whatever their sign. -/
theorem tmod_twelve (n : Int) : -12 < n.tmod 12 ∧ n.tmod 12 < 12 := by
  have hhi := Int.tmod_lt_of_pos n (show 0 < (12 : Int) by decide)
  have hlo := Int.tmod_lt_of_pos (-n) (show 0 < (12 : Int) by decide)
  rw [Int.neg_tmod] at hlo
  omega

/-- The carry into another year is the division by twelve. -/
theorem carryMonths_eq {year month years months : Int} (h1 : 1 ≤ month) (h12 : month ≤ 12)
    (hlo : -12 < months) (hhi : months < 12) :
    carryMonths year month years months
      = ((12 * year + (month - 1) + (12 * years + months)) / 12,
        (12 * year + (month - 1) + (12 * years + months)) % 12 + 1) := by
  unfold carryMonths
  split
  · rw [Prod.mk.injEq]
    omega
  · split
    · rw [Prod.mk.injEq]
      omega
    · rw [Prod.mk.injEq]
      omega

/-- The month before January is the last one of the year before. -/
example : carryMonths 2024 1 0 (-1) = (2023, 12) := by decide

/-! ### Dates -/

namespace Date

/-- Whether a date lies `n` months after another one: on the same day of the month, or on the last
one if the month is too short. -/
structure MonthsAfter (e d : Date) (n : Int) : Prop where
  index : e.monthIndex = d.monthIndex + n
  day : e.day = min d.day (monthLength e.year e.month)

variable {d e : Date} {years months n k : Int} {f : Fault}

theorem MonthsAfter.inYears (he : e.Valid) (h : e.MonthsAfter d n) :
    InYears (d.monthIndex + n) := by
  obtain ⟨hy1, hy2, hm1, hm2, -⟩ := he
  rw [← h.index, InYears, monthIndex]
  omega

/-- Only one date lies some months after another one. -/
theorem MonthsAfter.unique {e' : Date} (he : e.Valid) (he' : e'.Valid) (h : e.MonthsAfter d n)
    (h' : e'.MonthsAfter d n) : e = e' := by
  obtain ⟨-, -, hm1, hm2, -⟩ := he
  obtain ⟨-, -, hm1', hm2', -⟩ := he'
  have hindex := h.index.trans h'.index.symm
  rw [monthIndex, monthIndex] at hindex
  have hyear : e.year = e'.year := by omega
  have hmonth : e.month = e'.month := by omega
  have hday : e.day = e'.day := by rw [h.day, h'.day, hyear, hmonth]
  cases e
  cases e'
  rw [mk.injEq]
  exact ⟨hyear, hmonth, hday⟩

/-- The date in the month with a number: on the same day, or on the last one if the month is too
short. -/
def inMonth (d : Date) (k : Int) : Date :=
  ⟨(k / 12).toNat, (k % 12 + 1).toNat,
    min d.day (monthLength (k / 12).toNat (k % 12 + 1).toNat)⟩

theorem inMonth_valid (hd : d.Valid) (h : InYears k) : (d.inMonth k).Valid := by
  obtain ⟨-, -, -, -, hday, -⟩ := hd
  obtain ⟨hy1, hy2⟩ := h
  have hlength : 28 ≤ monthLength (k / 12).toNat (k % 12 + 1).toNat :=
    le_monthLength _ (by omega) (by omega)
  refine ⟨?_, ?_, ?_, ?_, ?_, ?_⟩ <;> dsimp only [inMonth] <;> omega

theorem inMonth_monthsAfter (h : InYears (d.monthIndex + n)) :
    (d.inMonth (d.monthIndex + n)).MonthsAfter d n := by
  obtain ⟨hy1, hy2⟩ := h
  constructor
  · generalize d.monthIndex + n = k at *
    dsimp only [inMonth, monthIndex]
    omega
  · rfl

/-- A move finds the month by its number. -/
theorem moveMonth_eq (hd : d.Valid) (hlo : -12 < months) (hhi : months < 12)
    (hk : k = d.monthIndex + (12 * years + months)) :
    d.moveMonth years months
      = if InYears k then .ok (d.inMonth k) else .error (yearFault (k / 12)) := by
  obtain ⟨-, -, hm1, hm2, -⟩ := hd
  rw [monthIndex] at hk
  rw [moveMonth, carryMonths_eq (by omega) (by omega) hlo hhi, ← hk]
  dsimp only [InYears, yearFault]
  have hmax : maxYearNumber = 2_147_483_647 := rfl
  split
  · rw [if_neg (by omega)]
  · split
    · rw [if_neg (by omega)]
    · rw [if_pos (by omega), inMonth]

/-- A move leads to the date that lies so many months away. -/
theorem moveMonth_eq_ok (hd : d.Valid) (hlo : -12 < months) (hhi : months < 12) :
    d.moveMonth years months = .ok e ↔ e.Valid ∧ e.MonthsAfter d (12 * years + months) := by
  rw [moveMonth_eq hd hlo hhi rfl]
  constructor
  · intro h
    split at h
    · next hin =>
      obtain rfl := Except.ok.inj h
      exact ⟨inMonth_valid hd hin, inMonth_monthsAfter hin⟩
    · cases h
  · intro h
    obtain ⟨he, hafter⟩ := h
    have hin := hafter.inYears he
    rw [if_pos hin, hafter.unique he (inMonth_valid hd hin) (inMonth_monthsAfter hin)]

/-- A move fails where the month lies in no year of the calendar. -/
theorem moveMonth_eq_error (hd : d.Valid) (hlo : -12 < months) (hhi : months < 12)
    (hk : k = d.monthIndex + (12 * years + months)) :
    d.moveMonth years months = .error f ↔ ¬ InYears k ∧ f = yearFault (k / 12) := by
  rw [moveMonth_eq hd hlo hhi hk]
  constructor
  · intro h
    split at h
    · cases h
    · next hout => exact ⟨hout, (Except.error.inj h).symm⟩
  · intro h
    obtain ⟨hout, rfl⟩ := h
    rw [if_neg hout]

end Date

/-! ### Wall-clock times -/

namespace WallTime

variable {w v : WallTime} {d : Date} {years months n k : Int} {f : Fault}

/-- Whether a wall-clock time lies `n` months after another one, at the same time of day. -/
structure MonthsAfter (v w : WallTime) (n : Int) : Prop where
  date : v.date.MonthsAfter w.date n
  timeOfDay : v.timeOfDay = w.timeOfDay

theorem date_valid (w : WallTime) : w.date.Valid := w.fields_valid.1

/-- Another date is taken with the same time of day. -/
theorem withDate_eq_ok : w.withDate d = .ok v ↔ v.date = d ∧ v.timeOfDay = w.timeOfDay := by
  constructor
  · intro h
    have hvalid : Fields.Valid { w.fields with toDate := d } := by
      rw [withDate, Fields.toWallTime] at h
      split at h
      · assumption
      · cases h
    have hfields := fields_toWallTime hvalid h
    constructor
    · exact congrArg Fields.toDate hfields
    · rw [← timeMicros_fields v, hfields, ← timeMicros_fields w]
      rfl
  · intro h
    obtain ⟨rfl, htime⟩ := h
    have hfields : { w.fields with toDate := v.date } = v.fields := by
      simp only [fields, hour, htime]
    rw [withDate, hfields, toWallTime_fields]

theorem exists_withDate (w : WallTime) (h : d.Valid) : ∃ v, w.withDate d = .ok v := by
  have hvalid : Fields.Valid { w.fields with toDate := d } := ⟨h, w.fields_valid.2⟩
  exact ⟨_, by rw [withDate, Fields.toWallTime, dif_pos hvalid]⟩

/-- A move leads to the time that lies so many months away. -/
theorem moveMonth_eq_ok (hlo : -12 < months) (hhi : months < 12) :
    w.moveMonth years months = .ok v ↔ v.MonthsAfter w (12 * years + months) := by
  rw [moveMonth, bind_eq_ok]
  constructor
  · intro h
    obtain ⟨e, he, hv⟩ := h
    obtain ⟨rfl, htime⟩ := withDate_eq_ok.1 hv
    exact ⟨((Date.moveMonth_eq_ok w.date_valid hlo hhi).1 he).2, htime⟩
  · intro h
    exact ⟨v.date, (Date.moveMonth_eq_ok w.date_valid hlo hhi).2 ⟨v.date_valid, h.date⟩,
      withDate_eq_ok.2 ⟨rfl, h.timeOfDay⟩⟩

/-- A move fails where the month lies in no year of the calendar. -/
theorem moveMonth_eq_error (hlo : -12 < months) (hhi : months < 12)
    (hk : k = w.date.monthIndex + (12 * years + months)) :
    w.moveMonth years months = .error f ↔ ¬ InYears k ∧ f = yearFault (k / 12) := by
  rw [moveMonth, bind_eq_error, Date.moveMonth_eq_error w.date_valid hlo hhi hk]
  constructor
  · intro h
    rcases h with h | ⟨e, he, hv⟩
    · exact h
    · obtain ⟨v, hv'⟩ := w.exists_withDate ((Date.moveMonth_eq_ok w.date_valid hlo hhi).1 he).1
      rw [hv'] at hv
      cases hv
  · exact .inl

/-! ### Months and years -/

theorem addMonths_eq_ok : w.addMonths n = .ok v ↔ v.MonthsAfter w n := by
  obtain ⟨hlo, hhi⟩ := tmod_twelve n
  rw [addMonths, moveMonth_eq_ok hlo hhi, Int.mul_tdiv_add_tmod]

theorem addMonths_eq_error :
    w.addMonths n = .error f ↔ ¬ InYears (w.date.monthIndex + n) ∧
      f = yearFault ((w.date.monthIndex + n) / 12) := by
  obtain ⟨hlo, hhi⟩ := tmod_twelve n
  rw [addMonths, moveMonth_eq_error hlo hhi (k := w.date.monthIndex + n)]
  rw [Int.mul_tdiv_add_tmod]

/-- Some time lies so many months after another one if the month is one of the calendar. -/
theorem exists_monthsAfter_iff :
    (∃ v : WallTime, v.MonthsAfter w n) ↔ InYears (w.date.monthIndex + n) := by
  cases hv : w.addMonths n with
  | ok v =>
    have hafter := addMonths_eq_ok.1 hv
    exact ⟨fun _ => hafter.date.inYears v.date_valid, fun _ => ⟨v, hafter⟩⟩
  | error f =>
    have hout := (addMonths_eq_error.1 hv).1
    constructor
    · intro h
      obtain ⟨v, hafter⟩ := h
      exact hafter.date.inYears v.date_valid
    · intro h
      exact absurd h hout

/-- A year is twelve months. -/
theorem addYears_eq_addMonths (w : WallTime) (n : Int) : w.addYears n = w.addMonths (12 * n) := by
  rw [addYears, addMonths, Int.mul_tdiv_cancel_left n (by decide), Int.mul_tmod_right]

end WallTime

end CivilTime
