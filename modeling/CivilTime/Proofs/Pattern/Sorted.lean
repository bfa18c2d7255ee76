import CivilTime.Proofs.Calendar.MonthSteps
import CivilTime.Proofs.Pattern.Numeral

/-!
# Texts in the order of time

Numbers in a fixed count of places are in the order of their texts, and so are times if the text runs
from the year down, each field in as many places as its largest value needs. What stands between the
fields does not matter, since all texts have it in the same places.

* `SortedBy`: texts of one length in the order of a key.
* `SortedBy.append`, `SortedBy.field`: one more part of a text, which refines the key.
* `sortedBy_padded`: padded numbers.
* `secondText`, `millisText`: times to the second and to the millisecond, with `sortedBy_second` and
  `sortedBy_millis`.
-/

namespace CivilTime.Text

/-! ### Texts and keys -/

variable {α : Type} {s s' t t' : List Char} {text text' : α → List Char} {key k k' f : α → Nat}
  {n m : Nat}

/-- Texts are in the order of their first parts, if these have one length, and then of the rest. -/
theorem append_lt_append_iff (h : s.length = s'.length) :
    s ++ t < s' ++ t' ↔ s < s' ∨ s = s' ∧ t < t' := by
  induction s generalizing s' with
  | nil =>
    obtain rfl := List.length_eq_zero_iff.1 h.symm
    simp only [List.nil_append, List.lt_irrefl, true_and, false_or]
  | cons c s ih =>
    cases s' with
    | nil => cases h
    | cons c' s' =>
      simp only [List.cons_append, List.cons_lt_cons_iff, ih (Nat.succ.inj h), List.cons.injEq]
      tauto

/-- Texts of one length, in the order of a key. -/
structure SortedBy (text : α → List Char) (key : α → Nat) (n : Nat) : Prop where
  length : ∀ a, (text a).length = n
  lt_iff : ∀ a b, text a < text b ↔ key a < key b

namespace SortedBy

/-- The keys are equal exactly if the texts are. -/
theorem eq_iff (h : SortedBy text key n) (a b : α) : text a = text b ↔ key a = key b := by
  constructor
  · intro heq
    have hlt : ¬ text a < text b := by
      rw [heq]
      exact List.lt_irrefl _
    have hgt : ¬ text b < text a := by
      rw [heq]
      exact List.lt_irrefl _
    rw [h.lt_iff] at hlt hgt
    omega
  · intro heq
    have hlt : ¬ text a < text b := by
      rw [h.lt_iff]
      omega
    have hgt : ¬ text b < text a := by
      rw [h.lt_iff]
      omega
    exact List.le_antisymm hgt hlt

/-- A text in two parts is sorted by the two keys, the first one before the second. -/
theorem append (h : SortedBy text k n) (h' : SortedBy text' k' m)
    (hkey : ∀ a b, key a < key b ↔ k a < k b ∨ k a = k b ∧ k' a < k' b) :
    SortedBy (fun a => text a ++ text' a) key (n + m) where
  length := by
    intro a
    rw [List.length_append, h.length, h'.length]
  lt_iff := by
    intro a b
    rw [append_lt_append_iff ((h.length a).trans (h.length b).symm), h.lt_iff, h.eq_iff, h'.lt_iff,
      hkey]

/-- What is the same in all texts does not matter. -/
theorem append_const (h : SortedBy text key n) (s : List Char) :
    SortedBy (fun a => text a ++ s) key (n + s.length) := by
  have hs : SortedBy (fun _ : α => s) (fun _ => 0) s.length := by
    refine ⟨fun _ => rfl, ?_⟩
    intro a b
    simp only [List.lt_irrefl, Nat.lt_irrefl]
  exact h.append hs fun a b => by omega

end SortedBy

/-! ### Numbers -/

theorem digitChar_lt_all : ∀ d < 10, ∀ e < 10, digitChar d < digitChar e ↔ d < e := by decide

theorem sortedBy_digit (hf : ∀ a, f a < 10) : SortedBy (fun a => [digitChar (f a)]) f 1 := by
  refine ⟨fun _ => rfl, ?_⟩
  intro a b
  rw [List.cons_lt_cons_iff, digitChar_lt_all _ (hf a) _ (hf b)]
  simp only [List.lt_irrefl, and_false, or_false]

/-- Padded numbers that fit are sorted as numbers. The induction is on the places, the last of which is
the digit of the units. -/
theorem sortedBy_padded (width : Nat) (hf : ∀ a, f a < 10 ^ (width + 1)) :
    SortedBy (fun a => padded (width + 1) (f a)) f (width + 1) := by
  induction width generalizing f with
  | zero =>
    have hdigit : (fun a => padded (0 + 1) (f a)) = fun a => [digitChar (f a)] := by
      funext a
      have ha := hf a
      rw [Nat.zero_add, Nat.pow_one] at ha
      rw [padded, digits_of_lt ha]
      rfl
    rw [hdigit]
    exact sortedBy_digit hf
  | succ width ih =>
    have hdiv : ∀ a, f a / 10 < 10 ^ (width + 1) := by
      intro a
      have ha := hf a
      rw [Nat.pow_succ] at ha
      omega
    have hsucc : (fun a => padded (width + 1 + 1) (f a))
        = fun a => padded (width + 1) (f a / 10) ++ [digitChar (f a % 10)] := by
      funext a
      exact padded_succ width (f a)
    rw [hsucc]
    exact (ih hdiv).append (sortedBy_digit fun a => Nat.mod_lt (f a) (by decide))
      fun a b => by omega

/-- One more field, behind what separates it from the others. -/
theorem SortedBy.field (h : SortedBy text k n) (s : List Char) (width : Nat)
    (key : α → Nat) (hf : ∀ a, f a < 10 ^ (width + 1))
    (hkey : ∀ a b, key a < key b ↔ k a < k b ∨ k a = k b ∧ f a < f b) :
    SortedBy (fun a => text a ++ s ++ padded (width + 1) (f a)) key (n + s.length + (width + 1)) :=
  (h.append_const s).append (sortedBy_padded width hf) hkey

end CivilTime.Text

namespace CivilTime.WallTime

open Text

variable (d g c : List Char)

/-! ### Times -/

/-- A time to the second, with what stands between the fields of the date, between date and clock, and
between the fields of the clock. -/
def secondText (w : WallTime) : List Char :=
  padded 4 w.fields.year ++ d ++ padded 2 w.fields.month ++ d ++ padded 2 w.fields.day
    ++ g ++ padded 2 w.fields.hour ++ c ++ padded 2 w.fields.minute
    ++ c ++ padded 2 w.fields.second

/-- A time to the millisecond, in digits alone. -/
def millisText (w : WallTime) : List Char :=
  secondText [] [] [] w ++ padded 3 (w.fields.micro / 1000)

/-- Years and then months. -/
theorem sortedBy_month : SortedBy
    (fun w : WallTime => padded 4 w.fields.year ++ d ++ padded 2 w.fields.month)
    (fun w => 12 * w.fields.year + w.fields.month) (4 + d.length + 2) := by
  have hyear : ∀ w : WallTime, w.fields.year < 10 ^ 4 := by
    intro w
    have hle := w.date_valid.2.1
    show w.date.year < _
    omega
  have hmonth : ∀ w : WallTime, 1 ≤ w.fields.month ∧ w.fields.month ≤ 12 := fun w =>
    ⟨w.date_valid.2.2.1, w.date_valid.2.2.2.1⟩
  refine (sortedBy_padded 3 hyear).field d 1 _ ?_ ?_
  · intro w
    have hw := hmonth w
    omega
  · intro v w
    have hv := hmonth v
    have hw := hmonth w
    omega

/-- Dates are in the order of the days. -/
theorem sortedBy_day : SortedBy
    (fun w : WallTime => padded 4 w.fields.year ++ d ++ padded 2 w.fields.month ++ d
      ++ padded 2 w.fields.day) dayNumber (4 + d.length + 2 + d.length + 2) := by
  refine (sortedBy_month d).field d 1 _ ?_ ?_
  · intro w
    have hlength := monthLength_le w.date.year w.date.month
    have hday := w.day_bounds.2
    show w.date.day < _
    rw [daysInMonth] at hday
    omega
  · intro v w
    have horder := Date.dayNumber_lt_iff v.date_valid w.date_valid
    have hv := v.date_valid.2.2.1
    have hw := w.date_valid.2.2.1
    rw [v.dayNumber_date, w.dayNumber_date, Date.monthIndex, Date.monthIndex] at horder
    rw [horder]
    show _ ↔ 12 * v.date.year + v.date.month < 12 * w.date.year + w.date.month ∨
      12 * v.date.year + v.date.month = 12 * w.date.year + w.date.month ∧ v.date.day < w.date.day
    omega

/-- Times to the second are in the order of the seconds: hours, minutes and seconds are the remainders
that are left of the count. -/
theorem sortedBy_second : SortedBy (secondText d g c) (fun w => w.micros / secondMicros)
    (4 + d.length + 2 + d.length + 2 + g.length + 2 + c.length + 2 + c.length + 2) := by
  have hhour := (sortedBy_day d).field g 1 (f := fun w => w.fields.hour)
    (fun w => w.micros / hourMicros) (fun w => Nat.lt_trans w.fields_valid.2.1 (by decide)) (by
      intro v w
      simp only [fields, hour, dayNumber, timeOfDay, hourMicros, dayMicros]
      omega)
  have hminute := hhour.field c 1 (f := fun w => w.fields.minute)
    (fun w => w.micros / minuteMicros)
    (fun w => Nat.lt_trans w.fields_valid.2.2.1 (by decide)) (by
      intro v w
      simp only [fields, timeOfDay, hourMicros, dayMicros, minuteMicros]
      omega)
  exact hminute.field c 1 (f := fun w => w.fields.second)
    (fun w => w.micros / secondMicros)
    (fun w => Nat.lt_trans w.fields_valid.2.2.2.1 (by decide)) (by
      intro v w
      simp only [fields, timeOfDay, dayMicros, minuteMicros, secondMicros]
      omega)

/-- Times to the millisecond are in the order of the milliseconds. -/
theorem sortedBy_millis : SortedBy millisText (fun w => w.micros / 1000) 17 := by
  have hmillis : ∀ w : WallTime, w.fields.micro / 1000 < 10 ^ 3 := by
    intro w
    have hmicro := w.fields_valid.2.2.2.2
    omega
  refine (sortedBy_second [] [] []).append (sortedBy_padded 2 hmillis) ?_
  intro v w
  simp only [fields, timeOfDay, dayMicros, secondMicros]
  omega

/-- In digits alone nothing separates the fields. -/
theorem isDigit_of_mem_millisText {w : WallTime} {x : Char} (h : x ∈ millisText w) : x.isDigit := by
  have hdigit : ∀ e < 10, (digitChar e).isDigit := by decide
  have hpadded : ∀ {width n : Nat}, x ∈ padded width n → x.isDigit := by
    intro width n hx
    obtain ⟨e, he, rfl⟩ := exists_digit_of_mem_padded hx
    exact hdigit e he
  simp only [millisText, secondText, List.append_nil, List.mem_append] at h
  obtain (((((h | h) | h) | h) | h) | h) | h := h
  · exact hpadded h
  · exact hpadded h
  · exact hpadded h
  · exact hpadded h
  · exact hpadded h
  · exact hpadded h
  · exact hpadded h

end CivilTime.WallTime
