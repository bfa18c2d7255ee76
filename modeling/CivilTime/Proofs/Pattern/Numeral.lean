import CivilTime.Pattern.Reading
import Mathlib.Algebra.Group.Nat.Defs
import Mathlib.Data.List.Induction

/-!
# Numbers in writing

A number in a fixed count of places is the list of its digit values, each written as a character.
Reading the characters gives the number back, and the first places of a number are the number
divided by a power of ten.

* `digitValue?_digitChar`: a digit is read as itself.
* `places`: the digit values of a number in a fixed count of places, with `number_places` and
  `take_places`.
* `mapM_asciiDigit?_eq_some`, `places_number`: the texts that are read as ASCII digits.
* `padded_eq_places`, `padded_of_long`: what a padded number looks like.
* `numeral_padded`, `fractionMicros_take`: reading numbers and fractions of a second.
-/

namespace CivilTime.Text

/-! ### Digits -/

theorem digitValue?_digitChar_all : ∀ d < 10, digitValue? (digitChar d) = some d := by decide

theorem asciiDigit?_digitChar_all : ∀ d < 10, asciiDigit? (digitChar d) = some d := by decide

/-- A digit is read as itself. -/
theorem digitValue?_digitChar {d : Nat} (h : d < 10) : digitValue? (digitChar d) = some d :=
  digitValue?_digitChar_all d h

theorem asciiDigit?_digitChar {d : Nat} (h : d < 10) : asciiDigit? (digitChar d) = some d :=
  asciiDigit?_digitChar_all d h

theorem filterMap_digitValue? {ds : List Nat} (h : ∀ d ∈ ds, d < 10) :
    (ds.map digitChar).filterMap digitValue? = ds := by
  induction ds with
  | nil => rfl
  | cons d ds ih =>
    rw [List.map_cons, List.filterMap_cons_some (digitValue?_digitChar (h d List.mem_cons_self)),
      ih fun e he => h e (List.mem_cons_of_mem d he)]

/-- A character that is read as an ASCII digit is that digit. -/
theorem eq_digitChar_of_asciiDigit? {c : Char} {d : Nat} (h : asciiDigit? c = some d) :
    c = digitChar d := by
  unfold asciiDigit? at h
  split at h
  · next hc =>
    rw [← Option.some.inj h, digitChar, show 48 + (c.toNat - 48) = c.toNat by omega,
      Char.ofNat_toNat]
  · cases h

/-- A text of ASCII digits is that of its digit values. -/
theorem mapM_asciiDigit?_eq_some {s : List Char} {ds : List Nat} :
    s.mapM asciiDigit? = some ds ↔ s = ds.map digitChar ∧ ∀ d ∈ ds, d < 10 := by
  induction s generalizing ds with
  | nil =>
    rw [List.mapM_nil]
    constructor
    · intro h
      obtain rfl := Option.some.inj h
      exact ⟨rfl, fun d hd => absurd hd List.not_mem_nil⟩
    · rintro ⟨h, -⟩
      rw [List.map_eq_nil_iff.1 h.symm]
      rfl
  | cons c s ih =>
    rw [List.mapM_cons]
    constructor
    · intro h
      obtain ⟨d, hd, h⟩ := Option.bind_eq_some_iff.1 h
      obtain ⟨es, hes, h⟩ := Option.bind_eq_some_iff.1 h
      obtain rfl := Option.some.inj h
      obtain ⟨hs, hlt⟩ := ih.1 hes
      refine ⟨?_, List.forall_mem_cons.2 ⟨asciiDigit?_lt hd, hlt⟩⟩
      rw [List.map_cons, ← hs, ← eq_digitChar_of_asciiDigit? hd]
    · rintro ⟨h, hlt⟩
      cases ds with
      | nil => cases h
      | cons d ds =>
        obtain ⟨rfl, hs⟩ := List.cons.inj h
        obtain ⟨hd, hlt⟩ := List.forall_mem_cons.1 hlt
        rw [asciiDigit?_digitChar hd, ih.2 ⟨hs, hlt⟩]
        rfl

/-! ### Places -/

/-- The digit values of a number in a fixed count of places, most significant first. -/
def places : (width : Nat) → Nat → List Nat
  | 0, _ => []
  | width + 1, n => places width (n / 10) ++ [n % 10]

theorem length_places (width n : Nat) : (places width n).length = width := by
  induction width generalizing n with
  | zero => rfl
  | succ width ih => rw [places, List.length_append, ih, List.length_singleton]

theorem lt_of_mem_places {width n d : Nat} (h : d ∈ places width n) : d < 10 := by
  induction width generalizing n with
  | zero => cases h
  | succ width ih =>
    rcases List.mem_append.1 h with h | h
    · exact ih h
    · rw [List.mem_singleton.1 h]
      exact Nat.mod_lt n (by decide)

/-- The places of a number that fits denote it. -/
theorem number_places {width n : Nat} (h : n < 10 ^ width) : number (places width n) = n := by
  induction width generalizing n with
  | zero =>
    rw [Nat.pow_zero] at h
    rw [show n = 0 by omega]
    rfl
  | succ width ih =>
    have hdiv : n / 10 < 10 ^ width := by
      rw [Nat.pow_succ] at h
      omega
    rw [places, number_append_singleton, ih hdiv]
    omega

/-- Digits denote a number with as many places, and they are its places. -/
theorem places_number {ds : List Nat} (h : ∀ d ∈ ds, d < 10) :
    number ds < 10 ^ ds.length ∧ places ds.length (number ds) = ds := by
  induction ds using List.reverseRecOn with
  | nil => exact ⟨by decide, rfl⟩
  | append_singleton ds d ih =>
    obtain ⟨hlt, hplaces⟩ := ih fun e he => h e (List.mem_append_left _ he)
    have hd : d < 10 := h d (List.mem_append_right ds List.mem_cons_self)
    have hdiv : (10 * number ds + d) / 10 = number ds := by omega
    have hmod : (10 * number ds + d) % 10 = d := by omega
    rw [List.length_append, List.length_singleton, number_append_singleton, places, hdiv, hmod,
      hplaces, Nat.pow_succ]
    exact ⟨by omega, rfl⟩

/-- The first places of a number are those of a quotient. -/
theorem take_places (count rest n : Nat) :
    (places (count + rest) n).take count = places count (n / 10 ^ rest) := by
  induction rest generalizing n with
  | zero =>
    rw [Nat.add_zero, Nat.pow_zero, Nat.div_one, List.take_of_length_le]
    exact Nat.le_of_eq (length_places count n)
  | succ rest ih =>
    rw [← Nat.add_assoc, places,
      List.take_append_of_le_length (by rw [length_places]; exact Nat.le_add_right _ _), ih,
      Nat.div_div_eq_div_mul, Nat.pow_succ, Nat.mul_comm]

/-! ### Padded numbers -/

theorem padded_succ (width n : Nat) :
    padded (width + 2) n = padded (width + 1) (n / 10) ++ [digitChar (n % 10)] := by
  by_cases h : n < 10
  · rw [padded, padded, digits_of_lt h, Nat.div_eq_of_lt h, digits_of_lt (by decide : 0 < 10),
      Nat.mod_eq_of_lt h]
    simp only [List.length_singleton, Nat.add_sub_cancel]
    rw [show width + 2 - 1 = width + 1 from rfl, List.replicate_succ',
      show digitChar 0 = '0' by decide]
  · rw [padded, padded, digits_of_le (Nat.not_lt.1 h), List.length_append, List.length_singleton,
      show width + 2 = width + 1 + 1 from rfl, Nat.add_sub_add_right, List.append_assoc]

/-- A number that fits is written by its places. -/
theorem padded_eq_places {width n : Nat} (h : n < 10 ^ (width + 1)) :
    padded (width + 1) n = (places (width + 1) n).map digitChar := by
  induction width generalizing n with
  | zero =>
    rw [Nat.zero_add, Nat.pow_one] at h
    rw [padded, digits_of_lt h, places, places, Nat.mod_eq_of_lt h]
    rfl
  | succ width ih =>
    have hdiv : n / 10 < 10 ^ (width + 1) := by
      rw [Nat.pow_succ] at h
      omega
    show padded (width + 2) n = (places (width + 1) (n / 10) ++ [n % 10]).map digitChar
    rw [padded_succ, ih hdiv, List.map_append]
    rfl

theorem lt_length_digits {width n : Nat} (h : 10 ^ width ≤ n) : width < (digits n).length := by
  induction width generalizing n with
  | zero => exact length_digits_pos n
  | succ width ih =>
    have hpos : 0 < 10 ^ width := Nat.pow_pos (by decide)
    rw [Nat.pow_succ] at h
    have hlen := ih (show 10 ^ width ≤ n / 10 by omega)
    rw [digits_of_le (by omega), List.length_append, List.length_singleton]
    omega

theorem exists_digit_of_mem_digits {n : Nat} {c : Char} (h : c ∈ digits n) :
    ∃ d < 10, c = digitChar d := by
  induction n using Nat.strongRecOn with
  | _ n ih =>
    by_cases hn : n < 10
    · rw [digits_of_lt hn, List.mem_singleton] at h
      exact ⟨n, hn, h⟩
    · rw [digits_of_le (Nat.not_lt.1 hn), List.mem_append, List.mem_singleton] at h
      rcases h with h | h
      · exact ih (n / 10) (by omega) h
      · exact ⟨n % 10, Nat.mod_lt n (by decide), h⟩

/-- A padded number is made of digits. -/
theorem exists_digit_of_mem_padded {width n : Nat} {c : Char} (h : c ∈ padded width n) :
    ∃ d < 10, c = digitChar d := by
  rw [padded, List.mem_append] at h
  rcases h with h | h
  · exact ⟨0, by decide, by rw [List.eq_of_mem_replicate h]; decide⟩
  · exact exists_digit_of_mem_digits h

theorem padded_ne_nil (width n : Nat) : padded width n ≠ [] := by
  intro h
  have hlen := length_padded width n
  have hpos := length_digits_pos n
  rw [h, List.length_nil] at hlen
  omega

/-- A number that does not fit takes as many places as it needs. -/
theorem padded_of_long {width n : Nat} (h : 10 ^ width ≤ n) :
    padded width n = padded (width + 1) n := by
  have hlen := lt_length_digits h
  rw [padded, padded, Nat.sub_eq_zero_of_le (by omega), Nat.sub_eq_zero_of_le hlen]

theorem length_padded_of_lt {width n : Nat} (h : n < 10 ^ (width + 1)) :
    (padded (width + 1) n).length = width + 1 := by
  rw [padded_eq_places h, List.length_map, length_places]

theorem padded_two {n : Nat} (h : n < 100) :
    padded 2 n = [digitChar (n / 10), digitChar (n % 10)] := by
  rw [padded_eq_places h]
  show [digitChar (n / 10 % 10), digitChar (n % 10)] = _
  rw [Nat.mod_eq_of_lt (show n / 10 < 10 by omega)]

end CivilTime.Text

namespace CivilTime

open Text

theorem numeral_map_digitChar {ds : List Nat} (h : ∀ d ∈ ds, d < 10) :
    numeral (ds.map digitChar) = number ds := by
  rw [numeral, filterMap_digitValue? h]

theorem numeral_append_digitChar (s : List Char) {d : Nat} (h : d < 10) :
    numeral (s ++ [digitChar d]) = 10 * numeral s + d := by
  rw [numeral, List.filterMap_append, List.filterMap_cons_some (digitValue?_digitChar h),
    List.filterMap_nil, number_append_singleton]
  rfl

theorem numeral_digits (n : Nat) : numeral (digits n) = n := by
  induction n using Nat.strongRecOn with
  | _ n ih =>
    by_cases h : n < 10
    · have hread := numeral_append_digitChar [] h
      rw [digits_of_lt h]
      exact hread.trans (Nat.zero_add n)
    · rw [digits_of_le (Nat.not_lt.1 h), numeral_append_digitChar _ (Nat.mod_lt n (by decide)),
        ih (n / 10) (by omega)]
      omega

/-- Zeros in front do not count. -/
theorem numeral_zeros (count : Nat) (s : List Char) :
    numeral (List.replicate count '0' ++ s) = numeral s := by
  induction count with
  | zero => rfl
  | succ count ih =>
    have hzero : digitValue? '0' = some 0 := by decide
    rw [← ih, List.replicate_succ, List.cons_append, numeral, List.filterMap_cons_some hzero]
    rfl

/-- A padded number is read as the number. -/
theorem numeral_padded (width n : Nat) : numeral (padded width n) = n := by
  rw [padded, numeral_zeros, numeral_digits]

/-- The first places of a fraction are those of a quotient. -/
theorem take_padded {count micro : Nat} (hc : count ≤ 6) (hm : micro < 1_000_000) :
    (padded 6 micro).take count
      = (places count (micro / 10 ^ (6 - count))).map digitChar := by
  have hsplit : 5 + 1 = count + (6 - count) := by omega
  rw [padded_eq_places hm, ← List.map_take, hsplit, take_places]

/-- The first places of a fraction tell its microseconds down to their last place. -/
theorem fractionMicros_take {count micro : Nat} (hc : count ≤ 6) (hm : micro < 1_000_000) :
    fractionMicros ((padded 6 micro).take count)
      = micro / 10 ^ (6 - count) * 10 ^ (6 - count) := by
  have hdiv : micro / 10 ^ (6 - count) < 10 ^ count := by
    have hsix : (6 - count) + count = 6 := by omega
    rw [Nat.div_lt_iff_lt_mul (Nat.pow_pos (by decide)), ← Nat.pow_add, Nat.add_comm, hsix]
    exact hm
  rw [take_padded hc hm, fractionMicros, numeral_map_digitChar fun _ => lt_of_mem_places,
    number_places hdiv, List.length_map, length_places]
  rfl

end CivilTime
