import CivilTime.Proofs.Pattern.Numeral

/-!
# What a field reads first

A field that has been written is what its directive takes off the text first, provided that a field
which could read on is followed by no digit. So the first try of the reader is the right one.

* `Directive.Reads`: the first form that fits takes exactly the given text.
* `StopsDigits`: a text that no number can be read on into.
* `reads_padded`: the numbers of one or two places, from what the directive does on one and on two
  digits.
* `reads_yearDay`, `reads_fullYear`, `reads_shortYear`, `reads_fraction`: the other numbers.
-/

namespace CivilTime

open Text

/-- The first form of a list that a text starts with, and the rest. -/
def firstSplit (fs : List Form) (s : List Char) : Option (List Char × List Char) :=
  fs.findSome? (Form.split? · s)

/-- Whether a directive takes a text first when another text follows. -/
def Directive.Reads (d : Directive) (text rest : List Char) : Prop :=
  firstSplit d.forms (text ++ rest) = some (text, rest)

/-- Whether a text does not start with a decimal digit. -/
def StopsDigits (rest : List Char) : Prop := ∀ c ∈ rest.head?, digitValue? c = none

/-! ### Glyphs and digits -/

@[simp] theorem Form.split?_nil (s : List Char) : Form.split? [] s = some ([], s) := rfl

@[simp] theorem Form.split?_digit {low high d : Nat} (h : d < 10) (f : Form) (s : List Char) :
    Form.split? (.digit low high :: f) (digitChar d :: s)
      = if low ≤ d ∧ d ≤ high then (Form.split? f s).map fun p => (digitChar d :: p.1, p.2)
        else none := by
  rw [Form.split?, Glyph.admits, asciiDigit?_digitChar h]
  simp only [Option.any_some, Bool.and_eq_true, decide_eq_true_eq]

@[simp] theorem Form.split?_anyDigit {d : Nat} (h : d < 10) (f : Form) (s : List Char) :
    Form.split? (.anyDigit :: f) (digitChar d :: s)
      = (Form.split? f s).map fun p => (digitChar d :: p.1, p.2) := by
  rw [Form.split?, Glyph.admits, digitValue?_digitChar h]
  rfl

theorem asciiDigit?_of_not_digit {c : Char} (h : digitValue? c = none) : asciiDigit? c = none := by
  cases hc : asciiDigit? c with
  | none => rfl
  | some d =>
    rw [digitValue?_of_asciiDigit? hc] at h
    cases h

/-- No digit is taken off a text that does not start with one. -/
@[simp] theorem Form.split?_digit_stop {rest : List Char} (h : StopsDigits rest) (low high : Nat)
    (f : Form) : Form.split? (.digit low high :: f) rest = none := by
  cases rest with
  | nil => rfl
  | cons c r =>
    rw [Form.split?, Glyph.admits, asciiDigit?_of_not_digit (h c rfl)]
    rfl

@[simp] theorem Form.split?_anyDigit_stop {rest : List Char} (h : StopsDigits rest) (f : Form) :
    Form.split? (.anyDigit :: f) rest = none := by
  cases rest with
  | nil => rfl
  | cons c r =>
    rw [Form.split?, Glyph.admits, h c rfl]
    rfl

/-! ### Numbers of one or two places -/

namespace Directive

variable {a b c n : Nat} {rest : List Char}

/-- The month, and likewise the hour of half a day: `1[0-2]`, `0[1-9]`, `[1-9]`. -/
theorem reads_month_two (hb : b < 10) (h1 : 1 ≤ 10 * a + b) (h2 : 10 * a + b ≤ 12) :
    month.Reads [digitChar a, digitChar b] rest := by
  have hcases : a = 1 ∧ b ≤ 2 ∨ a = 0 ∧ 1 ≤ b := by omega
  rcases hcases with ⟨rfl, h⟩ | ⟨rfl, h⟩
  · simp [Reads, forms, firstSplit, hb, h]
  · simp [Reads, forms, firstSplit, hb, h, Nat.le_of_lt_succ hb]

theorem reads_month_one (h1 : 1 ≤ n) (h2 : n < 10) (hrest : StopsDigits rest) :
    month.Reads [digitChar n] rest := by
  simp [Reads, forms, firstSplit, h1, h2, Nat.le_of_lt_succ h2, hrest]

theorem reads_day_two (hb : b < 10) (h1 : 1 ≤ 10 * a + b) (h2 : 10 * a + b ≤ 31) :
    day.Reads [digitChar a, digitChar b] rest := by
  have hcases : a = 3 ∧ b ≤ 1 ∨ a = 2 ∨ a = 1 ∨ a = 0 ∧ 1 ≤ b := by omega
  rcases hcases with ⟨rfl, h⟩ | rfl | rfl | ⟨rfl, h⟩
  · simp [Reads, forms, firstSplit, hb, h]
  · simp [Reads, forms, firstSplit, hb]
  · simp [Reads, forms, firstSplit, hb]
  · simp [Reads, forms, firstSplit, hb, h, Nat.le_of_lt_succ hb]

theorem reads_day_one (h1 : 1 ≤ n) (h2 : n < 10) (hrest : StopsDigits rest) :
    day.Reads [digitChar n] rest := by
  simp [Reads, forms, firstSplit, h1, h2, Nat.le_of_lt_succ h2, hrest]

theorem reads_hour_two (hb : b < 10) (h2 : 10 * a + b ≤ 23) :
    hour.Reads [digitChar a, digitChar b] rest := by
  have hcases : a = 2 ∧ b ≤ 3 ∨ a = 1 ∨ a = 0 := by omega
  rcases hcases with ⟨rfl, h⟩ | rfl | rfl
  · simp [Reads, forms, firstSplit, hb, h]
  · simp [Reads, forms, firstSplit, hb]
  · simp [Reads, forms, firstSplit, hb]

theorem reads_hour_one (h2 : n < 10) (hrest : StopsDigits rest) :
    hour.Reads [digitChar n] rest := by
  simp [Reads, forms, firstSplit, h2, hrest]

theorem reads_minute_two (ha : a ≤ 5) (hb : b < 10) :
    minute.Reads [digitChar a, digitChar b] rest := by
  simp [Reads, forms, firstSplit, sixtieth, ha, hb, show a < 10 by omega]

theorem reads_minute_one (h2 : n < 10) (hrest : StopsDigits rest) :
    minute.Reads [digitChar n] rest := by
  simp [Reads, forms, firstSplit, sixtieth, h2, hrest]

theorem reads_second_two (ha : a ≤ 5) (hb : b < 10) :
    second.Reads [digitChar a, digitChar b] rest := by
  simp [Reads, forms, firstSplit, sixtieth, ha, hb, show a < 10 by omega, show ¬ 6 ≤ a by omega]

theorem reads_second_one (h2 : n < 10) (hrest : StopsDigits rest) :
    second.Reads [digitChar n] rest := by
  simp [Reads, forms, firstSplit, sixtieth, h2, hrest]

/-- Numbers of one or two places: one digit is read where no other follows. -/
theorem reads_padded {d : Directive} {width : Nat} (hw : width = 1 ∨ width = 2) (hn : n < 100)
    (htwo : d.Reads [digitChar (n / 10), digitChar (n % 10)] rest)
    (hone : n < 10 → StopsDigits rest → d.Reads [digitChar n] rest)
    (hstop : width = 1 → StopsDigits rest) : d.Reads (padded width n) rest := by
  rcases hw with rfl | rfl
  · by_cases h : n < 10
    · rw [show padded 1 n = [digitChar n] by rw [padded, digits_of_lt h]; rfl]
      exact hone h (hstop rfl)
    · rw [padded_of_long (show 10 ^ 1 ≤ n by omega), padded_two hn]
      exact htwo
  · rw [padded_two hn]
    exact htwo

/-! ### Other numbers -/

theorem reads_shortYear (ha : a < 10) (hb : b < 10) :
    shortYear.Reads [digitChar a, digitChar b] rest := by
  simp [Reads, forms, firstSplit, ha, hb]

theorem reads_fullYear (h : n < 10_000) : fullYear.Reads (padded 4 n) rest := by
  rw [padded_eq_places h]
  have hdigit : ∀ m, m % 10 < 10 := fun m => Nat.mod_lt m (by decide)
  simp [Reads, forms, firstSplit, places, hdigit]

/-- The day of the year in three places: `36[0-6]`, `3[0-5]\d`, `[1-2]\d\d`, `0[1-9]\d`,
`00[1-9]`. -/
theorem reads_yearDay_three (hb : b < 10) (hc : c < 10) (h1 : 1 ≤ 100 * a + 10 * b + c)
    (h2 : 100 * a + 10 * b + c ≤ 366) :
    yearDay.Reads [digitChar a, digitChar b, digitChar c] rest := by
  have hcases : a = 3 ∧ b = 6 ∧ c ≤ 6 ∨ a = 3 ∧ b ≤ 5 ∨ a = 2 ∨ a = 1 ∨ a = 0 ∧ 1 ≤ b ∨
      a = 0 ∧ b = 0 ∧ 1 ≤ c := by omega
  rcases hcases with ⟨rfl, rfl, h⟩ | ⟨rfl, h⟩ | rfl | rfl | ⟨rfl, h⟩ | ⟨rfl, rfl, h⟩
  · simp [Reads, forms, firstSplit, hc, h]
  · simp [Reads, forms, firstSplit, hb, hc, h, show ¬ 6 ≤ b by omega]
  · simp [Reads, forms, firstSplit, hb, hc]
  · simp [Reads, forms, firstSplit, hb, hc]
  · simp [Reads, forms, firstSplit, hb, hc, h, Nat.le_of_lt_succ hb]
  · simp [Reads, forms, firstSplit, hc, h, Nat.le_of_lt_succ hc]

theorem reads_yearDay_two (ha : a < 10) (hb : b < 10) (h1 : 1 ≤ 10 * a + b)
    (hrest : StopsDigits rest) : yearDay.Reads [digitChar a, digitChar b] rest := by
  have hcases : 1 ≤ a ∨ a = 0 ∧ 1 ≤ b := by omega
  rcases hcases with h | ⟨rfl, h⟩
  · simp [Reads, forms, firstSplit, ha, hb, h, Nat.le_of_lt_succ ha, hrest]
  · simp [Reads, forms, firstSplit, hb, h, Nat.le_of_lt_succ hb, hrest]

theorem reads_yearDay_one (h1 : 1 ≤ n) (h2 : n < 10) (hrest : StopsDigits rest) :
    yearDay.Reads [digitChar n] rest := by
  simp [Reads, forms, firstSplit, h1, h2, Nat.le_of_lt_succ h2, hrest]

/-- The day of the year in one to three places. -/
theorem reads_yearDay {width : Nat} (hw : 1 ≤ width ∧ width ≤ 3) (h1 : 1 ≤ n) (h2 : n ≤ 366)
    (hstop : width < 3 → StopsDigits rest) : yearDay.Reads (padded width n) rest := by
  have hthree : yearDay.Reads (padded 3 n) rest := by
    rw [padded_eq_places (show n < 10 ^ 3 by omega)]
    exact reads_yearDay_three (Nat.mod_lt _ (by decide)) (Nat.mod_lt _ (by decide)) (by omega)
      (by omega)
  have htwo : StopsDigits rest → n < 100 → yearDay.Reads (padded 2 n) rest := by
    intro hrest h
    rw [padded_eq_places h]
    exact reads_yearDay_two (Nat.mod_lt _ (by decide)) (Nat.mod_lt _ (by decide)) (by omega) hrest
  have hwidth : width = 1 ∨ width = 2 ∨ width = 3 := by omega
  rcases hwidth with rfl | rfl | rfl
  · by_cases hlong : 10 ≤ n
    · rw [padded_of_long (show 10 ^ 1 ≤ n by omega)]
      by_cases hlonger : 100 ≤ n
      · rw [padded_of_long (show 10 ^ 2 ≤ n by omega)]
        exact hthree
      · exact htwo (hstop (by decide)) (by omega)
    · rw [show padded 1 n = [digitChar n] by rw [padded, digits_of_lt (by omega)]; rfl]
      exact reads_yearDay_one h1 (by omega) (hstop (by decide))
  · by_cases hlong : 100 ≤ n
    · rw [padded_of_long (show 10 ^ 2 ≤ n by omega)]
      exact hthree
    · exact htwo (hstop (by decide)) (by omega)
  · exact hthree

end Directive

/-! ### Runs of digits -/

variable {g : Glyph} {ds : List Nat} {rest : List Char}

theorem Form.split?_replicate (hg : ∀ d < 10, g.admits (digitChar d) = true)
    (hds : ∀ d ∈ ds, d < 10) :
    Form.split? (List.replicate ds.length g) (ds.map digitChar ++ rest)
      = some (ds.map digitChar, rest) := by
  induction ds with
  | nil => rfl
  | cons d ds ih =>
    rw [List.length_cons, List.replicate_succ, List.map_cons, List.cons_append, Form.split?,
      if_pos (hg d (hds d List.mem_cons_self)), ih fun e he => hds e (List.mem_cons_of_mem d he)]
    rfl

theorem Form.split?_replicate_of_long {count : Nat} (hlong : ds.length < count)
    (hg : ∀ d < 10, g.admits (digitChar d) = true) (hds : ∀ d ∈ ds, d < 10)
    (hrest : ∀ c ∈ rest.head?, g.admits c = false) :
    Form.split? (List.replicate count g) (ds.map digitChar ++ rest) = none := by
  induction ds generalizing count with
  | nil =>
    obtain ⟨k, rfl⟩ : ∃ k, count = k + 1 :=
      ⟨count - 1, by simp only [List.length_nil] at hlong; omega⟩
    cases rest with
    | nil => rfl
    | cons c r =>
      rw [List.replicate_succ, List.map_nil, List.nil_append, Form.split?, hrest c rfl]
      rfl
  | cons d ds ih =>
    obtain ⟨k, rfl⟩ : ∃ k, count = k + 1 :=
      ⟨count - 1, by simp only [List.length_cons] at hlong; omega⟩
    rw [List.length_cons] at hlong
    rw [List.replicate_succ, List.map_cons, List.cons_append, Form.split?,
      if_pos (hg d (hds d List.mem_cons_self)),
      ih (by omega) fun e he => hds e (List.mem_cons_of_mem d he)]
    rfl

/-- Of the runs of digits, longest first, the one that fits is taken. -/
theorem firstSplit_digitRuns {most : Nat} (hne : ds ≠ []) (hlen : ds.length ≤ most)
    (hg : ∀ d < 10, g.admits (digitChar d) = true) (hds : ∀ d ∈ ds, d < 10)
    (hrest : ds.length < most → ∀ c ∈ rest.head?, g.admits c = false) :
    firstSplit (Directive.digitRuns g most) (ds.map digitChar ++ rest)
      = some (ds.map digitChar, rest) := by
  induction most with
  | zero => exact absurd (List.length_eq_zero_iff.1 (Nat.le_zero.1 hlen)) hne
  | succ most ih =>
    rw [Directive.digitRuns, firstSplit, List.findSome?_cons]
    by_cases heq : ds.length = most + 1
    · rw [← heq, Form.split?_replicate hg hds]
    · have hlt : ds.length < most + 1 := by omega
      rw [Form.split?_replicate_of_long hlt hg hds (hrest hlt)]
      exact ih (by omega) fun h => hrest (by omega)

/-- A fraction of up to six places is read in full. -/
theorem Directive.reads_fraction {width micro : Nat} (h1 : 1 ≤ width) (h6 : width ≤ 6)
    (hmicro : micro < 1_000_000) (hstop : width < 6 → StopsDigits rest) :
    fraction.Reads ((padded 6 micro).take width) rest := by
  have hdigit : ∀ d < 10, (Glyph.digit 0 9).admits (digitChar d) = true := by decide
  rw [padded_eq_places hmicro, ← List.map_take]
  have hlen : ((places (5 + 1) micro).take width).length = width := by
    rw [List.length_take, length_places]
    omega
  apply firstSplit_digitRuns
  · intro hnil
    rw [hnil, List.length_nil] at hlen
    omega
  · omega
  · exact hdigit
  · exact fun d hd => lt_of_mem_places (List.mem_of_mem_take hd)
  · intro hlt c hc
    rw [Glyph.admits, asciiDigit?_of_not_digit (hstop (by omega) c hc)]
    rfl

end CivilTime
