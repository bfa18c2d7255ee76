import CivilTime.Proofs.Pattern.Field
import CivilTime.Proofs.Text.LetterCase

/-!
# What a name is read as

Names are read in either case, the first that fits counts, and no two names of a list agree on all
the places that both have. So a name that has been written is the one that is read.

* `fold_of_ascii`: on ASCII the folded form is the small form.
* `Clashes`: two texts that differ at a place that both have, in either case.
* `firstSplit_names`: of names that clash with each other, the one that was written is read.
* `nameIndex?_of_clashes`: and it is found at its place.
* `reads_monthName`, `reads_weekdayName`, `reads_half`: the names of a pattern, in full or short.
-/

namespace CivilTime

open Text

/-! ### Small forms -/

/-- All letters that are not their own folded form lie outside ASCII, but for `A` to `Z`. -/
theorem foreign_caseRuns : ∀ r ∈ caseRuns.tail, 128 ≤ r.first := by decide +kernel

theorem Text.CaseRun.shift?_of_lt {r : CaseRun} {n : Nat} (h : n < r.first) :
    r.shift? n = none := by
  rw [shift?, if_neg fun hr => absurd hr.1 (by omega)]

theorem latin_shift? (n : Nat) :
    (CaseRun.mk 0x0041 26 1 32).shift? n = if 65 ≤ n ∧ n < 91 then some (n + 32) else none := by
  simp only [CaseRun.shift?, Nat.mod_one, Nat.reduceMul, Nat.reduceAdd, and_true]
  rfl

theorem fold_eq_of_ascii {c : Char} (h : c.toNat < 128) :
    fold c = if 65 ≤ c.toNat ∧ c.toNat < 91 then Char.ofNat (c.toNat + 32) else c := by
  have hruns : caseRuns = CaseRun.mk 0x0041 26 1 32 :: caseRuns.tail := rfl
  have htail : caseRuns.tail.findSome? (·.shift? c.toNat) = none := by
    rw [List.findSome?_eq_none_iff]
    intro r hr
    exact CaseRun.shift?_of_lt (Nat.lt_of_lt_of_le h (foreign_caseRuns r hr))
  rw [fold, hruns, List.findSome?_cons, latin_shift?, htail]
  by_cases hc : 65 ≤ c.toNat ∧ c.toNat < 91
  · rw [if_pos hc, if_pos hc]
  · rw [if_neg hc, if_neg hc]

/-- On ASCII the folded form is the small form. -/
theorem fold_of_ascii {c : Char} (h : c.toNat < 128) : fold c = c.toLower := by
  have hall : ∀ c : Char, c.toNat < 128 →
      (if 65 ≤ c.toNat ∧ c.toNat < 91 then Char.ofNat (c.toNat + 32) else c) = c.toLower :=
    forall_ascii (by decide)
  rw [fold_eq_of_ascii h, hall c h]

/-- ASCII letters with different small forms are different letters. -/
theorem sameLetter_of_toLower_ne {a b : Char} (ha : a.toNat < 128) (hb : b.toNat < 128)
    (h : a.toLower ≠ b.toLower) : sameLetter a b = false := by
  rw [sameLetter, fold_of_ascii ha, fold_of_ascii hb]
  exact beq_false_of_ne h

/-! ### Names -/

/-- Whether two texts have different ASCII letters, in either case, at one place. -/
def Clashes : List Char → List Char → Prop
  | a :: r, b :: t => (a.toNat < 128 ∧ b.toNat < 128 ∧ a.toLower ≠ b.toLower) ∨ Clashes r t
  | _, _ => False

instance decidableClashes : (s t : List Char) → Decidable (Clashes s t)
  | a :: r, b :: t =>
    have := decidableClashes r t
    inferInstanceAs (Decidable ((a.toNat < 128 ∧ b.toNat < 128 ∧ a.toLower ≠ b.toLower) ∨
      Clashes r t))
  | [], _ => inferInstanceAs (Decidable False)
  | _ :: _, [] => inferInstanceAs (Decidable False)

/-- A name is not read off a text that it clashes with. -/
theorem Form.split?_of_clashes {name text rest : List Char} (h : Clashes name text) :
    Form.split? (Directive.nameForm name) (text ++ rest) = none := by
  induction name generalizing text with
  | nil => exact h.elim
  | cons a r ih =>
    cases text with
    | nil => exact h.elim
    | cons b t =>
      rw [Directive.nameForm, List.map_cons, List.cons_append, Form.split?]
      rcases h with ⟨ha, hb, hne⟩ | h
      · rw [if_neg (by rw [Glyph.admits, sameLetter_of_toLower_ne ha hb hne]; decide)]
      · have hr := ih h
        rw [Directive.nameForm] at hr
        rw [hr, Option.map_none, ite_self]

/-- A name is read off itself. -/
theorem Form.split?_nameForm (name rest : List Char) :
    Form.split? (Directive.nameForm name) (name ++ rest) = some (name, rest) := by
  induction name with
  | nil => rfl
  | cons a r ih =>
    rw [Directive.nameForm] at ih ⊢
    rw [List.map_cons, List.cons_append, Form.split?, Glyph.admits, if_pos (sameLetter_refl a), ih]
    rfl

/-- Of names that clash with each other, the one that was written is read. -/
theorem firstSplit_names {names : List (List Char)} {name : List Char} (hmem : name ∈ names)
    (hclash : names.Pairwise Clashes) (rest : List Char) :
    firstSplit (names.map Directive.nameForm) (name ++ rest) = some (name, rest) := by
  induction names with
  | nil => cases hmem
  | cons first others ih =>
    rw [List.pairwise_cons] at hclash
    rw [firstSplit, List.map_cons, List.findSome?_cons]
    rcases List.mem_cons.1 hmem with rfl | hmem
    · rw [Form.split?_nameForm]
    · rw [Form.split?_of_clashes (hclash.1 name hmem)]
      exact ih hmem hclash.2

/-- Texts that clash do not agree in their small forms. -/
theorem small_ne_of_clashes {s t : List Char} (h : Clashes s t) : small s ≠ small t := by
  induction s generalizing t with
  | nil => exact h.elim
  | cons a r ih =>
    cases t with
    | nil => exact h.elim
    | cons b t =>
      intro heq
      obtain ⟨hab, hrt⟩ := List.cons.inj heq
      rcases h with ⟨-, -, hne⟩ | h
      · exact hne hab
      · exact ih h hrt

/-- Of names that clash with each other, each is found at its own place. -/
theorem nameIndex?_of_clashes {names : List (List Char)} {name : List Char} {k : Nat}
    (hk : names[k]? = some name) (hclash : names.Pairwise Clashes) :
    nameIndex? names name = some (k + 1) := by
  have hfind : (names.findIdx? fun n => small n = small name) = some k := by
    induction names generalizing k with
    | nil => cases hk
    | cons first others ih =>
      rw [List.pairwise_cons] at hclash
      rw [List.findIdx?_cons]
      cases k with
      | zero =>
        obtain rfl : first = name := Option.some.inj hk
        rw [if_pos (decide_eq_true rfl)]
      | succ k =>
        have hne := small_ne_of_clashes (hclash.1 name (List.mem_of_getElem? hk))
        rw [if_neg (by simpa using hne), ih hk hclash.2]
        rfl
  rw [nameIndex?, hfind]
  rfl

/-! ### Names of months and weekdays -/

/-- The months in full. -/
def fullMonths : List (List Char) := monthNames.map String.toList

/-- The months in short. -/
def shortMonths : List (List Char) := monthNames.map fun m => shortName m.toList

/-- The weekdays in full. -/
def fullWeekdays : List (List Char) := weekdayNames.map String.toList

/-- The weekdays in short. -/
def shortWeekdays : List (List Char) := weekdayNames.map fun d => shortName d.toList

theorem fullMonths_clash : fullMonths.Pairwise Clashes := by decide +kernel

theorem shortMonths_clash : shortMonths.Pairwise Clashes := by decide +kernel

theorem fullWeekdays_clash : fullWeekdays.Pairwise Clashes := by decide +kernel

theorem shortWeekdays_clash : shortWeekdays.Pairwise Clashes := by decide +kernel

theorem getElem?_map_of_lt {names : List String} {k : Nat} (h : k < names.length)
    (f : String → List Char) : (names.map f)[k]? = some (f (names.getD k "")) := by
  rw [List.getElem?_map, List.getD_eq_getElem?_getD, List.getElem?_eq_getElem h]
  rfl

namespace WallTime

variable (w : WallTime)

/-- The place of the month among the twelve. -/
theorem month_place :
    w.date.month - 1 < monthNames.length ∧ w.date.month - 1 + 1 = w.date.month := by
  have hv := Date.ofDayNumber_valid w.dayNumber_lt
  have h1 : 1 ≤ w.date.month := hv.2.2.1
  have h12 : w.date.month ≤ 12 := hv.2.2.2.1
  exact ⟨by rw [show monthNames.length = 12 from rfl]; omega, by omega⟩

theorem monthName_place : fullMonths[w.date.month - 1]? = some w.monthName :=
  getElem?_map_of_lt w.month_place.1 String.toList

theorem shortMonthName_place : shortMonths[w.date.month - 1]? = some (shortName w.monthName) :=
  getElem?_map_of_lt w.month_place.1 fun m => shortName m.toList

theorem weekdayName_place : fullWeekdays[w.dayNumber % 7]? = some w.weekdayName :=
  getElem?_map_of_lt (Nat.mod_lt _ (by decide)) String.toList

theorem shortWeekdayName_place :
    shortWeekdays[w.dayNumber % 7]? = some (shortName w.weekdayName) :=
  getElem?_map_of_lt (Nat.mod_lt _ (by decide)) fun d => shortName d.toList

end WallTime

namespace Directive

variable {rest : List Char}

/-- A directive whose forms are names that clash reads each of them. -/
theorem reads_name {d : Directive} {names : List (List Char)} {name : List Char} {k : Nat}
    (hforms : d.forms = names.map nameForm) (hclash : names.Pairwise Clashes)
    (hk : names[k]? = some name) : d.Reads name rest := by
  rw [Reads, hforms]
  exact firstSplit_names (List.mem_of_getElem? hk) hclash rest

theorem reads_monthName (w : WallTime) : monthName.Reads w.monthName rest :=
  reads_name (by rw [fullMonths, List.map_map]; rfl) fullMonths_clash w.monthName_place

theorem reads_shortMonthName (w : WallTime) :
    shortMonthName.Reads (shortName w.monthName) rest :=
  reads_name (by rw [shortMonths, List.map_map]; rfl) shortMonths_clash w.shortMonthName_place

theorem reads_weekdayName (w : WallTime) : weekdayName.Reads w.weekdayName rest :=
  reads_name (by rw [fullWeekdays, List.map_map]; rfl) fullWeekdays_clash w.weekdayName_place

theorem reads_shortWeekdayName (w : WallTime) :
    shortWeekdayName.Reads (shortName w.weekdayName) rest :=
  reads_name (by rw [shortWeekdays, List.map_map]; rfl) shortWeekdays_clash
    w.shortWeekdayName_place

/-- The halves of the day are written in capitals and looked for in small letters. -/
theorem reads_half {text : List Char} (h : text = ['A', 'M'] ∨ text = ['P', 'M']) :
    half.Reads text rest := by
  have hA : sameLetter 'a' 'A' = true := by decide +kernel
  have hM : sameLetter 'm' 'M' = true := by decide +kernel
  have hP : sameLetter 'p' 'P' = true := by decide +kernel
  have hAP : sameLetter 'a' 'P' = false :=
    sameLetter_of_toLower_ne (by decide) (by decide) (by decide)
  rcases h with rfl | rfl
  · simp [Reads, forms, firstSplit, nameForm, Form.split?, Glyph.admits, hA, hM]
  · simp [Reads, forms, firstSplit, nameForm, Form.split?, Glyph.admits, hAP, hP, hM]

end Directive

end CivilTime
