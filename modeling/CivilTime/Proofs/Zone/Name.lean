import CivilTime.Proofs.Zone.Register
import Mathlib.Data.List.Forall2

/-!
# The spelling of names

Every name of the gazetteer is spelled in letters and digits of ASCII and the four signs between them,
and it stays so in the other case and with words for its signs. So an identifier with any other
character, such as a colon, is not a name.

* `nameChar`, `IsName`: the characters, and the texts that are made of them.
* `Gazetteer.isName_of_spelled`: names checked together, from the characters of each.
* `Gazetteer.isName_of_zone?`, `Zone.isName_of_byName?`: what is found by name is a name.
* `Register.zone?_of_not_isName`: other texts are left to the register of offsets.
-/

namespace CivilTime

open Text

/-- Whether a character stands in names. -/
def nameChar (c : Char) : Bool := c.isAlphanum || ['/', '_', '+', '-'].contains c

/-- Whether a text is spelled as names are. -/
def IsName (s : List Char) : Prop := s ≠ [] ∧ s.all nameChar = true

instance (s : List Char) : Decidable (IsName s) := inferInstanceAs (Decidable (_ ∧ _))

variable {s t : List Char}

theorem nameChar_toLower (c : Char) : nameChar c.toLower = nameChar c := by
  by_cases hc : c.toNat < 128
  · revert c
    exact forall_ascii (by decide)
  · rw [toLower_of_foreign (Nat.not_lt.1 hc)]

theorem nameChar_toUpper (c : Char) : nameChar c.toUpper = nameChar c := by
  by_cases hc : c.toNat < 128
  · revert c
    exact forall_ascii (by decide)
  · rw [toUpper_of_foreign (Nat.not_lt.1 hc)]

/-- The case of letters does not matter in the spelling of names. -/
theorem isName_map {f : Char → Char} (hf : ∀ c, nameChar (f c) = nameChar c) :
    IsName (s.map f) ↔ IsName s := by
  have hcomp : nameChar ∘ f = nameChar := funext hf
  rw [IsName, IsName, List.all_map, hcomp, ne_eq, List.map_eq_nil_iff]

/-- Words for signs are spelled as names are. -/
theorem all_nameChar_of_withSigns (h : (withSigns s).all nameChar = true) :
    s.all nameChar = true := by
  fun_induction withSigns s with
  | case1 r ih =>
    have hword : ['_', 'p', 'l', 'u', 's', '_'].all nameChar = true := by decide
    rw [List.all_cons, Bool.and_eq_true] at h
    show (['_', 'p', 'l', 'u', 's', '_'] ++ r).all nameChar = true
    rw [List.all_append, Bool.and_eq_true]
    exact ⟨hword, ih h.2⟩
  | case2 r ih =>
    have hword : ['_', 'm', 'i', 'n', 'u', 's', '_'].all nameChar = true := by decide
    rw [List.all_cons, Bool.and_eq_true] at h
    show (['_', 'm', 'i', 'n', 'u', 's', '_'] ++ r).all nameChar = true
    rw [List.all_append, Bool.and_eq_true]
    exact ⟨hword, ih h.2⟩
  | case3 c r _ _ ih =>
    rw [List.all_cons, Bool.and_eq_true] at h ⊢
    exact ⟨h.1, ih h.2⟩
  | case4 => exact h

theorem isName_of_withSigns (h : IsName (withSigns s)) : IsName s := by
  refine ⟨?_, all_nameChar_of_withSigns h.2⟩
  rintro rfl
  exact h.1 rfl

/-! ### The gazetteer -/

namespace Gazetteer

/-- Names are checked on their characters, which the literals are made of. -/
theorem isName_of_spelled {α : Type} {key : α → String} {as : List α} {names : List (List Char)}
    (hs : List.Forall₂ (fun a name => key a = String.ofList name) as names)
    (h : ∀ name ∈ names, IsName name) : ∀ a ∈ as, IsName (key a).toList := by
  induction hs with
  | nil => exact fun _ ha => absurd ha List.not_mem_nil
  | cons hkey _ ih =>
    obtain ⟨hname, hnames⟩ := List.forall_mem_cons.1 h
    refine List.forall_mem_cons.2 ⟨?_, ih hnames⟩
    rwa [hkey, String.toList_ofList]

theorem isName_entries : ∀ e ∈ entries, IsName e.name.toList := by
  unfold entries
  -- the characters of all names are fixed first, and the check then runs on these
  refine isName_of_spelled (by repeat' apply List.rel_append; all_goals repeat' constructor) ?_
  decide +kernel

theorem isName_aliases : ∀ a ∈ aliases, IsName a.1.toList := by
  unfold aliases
  refine isName_of_spelled (by repeat' constructor) ?_
  decide +kernel

theorem isName_of_sameName (h : sameName s t = true) (hs : IsName s) : IsName t := by
  have hsmall : small s = small t := eq_of_beq h
  rw [← isName_map nameChar_toLower] at hs ⊢
  rwa [show t.map Char.toLower = s.map Char.toLower from hsmall.symm]

/-- Whatever stands for a zone of the gazetteer is spelled as names are. -/
theorem isName_of_zone? {name : List Char} {z : Zone} (h : zone? name = some z) : IsName name := by
  rcases zone?_eq_some h with ⟨e, he, hsame, -⟩ | ⟨a, ha, hsame, -⟩
  · exact isName_of_sameName hsame (isName_entries e he)
  · exact isName_of_sameName hsame (isName_aliases a ha)

end Gazetteer

/-- Whatever is found by name is spelled as names are. -/
theorem Zone.isName_of_byName? {z : Zone} (h : byName? s = some z) : IsName s := by
  rw [byName?] at h
  split at h
  · next hcapitals =>
    have hupper := map_toUpper_of_capitals hcapitals (by simp [foreignInitials])
    rw [← isName_map nameChar_toUpper, hupper]
    decide
  · split at h
    · exact isName_of_withSigns (Gazetteer.isName_of_zone? h)
    · cases h

theorem Zone.byName?_of_not_isName (h : ¬ IsName s) : byName? s = none := by
  rw [Option.eq_none_iff_forall_ne_some]
  exact fun _ hz => h (isName_of_byName? hz)

/-- The keys of a table of names are spelled as names are, so nothing else is found in it. -/
theorem lookup_of_not_isName {α : Type} {table : List (String × α)}
    (htable : ∀ p ∈ table, IsName p.1.toList) (h : ¬ IsName s) :
    table.lookup (String.ofList s) = none := by
  rw [List.lookup_eq_none_iff]
  intro p hp
  rw [bne_iff_ne]
  intro hkey
  have hname := htable p hp
  rw [← hkey, String.toList_ofList] at hname
  exact h hname

/-- An ASCII text that is not spelled as names are is known to the register of offsets alone. -/
theorem Register.zone?_of_not_isName {r : Register} (hs : isAscii s = true) (h : ¬ IsName s)
    (hr : r ≠ .offset) : r.zone? s = none := by
  have hlegacy : ∀ p ∈ legacyOffsets, IsName p.1.toList := by decide
  have habbreviations : ∀ p ∈ abbreviations, IsName p.1.toList := by decide
  have hcapitals : ¬ IsName (capitals s) := by
    rwa [capitals_of_isAscii hs, isName_map nameChar_toUpper]
  cases r with
  | legacyOffset =>
    rw [zone?, lookup_of_not_isName hlegacy hcapitals]
    rfl
  | name => exact Zone.byName?_of_not_isName h
  | abbreviation =>
    rw [zone?, lookup_of_not_isName habbreviations hcapitals]
    rfl
  | offset => exact absurd rfl hr

end CivilTime
