import CivilTime.Text.Capital

/-!
# Letter case

Small and capital forms of ASCII letters, and the capital forms of all other characters. On ASCII text
both forms say the same: texts with one small form have one capital form. The capital form of a letter
outside ASCII starts with `S`, `I` or `F` if it is in ASCII at all; so a text without these three is the
capital form of nothing but itself in another case.

* `toLower_of_foreign`, `toUpper_of_foreign`: characters outside ASCII are their own forms.
* `isAscii_of_small_eq`, `capitals_of_small_eq`: ASCII texts that differ in case only.
* `capital_cases`, `map_toUpper_of_capitals`: what a capital form is that of.
* `Caseless`: characters that are their own capital form, and that of no other.
-/

namespace CivilTime.Text

variable {c d : Char} {s t : List Char}

theorem toLower_of_foreign (h : 128 ≤ c.toNat) : c.toLower = c := by
  have hcapital : ¬ (c.val ≥ 'A'.val ∧ c.val ≤ 'Z'.val) := by
    rintro ⟨-, hle⟩
    have hle : c.toNat ≤ 90 := UInt32.le_iff_toNat_le.1 hle
    omega
  exact dif_neg hcapital

theorem toUpper_of_foreign (h : 128 ≤ c.toNat) : c.toUpper = c := by
  have hsmall : ¬ (c.val ≥ 'a'.val ∧ c.val ≤ 'z'.val) := by
    rintro ⟨-, hle⟩
    have hle : c.toNat ≤ 122 := UInt32.le_iff_toNat_le.1 hle
    omega
  exact dif_neg hsmall

/-! ### Texts in ASCII -/

theorem isAscii_cons : isAscii (c :: s) = true ↔ c.toNat < 128 ∧ isAscii s = true := by
  rw [isAscii, List.all_cons, Bool.and_eq_true, decide_eq_true_eq, ← isAscii]

/-- What holds of the first 128 characters holds of all in ASCII. -/
theorem forall_ascii {P : Char → Prop} (h : ∀ n < 128, P (Char.ofNat n)) :
    ∀ c : Char, c.toNat < 128 → P c := by
  intro c hc
  have := h c.toNat hc
  rwa [Char.ofNat_toNat] at this

/-- The small form of a letter has the same capital form. -/
theorem toUpper_toLower : ∀ c : Char, c.toNat < 128 → c.toLower.toUpper = c.toUpper :=
  forall_ascii (by decide)

theorem toLower_lt : ∀ c : Char, c.toNat < 128 → c.toLower.toNat < 128 := forall_ascii (by decide)

/-- A text that differs from an ASCII text in case only is in ASCII. -/
theorem isAscii_of_small_eq (hs : isAscii s = true) (h : small s = small t) : isAscii t = true := by
  induction s generalizing t with
  | nil =>
    rw [List.map_eq_nil_iff.1 (show t.map Char.toLower = [] from h.symm)]
    rfl
  | cons c s ih =>
    obtain ⟨d, t, rfl, hd, ht⟩ := List.map_eq_cons_iff.1 (show t.map Char.toLower = _ from h.symm)
    obtain ⟨hc, hs⟩ := isAscii_cons.1 hs
    refine isAscii_cons.2 ⟨Nat.lt_of_not_le ?_, ih hs ht.symm⟩
    intro hforeign
    have hlt := toLower_lt c hc
    rw [← hd, toLower_of_foreign hforeign] at hlt
    omega

theorem map_toUpper_small (hs : isAscii s = true) :
    (small s).map Char.toUpper = s.map Char.toUpper := by
  induction s with
  | nil => rfl
  | cons c s ih =>
    obtain ⟨hc, hs⟩ := isAscii_cons.1 hs
    show c.toLower.toUpper :: (small s).map Char.toUpper = c.toUpper :: s.map Char.toUpper
    rw [toUpper_toLower c hc, ih hs]

/-- ASCII texts that differ in case only have one capital form. -/
theorem capitals_of_small_eq (hs : isAscii s = true) (h : small s = small t) :
    capitals s = capitals t := by
  have ht := isAscii_of_small_eq hs h
  rw [capitals_of_isAscii hs, capitals_of_isAscii ht, ← map_toUpper_small hs, h,
    map_toUpper_small ht]

/-! ### Capital forms -/

/-- The letters that the capital forms of letters outside ASCII start with. -/
def foreignInitials : List Char := ['S', 'I', 'F']

/-- What is found under a key stands in the list. -/
theorem mem_of_lookup {α β : Type} [BEq α] [LawfulBEq α] {l : List (α × β)} {k : α} {v : β}
    (h : l.lookup k = some v) : (k, v) ∈ l := by
  obtain ⟨as, bs, hlist, -⟩ := List.lookup_eq_some_iff.1 h
  rw [hlist]
  exact List.mem_append_right as List.mem_cons_self

/-- The capital form of a character is one character, or it starts with one of three letters. -/
theorem capital_cases (c : Char) :
    capital c = [c.toUpper] ∨ ∃ d r, capital c = d :: r ∧ d ∈ foreignInitials := by
  have hinitials : ∀ p ∈ foreignCapitals, ∃ d r, p.2 = d :: r ∧ d ∈ foreignInitials := by
    have hall : ∀ p ∈ foreignCapitals, p.2 ≠ [] ∧ p.2.headD 'A' ∈ foreignInitials := by decide
    intro p hp
    obtain ⟨hne, hd⟩ := hall p hp
    obtain ⟨d, r, hdr⟩ := List.exists_cons_of_ne_nil hne
    rw [hdr] at hd
    exact ⟨d, r, hdr, hd⟩
  rw [capital]
  by_cases hc : c.toNat < 128
  · exact .inl (if_pos hc)
  · rw [if_neg hc]
    cases hform : foreignCapitals.lookup c with
    | none =>
      refine .inl ?_
      rw [toUpper_of_foreign (Nat.not_lt.1 hc)]
      rfl
    | some form => exact .inr (hinitials (c, form) (mem_of_lookup hform))

/-- A text without these letters is the capital form of texts that differ from it in case only. -/
theorem map_toUpper_of_capitals (h : capitals s = t) (ht : ∀ d ∈ t, d ∉ foreignInitials) :
    s.map Char.toUpper = t := by
  induction s generalizing t with
  | nil => exact h
  | cons c s ih =>
    have hsplit : capital c ++ capitals s = t := h
    rcases capital_cases c with hc | ⟨d, r, hc, hd⟩
    · rw [hc] at hsplit
      subst hsplit
      exact congrArg (c.toUpper :: ·) (ih rfl (List.forall_mem_cons.1 ht).2)
    · rw [hc] at hsplit
      subst hsplit
      exact absurd hd (ht d List.mem_cons_self)

/-! ### Characters without case -/

/-- Whether a character is no letter of ASCII and has no capital form in ASCII. -/
def Caseless (c : Char) : Prop := c.isAlpha = false ∧ foreignCapitals.lookup c = none

instance (c : Char) : Decidable (Caseless c) := inferInstanceAs (Decidable (_ ∧ _))

theorem isAlpha_of_foreign (h : 128 ≤ c.toNat) : c.isAlpha = false := by
  have hupper : ¬ c.val ≤ 'Z'.val := by
    intro hle
    have hle : c.toNat ≤ 90 := UInt32.le_iff_toNat_le.1 hle
    omega
  have hlower : ¬ c.val ≤ 'z'.val := by
    intro hle
    have hle : c.toNat ≤ 122 := UInt32.le_iff_toNat_le.1 hle
    omega
  have hupper : c.isUpper = false := decide_eq_false fun hc => hupper hc.2
  have hlower : c.isLower = false := Bool.and_eq_false_imp.2 fun _ => decide_eq_false hlower
  show (c.isUpper || c.isLower) = false
  rw [hupper, hlower]
  rfl

/-- A character that is not the capital form of itself has a letter as its capital form. -/
theorem toUpper_cases (c : Char) : c.toUpper = c ∨ c.isAlpha = true ∧ c.toUpper.isAlpha = true := by
  by_cases hc : c.toNat < 128
  · revert c
    exact forall_ascii (by decide)
  · exact .inl (toUpper_of_foreign (Nat.not_lt.1 hc))

theorem Caseless.toUpper_eq (h : Caseless c) : c.toUpper = c := by
  rcases toUpper_cases c with hc | ⟨hc, -⟩
  · exact hc
  · exact absurd (h.1.symm.trans hc) (by decide)

theorem Caseless.eq_of_toUpper (h : Caseless c) (hd : d.toUpper = c) : d = c := by
  subst hd
  rcases toUpper_cases d with hd | ⟨-, hd⟩
  · exact hd.symm
  · exact absurd (h.1.symm.trans hd) (by decide)

theorem Caseless.not_mem_foreignInitials (h : Caseless c) : c ∉ foreignInitials := by
  intro hc
  simp only [foreignInitials, List.mem_cons, List.not_mem_nil, or_false] at hc
  rcases hc with rfl | rfl | rfl
  · exact absurd h (by decide)
  · exact absurd h (by decide)
  · exact absurd h (by decide)

/-- Without letters a text is its own capital form. -/
theorem capitals_of_caseless (h : ∀ c ∈ s, Caseless c) : capitals s = s := by
  induction s with
  | nil => rfl
  | cons c s ih =>
    obtain ⟨hc, hs⟩ := List.forall_mem_cons.1 h
    have hcapital : capital c = [c] := by
      rw [capital, hc.toUpper_eq, hc.2]
      exact ite_self _
    show capital c ++ capitals s = c :: s
    rw [hcapital, ih hs]
    rfl

theorem eq_of_map_toUpper (h : s.map Char.toUpper = t) (ht : ∀ c ∈ t, Caseless c) : s = t := by
  induction s generalizing t with
  | nil => exact h
  | cons d s ih =>
    subst h
    obtain ⟨hd, hs⟩ := List.forall_mem_cons.1 ht
    rw [List.map_cons, ← hd.eq_of_toUpper rfl, ← ih rfl hs]

end CivilTime.Text
