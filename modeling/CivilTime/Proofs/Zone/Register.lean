import CivilTime.Proofs.Text.LetterCase
import CivilTime.Zone.Identifier
import Mathlib.Data.List.Infix

/-!
# Where identifiers are looked up

The four places where an identifier is looked up are registers, asked in a fixed order; the first that
knows the identifier decides. Each of them minds letters in its own way: the legacy tables and the
offsets are asked for the capital form, the gazetteer compares small forms, and the words for signs in
names are found in small letters only. So all registers know an ASCII identifier in every case alike, if
it does not hold these words.

* `Register`, `Register.zone?`, `Register.inOrder`: the registers.
* `Zone.register?`: the register that decides; `Zone.ofId?_eq_bind` and `Zone.resolve_eq_some_iff` say
  that it gives the zone.
* `Gazetteer.zone?_eq_some`, `Zone.ofOffsetId?_eq_some`: what the gazetteer and the offsets know.
* `SignWords`: texts with `_plus_` or `_minus_` in any case; `withSigns_eq_self` is about all others.
* `Register.zone?_of_small_eq`: one register, asked in another case.
* `Zone.resolve_of_small_eq`: all of them.
-/

namespace CivilTime

open Text

/-! ### Registers -/

/-- A place where identifiers are looked up. -/
inductive Register
  | legacyOffset
  | name
  | abbreviation
  | offset
  deriving DecidableEq, Repr

namespace Register

/-- The zone that a register knows under an identifier. -/
def zone? : Register → List Char → Option Zone
  | .legacyOffset, id => (legacyOffsets.lookup (String.ofList (capitals id))).map Zone.ofMinutes
  | .name, id => Zone.byName? id
  | .abbreviation, id =>
    (abbreviations.lookup (String.ofList (capitals id))).bind fun name => Zone.byName? name.toList
  | .offset, id => Zone.ofOffsetId? (capitals id)

/-- The registers in the order in which they are asked. -/
def inOrder : List Register := [.legacyOffset, .name, .abbreviation, .offset]

end Register

namespace Zone

/-- The register that decides on an identifier: the first that knows it. -/
def register? (id : List Char) : Option Register :=
  Register.inOrder.find? fun r => (r.zone? id).isSome

variable {id id' : String} {s t : List Char} {z : Zone}

/-- The registers are asked one after the other. -/
theorem ofId?_eq_orElse (s : List Char) :
    ofId? s = (Register.legacyOffset.zone? s <|> Register.name.zone? s
      <|> Register.abbreviation.zone? s <|> Register.offset.zone? s) := by
  rw [ofId?, String.toList_ofList]
  rfl

/-- The zone of an identifier is that of the register that decides. -/
theorem ofId?_eq_bind (s : List Char) : ofId? s = (register? s).bind fun r => r.zone? s := by
  rw [ofId?_eq_orElse, register?, Register.inOrder]
  cases hlegacy : Register.legacyOffset.zone? s with
  | some z => simp [hlegacy]
  | none =>
    cases hname : Register.name.zone? s with
    | some z => simp [hlegacy, hname]
    | none =>
      cases habbreviation : Register.abbreviation.zone? s with
      | some z => simp [hlegacy, hname, habbreviation]
      | none =>
        cases hoffset : Register.offset.zone? s with
        | some z => simp [hlegacy, hname, habbreviation, hoffset]
        | none => simp [hlegacy, hname, habbreviation, hoffset]

theorem resolve_of_ofId? (hid : id ≠ "") (h : ofId? id.toList = some z) :
    resolve id = .ok (some z) := by
  rw [resolve, if_neg (by simpa using hid), h]

theorem resolve_of_ofId?_none (hid : id ≠ "") (h : ofId? id.toList = none) :
    resolve id = .error (.unknownZone id) := by
  rw [resolve, if_neg (by simpa using hid), h]

/-- An identifier that is not empty is known, or it is refused by name. -/
theorem resolve_cases (hid : id ≠ "") :
    (∃ z, ofId? id.toList = some z ∧ resolve id = .ok (some z)) ∨
      ofId? id.toList = none ∧ resolve id = .error (.unknownZone id) := by
  cases h : ofId? id.toList with
  | none => exact .inr ⟨rfl, resolve_of_ofId?_none hid h⟩
  | some z => exact .inl ⟨z, rfl, resolve_of_ofId? hid h⟩

theorem ofId?_of_resolve (h : resolve id = .ok (some z)) : ofId? id.toList = some z := by
  by_cases hid : id = ""
  · subst hid
    cases Except.ok.inj h
  · rcases resolve_cases hid with ⟨y, hy, hres⟩ | ⟨-, hres⟩
    · rw [hy, Option.some.inj (Except.ok.inj (hres.symm.trans h))]
    · cases hres.symm.trans h

/-- An identifier names the zone that the first register which knows it has under it. The empty one is not
looked up. -/
theorem resolve_eq_some_iff : resolve id = .ok (some z) ↔
    id ≠ "" ∧ ∃ r, register? id.toList = some r ∧ r.zone? id.toList = some z := by
  rw [← Option.bind_eq_some_iff, ← ofId?_eq_bind]
  constructor
  · intro h
    refine ⟨?_, ofId?_of_resolve h⟩
    rintro rfl
    cases Except.ok.inj h
  · rintro ⟨hid, h⟩
    exact resolve_of_ofId? hid h

/-- Without a zone an identifier is refused by name, but for the empty one. -/
theorem resolve_of_not_exists (h : ¬ ∃ z, resolve id = .ok (some z)) :
    resolve id = if id = "" then .ok none else .error (.unknownZone id) := by
  split
  · next hid =>
    rw [hid]
    rfl
  · next hid =>
    rcases resolve_cases hid with ⟨z, -, hres⟩ | ⟨-, hres⟩
    · exact absurd ⟨z, hres⟩ h
    · exact hres

theorem eq_unknownZone_of_resolve {e : Fault} (h : resolve id = .error e) : e = .unknownZone id := by
  have hnone : ¬ ∃ z, resolve id = .ok (some z) := by
    rintro ⟨z, hz⟩
    cases hz.symm.trans h
  rw [resolve_of_not_exists hnone] at h
  split at h
  · cases h
  · exact (Except.error.inj h).symm

end Zone

/-! ### What registers know -/

/-- What stands for a zone of the gazetteer is the name of an entry, or another name of one. -/
theorem Gazetteer.zone?_eq_some {name : List Char} {z : Zone} (h : zone? name = some z) :
    (∃ e ∈ entries, sameName e.name.toList name = true ∧ z = .named e.name e.rules) ∨
      ∃ a ∈ aliases, sameName a.1.toList name = true ∧ ∃ e ∈ entries, z = .named a.1 e.rules := by
  rw [zone?] at h
  split at h
  · next e he =>
    have hsame := List.find?_some he
    exact .inl ⟨e, List.mem_of_find?_eq_some he, hsame, (Option.some.inj h).symm⟩
  · obtain ⟨a, ha, h⟩ := Option.bind_eq_some_iff.1 h
    obtain ⟨e, he, h⟩ := Option.bind_eq_some_iff.1 h
    have hsame := List.find?_some ha
    exact .inr ⟨a, List.mem_of_find?_eq_some ha, hsame, e, List.mem_of_find?_eq_some he,
      (Option.some.inj h).symm⟩

/-- Minutes with a sign are read off a sign and minutes. -/
theorem signedMinutes?_eq_some {s : List Char} {n : Int} :
    signedMinutes? s = some n ↔ ∃ clock m, offsetMinutes? clock = some m ∧
      (s = '+' :: clock ∧ n = m ∨ s = '-' :: clock ∧ n = -(m : Int)) := by
  constructor
  · intro h
    unfold signedMinutes? at h
    split at h
    · next clock =>
      obtain ⟨k, hk, rfl⟩ := Option.map_eq_some_iff.1 h
      obtain ⟨m, hm, hk⟩ := Option.bind_eq_some_iff.1 hk
      exact ⟨clock, m, hm, .inl ⟨rfl, (Option.some.inj hk).symm⟩⟩
    · next clock =>
      obtain ⟨k, hk, rfl⟩ := Option.map_eq_some_iff.1 h
      obtain ⟨m, hm, hk⟩ := Option.bind_eq_some_iff.1 hk
      exact ⟨clock, m, hm, .inr ⟨rfl, by rw [← Option.some.inj hk]⟩⟩
    · cases h
  · rintro ⟨clock, m, hm, ⟨rfl, rfl⟩ | ⟨rfl, rfl⟩⟩
    · rw [signedMinutes?, hm]
      rfl
    · rw [signedMinutes?, hm]
      rfl

/-- The capital forms of the names that come before an offset. -/
def offsetBases : List (List Char) := [['G', 'M', 'T'], ['U', 'T', 'C']]

/-- The register of offsets reads minutes after one of these. -/
theorem Zone.ofOffsetId?_eq_some {s : List Char} {z : Zone} :
    ofOffsetId? s = some z ↔ ∃ base ∈ offsetBases, ∃ r n, s = base ++ r ∧
      signedMinutes? (withoutLineEnd r) = some n ∧ z = ofMinutes n := by
  constructor
  · intro h
    unfold ofOffsetId? at h
    split at h
    · next r =>
      obtain ⟨n, hn, rfl⟩ := Option.map_eq_some_iff.1 h
      exact ⟨['G', 'M', 'T'], by decide, r, n, rfl, hn, rfl⟩
    · next r =>
      obtain ⟨n, hn, rfl⟩ := Option.map_eq_some_iff.1 h
      exact ⟨['U', 'T', 'C'], by decide, r, n, rfl, hn, rfl⟩
    · cases h
  · rintro ⟨base, hbase, r, n, rfl, hn, rfl⟩
    rcases List.mem_cons.1 hbase with rfl | hbase
    · exact Option.map_eq_some_iff.2 ⟨n, hn, rfl⟩
    · obtain rfl := List.mem_singleton.1 hbase
      exact Option.map_eq_some_iff.2 ⟨n, hn, rfl⟩

/-! ### Words for signs -/

/-- Whether a text holds a word for a sign, in any case. -/
def SignWords (s : List Char) : Prop :=
  ['_', 'p', 'l', 'u', 's', '_'] <:+: small s ∨ ['_', 'm', 'i', 'n', 'u', 's', '_'] <:+: small s

instance (s : List Char) : Decidable (SignWords s) := inferInstanceAs (Decidable (_ ∨ _))

/-- Without a word for a sign a name is itself. -/
theorem withSigns_eq_self {s : List Char} (h : ¬ SignWords s) : withSigns s = s := by
  have htail : ∀ {c : Char} {r : List Char}, ¬ SignWords (c :: r) → ¬ SignWords r := by
    intro c r h hr
    rcases hr with hr | hr
    · exact h (.inl (List.infix_cons hr))
    · exact h (.inr (List.infix_cons hr))
  fun_induction withSigns s with
  | case1 r => exact absurd (.inl (List.prefix_append _ (small r)).isInfix) h
  | case2 r => exact absurd (.inr (List.prefix_append _ (small r)).isInfix) h
  | case3 c r _ _ ih => rw [ih (htail h)]
  | case4 => rfl

/-! ### Letter case -/

theorem Gazetteer.zone?_of_small_eq {s t : List Char} (h : small s = small t) :
    zone? s = zone? t := by
  have hsame : ∀ name, sameName name s = sameName name t := by
    intro name
    rw [sameName, sameName, h]
  have hentry : entry? s = entry? t := by
    unfold entry?
    simp only [hsame]
  unfold zone?
  simp only [hentry, hsame]

/-- A register knows an ASCII text without words for signs in every case alike. -/
theorem Register.zone?_of_small_eq {s t : List Char} (hs : isAscii s = true) (h : small s = small t)
    (hsign : ¬ SignWords s) (r : Register) : r.zone? s = r.zone? t := by
  have hcapitals : capitals s = capitals t := capitals_of_small_eq hs h
  have ht : isAscii t = true := isAscii_of_small_eq hs h
  have hsign' : ¬ SignWords t := by rwa [SignWords, ← h]
  cases r with
  | legacyOffset => rw [zone?, zone?, hcapitals]
  | name =>
    show Zone.byName? s = Zone.byName? t
    rw [Zone.byName?, Zone.byName?, hcapitals, if_pos hs, if_pos ht, withSigns_eq_self hsign,
      withSigns_eq_self hsign', Gazetteer.zone?_of_small_eq h]
  | abbreviation => rw [zone?, zone?, hcapitals]
  | offset => rw [zone?, zone?, hcapitals]

/-- Identifiers in ASCII that differ in the case of letters only, and hold no word for a sign, name one
zone or are both refused; and one register decides on both, the first that knows them. -/
theorem Zone.resolve_of_small_eq (id id' : String) (hid : isAscii id.toList = true)
    (h : small id.toList = small id'.toList) (hsign : ¬ SignWords id.toList) :
    ((∃ z, resolve id = .ok z ∧ resolve id' = .ok z) ∨
      resolve id = .error (.unknownZone id) ∧ resolve id' = .error (.unknownZone id')) ∧
    register? id.toList = register? id'.toList ∧
    ∀ s ∈ [id, id'], ∀ z, resolve s = .ok (some z) ↔
      s ≠ "" ∧ ∃ r, register? s.toList = some r ∧ r.zone? s.toList = some z := by
  have hzone := Register.zone?_of_small_eq hid h hsign
  have hregister : register? id.toList = register? id'.toList := by
    unfold register?
    simp only [hzone]
  have hsame : ofId? id.toList = ofId? id'.toList := by
    rw [ofId?_eq_bind, ofId?_eq_bind, hregister]
    simp only [hzone]
  have hempty : id = "" ↔ id' = "" := by
    have hlength := congrArg List.length h
    rw [small, small, List.length_map, List.length_map] at hlength
    rw [← String.toList_eq_nil_iff, ← String.toList_eq_nil_iff, ← List.length_eq_zero_iff, hlength,
      List.length_eq_zero_iff]
  refine ⟨?_, hregister, fun _ _ _ => resolve_eq_some_iff⟩
  by_cases hne : id = ""
  · rw [hne, hempty.1 hne]
    exact .inl ⟨none, rfl, rfl⟩
  · rcases resolve_cases hne with ⟨z, hz, hres⟩ | ⟨hz, hres⟩
    · exact .inl ⟨some z, hres, resolve_of_ofId? (mt hempty.2 hne) (hsame.symm.trans hz)⟩
    · exact .inr ⟨hres, resolve_of_ofId?_none (mt hempty.2 hne) (hsame.symm.trans hz)⟩

/-- An abbreviation that the table of offsets knows before the gazetteer does, in mixed case. -/
theorem Zone.resolve_of_small_eq_eastern :
    isAscii "EST".toList = true ∧ small "EST".toList = small "eSt".toList ∧
    ¬ SignWords "EST".toList ∧ resolve "eSt" = .ok (some (.fixed (-300))) ∧
    register? "eSt".toList = some .legacyOffset := by
  have hascii : isAscii "EST".toList = true := by decide
  have hsmall : small "EST".toList = small "eSt".toList := by decide
  have hsign : ¬ SignWords "EST".toList := by decide
  have hcapital : resolve "EST" = .ok (some (.fixed (-300))) := by decide
  obtain ⟨hzone, hregister, -⟩ := resolve_of_small_eq "EST" "eSt" hascii hsmall hsign
  refine ⟨hascii, hsmall, hsign, ?_, hregister.symm.trans (by decide)⟩
  rcases hzone with ⟨z, hz, hz'⟩ | ⟨hz, -⟩
  · rw [hz', ← hz, hcapital]
  · cases hcapital.symm.trans hz

/-- The words for signs are found in small letters only. -/
example : withSigns "Etc/GMT_plus_5".toList = "Etc/GMT+5".toList ∧
    withSigns "Etc/GMT_PLUS_5".toList = "Etc/GMT_PLUS_5".toList := by decide

end CivilTime
