import CivilTime.Proofs.Zone.Register
import CivilTime.Proofs.Zone.View

/-!
# The zones that can be named

Every zone that an identifier names is regular: its offsets lie within sixteen hours, and its
changes are two days apart. For the gazetteer this is read off the texts of its entries. The kernel
takes a text apart slowly, but it knows a literal as the list of its characters; so the characters
of an entry are found by unification, and the check runs on them.

* `Spelled`: texts with the characters that they are made of.
* `Tame`: moderate regimes and steps of two days or more; `regular_of_tame` takes it to the rules.
* `AllRegular`, `allRegular_of_spelled`: the entries of a region, checked together.
* `entries_regular`, `regular_of_zone?`: every zone of the gazetteer.
* `Zone.regular_of_resolve`, `Zone.regular_of_ofOffset`: the zones of identifiers and of offsets.
-/

namespace CivilTime

namespace Gazetteer

/-! ### Entries -/

/-- Whether pieces of a text are made of the given characters. -/
inductive Spelled : List String → List Char → Prop
  | nil : Spelled [] []
  | cons (piece : List Char) {pieces : List String} {rest : List Char} (h : Spelled pieces rest) :
    Spelled (String.ofList piece :: pieces) (piece ++ rest)

theorem Spelled.flatMap_eq {pieces : List String} {s : List Char} (h : Spelled pieces s) :
    pieces.flatMap String.toList = s := by
  induction h with
  | nil => rfl
  | cons piece h ih => rw [List.flatMap_cons, String.toList_ofList, ih]

/-- Whether regimes are moderate and the steps of a text, after the first one, take two days or
more. -/
def Tame (regimes : List (Int × Bool)) (s : List Char) : Prop :=
  (∀ p ∈ regimes, (regimeOf p).Moderate) ∧ ∀ step ∈ (steps s).tail, 172_800 ≤ step.2

instance (regimes : List (Int × Bool)) (s : List Char) : Decidable (Tame regimes s) :=
  inferInstanceAs (Decidable (_ ∧ _))

variable {regimes : List (Int × Bool)}

theorem moderate_getD (h : ∀ p ∈ regimes, (regimeOf p).Moderate) (place : Nat) :
    (regimeOf (regimes.getD place (0, false))).Moderate := by
  rw [List.getD_eq_getElem?_getD]
  cases hr : regimes[place]? with
  | none => decide
  | some p => exact h p (List.mem_of_getElem? hr)

theorem changesFrom_moderate (h : ∀ p ∈ regimes, (regimeOf p).Moderate) (start : Int)
    (s : List (Nat × Nat)) : ∀ c ∈ changesFrom regimes start s, c.regime.Moderate := by
  induction s generalizing start with
  | nil => exact fun c hc => absurd hc List.not_mem_nil
  | cons step s ih => exact List.forall_mem_cons.2 ⟨moderate_getD h step.1, ih _⟩

theorem shortMinutes_of_moderate {p : Int × Bool} (h : (regimeOf p).Moderate) :
    ShortMinutes p.1 := by
  obtain ⟨hlo, hhi⟩ := h
  simp only [regimeOf] at hlo hhi
  exact ⟨by omega, by omega⟩

theorem changesFrom_spaced (start : Int) {s : List (Nat × Nat)}
    (h : ∀ step ∈ s.tail, 172_800 ≤ step.2) :
    (changesFrom regimes start s).IsChain Change.Follows := by
  induction s generalizing start with
  | nil => exact List.isChain_nil
  | cons step s ih =>
    cases s with
    | nil => exact List.isChain_singleton _
    | cons next s =>
      have hnext : 172_800 ≤ next.2 := h next List.mem_cons_self
      refine List.isChain_cons_cons.2 ⟨?_, ih _ fun p hp => h p (List.mem_cons_of_mem next hp)⟩
      show start + step.2 + 172_800 ≤ start + step.2 + next.2
      omega

/-- The zone of an entry with a tame text is regular. -/
theorem regular_of_tame {e : Entry} {s : List Char} (hs : Spelled e.changes s)
    (h : Tame e.regimes s) (name : String) : (Zone.named name e.rules).Regular := by
  have hfirst : (regimeOf (e.regimes.headD (0, false))).Moderate := by
    cases hr : e.regimes with
    | nil => decide
    | cons p ps => exact h.1 p (by rw [hr]; exact List.mem_cons_self)
  rw [Entry.rules, hs.flatMap_eq]
  split
  · exact shortMinutes_of_moderate hfirst
  · exact ⟨hfirst, changesFrom_moderate h.1 _ _, changesFrom_spaced _ h.2⟩

/-! ### Regions -/

/-- Whether the zones of entries are regular, under any name. -/
def AllRegular (es : List Entry) : Prop := ∀ e ∈ es, ∀ name, (Zone.named name e.rules).Regular

theorem allRegular_of_spelled {es : List Entry} {texts : List (List Char)}
    (hs : List.Forall₂ (fun e s => Spelled e.changes s) es texts)
    (h : ∀ p ∈ es.zip texts, Tame p.1.regimes p.2) : AllRegular es := by
  induction hs with
  | nil => exact fun _ he => absurd he List.not_mem_nil
  | cons hs _ ih =>
    obtain ⟨h, hes⟩ := List.forall_mem_cons.1 h
    exact List.forall_mem_cons.2 ⟨regular_of_tame hs h, ih hes⟩

theorem AllRegular.append {as bs : List Entry} (ha : AllRegular as) (hb : AllRegular bs) :
    AllRegular (as ++ bs) :=
  List.forall_mem_append.2 ⟨ha, hb⟩

theorem entries_regular : AllRegular entries := by
  unfold entries
  repeat' apply AllRegular.append
  -- spelling the texts of a region fixes their characters, and the check then runs on these
  all_goals exact allRegular_of_spelled (by repeat' constructor) (by decide +kernel)

/-- Every zone of the gazetteer is regular, under each of its names. -/
theorem regular_of_zone? {name : List Char} {z : Zone} (h : zone? name = some z) :
    z.Regular ∧ z.WholeSeconds := by
  rcases zone?_eq_some h with ⟨e, he, -, rfl⟩ | ⟨a, -, -, e, he, rfl⟩
  · exact ⟨entries_regular e he e.name, trivial⟩
  · exact ⟨entries_regular e he a.1, trivial⟩

end Gazetteer

namespace Zone

variable {z : Zone}

/-! ### Identifiers -/

theorem regular_ofMinutes {n : Int} (h : ShortMinutes n) :
    (ofMinutes n).Regular ∧ (ofMinutes n).WholeSeconds := by
  rw [ofMinutes]
  split
  · exact ⟨trivial, trivial⟩
  · exact ⟨h, trivial⟩

theorem regular_of_byName? {name : List Char} (h : byName? name = some z) :
    z.Regular ∧ z.WholeSeconds := by
  rw [byName?] at h
  split at h
  · obtain rfl := Option.some.inj h
    exact ⟨trivial, trivial⟩
  · split at h
    · exact Gazetteer.regular_of_zone? h
    · cases h

theorem clockMinutes?_lt {hours minutes n : Nat} (h : clockMinutes? hours minutes = some n) :
    n < 1440 := by
  rw [clockMinutes?] at h
  split at h
  · obtain rfl := Option.some.inj h
    omega
  · cases h

/-- The minutes of an offset are less than a day. -/
theorem offsetMinutes?_lt {s : List Char} {n : Nat} (h : offsetMinutes? s = some n) : n < 1440 := by
  have hours : ∀ {o : Option Nat}, (o.bind fun g => clockMinutes? g 0) = some n → n < 1440 := by
    intro o h
    obtain ⟨g, -, h⟩ := Option.bind_eq_some_iff.1 h
    exact clockMinutes?_lt h
  have minutes : ∀ {o p : Option Nat},
      (o.bind fun g => p.bind fun m => clockMinutes? g m) = some n → n < 1440 := by
    intro o p h
    obtain ⟨g, -, h⟩ := Option.bind_eq_some_iff.1 h
    obtain ⟨m, -, h⟩ := Option.bind_eq_some_iff.1 h
    exact clockMinutes?_lt h
  unfold offsetMinutes? at h
  split at h
  · exact hours h
  · exact hours h
  · exact minutes h
  · exact minutes h
  · exact minutes h
  · exact minutes h
  · cases h

theorem signedMinutes?_short {s : List Char} {n : Int} (h : signedMinutes? s = some n) :
    ShortMinutes n := by
  obtain ⟨clock, m, hm, hn⟩ := signedMinutes?_eq_some.1 h
  have := offsetMinutes?_lt hm
  exact ⟨by omega, by omega⟩

theorem regular_of_ofOffsetId? {id : List Char} (h : ofOffsetId? id = some z) :
    z.Regular ∧ z.WholeSeconds := by
  obtain ⟨base, -, r, n, -, hn, rfl⟩ := ofOffsetId?_eq_some.1 h
  exact regular_ofMinutes (signedMinutes?_short hn)

theorem regular_of_ofId? {id : List Char} (h : ofId? id = some z) :
    z.Regular ∧ z.WholeSeconds := by
  have hlegacy : ∀ p ∈ legacyOffsets, ShortMinutes p.2 := by decide
  rw [ofId?_eq_bind] at h
  obtain ⟨r, -, h⟩ := Option.bind_eq_some_iff.1 h
  cases r with
  | legacyOffset =>
    obtain ⟨n, hn, rfl⟩ := Option.map_eq_some_iff.1 h
    exact regular_ofMinutes (hlegacy _ (Text.mem_of_lookup hn))
  | name => exact regular_of_byName? h
  | abbreviation =>
    obtain ⟨name, -, h⟩ := Option.bind_eq_some_iff.1 h
    exact regular_of_byName? h
  | offset => exact regular_of_ofOffsetId? h

/-- Every zone that an identifier names is regular, and its offsets are of whole seconds. -/
theorem regular_of_resolve {id : String} (h : resolve id = .ok (some z)) :
    z.Regular ∧ z.WholeSeconds :=
  regular_of_ofId? (ofId?_of_resolve h)

/-- Every zone with a standard offset is regular. -/
theorem regular_of_ofOffset {n : Int} (h : ofOffset n = .ok z) : z.Regular := by
  rw [ofOffset] at h
  split at h
  · next hn =>
    obtain rfl := Except.ok.inj h
    exact hn
  · cases h

end Zone

end CivilTime
