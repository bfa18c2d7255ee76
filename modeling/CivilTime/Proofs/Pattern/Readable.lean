import CivilTime.Proofs.Calendar.WallTime
import CivilTime.Proofs.Pattern.Shape
import CivilTime.Proofs.Pattern.Offset
import Mathlib.Data.List.Pairwise

/-!
# Readable patterns

A pattern is readable if nothing that it writes can be read in another way: no directive stands
twice, a field whose text could be read on is followed by nothing that it could read, and what is
shown tells the rest of what is shown.

* `Pattern.widths`, `Pattern.Shows`: the fields of a letter.
* `Letter.openEnded`, `Letter.Stops`, `Separated`: fields that can read on, and what stops them.
* `Pattern.Readable`: the condition.
* `Pattern.Suits`: the stamps whose year a pattern can tell.
* `Letter.Legible`, `Readable.legible`: every field then tells its value.
* `Pattern.kept`: what a pattern tells of the fields of a time.
-/

namespace CivilTime

open Text

/-- The width of a field of a letter. -/
def Token.width? (l : Letter) : Token → Option Nat
  | .literal _ => none
  | .field k n => if k = l then some n else none

theorem Token.width?_eq_some {l : Letter} {t : Token} {n : Nat} :
    t.width? l = some n ↔ t = .field l n := by
  cases t with
  | literal text =>
    constructor
    · intro h
      cases h
    · intro h
      cases h
  | field k m =>
    rw [width?, field.injEq]
    by_cases h : k = l
    · rw [if_pos h, Option.some.injEq]
      exact ⟨fun hm => ⟨h, hm⟩, fun hm => hm.2⟩
    · rw [if_neg h]
      constructor
      · intro hm
        cases hm
      · rintro ⟨hk, -⟩
        exact absurd hk h

/-- Whether a field can read a digit that follows its text. -/
def Letter.openEnded (l : Letter) (width : Nat) : Bool :=
  match l with
  | .month | .day | .hour | .halfHour | .minute | .second => width = 1
  | .yearDay => width < 3
  | .fraction => width < 6
  | .offset => true
  | .year | .weekday | .half => false

/-- Whether a field that can read on is stopped by a text: no digit stands at its start, and after
an offset no sign of a clock either. -/
def Letter.Stops (l : Letter) (rest : List Char) : Prop :=
  ∀ c ∈ rest.head?, digitValue? c = none ∧ (l = .offset → c ≠ ':' ∧ c ≠ '.')

instance (l : Letter) (rest : List Char) : Decidable (l.Stops rest) :=
  Option.decidableForallMem rest.head?

/-- Whether a field stands at the end or before a literal that stops it. -/
def Letter.EndsBefore (l : Letter) : List Token → Prop
  | [] => True
  | .literal text :: _ => l.Stops text
  | .field _ _ :: _ => False

instance (l : Letter) : (ts : List Token) → Decidable (l.EndsBefore ts)
  | [] => inferInstanceAs (Decidable True)
  | .literal text :: _ => inferInstanceAs (Decidable (l.Stops text))
  | .field _ _ :: _ => inferInstanceAs (Decidable False)

/-- Whether every field that can read on is stopped by what follows it. -/
def Separated : List Token → Prop
  | [] => True
  | .literal _ :: r => Separated r
  | .field l n :: r => (l.openEnded n = true → l.EndsBefore r) ∧ Separated r

instance decidableSeparated : (ts : List Token) → Decidable (Separated ts)
  | [] => inferInstanceAs (Decidable True)
  | .literal _ :: r => decidableSeparated r
  | .field l n :: r =>
    have := decidableSeparated r
    inferInstanceAs (Decidable ((l.openEnded n = true → l.EndsBefore r) ∧ Separated r))

/-- Whether the text of a field tells the value that the field has in a stamp. -/
structure Letter.Legible (l : Letter) (n : Nat) (s : Stamp) : Prop where
  pos : 1 ≤ n
  width : n ≤ l.maxWidth
  fraction : l = .fraction → n ≤ 6
  year : l = .year → n = 1 ∨ n = 3 → 1000 ≤ s.wall.fields.year
  offset : isOffset (s.offset.getD 0) = true

namespace Pattern

variable (p : Pattern)

/-- The widths of the fields of a letter, in their order. -/
def widths (l : Letter) : List Nat := p.tokens.filterMap (·.width? l)

/-- Whether a pattern has a field of a letter. -/
def Shows (l : Letter) : Prop := p.widths l ≠ []

instance (l : Letter) : Decidable (p.Shows l) := by
  unfold Shows
  infer_instance

/-- Whether all that a pattern writes can be read again, and in one way only. -/
structure Readable : Prop where
  once : p.directives.Nodup
  year : p.Shows .year
  fraction : ∀ n ∈ p.widths .fraction, n ≤ 6
  halfHour : p.Shows .halfHour → p.Shows .half
  half : p.Shows .half → p.Shows .hour ∨ p.Shows .halfHour
  weekday : p.Shows .weekday → p.Shows .yearDay ∨ p.Shows .month ∧ p.Shows .day
  separated : Separated p.tokens

theorem readable_iff : p.Readable ↔
    p.directives.Nodup ∧ p.Shows .year ∧ (∀ n ∈ p.widths .fraction, n ≤ 6) ∧
      (p.Shows .halfHour → p.Shows .half) ∧
      (p.Shows .half → p.Shows .hour ∨ p.Shows .halfHour) ∧
      (p.Shows .weekday → p.Shows .yearDay ∨ p.Shows .month ∧ p.Shows .day) ∧
      Separated p.tokens :=
  ⟨fun h => ⟨h.once, h.year, h.fraction, h.halfHour, h.half, h.weekday, h.separated⟩,
    fun ⟨h1, h2, h3, h4, h5, h6, h7⟩ => ⟨h1, h2, h3, h4, h5, h6, h7⟩⟩

instance : Decidable p.Readable := decidable_of_iff' _ p.readable_iff

/-- Whether a pattern tells the year of a stamp: of two places only that of one century, and of as
many places as needed only a year of four. The offset of a stamp is shorter than a day. -/
structure Suits (s : Stamp) : Prop where
  century : 2 ∈ p.widths .year → 2000 ≤ s.wall.fields.year ∧ s.wall.fields.year ≤ 2099
  places : 1 ∈ p.widths .year ∨ 3 ∈ p.widths .year → 1000 ≤ s.wall.fields.year
  offset : ∀ o ∈ s.offset, isOffset o = true

/-- What is left of microseconds in a number of places. -/
def cutMicro (places micro : Nat) : Nat := micro / 10 ^ (6 - places) * 10 ^ (6 - places)

/-- What a pattern tells of the fields of a time; what it does not show is at its least. -/
def kept (f : Fields) : Fields where
  year := f.year
  month := if p.Shows .month ∨ p.Shows .yearDay then f.month else 1
  day := if p.Shows .day ∨ p.Shows .yearDay then f.day else 1
  hour := if p.Shows .hour ∨ p.Shows .halfHour then f.hour else 0
  minute := if p.Shows .minute then f.minute else 0
  second := if p.Shows .second then f.second else 0
  micro := ((p.widths .fraction).head?.map (cutMicro · f.micro)).getD 0

theorem mem_widths {l : Letter} {n : Nat} : n ∈ p.widths l ↔ .field l n ∈ p.tokens := by
  rw [widths, List.mem_filterMap]
  constructor
  · rintro ⟨t, ht, hn⟩
    rwa [Token.width?_eq_some.1 hn] at ht
  · intro h
    exact ⟨_, h, Token.width?_eq_some.2 rfl⟩

/-- A directive that stands once has one field. -/
theorem width_eq_of_once (hp : p.directives.Nodup) {l : Letter} {m n : Nat}
    (hm : .field l m ∈ p.tokens) (hn : .field l n ∈ p.tokens)
    (hd : l.directive m = l.directive n) : m = n := by
  have hpair := List.pairwise_filterMap.1 hp
  have hsymm : Std.Symm fun a b : Token =>
      ∀ x, a.directive? = some x → ∀ y, b.directive? = some y → x ≠ y :=
    ⟨fun _ _ h x hx y hy heq => h y hy x hx heq.symm⟩
  by_contra hne
  have hfields : Token.field l m ≠ .field l n := fun heq => hne (Token.field.inj heq).2
  exact hpair.forall hm hn hfields _ rfl _ rfl hd

theorem Suits.isOffset_getD {p : Pattern} {s : Stamp} (hs : p.Suits s) :
    isOffset (s.offset.getD 0) = true := by
  cases ho : s.offset with
  | none => exact (by decide : isOffset 0 = true)
  | some o => exact hs.offset o ho

/-- The fields of a readable pattern tell what they show of a stamp that suits it. -/
theorem Readable.legible {p : Pattern} (hp : p.Readable) (hshaped : p.Shaped) {s : Stamp}
    (hs : p.Suits s) {l : Letter} {n : Nat} (hn : .field l n ∈ p.tokens) : l.Legible n s where
  pos := (hshaped.allowed _ hn).1
  width := (hshaped.allowed _ hn).2
  fraction := by
    rintro rfl
    exact hp.fraction n (p.mem_widths.2 hn)
  year := by
    rintro rfl (rfl | rfl)
    · exact hs.places (Or.inl (p.mem_widths.2 hn))
    · exact hs.places (Or.inr (p.mem_widths.2 hn))
  offset := hs.isOffset_getD

theorem shows_iff {l : Letter} : p.Shows l ↔ ∃ n, .field l n ∈ p.tokens := by
  rw [Shows, ← List.length_pos_iff, List.length_pos_iff_exists_mem]
  exact exists_congr fun n => p.mem_widths

end Pattern

end CivilTime
