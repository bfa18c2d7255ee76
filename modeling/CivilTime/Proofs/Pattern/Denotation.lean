import CivilTime.Proofs.Outcome
import CivilTime.Proofs.Pattern.Readable

/-!
# What a text can denote

A stamp comes from the fields of the pattern alone: every capture is that of a field, and a part of
what is told that no field bears on is as at the start. In particular a text has an offset only by a
field for it. A stamp that is read has been written back, so the text is known from it.

* `directive_mem_of_readItems`: captures are those of fields.
* `Found.offset_of_foldlM`: an offset is told by a field for it.
* `read_eq_ok`: what is read is what the text denotes, and is written as the text.
* `offset_of_read`: the offset of a stamp that is read without a field for it.
-/

namespace CivilTime

open Text

/-- The captures of a reading are those of the fields among its items. -/
theorem directive_mem_of_readItems {is : List Item} {text rest : List Char} {cs : List Capture}
    (h : readItems is text = some (cs, rest)) : ∀ c ∈ cs, Item.field c.directive ∈ is := by
  induction is generalizing text cs rest with
  | nil =>
    obtain ⟨rfl, -⟩ := Prod.mk.inj (Option.some.inj h)
    intro c hc
    cases hc
  | cons i is ih =>
    rw [readItems] at h
    obtain ⟨p, -, hp⟩ := List.exists_of_findSome?_eq_some h
    obtain ⟨⟨cs', rest'⟩, hq, heq⟩ := Option.map_eq_some_iff.1 hp
    obtain ⟨rfl, -⟩ := Prod.mk.inj heq
    intro c hc
    rcases List.mem_append.1 hc with hc | hc
    · cases i with
      | same x => cases hc
      | blanks => cases hc
      | field d =>
        rw [List.mem_singleton.1 hc]
        exact List.mem_cons_self
    · exact List.mem_cons_of_mem i (ih hq c hc)

namespace Found

variable {f f' : Found}

theorem offset_of_add {c : Capture} (h : f.add c = some f') (hc : c.directive ≠ .offset) :
    f'.offset = f.offset := by
  obtain ⟨d, text⟩ := c
  cases d with
  | offset => exact absurd rfl hc
  | shortMonthName | monthName | shortWeekdayName | weekdayName =>
    obtain ⟨n, -, rfl⟩ := Option.map_eq_some_iff.1 h
    rfl
  | _ =>
    obtain rfl := Option.some.inj h
    rfl

/-- Without a field for it no offset is told. -/
theorem offset_of_foldlM {cs : List Capture} (h : cs.foldlM add f = some f')
    (hcs : ∀ c ∈ cs, c.directive ≠ .offset) : f'.offset = f.offset := by
  induction cs generalizing f with
  | nil =>
    obtain rfl := Option.some.inj h
    rfl
  | cons c cs ih =>
    rw [List.foldlM_cons] at h
    obtain ⟨g, hg, hrest⟩ := Option.bind_eq_some_iff.1 h
    rw [ih hrest fun c' hc' => hcs c' (List.mem_cons_of_mem c hc'),
      offset_of_add hg (hcs c List.mem_cons_self)]

theorem offset_of_stamp {s : Stamp} (h : f.stamp = .ok s) : s.offset = f.offset := by
  obtain ⟨d, -, hs⟩ := bind_eq_ok.1 h
  rw [Stamp.ofFields] at hs
  split at hs
  · cases hs
  · obtain ⟨w, -, hw⟩ := bind_eq_ok.1 hs
    obtain rfl := Except.ok.inj hw
    rfl

end Found

theorem Stamp.offset_of_inCentury {s r : Stamp} (h : s.inCentury = .ok r) :
    r.offset = s.offset := by
  obtain ⟨w, -, hw⟩ := bind_eq_ok.1 h
  obtain rfl := Except.ok.inj hw
  rfl

/-- Only a field for it reads an offset. -/
theorem Letter.eq_offset_of_directive {l : Letter} {n : Nat} (h : l.directive n = .offset) :
    l = .offset := by
  cases l with
  | offset => rfl
  | year | weekday =>
    rw [directive] at h
    split at h <;> cases h
  | month =>
    rw [directive] at h
    split at h
    · cases h
    · split at h <;> cases h
  | _ => cases h

namespace Pattern

variable {p : Pattern} {text : List Char} {s : Stamp}

theorem field_not_mem_literalItems (d : Directive) (text : List Char) :
    Item.field d ∉ literalItems text := by
  induction text with
  | nil => exact List.not_mem_nil
  | cons c r ih =>
    rw [literalItems]
    split
    · split
      · next heq =>
        rw [heq] at ih
        exact ih
      · exact List.not_mem_cons_of_ne_of_not_mem (fun h => by cases h) ih
    · exact List.not_mem_cons_of_ne_of_not_mem (fun h => by cases h) ih

theorem shows_of_field_mem {d : Directive} (h : Item.field d ∈ p.items) :
    ∃ l n, .field l n ∈ p.tokens ∧ l.directive n = d := by
  obtain ⟨t, ht, hd⟩ := List.mem_flatMap.1 h
  cases t with
  | literal text => exact absurd hd (field_not_mem_literalItems d text)
  | field l n =>
    rw [Token.items, List.mem_singleton, Item.field.injEq] at hd
    exact ⟨l, n, ht, hd.symm⟩

/-- What is read is what the text denotes, and is written as the text. -/
theorem read_eq_ok : p.read text = .ok s ↔ p.denotation text = .ok s ∧ p.format s = text := by
  rw [read, bind_eq_ok]
  constructor
  · rintro ⟨r, hr, h⟩
    by_cases hback : p.format r = text
    · rw [if_pos hback] at h
      obtain rfl := Except.ok.inj h
      exact ⟨hr, hback⟩
    · rw [if_neg hback] at h
      cases h
  · rintro ⟨hs, hback⟩
    exact ⟨s, hs, if_pos hback⟩

/-- A text denotes the stamp that its captures tell, moved to the century of a short year. -/
theorem denotation_eq_ok : p.denotation text = .ok s ↔ p.directives.Nodup ∧
    ∃ cs f, readItems p.items text = some (cs, []) ∧ Found.ofCaptures cs = some f ∧
      (if p.hasShortYear then f.stamp >>= Stamp.inCentury else f.stamp) = .ok s := by
  unfold denotation
  constructor
  · intro h
    by_cases honce : p.directives.Nodup
    · rw [if_neg (not_not_intro honce)] at h
      refine ⟨honce, ?_⟩
      dsimp only at h
      split at h
      · next cs hcs =>
        split at h
        · next f hf => exact ⟨cs, f, hcs, hf, h⟩
        · cases h
      · cases h
    · rw [if_pos honce] at h
      cases h
  · rintro ⟨honce, cs, f, hcs, hf, h⟩
    rw [if_neg (not_not_intro honce), hcs]
    simp only [hf]
    exact h

/-- A stamp that is read without a field for it has no offset. -/
theorem offset_of_read (h : p.read text = .ok s) (hp : ¬ p.Shows .offset) : s.offset = none := by
  obtain ⟨-, cs, f, hcs, hf, hs⟩ := denotation_eq_ok.1 (read_eq_ok.1 h).1
  have hfound : f.offset = none := by
    apply Found.offset_of_foldlM hf
    intro c hc heq
    have hmem := directive_mem_of_readItems hcs c hc
    rw [heq] at hmem
    obtain ⟨l, n, hln, hd⟩ := shows_of_field_mem hmem
    obtain rfl := Letter.eq_offset_of_directive hd
    exact hp (p.shows_iff.2 ⟨n, hln⟩)
  split at hs
  · obtain ⟨r, hr, hcentury⟩ := bind_eq_ok.1 hs
    rw [Stamp.offset_of_inCentury hcentury, Found.offset_of_stamp hr, hfound]
  · rw [Found.offset_of_stamp hs, hfound]

end Pattern

end CivilTime
