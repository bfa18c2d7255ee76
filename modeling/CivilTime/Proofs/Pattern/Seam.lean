import CivilTime.Proofs.Pattern.Written

/-!
# Patterns in a row

Two patterns in a row are one pattern, which writes what the first writes and then what the second
writes. Two things can go on over the seam: quotes, which would be paired otherwise, and a field, whose
run would be longer. Where neither does, every place on either side keeps its mark, and the tokens are
those of both, with literals that meet made one.

* `GoesOn`: one character on both sides of a seam; `endField?`, `startField?` and `Joinable` say where
  two texts can be joined.
* `joined`: two lists of tokens in a row; `render_joined` says what they write.
* `marks_append`: the marks of two texts in a row; `gather_append` takes them to the tokens.
* `SpelledAfter.of_append`: what follows a pattern in a pattern can stand by itself.
* `Pattern.ofValue_append`: two patterns in a row.
-/

namespace CivilTime

/-! ### Seams -/

/-- Whether a text ends with a character that the next one starts with. -/
def GoesOn (c : Char) (s t : List Char) : Prop := s.getLast? = some c ∧ t.head? = some c

instance (c : Char) (s t : List Char) : Decidable (GoesOn c s t) :=
  inferInstanceAs (Decidable (_ ∧ _))

/-- The letter of the field that a text ends with, if it ends with one. -/
def endField? (s : List Char) : Option Letter := (placesAfter 0 s).getLast?.bind Place.letter?

/-- The letter of the field that a text starts with, if it starts with one. -/
def startField? (s : List Char) : Option Letter := (placesAfter 0 s).head?.bind Place.letter?

/-- Whether two texts can be joined: no quote meets a quote, and no field goes on. -/
structure Joinable (s t : List Char) : Prop where
  quotes : ¬ GoesOn '\'' s t
  fields : endField? s ≠ none → startField? t ≠ endField? s

instance (s t : List Char) : Decidable (Joinable s t) :=
  decidable_of_iff (¬ GoesOn '\'' s t ∧ (endField? s ≠ none → startField? t ≠ endField? s))
    ⟨fun h => ⟨h.1, h.2⟩, fun h => ⟨h.quotes, h.fields⟩⟩

variable {source source' s t r : List Char} {ms ms' : List Mark} {c d : Char} {l : Letter}
  {inQuote : Bool} {quotes : Nat}

theorem getLast?_cons_of_eq {α : Type} {xs : List α} {x : α} (h : xs.getLast? = some x) (y : α) :
    (y :: xs).getLast? = some x := by
  rw [List.getLast?_cons, h]
  rfl

theorem GoesOn.cons (h : GoesOn c s t) (d : Char) : GoesOn c (d :: s) t :=
  ⟨getLast?_cons_of_eq h.1 d, h.2⟩

theorem not_goesOn_nil (c : Char) (s : List Char) : ¬ GoesOn c s [] := by
  rintro ⟨-, h⟩
  cases h

theorem placesAfter_append (quotes : Nat) (s t : List Char) :
    placesAfter quotes (s ++ t) = placesAfter quotes s ++ placesAfter (quotes + s.count '\'') t := by
  induction s generalizing quotes with
  | nil => rfl
  | cons c s ih =>
    rw [← List.singleton_append, List.count_append, ← Nat.add_assoc]
    exact congrArg (_ :: ·) (ih _)

/-- A text whose quotes are paired ends with a field if it ends with a letter. -/
theorem endField?_of_getLast? (hs : Outside 0 s) (h : s.getLast? = some l.char) :
    endField? s = some l := by
  obtain ⟨a, rfl⟩ := List.getLast?_eq_some_iff.1 h
  have hquotes : (0 + a.count '\'') % 2 = 0 := by
    rw [Outside, List.count_append, ← Nat.add_assoc, quotes_after l.char_ne_quote] at hs
    exact hs
  rw [endField?, placesAfter_append, placesAfter, if_pos hquotes, Letter.ofChar?_char, placesAfter,
    List.getLast?_concat]
  rfl

theorem startField?_of_head? (h : t.head? = some l.char) : startField? t = some l := by
  obtain ⟨r, rfl⟩ := List.head?_eq_some_iff.1 h
  rw [startField?, placesAfter, Letter.ofChar?_char]
  rfl

/-- No letter meets itself where texts can be joined, the first of which has its quotes paired. -/
theorem Joinable.not_goesOn (h : Joinable s t) (hs : Outside 0 s) (l : Letter) :
    ¬ GoesOn l.char s t := by
  rintro ⟨hend, hstart⟩
  have hend := endField?_of_getLast? hs hend
  have hstart := startField?_of_head? hstart
  refine h.fields ?_ (hstart.trans hend.symm)
  rw [hend]
  exact Option.some_ne_none l

/-! ### Tokens in a row -/

/-- A token in front of others; literals that meet are one. -/
def Token.beside : Token → List Token → List Token
  | .literal s, .literal s' :: us => .literal (s ++ s') :: us
  | t, us => t :: us

/-- Two lists of tokens in a row, where literals that meet are one. -/
def joined : List Token → List Token → List Token
  | [], us => us
  | [t], us => t.beside us
  | t :: t' :: ts, us => t :: joined (t' :: ts) us

theorem render_beside (t : Token) (us : List Token) (x : Stamp) :
    render (t.beside us) x = t.render x ++ render us x := by
  cases t with
  | field l n => rfl
  | literal s =>
    rcases us with _ | ⟨_ | _, us⟩
    · rfl
    · exact List.append_assoc _ _ _
    · rfl

theorem render_joined (ts us : List Token) (x : Stamp) :
    render (joined ts us) x = render ts x ++ render us x := by
  induction ts with
  | nil => rfl
  | cons t ts ih =>
    cases ts with
    | nil =>
      show render (t.beside us) x = (t.render x ++ []) ++ render us x
      rw [render_beside, List.append_nil]
    | cons t' ts =>
      show t.render x ++ render (joined (t' :: ts) us) x
        = (t.render x ++ render (t' :: ts) x) ++ render us x
      rw [ih, List.append_assoc]

theorem Token.cons_ne_nil (m : Mark) (ts : List Token) : Token.cons m ts ≠ [] := by
  cases m with
  | text c => rcases ts with _ | ⟨_ | _, ts⟩ <;> exact List.cons_ne_nil _ _
  | letter l =>
    obtain ⟨r, hr, -⟩ := Token.cons_letter l ts
    rw [hr]
    exact List.cons_ne_nil _ _

/-- One more mark in front of tokens in a row. Where there is no first list, a letter must not join
the field that the second one starts with. -/
theorem cons_joined {m : Mark} {ts us : List Token}
    (h : ts = [] → ∀ l n r, m = .letter l → us ≠ .field l n :: r) :
    Token.cons m (joined ts us) = joined (Token.cons m ts) us := by
  cases m with
  | text c =>
    rcases ts with _ | ⟨_ | _, _ | _⟩
    all_goals rcases us with _ | ⟨_ | _, us⟩ <;> rfl
  | letter l =>
    rcases ts with _ | ⟨_ | ⟨k, n⟩, _ | _⟩
    · rcases us with _ | ⟨_ | ⟨k, n⟩, us⟩
      · rfl
      · rfl
      · have hlk : l ≠ k := by
          rintro rfl
          exact h rfl l n us rfl rfl
        exact if_neg hlk
    · rcases us with _ | ⟨_ | _, us⟩ <;> rfl
    · rfl
    all_goals
      by_cases hlk : l = k
      · simp [Token.cons, joined, Token.beside, hlk]
      · simp [Token.cons, joined, Token.beside, hlk]

/-- The tokens of marks in a row are those of both, unless a letter meets its own field. -/
theorem gather_append
    (h : ∀ l n r, ms.getLast? = some (.letter l) → gather ms' ≠ .field l n :: r) :
    gather (ms ++ ms') = joined (gather ms) (gather ms') := by
  induction ms with
  | nil => rfl
  | cons m ms ih =>
    show Token.cons m (gather (ms ++ ms')) = joined (Token.cons m (gather ms)) (gather ms')
    rw [ih fun l n r hl => h l n r (getLast?_cons_of_eq hl m)]
    refine cons_joined ?_
    rintro hnil l n r rfl
    cases ms with
    | nil => exact h l n r rfl
    | cons m' ms => exact absurd hnil (Token.cons_ne_nil m' _)

/-! ### Marks in a row -/

theorem runLength_append (h : ¬ GoesOn c s t) (hs : s ≠ []) :
    runLength c (s ++ t) = runLength c s := by
  induction s with
  | nil => exact absurd rfl hs
  | cons d s ih =>
    rw [List.cons_append]
    by_cases hd : d = c
    · subst hd
      rw [runLength_cons_self, runLength_cons_self]
      cases s with
      | nil =>
        have hrun : runLength d t = 0 := by
          refine runLength_of_ne ?_
          rintro r rfl
          exact h ⟨rfl, rfl⟩
        exact congrArg (· + 1) hrun
      | cons e s => rw [ih (fun hgo => h (hgo.cons d)) (List.cons_ne_nil e s)]
    · rw [runLength_cons_of_ne hd, runLength_cons_of_ne hd]

theorem Permitted.append (hc : Permitted c r) (h : ∀ l : Letter, ¬ GoesOn l.char (c :: r) t) :
    Permitted c (r ++ t) := by
  obtain ⟨hreserved, hletter, hrun⟩ := hc
  refine ⟨hreserved, hletter, ?_⟩
  intro l
  rw [← List.cons_append, runLength_append (h l) (List.cons_ne_nil c r)]
  exact hrun l

/-- Every place of two texts in a row keeps its mark, if no quote and no letter goes on over the
seam. -/
theorem marks_append (h : marks source inQuote s = .ok ms) (ht : marks source' false t = .ok ms')
    (hquote : ¬ GoesOn '\'' s t) (hletter : ∀ l : Letter, ¬ GoesOn l.char s t) :
    marks source' inQuote (s ++ t) = .ok (ms ++ ms') := by
  fun_induction marks source inQuote s generalizing ms with
  | case1 =>
    obtain rfl := Except.ok.inj h
    exact ht
  | case2 => cases h
  | case3 inQuote r ih =>
    obtain ⟨ms₁, hms₁, hms⟩ := bind_eq_ok.1 h
    obtain rfl := Except.ok.inj hms
    exact marks_pair (ih hms₁ (fun hgo => hquote ((hgo.cons _).cons _))
      fun l hgo => hletter l ((hgo.cons _).cons _))
  | case4 inQuote r hr ih =>
    have hfollow : ∀ r', r ++ t ≠ '\'' :: r' := by
      intro r' hr'
      cases r with
      | nil => exact hquote ⟨rfl, by rw [show t = '\'' :: r' from hr']; rfl⟩
      | cons d r => exact hr r (by rw [(List.cons.inj hr').1])
    rw [List.cons_append, marks_turn hfollow]
    exact ih h (fun hgo => hquote (hgo.cons _)) fun l hgo => hletter l (hgo.cons _)
  | case5 c r _ hc ih =>
    obtain ⟨ms₁, hms₁, hms⟩ := bind_eq_ok.1 h
    obtain rfl := Except.ok.inj hms
    exact marks_quoted hc (ih hms₁ (fun hgo => hquote (hgo.cons _))
      fun l hgo => hletter l (hgo.cons _))
  | case6 c r _ hc ih =>
    obtain ⟨m, hm, hrest⟩ := bind_eq_ok.1 h
    obtain ⟨ms₁, hms₁, hms⟩ := bind_eq_ok.1 hrest
    obtain rfl := Except.ok.inj hms
    obtain ⟨hper, rfl⟩ := markOf_eq_ok.1 hm
    have htail := ih hms₁ (fun hgo => hquote (hgo.cons _)) fun l hgo => hletter l (hgo.cons _)
    exact marks_outside hc (hper.append hletter) htail

/-- The text that messages show is not read. -/
theorem marks_of_source (h : marks source inQuote s = .ok ms) :
    marks source' inQuote s = .ok ms := by
  have hend : marks source' false [] = .ok [] := rfl
  have hrow := marks_append h hend (not_goesOn_nil _ _) fun l => not_goesOn_nil l.char s
  rwa [List.append_nil, List.append_nil] at hrow

theorem marks_ne_nil (h : marks source false s = .ok ms) (hs : s ≠ []) : ms ≠ [] := by
  rintro rfl
  exact tokensOf_ne_nil hs (gather_eq_tokensOf (marks_of_source h)).symm

/-- The last mark is a letter only if it is the last character. -/
theorem getLast?_of_marks (h : marks source inQuote s = .ok ms)
    (hl : ms.getLast? = some (.letter l)) : s.getLast? = some l.char := by
  have htext : ∀ {d : Char} {ms₁ : List Mark}, (Mark.text d :: ms₁).getLast? = some (.letter l) →
      ms₁.getLast? = some (.letter l) := by
    intro d ms₁ h
    cases ms₁ with
    | nil => cases h
    | cons m ms₁ => rwa [List.getLast?_cons_cons] at h
  fun_induction marks source inQuote s generalizing ms with
  | case1 =>
    obtain rfl := Except.ok.inj h
    cases hl
  | case2 => cases h
  | case3 inQuote r ih =>
    obtain ⟨ms₁, hms₁, hms⟩ := bind_eq_ok.1 h
    obtain rfl := Except.ok.inj hms
    exact getLast?_cons_of_eq (getLast?_cons_of_eq (ih hms₁ (htext hl)) _) _
  | case4 inQuote r hr ih => exact getLast?_cons_of_eq (ih h hl) _
  | case5 c r _ hc ih =>
    obtain ⟨ms₁, hms₁, hms⟩ := bind_eq_ok.1 h
    obtain rfl := Except.ok.inj hms
    exact getLast?_cons_of_eq (ih hms₁ (htext hl)) c
  | case6 c r _ hc ih =>
    obtain ⟨m, hm, hrest⟩ := bind_eq_ok.1 h
    obtain ⟨ms₁, hms₁, hms⟩ := bind_eq_ok.1 hrest
    obtain rfl := Except.ok.inj hms
    cases r with
    | nil =>
      obtain rfl := Except.ok.inj hms₁
      obtain rfl := Option.some.inj hl
      rw [(markOf_eq_letter hm).1]
      rfl
    | cons d r =>
      obtain ⟨m', ms₁, rfl⟩ := List.exists_cons_of_ne_nil (marks_ne_nil hms₁ (List.cons_ne_nil d r))
      rw [List.getLast?_cons_cons] at hl
      exact getLast?_cons_of_eq (ih hms₁ hl) c

/-- The first token is a field only if its letter is the first character. -/
theorem head?_of_gather {n : Nat} {ts : List Token} (h : marks source false t = .ok ms)
    (hts : gather ms = .field l n :: ts) : t.head? = some l.char := by
  obtain ⟨hallowed, hrun⟩ := marks_allowed h
  have hwidth : 1 ≤ n := (hallowed (.field l n) (by rw [hts]; exact List.mem_cons_self)).1
  have hahead : n ≤ runLength l.char t := by
    have := hrun rfl l
    rwa [hts, leadingRun, if_pos rfl] at this
  by_contra hhead
  have hnone : runLength l.char t = 0 := by
    refine runLength_of_ne ?_
    rintro r rfl
    exact hhead rfl
  omega

/-! ### Patterns in a row -/

/-- What follows a text with paired quotes in a pattern can stand by itself. -/
theorem SpelledAfter.of_append (h : SpelledAfter 0 (s ++ t)) (hs : Outside 0 s) :
    SpelledAfter 0 t := by
  have hiff : ∀ a, Outside 0 (s ++ a) ↔ Outside 0 a := by
    intro a
    rw [Outside, Nat.zero_add] at hs
    rw [Outside, Outside, List.count_append]
    omega
  refine ⟨(hiff t).1 h.closed, ?_, ?_⟩
  · intro a c b ht ha
    exact h.known (s ++ a) c b (by rw [ht, List.append_assoc]) ((hiff a).2 ha)
  · intro a n b l ht ha
    exact h.narrow (s ++ a) n b l (by rw [ht, List.append_assoc]) ((hiff a).2 ha)

theorem Pattern.ofText_append {p q : Pattern} (hp : ofText s = .ok p) (hq : ofText t = .ok q)
    (h : Joinable s t) : ofText (s ++ t) = .ok ⟨s ++ t, joined p.tokens q.tokens⟩ := by
  have hpaired : Outside 0 s := (ofText_eq_ok.1 hp).1.closed
  obtain ⟨ms, hms, hp⟩ := bind_eq_ok.1 hp
  obtain rfl := Except.ok.inj hp
  obtain ⟨ms', hms', hq⟩ := bind_eq_ok.1 hq
  obtain rfl := Except.ok.inj hq
  have hrow : marks (s ++ t) false (s ++ t) = .ok (ms ++ ms') :=
    marks_append hms (marks_of_source hms') h.quotes (h.not_goesOn hpaired)
  have htokens : gather (ms ++ ms') = joined (gather ms) (gather ms') := by
    refine gather_append ?_
    intro l n r hl hts
    exact h.not_goesOn hpaired l ⟨getLast?_of_marks hms hl, head?_of_gather hms' hts⟩
  rw [ofText, bind_of_ok hrow, htokens]
  rfl

/-- Two patterns in a row are a pattern, if no quote meets a quote and no field goes on. Its tokens are
those of the first and those of the second, with literals that meet made one, and it writes every stamp
as the two do. And what follows a pattern in a pattern is nothing or a pattern. -/
theorem Pattern.ofValue_append (s t : String) :
    (∀ p q, ofValue (.text s) = .ok p → ofValue (.text t) = .ok q →
      Joinable s.toList t.toList →
      ∃ r, ofValue (.text (s ++ t)) = .ok r ∧ r.tokens = joined p.tokens q.tokens ∧
        ∀ x, r.format x = p.format x ++ q.format x) ∧
    (∀ p r, ofValue (.text s) = .ok p → ofValue (.text (s ++ t)) = .ok r →
      t = "" ∨ ∃ q, ofValue (.text t) = .ok q) := by
  constructor
  · intro p q hp hq h
    rw [ofValue_text_eq_ok] at hp hq
    have hrow := ofText_append hp.2 hq.2 h
    refine ⟨⟨s.toList ++ t.toList, joined p.tokens q.tokens⟩, ?_, rfl, ?_⟩
    · rw [ofValue_text_eq_ok, String.toList_append]
      exact ⟨List.append_ne_nil_of_left_ne_nil hp.1 _, hrow⟩
    · intro x
      exact render_joined p.tokens q.tokens x
  · intro p r hp hr
    rw [ofValue_text_eq_ok, ofText_eq_ok] at hp hr
    rw [String.toList_append] at hr
    have ht := hr.2.1.of_append hp.2.1.closed
    by_cases hempty : t = ""
    · exact .inl hempty
    · refine .inr ⟨_, ofValue_text_eq_ok.2 ⟨?_, ofText_eq_ok.2 ⟨ht, rfl⟩⟩⟩
      simpa using hempty

/-- A quotation that ends at the seam, in front of text outside quotations; the letter in it is no
field, so the one after the seam is free to follow. -/
theorem Pattern.ofValue_append_textMeets :
    ofValue (.text "Md'd'") = .ok ⟨"Md'd'".toList, [.field .month 1, .field .day 1, .literal ['d']]⟩ ∧
    ofValue (.text "-dd''") = .ok ⟨"-dd''".toList, [.literal ['-'], .field .day 2, .literal ['\'']]⟩ ∧
    Joinable "Md'd'".toList "-dd''".toList ∧
    (∃ r, ofValue (.text "Md'd'-dd''") = .ok r ∧
      r.tokens = [.field .month 1, .field .day 1, .literal ['d', '-'], .field .day 2,
        .literal ['\'']]) ∧
    ∃ q, ofValue (.text "-dd''") = .ok q := by
  have hp : ofValue (.text "Md'd'")
      = .ok ⟨"Md'd'".toList, [.field .month 1, .field .day 1, .literal ['d']]⟩ := rfl
  have hq : ofValue (.text "-dd''")
      = .ok ⟨"-dd''".toList, [.literal ['-'], .field .day 2, .literal ['\'']]⟩ := rfl
  have hjoin : Joinable "Md'd'".toList "-dd''".toList := by decide
  obtain ⟨hforward, hback⟩ := ofValue_append "Md'd'" "-dd''"
  obtain ⟨r, hr, htokens, -⟩ := hforward _ _ hp hq hjoin
  refine ⟨hp, hq, hjoin, ⟨r, hr, htokens⟩, ?_⟩
  rcases hback _ r hp hr with hempty | hrest
  · exact absurd hempty (by decide)
  · exact hrest

/-- A quote that meets a quote is a character of the text. -/
example : ¬ Joinable "'a'".toList "'b'".toList ∧
    Pattern.ofText "'a''b'".toList = .ok ⟨"'a''b'".toList, [.literal ['a', '\'', 'b']]⟩ := by
  decide +kernel

end CivilTime
