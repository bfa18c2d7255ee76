import CivilTime.Pattern.Directive
import CivilTime.Proofs.Pattern.Grammar

/-!
# Patterns in writing

A list of tokens can be written as a pattern if no token is empty or too wide and no two in a row are
of one kind. A field is a run of its letter. A literal is written with two quotes for each quote that
it starts with and one quotation around the rest, in which the quotes are doubled. Since a literal
starts with a quote in writing and ends before a letter, nothing that is written runs into what
follows; and the tokens of every pattern can be written so.

* `writtenText`, `Token.written`, `written`: literals, tokens and lists of tokens in writing.
* `Token.marks`: the marks of a token, with `marks_written` along the text and `gather_written` along
  the tokens.
* `Writable`: the lists of tokens that can be written; `Pattern.writable_of_ofValue` says that patterns
  have no others.
* `Pattern.ofValue_written`: what is written is a pattern with these tokens.
-/

namespace CivilTime

/-! ### Writing -/

/-- A text with its quotes doubled. -/
def doubled (s : List Char) : List Char := s.flatMap fun c => if c = '\'' then ['\'', '\''] else [c]

/-- Literal text in a pattern: two quotes for each quote in front, and a quotation of the rest. -/
def writtenText : List Char → List Char
  | [] => []
  | c :: s =>
    if c = '\'' then '\'' :: '\'' :: writtenText s else '\'' :: (doubled (c :: s) ++ ['\''])

/-- A token in a pattern. -/
def Token.written : Token → List Char
  | .literal s => writtenText s
  | .field l n => List.replicate n l.char

/-- The text of a pattern with these tokens. -/
def written (ts : List Token) : List Char := ts.flatMap (·.written)

/-- The tokens that can be written: some, none of them empty or too wide, and no two in a row both
literal or fields of one letter. -/
structure Writable (ts : List Token) : Prop where
  nonempty : ts ≠ []
  allowed : ∀ t ∈ ts, t.Allowed
  distinct : ts.IsChain Token.Distinct

instance (ts : List Token) : Decidable (Writable ts) :=
  decidable_of_iff (ts ≠ [] ∧ (∀ t ∈ ts, t.Allowed) ∧ ts.IsChain Token.Distinct)
    ⟨fun h => ⟨h.1, h.2.1, h.2.2⟩, fun h => ⟨h.nonempty, h.allowed, h.distinct⟩⟩

/-- The marks that a token is gathered from. -/
def Token.marks : Token → List Mark
  | .literal s => s.map .text
  | .field l n => List.replicate n (.letter l)

/-- The character that a token starts with in writing. -/
def Token.first : Token → Char
  | .literal _ => '\''
  | .field l _ => l.char

variable {source rest r s : List Char} {ms : List Mark} {ts : List Token} {t t' : Token} {c : Char}
  {l : Letter} {n : Nat} {inQuote : Bool}

theorem Token.first_ne (h : t.Distinct t') : t'.first ≠ t.first := by
  intro heq
  cases t with
  | literal s =>
    cases t' with
    | literal s' => exact h rfl
    | field k m => exact k.char_ne_quote heq
  | field l n =>
    cases t' with
    | literal s' => exact l.char_ne_quote heq.symm
    | field k m => exact h (congrArg some (Letter.char_injective heq.symm))

theorem Token.exists_written (h : t.Allowed) : ∃ r, t.written = t.first :: r := by
  cases t with
  | literal s =>
    obtain ⟨c, s, rfl⟩ := List.exists_cons_of_ne_nil h
    by_cases hc : c = '\''
    · exact ⟨_, if_pos hc⟩
    · exact ⟨_, if_neg hc⟩
  | field l n =>
    obtain ⟨n, rfl⟩ := Nat.exists_eq_add_of_lt h.1
    exact ⟨_, rfl⟩

/-- After a token something else follows. -/
theorem written_ne_first (hts : ∀ t' ∈ ts, t'.Allowed) (h : (t :: ts).IsChain Token.Distinct) :
    ∀ r, written ts ≠ t.first :: r := by
  intro r hr
  cases ts with
  | nil => cases hr
  | cons t' ts =>
    obtain ⟨r', hr'⟩ := Token.exists_written (hts t' List.mem_cons_self)
    have hne := Token.first_ne (List.isChain_cons_cons.1 h).1
    rw [written, List.flatMap_cons, hr'] at hr
    exact hne (List.cons.inj hr).1

/-! ### The marks of what is written -/

/-- Two quotes are one, inside and outside quotations. -/
theorem marks_pair (h : marks source inQuote r = .ok ms) :
    marks source inQuote ('\'' :: '\'' :: r) = .ok (.text '\'' :: ms) := by
  rw [marks, bind_of_ok h]
  rfl

/-- A quote by itself starts or ends a quotation. -/
theorem marks_turn (h : ∀ r', r ≠ '\'' :: r') :
    marks source inQuote ('\'' :: r) = marks source (!inQuote) r := by
  rw [marks]
  intro r' hr'
  exact h r' hr'

theorem marks_quoted (hc : c ≠ '\'') (h : marks source true r = .ok ms) :
    marks source true (c :: r) = .ok (.text c :: ms) := by
  rw [marks, bind_of_ok h]
  · rfl
  · intro r' hcr
    exact fun _ => hc hcr
  · exact hc

/-- Outside quotations a character has its mark, if it can stand there. -/
theorem marks_outside (hc : c ≠ '\'') (hper : Permitted c r) (h : marks source false r = .ok ms) :
    marks source false (c :: r) = .ok (markAt c :: ms) := by
  rw [marks, bind_of_ok (markOf_eq_ok.2 ⟨hper, rfl⟩), bind_of_ok h]
  · rfl
  · intro r' hr'
    exact fun _ => hc hr'
  · exact hc

theorem marks_letter (hn : runLength l.char r + 1 ≤ l.maxWidth)
    (h : marks source false r = .ok ms) :
    marks source false (l.char :: r) = .ok (.letter l :: ms) := by
  rw [marks_outside l.char_ne_quote (permitted_char.2 hn) h, markAt, Letter.ofChar?_char]

/-- In a quotation doubled quotes are quotes, and all else is itself, up to the quote at the end. -/
theorem marks_doubled (hrest : ∀ r, rest ≠ '\'' :: r) (h : marks source false rest = .ok ms) :
    marks source true (doubled s ++ '\'' :: rest) = .ok (s.map .text ++ ms) := by
  induction s with
  | nil =>
    show marks source true ('\'' :: rest) = .ok ms
    rw [marks_turn hrest]
    exact h
  | cons c s ih =>
    rw [doubled, List.flatMap_cons, ← doubled]
    by_cases hc : c = '\''
    · rw [if_pos hc, hc]
      exact marks_pair ih
    · rw [if_neg hc]
      exact marks_quoted hc ih

/-- Literal text in writing is that text. The induction goes over the quotes in front. -/
theorem marks_writtenText (hrest : ∀ r, rest ≠ '\'' :: r) (h : marks source false rest = .ok ms) :
    marks source false (writtenText s ++ rest) = .ok (s.map .text ++ ms) := by
  induction s with
  | nil => exact h
  | cons c s ih =>
    rw [writtenText]
    by_cases hc : c = '\''
    · rw [if_pos hc, hc]
      exact marks_pair ih
    · have hopen : ∀ r', doubled (c :: s) ++ '\'' :: rest ≠ '\'' :: r' := by
        intro r' hr'
        rw [doubled, List.flatMap_cons, if_neg hc] at hr'
        exact hc (List.cons.inj hr').1
      rw [if_neg hc, List.cons_append, List.append_assoc, List.singleton_append, marks_turn hopen]
      exact marks_doubled hrest h

theorem runLength_of_ne (h : ∀ r, rest ≠ c :: r) : runLength c rest = 0 := by
  cases rest with
  | nil => rfl
  | cons d rest =>
    refine runLength_cons_of_ne ?_ rest
    intro hd
    exact h rest (by rw [hd])

theorem runLength_replicate (h : ∀ r, rest ≠ c :: r) (n : Nat) :
    runLength c (List.replicate n c ++ rest) = n := by
  induction n with
  | zero => exact runLength_of_ne h
  | succ n ih => rw [List.replicate_succ, List.cons_append, runLength_cons_self, ih]

/-- A run of a letter that is not too long is as many marks of it. -/
theorem marks_run (hn : n ≤ l.maxWidth) (hrest : ∀ r, rest ≠ l.char :: r)
    (h : marks source false rest = .ok ms) :
    marks source false (List.replicate n l.char ++ rest)
      = .ok (List.replicate n (.letter l) ++ ms) := by
  induction n with
  | zero => exact h
  | succ n ih =>
    have hrun : runLength l.char (List.replicate n l.char ++ rest) + 1 ≤ l.maxWidth := by
      rw [runLength_replicate hrest]
      exact hn
    rw [List.replicate_succ, List.replicate_succ]
    exact marks_letter hrun (ih (by omega))

/-- A token in writing has its marks, if something else follows. -/
theorem marks_token (ht : t.Allowed) (hrest : ∀ r, rest ≠ t.first :: r)
    (h : marks source false rest = .ok ms) :
    marks source false (t.written ++ rest) = .ok (t.marks ++ ms) := by
  cases t with
  | literal s => exact marks_writtenText hrest h
  | field l n => exact marks_run ht.2 hrest h

theorem marks_written (hts : ∀ t ∈ ts, t.Allowed) (h : ts.IsChain Token.Distinct) :
    marks source false (written ts) = .ok (ts.flatMap (·.marks)) := by
  induction ts with
  | nil => rfl
  | cons t ts ih =>
    have hrest : ∀ t' ∈ ts, t'.Allowed := fun t' ht' => hts t' (List.mem_cons_of_mem t ht')
    exact marks_token (hts t List.mem_cons_self) (written_ne_first hrest h)
      (ih hrest (List.isChain_cons.1 h).2)

/-! ### The tokens of what is written -/

theorem foldr_text (s : List Char) (h : ∀ s' r, ts ≠ .literal s' :: r) :
    (s.map Mark.text).foldr Token.cons ts = Token.lead s ts := by
  induction s with
  | nil => rfl
  | cons c s ih =>
    rw [List.map_cons, List.foldr_cons, ih, Token.cons_text_lead c s h]

theorem foldr_letter (h : ∀ m r, ts ≠ .field l m :: r) (n : Nat) :
    (List.replicate (n + 1) (Mark.letter l)).foldr Token.cons ts = .field l (n + 1) :: ts := by
  induction n with
  | zero =>
    rcases ts with _ | ⟨_ | ⟨k, m⟩, r⟩
    · rfl
    · rfl
    · refine if_neg ?_
      intro hlk
      exact h m r (by rw [hlk])
  | succ n ih =>
    rw [List.replicate_succ, List.foldr_cons, ih, Token.cons, if_pos rfl]

/-- The marks of a token are gathered into that token, if something else follows. -/
theorem foldr_marks (ht : t.Allowed) (h : (t :: ts).IsChain Token.Distinct) :
    t.marks.foldr Token.cons ts = t :: ts := by
  cases t with
  | literal s =>
    have hfollow : ∀ s' r, ts ≠ .literal s' :: r := by
      intro s' r hts
      rw [hts] at h
      exact (List.isChain_cons_cons.1 h).1 rfl
    rw [Token.marks, foldr_text s hfollow, Token.lead, if_neg ht]
  | field l n =>
    have hfollow : ∀ m r, ts ≠ .field l m :: r := by
      intro m r hts
      rw [hts] at h
      exact (List.isChain_cons_cons.1 h).1 rfl
    obtain ⟨n, rfl⟩ := Nat.exists_eq_add_of_le' ht.1
    exact foldr_letter hfollow n

theorem gather_written (hts : ∀ t ∈ ts, t.Allowed) (h : ts.IsChain Token.Distinct) :
    gather (ts.flatMap (·.marks)) = ts := by
  induction ts with
  | nil => rfl
  | cons t ts ih =>
    have hrest := ih (fun t' ht' => hts t' (List.mem_cons_of_mem t ht')) (List.isChain_cons.1 h).2
    rw [gather] at hrest ⊢
    rw [List.flatMap_cons, List.foldr_append, hrest, foldr_marks (hts t List.mem_cons_self) h]

/-! ### Patterns -/

/-- What is written is a pattern with these tokens. -/
theorem Writable.ofValue_eq (h : Writable ts) :
    Pattern.ofValue (.text (String.ofList (written ts))) = .ok ⟨written ts, ts⟩ := by
  rw [Pattern.ofValue_text_eq_ok, String.toList_ofList]
  constructor
  · obtain ⟨t, ts, rfl⟩ := List.exists_cons_of_ne_nil h.nonempty
    obtain ⟨r, hr⟩ := Token.exists_written (h.allowed t List.mem_cons_self)
    rw [written, List.flatMap_cons, hr]
    exact List.cons_ne_nil _ _
  · rw [Pattern.ofText, bind_of_ok (marks_written h.allowed h.distinct),
      gather_written h.allowed h.distinct]
    rfl

/-- A text that is not empty has tokens. -/
theorem tokensOf_ne_nil (hs : s ≠ []) : tokensOf (placesAfter 0 s) ≠ [] := by
  obtain ⟨c, s, rfl⟩ := List.exists_cons_of_ne_nil hs
  rw [placesAfter, tokensOf, runsBy_cons, List.map_cons]
  exact List.cons_ne_nil _ _

/-- The tokens of a pattern can be written. -/
theorem Pattern.writable_of_ofValue {v : Value} {p : Pattern} (h : ofValue v = .ok p) :
    Writable p.tokens := by
  have hallowed := (ofValue_shaped h).allowed
  cases v with
  | text s =>
    obtain ⟨hne, htext⟩ := ofValue_text_eq_ok.1 h
    obtain ⟨ms, -, hp⟩ := bind_eq_ok.1 htext
    have hdistinct : p.tokens.IsChain Token.Distinct := by
      rw [← Except.ok.inj hp]
      exact gather_distinct ms
    refine ⟨?_, hallowed, hdistinct⟩
    rw [(ofText_eq_ok.1 htext).2]
    exact tokensOf_ne_nil hne
  | _ => cases h

/-- Every list of tokens that can be written is that of the pattern that is written for it. And the
tokens of every pattern can be written; what is written for them is a pattern with the same tokens and
directives, which writes all stamps alike. -/
theorem Pattern.ofValue_written :
    (∀ ts, Writable ts → ofValue (.text (String.ofList (written ts))) = .ok ⟨written ts, ts⟩) ∧
    ∀ v p, ofValue v = .ok p → Writable p.tokens ∧
      ∃ q, ofValue (.text (String.ofList (written p.tokens))) = .ok q ∧ q.tokens = p.tokens ∧
        q.spelling = p.spelling ∧ ∀ s, q.format s = p.format s := by
  refine ⟨fun ts => Writable.ofValue_eq, ?_⟩
  intro v p h
  have hp := writable_of_ofValue h
  exact ⟨hp, _, hp.ofValue_eq, rfl, rfl, fun s => rfl⟩

/-- Two quotes and a letter after two fields, a quotation with a quote in it, and one quote alone. -/
theorem Pattern.ofValue_written_quotes :
    written [.field .day 2, .field .month 2, .literal "''T".toList, .field .hour 1,
        .literal "o'clock".toList, .field .half 1, .literal ['\'']]
      = "ddMM'''''T'H'o''clock'a''".toList ∧
    ofValue (.text "ddMM'''''T'H'o''clock'a''")
      = .ok ⟨"ddMM'''''T'H'o''clock'a''".toList,
        [.field .day 2, .field .month 2, .literal "''T".toList, .field .hour 1,
          .literal "o'clock".toList, .field .half 1, .literal ['\'']]⟩ := by
  have hwritten : written [.field .day 2, .field .month 2, .literal "''T".toList, .field .hour 1,
      .literal "o'clock".toList, .field .half 1, .literal ['\'']]
      = "ddMM'''''T'H'o''clock'a''".toList := by decide +kernel
  have hpattern := Pattern.ofValue_written.1 [.field .day 2, .field .month 2,
    .literal "''T".toList, .field .hour 1, .literal "o'clock".toList, .field .half 1,
    .literal ['\'']] (by decide +kernel)
  rw [hwritten, String.ofList_toList] at hpattern
  exact ⟨hwritten, hpattern⟩

end CivilTime
