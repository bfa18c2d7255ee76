import CivilTime.Proofs.Pattern.Runs
import CivilTime.Proofs.Pattern.Shape

/-!
# The grammar of patterns

Which texts are patterns can be said of every place by itself: quotes come in pairs, and after an
even number of them there is no reserved character, no unknown letter and no run that is too long.
The tokens of such a text are those of its runs.

* `Outside`: whether a text after so many quotes ends outside quotations.
* `SpelledAfter`, `WellFormed`: the texts that are patterns; `spelledAfter_cons` goes on by one
  character.
* `Permitted`, `markOf_eq_ok`: the characters that have a mark outside quotations, and their marks.
* `openAfter`: whether so many quotes leave a quotation open.
* `exists_marks_iff`, `gather_marks`: the marks of a text, along the text.
* `Pattern.ofValue_iff_wellFormed`: the patterns of texts.
-/

namespace CivilTime

/-- Whether what comes after so many quotes and a text is outside quotations. -/
def Outside (quotes : Nat) (before : List Char) : Prop := (quotes + before.count '\'') % 2 = 0

/-- Whether a text can stand in a pattern after so many quotes, up to its end. -/
structure SpelledAfter (quotes : Nat) (s : List Char) : Prop where
  closed : Outside quotes s
  known : ∀ a c b, s = a ++ c :: b → Outside quotes a →
    c ∉ reservedChars ∧ (c.isAlpha = true → ∃ l : Letter, l.char = c)
  narrow : ∀ a n b, ∀ l : Letter, s = a ++ (List.replicate n l.char ++ b) → Outside quotes a →
    n ≤ l.maxWidth

/-- Whether a text is a pattern. -/
structure WellFormed (s : List Char) : Prop extends SpelledAfter 0 s where
  nonempty : s ≠ []

/-! ### One more character -/

/-- Whether a character can stand outside quotations in front of a text. -/
def Permitted (c : Char) (rest : List Char) : Prop :=
  c ∉ reservedChars ∧ (c.isAlpha = true → ∃ l : Letter, l.char = c) ∧
    ∀ l : Letter, runLength l.char (c :: rest) ≤ l.maxWidth

theorem replicate_runLength (c : Char) (s : List Char) :
    s = List.replicate (runLength c s) c ++ s.dropWhile (· = c) := by
  have hrun : s.takeWhile (· = c) = List.replicate (runLength c s) c :=
    List.eq_replicate_of_mem fun d hd =>
      of_decide_eq_true (List.all_eq_true.1 List.all_takeWhile d hd)
  rw [← hrun, List.takeWhile_append_dropWhile]

theorem le_runLength_replicate (c : Char) (n : Nat) (s : List Char) :
    n ≤ runLength c (List.replicate n c ++ s) := by
  induction n with
  | zero => exact Nat.zero_le _
  | succ n ih =>
    rw [List.replicate_succ, List.cons_append, runLength_cons_self]
    omega

theorem outside_cons {quotes : Nat} {c : Char} {a : List Char} :
    Outside quotes (c :: a) ↔ Outside (quotes + [c].count '\'') a := by
  rw [Outside, Outside, ← List.singleton_append, List.count_append, Nat.add_assoc]

theorem spelledAfter_nil {quotes : Nat} : SpelledAfter quotes [] ↔ quotes % 2 = 0 := by
  refine ⟨fun h => h.closed, fun h => ⟨h, fun a c b hs => ?_, fun a n b l hs => ?_⟩⟩
  · exact absurd hs.symm (List.append_ne_nil_of_right_ne_nil a (List.cons_ne_nil c b))
  · obtain ⟨-, hs⟩ := List.append_eq_nil_iff.1 hs.symm
    obtain ⟨hs, -⟩ := List.append_eq_nil_iff.1 hs
    rw [List.replicate_eq_nil_iff] at hs
    omega

/-- A text can stand in a pattern if its first character and the rest can. -/
theorem spelledAfter_cons {quotes : Nat} {c : Char} {s : List Char} :
    SpelledAfter quotes (c :: s)
      ↔ (quotes % 2 = 0 → Permitted c s) ∧ SpelledAfter (quotes + [c].count '\'') s := by
  constructor
  · intro h
    refine ⟨fun hq => ⟨(h.known [] c s rfl hq).1, (h.known [] c s rfl hq).2, fun l => ?_⟩, ?_⟩
    · exact h.narrow [] _ _ l (replicate_runLength l.char (c :: s)) hq
    · refine ⟨outside_cons.1 h.closed, fun a d b hs ha => ?_, fun a n b l hs ha => ?_⟩
      · exact h.known (c :: a) d b (by rw [hs]; rfl) (outside_cons.2 ha)
      · exact h.narrow (c :: a) n b l (by rw [hs]; rfl) (outside_cons.2 ha)
  · rintro ⟨hc, h⟩
    refine ⟨outside_cons.2 h.closed, fun a d b hs ha => ?_, fun a n b l hs ha => ?_⟩
    · cases a with
      | nil =>
        obtain ⟨rfl, rfl⟩ := List.cons.inj hs
        exact ⟨(hc ha).1, (hc ha).2.1⟩
      | cons e a =>
        obtain ⟨rfl, rfl⟩ := List.cons.inj hs
        exact h.known a d b rfl (outside_cons.1 ha)
    · cases a with
      | nil =>
        refine (le_runLength_replicate l.char n b).trans ?_
        rw [← List.nil_append (_ ++ _), ← hs]
        exact (hc ha).2.2 l
      | cons e a =>
        obtain ⟨rfl, rfl⟩ := List.cons.inj hs
        exact h.narrow a n b l rfl (outside_cons.1 ha)

theorem runLength_cons_of_ne {c d : Char} (h : d ≠ c) (s : List Char) :
    runLength c (d :: s) = 0 := by
  rw [runLength, List.takeWhile_cons_of_neg (by simpa using h)]
  rfl

theorem quotes_after {c : Char} (h : c ≠ '\'') (quotes : Nat) :
    quotes + [c].count '\'' = quotes := by
  rw [List.count_singleton, if_neg (by simpa using h), Nat.add_zero]

theorem Letter.char_ne_quote (l : Letter) : l.char ≠ '\'' := by cases l <;> decide

/-- A quote can stand anywhere. -/
theorem spelledAfter_quote {quotes : Nat} {s : List Char} :
    SpelledAfter quotes ('\'' :: s) ↔ SpelledAfter (quotes + 1) s := by
  rw [spelledAfter_cons]
  refine and_iff_right fun _ => ⟨by decide, fun h => absurd h (by decide), fun l => ?_⟩
  rw [runLength_cons_of_ne l.char_ne_quote.symm]
  exact Nat.zero_le _

/-! ### Marks -/

/-- The mark of a character. -/
def markAt (c : Char) : Mark :=
  match Letter.ofChar? c with
  | some l => .letter l
  | none => .text c

theorem Letter.isAlpha_char (l : Letter) : l.char.isAlpha = true := by cases l <;> decide

theorem Letter.char_notMem_reserved (l : Letter) : l.char ∉ reservedChars := by
  cases l <;> decide

theorem Letter.char_injective {k l : Letter} (h : k.char = l.char) : k = l :=
  Option.some.inj ((ofChar?_char k).symm.trans ((congrArg ofChar? h).trans (ofChar?_char l)))

theorem permitted_char {l : Letter} {s : List Char} :
    Permitted l.char s ↔ runLength l.char s + 1 ≤ l.maxWidth := by
  rw [← runLength_cons_self]
  refine ⟨fun h => h.2.2 l, fun h => ⟨l.char_notMem_reserved, fun _ => ⟨l, rfl⟩, fun k => ?_⟩⟩
  by_cases hk : k = l
  · rw [hk]
    exact h
  · rw [runLength_cons_of_ne fun hchar => hk (Letter.char_injective hchar.symm)]
    exact Nat.zero_le _

theorem permitted_of_none {c : Char} {s : List Char} (h : Letter.ofChar? c = none) :
    Permitted c s ↔ c ∉ reservedChars ∧ c.isAlpha = false := by
  have hne : ∀ l : Letter, c ≠ l.char := by
    rintro l rfl
    rw [Letter.ofChar?_char] at h
    cases h
  constructor
  · rintro ⟨hres, halpha, -⟩
    refine ⟨hres, Bool.eq_false_iff.2 fun hc => ?_⟩
    obtain ⟨l, hl⟩ := halpha hc
    exact hne l hl.symm
  · rintro ⟨hres, halpha⟩
    refine ⟨hres, fun hc => absurd (halpha.symm.trans hc) (by decide), fun l => ?_⟩
    rw [runLength_cons_of_ne (hne l)]
    exact Nat.zero_le _

/-- A character outside quotations has a mark exactly if it can stand there. -/
theorem markOf_eq_ok {source rest : List Char} {c : Char} {m : Mark} :
    markOf source c rest = .ok m ↔ Permitted c rest ∧ m = markAt c := by
  cases hl : Letter.ofChar? c with
  | none =>
    rw [permitted_of_none hl, markAt, hl, markOf, hl]
    by_cases hres : c ∈ reservedChars
    · simp [hres]
    · by_cases halpha : c.isAlpha = true
      · simp [hres, halpha]
      · simp [hres, halpha, eq_comm]
  | some l =>
    obtain rfl := Letter.char_eq_of_ofChar? hl
    rw [permitted_char, markAt, hl, markOf, hl, if_neg l.char_notMem_reserved,
      if_pos l.isAlpha_char]
    by_cases hwidth : l.maxWidth < runLength l.char rest + 1
    · simp [hwidth, Nat.not_le.2 hwidth]
    · simp [hwidth, Nat.not_lt.1 hwidth, eq_comm]

/-- Whether so many quotes leave a quotation open. -/
def openAfter (quotes : Nat) : Bool := quotes % 2 = 1

theorem openAfter_succ (quotes : Nat) : openAfter (quotes + 1) = !openAfter quotes := by
  rw [openAfter, openAfter, ← decide_not]
  exact decide_eq_decide.2 (by omega)

theorem odd_of_open {quotes : Nat} (h : true = openAfter quotes) : quotes % 2 = 1 :=
  of_decide_eq_true h.symm

theorem even_of_closed {quotes : Nat} (h : false = openAfter quotes) : quotes % 2 = 0 := by
  have hodd : ¬ quotes % 2 = 1 := of_decide_eq_false h.symm
  omega

/-- One more mark does not fail. -/
theorem exists_cons_marks {e : Except PatternFault (List Mark)} {m : Mark} :
    (∃ ms, (do return m :: (← e)) = .ok ms) ↔ ∃ ms, e = .ok ms := by
  constructor
  · rintro ⟨ms, h⟩
    obtain ⟨ms', h', -⟩ := bind_eq_ok.1 h
    exact ⟨ms', h'⟩
  · rintro ⟨ms, rfl⟩
    exact ⟨m :: ms, rfl⟩

/-- A text has marks exactly if it can stand in a pattern. -/
theorem exists_marks_iff {source s : List Char} {inQuote : Bool} {quotes : Nat}
    (hq : inQuote = openAfter quotes) :
    (∃ ms, marks source inQuote s = .ok ms) ↔ SpelledAfter quotes s := by
  fun_induction marks source inQuote s generalizing quotes with
  | case1 =>
    rw [spelledAfter_nil]
    exact iff_of_true ⟨[], rfl⟩ (even_of_closed hq)
  | case2 =>
    rw [spelledAfter_nil]
    have hodd := odd_of_open hq
    refine iff_of_false ?_ (by omega)
    rintro ⟨ms, h⟩
    cases h
  | case3 inQuote r ih =>
    have hq' : inQuote = openAfter (quotes + 1 + 1) := by
      rw [hq, openAfter_succ, openAfter_succ, Bool.not_not]
    rw [exists_cons_marks, ih hq', spelledAfter_quote, spelledAfter_quote]
  | case4 inQuote r _ ih =>
    have hq' : (!inQuote) = openAfter (quotes + 1) := by rw [hq, openAfter_succ]
    rw [ih hq', spelledAfter_quote]
  | case5 c r _ hc ih =>
    have hodd := odd_of_open hq
    have hcount := quotes_after hc quotes
    rw [exists_cons_marks, ih hq, spelledAfter_cons, hcount]
    exact (and_iff_right fun h => absurd h (by omega)).symm
  | case6 c r _ hc ih =>
    have heven := even_of_closed hq
    have hcount := quotes_after hc quotes
    rw [spelledAfter_cons, hcount, ← ih hq]
    constructor
    · rintro ⟨ms, h⟩
      obtain ⟨m, hm, h⟩ := bind_eq_ok.1 h
      exact ⟨fun _ => (markOf_eq_ok.1 hm).1, exists_cons_marks.1 ⟨ms, h⟩⟩
    · rintro ⟨hper, h⟩
      rw [bind_of_ok (markOf_eq_ok.2 ⟨hper heven, rfl⟩)]
      exact exists_cons_marks.2 h

/-- In a text that can stand in a pattern the quotes in front of the first letter are paired, with
those before the text. -/
theorem outside_frontText {s : List Char} {quotes : Nat} (h : Outside quotes s) :
    Outside quotes (frontText (placesAfter quotes s)) := by
  induction s generalizing quotes with
  | nil => exact h
  | cons c s ih =>
    rw [placesAfter]
    cases hl : (if quotes % 2 = 0 then Letter.ofChar? c else none) with
    | none =>
      rw [frontText_of_none rfl, outside_cons]
      exact ih (outside_cons.1 h)
    | some l =>
      rw [frontText_of_some rfl]
      by_cases hq : quotes % 2 = 0
      · exact hq
      · rw [if_neg hq] at hl
        cases hl

/-- What is no letter outside quotations goes to the text in front. -/
theorem front_of_text {c : Char} {quotes : Nat} (h : quotes % 2 = 0 → Letter.ofChar? c = none)
    (r : List Char) :
    frontText (placesAfter quotes (c :: r))
        = c :: frontText (placesAfter (quotes + [c].count '\'') r) ∧
      afterFront (placesAfter quotes (c :: r))
        = afterFront (placesAfter (quotes + [c].count '\'') r) := by
  have hplace : (if quotes % 2 = 0 then Letter.ofChar? c else none) = none := by
    split
    · next hq => exact h hq
    · rfl
  rw [placesAfter, hplace]
  exact ⟨frontText_of_none rfl _, afterFront_of_none rfl _⟩

theorem frontText_ne_quote {s : List Char} (h : ∀ r, s ≠ '\'' :: r) (quotes : Nat) :
    ∀ r, frontText (placesAfter quotes s) ≠ '\'' :: r := by
  intro r hr
  cases s with
  | nil => cases hr
  | cons c s =>
    rw [placesAfter] at hr
    cases hl : (if quotes % 2 = 0 then Letter.ofChar? c else none) with
    | none =>
      rw [hl, frontText_of_none rfl] at hr
      exact h s (congrArg (· :: s) (List.cons.inj hr).1)
    | some l =>
      rw [hl, frontText_of_some rfl] at hr
      cases hr

/-- Along a text: the marks are gathered into the text in front of the first letter, with its quotes
halved, and the tokens of the runs after it. -/
theorem gather_marks {source s : List Char} {inQuote : Bool} {quotes : Nat} {ms : List Mark}
    (hq : inQuote = openAfter quotes) (h : marks source inQuote s = .ok ms) :
    gather ms = Token.lead (halveQuotes (frontText (placesAfter quotes s)))
      (tokensOf (afterFront (placesAfter quotes s))) := by
  have hquote : Letter.ofChar? '\'' = none := by decide
  fun_induction marks source inQuote s generalizing quotes ms with
  | case1 =>
    obtain rfl := Except.ok.inj h
    rfl
  | case2 => cases h
  | case3 inQuote r ih =>
    obtain ⟨ms', hms', hms⟩ := bind_eq_ok.1 h
    obtain rfl := Except.ok.inj hms
    have hq' : inQuote = openAfter (quotes + 1 + 1) := by
      rw [hq, openAfter_succ, openAfter_succ, Bool.not_not]
    obtain ⟨htext, hafter⟩ := front_of_text (fun _ => hquote) ('\'' :: r)
    obtain ⟨htext', hafter'⟩ := front_of_text (fun _ => hquote) r
    rw [htext, hafter, htext', hafter', halveQuotes_pair, ← Token.cons_lead]
    exact congrArg (Token.cons (.text '\'')) (ih hq' hms')
  | case4 inQuote r hr ih =>
    have hq' : (!inQuote) = openAfter (quotes + 1) := by rw [hq, openAfter_succ]
    obtain ⟨htext, hafter⟩ := front_of_text (fun _ => hquote) r
    rw [htext, hafter, halveQuotes_single (frontText_ne_quote (fun r' hr' => hr r' hr') _)]
    exact ih hq' h
  | case5 c r _ hc ih =>
    obtain ⟨ms', hms', hms⟩ := bind_eq_ok.1 h
    obtain rfl := Except.ok.inj hms
    have hodd := odd_of_open hq
    have hcount := quotes_after hc quotes
    have htextual : quotes % 2 = 0 → Letter.ofChar? c = none := fun heven => by omega
    obtain ⟨htext, hafter⟩ := front_of_text htextual r
    rw [htext, hafter, hcount, halveQuotes_cons hc, ← Token.cons_lead]
    exact congrArg (Token.cons (.text c)) (ih hq hms')
  | case6 c r _ hc ih =>
    obtain ⟨m, hm, hrest⟩ := bind_eq_ok.1 h
    obtain ⟨ms', hms', hms⟩ := bind_eq_ok.1 hrest
    obtain rfl := Except.ok.inj hms
    have heven := even_of_closed hq
    have hcount := quotes_after hc quotes
    obtain rfl := (markOf_eq_ok.1 hm).2
    cases hl : Letter.ofChar? c with
    | none =>
      obtain ⟨htext, hafter⟩ := front_of_text (fun _ => hl) r
      rw [htext, hafter, hcount, halveQuotes_cons hc, ← Token.cons_lead, markAt, hl]
      exact congrArg (Token.cons (.text c)) (ih hq hms')
    | some l =>
      -- the text after the letter has its quotes paired, so it is a token if there is any
      have hout : Outside quotes r := ((exists_marks_iff hq).1 ⟨ms', hms'⟩).closed
      have hpaired : (frontText (placesAfter quotes r)).count '\'' % 2 = 0 := by
        have := outside_frontText hout
        rw [Outside] at this
        omega
      rw [placesAfter, hcount, if_pos heven, hl, frontText_of_some rfl, afterFront_of_some rfl,
        tokensOf_cons rfl, tokensOf_eq_lead hpaired, ← ih hq hms', markAt, hl]
      rfl

/-! ### Patterns -/

/-- The tokens of a pattern are those of its runs. -/
theorem gather_eq_tokensOf {s : List Char} {ms : List Mark} (h : marks s false s = .ok ms) :
    gather ms = tokensOf (placesAfter 0 s) := by
  have hfirst : false = openAfter 0 := rfl
  have hclosed : Outside 0 s := ((exists_marks_iff hfirst).1 ⟨ms, h⟩).closed
  have hpaired : (frontText (placesAfter 0 s)).count '\'' % 2 = 0 := by
    have := outside_frontText hclosed
    rwa [Outside, Nat.zero_add] at this
  rw [gather_marks hfirst h, tokensOf_eq_lead hpaired]

theorem Pattern.ofText_eq_ok {s : List Char} {p : Pattern} :
    ofText s = .ok p ↔ SpelledAfter 0 s ∧ p = ⟨s, tokensOf (placesAfter 0 s)⟩ := by
  have hfirst : false = openAfter 0 := rfl
  constructor
  · intro h
    obtain ⟨ms, hms, hp⟩ := bind_eq_ok.1 h
    obtain rfl := Except.ok.inj hp
    exact ⟨(exists_marks_iff hfirst).1 ⟨ms, hms⟩, by rw [gather_eq_tokensOf hms]⟩
  · rintro ⟨h, rfl⟩
    obtain ⟨ms, hms⟩ := (exists_marks_iff hfirst).2 h
    exact bind_eq_ok.2 ⟨ms, hms, by rw [gather_eq_tokensOf hms]; rfl⟩

/-- Whatever is wrong with a pattern, it is one kind of fault. -/
theorem Pattern.kind_of_ofValue {v : Value} {e : Fault} (h : ofValue v = .error e) :
    e.kind = "InvalidPattern" := by
  cases v with
  | text s =>
    rw [ofValue] at h
    split at h
    · obtain rfl := Except.error.inj h
      rfl
    · cases hs : ofText s.toList with
      | error p =>
        rw [hs] at h
        obtain rfl := Except.error.inj h
        rfl
      | ok q =>
        rw [hs] at h
        cases h
  | _ =>
    obtain rfl := Except.error.inj h
    rfl

theorem Pattern.ofValue_text_eq_ok {s : String} {p : Pattern} :
    ofValue (.text s) = .ok p ↔ s.toList ≠ [] ∧ ofText s.toList = .ok p := by
  rw [ofValue]
  by_cases hs : s.isEmpty = true
  · have hnil : s.toList = [] := by simpa using hs
    rw [if_pos hs]
    refine iff_of_false ?_ fun h => h.1 hnil
    intro h
    cases h
  · have hnil : s.toList ≠ [] := by simpa using hs
    rw [if_neg hs]
    cases ofText s.toList with
    | error e =>
      refine iff_of_false ?_ ?_
      · intro h
        cases h
      · rintro ⟨-, h⟩
        cases h
    | ok q =>
      constructor
      · intro h
        exact ⟨hnil, congrArg _ (Except.ok.inj h)⟩
      · rintro ⟨-, h⟩
        exact congrArg _ (Except.ok.inj h)

/-- A text value is a pattern exactly if its text is well-formed, and then its tokens are those of
its runs: a field for each run of a letter, and a literal, which is not empty, for what stands
before them, between two of them and after them. Any other text is refused as an invalid pattern. -/
theorem Pattern.ofValue_iff_wellFormed (s : String) :
    (∀ p, ofValue (.text s) = .ok p ↔
      WellFormed s.toList ∧ p = ⟨s.toList, tokensOf (placesAfter 0 s.toList)⟩) ∧
    (∀ p, ofValue (.text s) = .ok p → p.Shaped) ∧
    ((∃ e, ofValue (.text s) = .error e ∧ e.kind = "InvalidPattern") ↔ ¬ WellFormed s.toList) := by
  have hok : ∀ p, ofValue (.text s) = .ok p ↔
      WellFormed s.toList ∧ p = ⟨s.toList, tokensOf (placesAfter 0 s.toList)⟩ := by
    intro p
    rw [ofValue_text_eq_ok, ofText_eq_ok]
    constructor
    · rintro ⟨hne, hs, hp⟩
      exact ⟨⟨hs, hne⟩, hp⟩
    · rintro ⟨hs, hp⟩
      exact ⟨hs.nonempty, hs.toSpelledAfter, hp⟩
  refine ⟨hok, fun p => ofValue_shaped, ?_⟩
  constructor
  · rintro ⟨e, he, -⟩ hs
    have := he.symm.trans ((hok _).2 ⟨hs, rfl⟩)
    cases this
  · intro hs
    cases h : ofValue (.text s) with
    | ok p => exact absurd ((hok p).1 h).1 hs
    | error e => exact ⟨e, rfl, kind_of_ofValue h⟩

/-- Runs of two, three and four quotes, inside and outside quotations; and one that is left open. -/
theorem Pattern.ofValue_quotedDay :
    WellFormed "yy''''MM'd''d'''S".toList ∧
      tokensOf (placesAfter 0 "yy''''MM'd''d'''S".toList)
        = [.field .year 2, .literal ['\'', '\''], .field .month 2,
          .literal ['d', '\'', 'd', '\''], .field .fraction 1] ∧
      ¬ WellFormed "yy'MM".toList := by
  obtain ⟨hok, -, -⟩ := ofValue_iff_wellFormed "yy''''MM'd''d'''S"
  obtain ⟨-, -, hrefused⟩ := ofValue_iff_wellFormed "yy'MM"
  refine ⟨((hok _).1 rfl).1, (congrArg Pattern.tokens ((hok _).1 rfl).2).symm, hrefused.1 ?_⟩
  exact ⟨.pattern (.unterminatedQuote "yy'MM".toList), rfl, rfl⟩

end CivilTime
