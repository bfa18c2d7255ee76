import CivilTime.Pattern.Basic
import Mathlib.Data.List.SplitBy

/-!
# The runs of a pattern

A pattern can be read without a scanner: count the quotes in front of each character, take the
letters with an even count, and cut the text into the longest runs of one letter and of what is no
letter. A run of a letter is a field; in any other run the quotes are halved, run by run, and what
is left is literal text.

* `runsBy`: the longest runs of members with one key; `runsBy_cons` gives them one after the other.
* `halveQuotes`: every run of quotes cut to half its length, with one equation for each way a text
  can start.
* `Place`, `placesAfter`: the characters of a text with the letters among them.
* `tokensOf`: the tokens of the runs.
* `frontText`, `afterFront`: the text before the first letter, and the places from it on.
-/

namespace CivilTime

/-! ### Runs -/

section Runs

variable {α β : Type} [DecidableEq β] {key : α → β}

/-- The longest runs of members of a list with one key. -/
def runsBy (key : α → β) (l : List α) : List (List α) := l.splitBy fun a b => key a = key b

/-- The first run goes on as long as the key is the same. -/
theorem runsBy_cons (key : α → β) (a : α) (l : List α) :
    runsBy key (a :: l)
      = (a :: l.takeWhile (key · = key a)) :: runsBy key (l.dropWhile (key · = key a)) := by
  have hrun : ∀ b ∈ a :: l.takeWhile (key · = key a), key b = key a := by
    refine List.forall_mem_cons.2 ⟨rfl, fun b hb => ?_⟩
    exact of_decide_eq_true (List.all_eq_true.1 List.all_takeWhile b hb)
  have hchain : (a :: l.takeWhile (key · = key a)).IsChain fun b c => decide (key b = key c) :=
    (List.pairwise_of_forall_mem_list fun b hb c hc =>
      decide_eq_true ((hrun b hb).trans (hrun c hc).symm)).isChain
  have hend : ∀ b ∈ (a :: l.takeWhile (key · = key a)).getLast?,
      ∀ c ∈ (l.dropWhile (key · = key a)).head?, decide (key b = key c) = false := by
    intro b hb c hc
    have hc' := List.head?_dropWhile_not (key · = key a) l
    rw [Option.mem_def.1 hc] at hc'
    rw [hrun b (List.mem_of_mem_getLast? hb)]
    simpa [eq_comm] using hc'
  calc runsBy key (a :: l)
      = runsBy key ((a :: l.takeWhile (key · = key a)) ++ l.dropWhile (key · = key a)) := by
        rw [List.cons_append, List.takeWhile_append_dropWhile]
    _ = _ := by
        rw [runsBy, List.splitBy_append hend, List.splitBy_of_isChain (List.cons_ne_nil a _) hchain]
        rfl

/-- A member in front of another key is a run by itself. -/
theorem runsBy_cons_of_ne {a : α} {l : List α} (h : ∀ b ∈ l.head?, key b ≠ key a) :
    runsBy key (a :: l) = [a] :: runsBy key l := by
  rw [runsBy_cons]
  cases l with
  | nil => rfl
  | cons b l =>
    have hb : decide (key b = key a) = false := decide_eq_false (h b rfl)
    rw [List.takeWhile_cons_of_neg (by simp [hb]), List.dropWhile_cons_of_neg (by simp [hb])]

/-- A member in front of its own key makes the first run longer. -/
theorem runsBy_cons_of_eq (key : α → β) {a b : α} (h : key b = key a) (l : List α) :
    ∃ run rest, runsBy key (b :: l) = (b :: run) :: rest ∧
      runsBy key (a :: b :: l) = (a :: b :: run) :: rest := by
  have hb : decide (key b = key a) = true := decide_eq_true h
  refine ⟨_, _, runsBy_cons key b l, ?_⟩
  rw [runsBy_cons, List.takeWhile_cons, List.dropWhile_cons, if_pos hb, if_pos hb, h]

end Runs

/-! ### Quotes -/

/-- A run of quotes cut to half its length; any other run as it is. -/
def halveRun (run : List Char) : List Char :=
  if run.head? = some '\'' then List.replicate (run.length / 2) '\'' else run

/-- A text with every run of quotes cut to half its length. -/
def halveQuotes (s : List Char) : List Char := (runsBy (· == '\'') s).flatMap halveRun

/-- The quotes that a text starts with are cut to half their number. -/
theorem halveQuotes_run (s : List Char) :
    halveQuotes s = List.replicate (runLength '\'' s / 2) '\''
      ++ halveQuotes (s.dropWhile (· = '\'')) := by
  cases s with
  | nil => rfl
  | cons c s =>
    by_cases hc : c = '\''
    · subst hc
      have hpred : (fun d : Char => decide ((d == '\'') = ('\'' == '\''))) = (· = '\'') := by
        funext d
        simp
      have hhalve : ∀ run, halveRun ('\'' :: run)
          = List.replicate ((run.length + 1) / 2) '\'' := fun run => if_pos rfl
      rw [halveQuotes, runsBy_cons, hpred, List.flatMap_cons, hhalve, runLength,
        List.takeWhile_cons_of_pos (by simp), List.dropWhile_cons_of_pos (by simp),
        List.length_cons]
      rfl
    · rw [runLength, List.takeWhile_cons_of_neg (by simpa using hc),
        List.dropWhile_cons_of_neg (by simpa using hc)]
      rfl

theorem halveQuotes_cons {c : Char} (h : c ≠ '\'') (s : List Char) :
    halveQuotes (c :: s) = c :: halveQuotes s := by
  have hrun : ∀ {d : Char}, d ≠ '\'' → ∀ run, halveRun (d :: run) = d :: run :=
    fun hd run => if_neg (by simpa using hd)
  cases s with
  | nil => exact congrArg (· ++ []) (hrun h [])
  | cons d s =>
    by_cases hd : d = '\''
    · -- the run of `c` ends in front of the quote
      have hne : ∀ b ∈ (d :: s).head?, (b == '\'') ≠ (c == '\'') := by
        intro b hb
        obtain rfl := Option.some.inj hb
        simp [hd, h]
      rw [halveQuotes, runsBy_cons_of_ne hne, List.flatMap_cons, hrun h]
      rfl
    · have heq : (d == '\'') = (c == '\'') := by simp [hd, h]
      obtain ⟨run, rest, hruns, hruns'⟩ := runsBy_cons_of_eq (· == '\'') heq s
      rw [halveQuotes, halveQuotes, hruns, hruns', List.flatMap_cons, List.flatMap_cons, hrun h,
        hrun hd]
      rfl

/-- Two quotes are one. -/
theorem halveQuotes_pair (s : List Char) :
    halveQuotes ('\'' :: '\'' :: s) = '\'' :: halveQuotes s := by
  have hlen : runLength '\'' ('\'' :: '\'' :: s) = runLength '\'' s + 2 := by
    simp [runLength]
  rw [halveQuotes_run, halveQuotes_run s, hlen, show (runLength '\'' s + 2) / 2
    = runLength '\'' s / 2 + 1 by omega, List.dropWhile_cons_of_pos (by simp),
    List.dropWhile_cons_of_pos (by simp)]
  rfl

/-- A quote by itself is none. -/
theorem halveQuotes_single {s : List Char} (h : ∀ r, s ≠ '\'' :: r) :
    halveQuotes ('\'' :: s) = halveQuotes s := by
  have hne : ∀ b ∈ s.head?, (b == '\'') ≠ ('\'' == '\'') := by
    intro b hb
    obtain ⟨r, rfl⟩ := List.head?_eq_some_iff.1 hb
    have hb : b ≠ '\'' := fun hb => h r (by rw [hb])
    simpa using hb
  rw [halveQuotes, runsBy_cons_of_ne hne, List.flatMap_cons]
  rfl

/-- Text in which the quotes are paired leaves something. -/
theorem halveQuotes_ne_nil {s : List Char} (h : s.count '\'' % 2 = 0) (hs : s ≠ []) :
    halveQuotes s ≠ [] := by
  cases s with
  | nil => exact absurd rfl hs
  | cons c s =>
    by_cases hc : c = '\''
    · subst hc
      cases s with
      | nil => exact absurd h (by decide)
      | cons d s =>
        by_cases hd : d = '\''
        · subst hd
          rw [halveQuotes_pair]
          exact List.cons_ne_nil _ _
        · rw [halveQuotes_single fun r hr => hd (List.cons.inj hr).1, halveQuotes_cons hd]
          exact List.cons_ne_nil _ _
    · rw [halveQuotes_cons hc]
      exact List.cons_ne_nil _ _

/-! ### Places -/

/-- A character of a pattern, with the letter that it is if it stands outside quotations. -/
structure Place where
  char : Char
  letter? : Option Letter
  deriving DecidableEq, Repr

/-- The places of a text that so many quotes stand in front of. Outside quotations are the
characters after an even number of quotes. -/
def placesAfter : (quotes : Nat) → List Char → List Place
  | _, [] => []
  | quotes, c :: r =>
    ⟨c, if quotes % 2 = 0 then Letter.ofChar? c else none⟩
      :: placesAfter (quotes + [c].count '\'') r

/-- The token of a run: a run of a letter is a field, and any other is literal text. -/
def Token.ofRun : List Place → Token
  | ⟨c, some l⟩ :: run => .field l (⟨c, some l⟩ :: run).length
  | run => .literal (halveQuotes (run.map Place.char))

/-- The tokens of the runs of a text. -/
def tokensOf (ps : List Place) : List Token := (runsBy Place.letter? ps).map Token.ofRun

/-- The text in front of the first letter. -/
def frontText (ps : List Place) : List Char := (ps.takeWhile (·.letter? = none)).map Place.char

/-- The places from the first letter on. -/
def afterFront (ps : List Place) : List Place := ps.dropWhile (·.letter? = none)

variable {p : Place} {l : Letter}

theorem frontText_of_none (h : p.letter? = none) (ps : List Place) :
    frontText (p :: ps) = p.char :: frontText ps := by
  rw [frontText, List.takeWhile_cons_of_pos (by simp [h])]
  rfl

theorem afterFront_of_none (h : p.letter? = none) (ps : List Place) :
    afterFront (p :: ps) = afterFront ps := by
  rw [afterFront, List.dropWhile_cons_of_pos (by simp [h])]
  rfl

theorem frontText_of_some (h : p.letter? = some l) (ps : List Place) :
    frontText (p :: ps) = [] := by
  rw [frontText, List.takeWhile_cons_of_neg (by simp [h])]
  rfl

theorem afterFront_of_some (h : p.letter? = some l) (ps : List Place) :
    afterFront (p :: ps) = p :: ps := by
  rw [afterFront, List.dropWhile_cons_of_neg (by simp [h])]

/-! ### Tokens -/

theorem Token.ofRun_of_some (h : p.letter? = some l) (ps : List Place) :
    Token.ofRun (p :: ps) = .field l (p :: ps).length := by
  obtain ⟨c, letter?⟩ := p
  obtain rfl : letter? = some l := h
  rfl

theorem Token.ofRun_of_none (h : p.letter? = none) (ps : List Place) :
    Token.ofRun (p :: ps) = .literal (halveQuotes ((p :: ps).map Place.char)) := by
  obtain ⟨c, letter?⟩ := p
  obtain rfl : letter? = none := h
  rfl

/-- A letter starts with a field. -/
theorem tokensOf_of_some (h : p.letter? = some l) (ps : List Place) :
    ∃ n r, tokensOf (p :: ps) = .field l n :: r := by
  rw [tokensOf, runsBy_cons, List.map_cons, Token.ofRun_of_some h]
  exact ⟨_, _, rfl⟩

/-- Text in front of the first letter is a literal. -/
theorem tokensOf_of_none (h : p.letter? = none) (ps : List Place) :
    tokensOf (p :: ps)
      = .literal (halveQuotes (frontText (p :: ps))) :: tokensOf (afterFront (p :: ps)) := by
  rw [tokensOf, runsBy_cons, h, List.map_cons, Token.ofRun_of_none h, frontText_of_none h,
    afterFront_of_none h]
  rfl

/-- A letter in front joins the first field if that is of its kind. -/
theorem tokensOf_cons (h : p.letter? = some l) (ps : List Place) :
    tokensOf (p :: ps) = Token.cons (.letter l) (tokensOf ps) := by
  have hsingle : Token.ofRun [p] = .field l 1 := Token.ofRun_of_some h []
  cases ps with
  | nil => exact congrArg (· :: []) hsingle
  | cons q ps =>
    by_cases hq : q.letter? = p.letter?
    · obtain ⟨run, rest, hruns, hruns'⟩ := runsBy_cons_of_eq Place.letter? hq ps
      rw [tokensOf, tokensOf, hruns, hruns', List.map_cons, List.map_cons, Token.ofRun_of_some h,
        Token.ofRun_of_some (hq.trans h), Token.cons, if_pos rfl]
      rfl
    · have hne : ∀ b ∈ (q :: ps).head?, b.letter? ≠ p.letter? := by
        intro b hb
        obtain rfl := Option.some.inj hb
        exact hq
      have hruns : tokensOf (p :: q :: ps) = .field l 1 :: tokensOf (q :: ps) := by
        rw [tokensOf, runsBy_cons_of_ne hne, List.map_cons, hsingle]
        rfl
      cases hk : q.letter? with
      | none =>
        rw [hruns, tokensOf_of_none hk]
        rfl
      | some k =>
        have hlk : l ≠ k := by
          rintro rfl
          exact hq (hk.trans h.symm)
        obtain ⟨n, r, hr⟩ := tokensOf_of_some hk ps
        rw [hruns, hr, Token.cons, if_neg hlk]

/-- Tokens after literal text, which is no token if it is empty. -/
def Token.lead (text : List Char) (ts : List Token) : List Token :=
  if text = [] then ts else .literal text :: ts

/-- One more character in front of the text, where no literal follows. -/
theorem Token.cons_text_lead (c : Char) (text : List Char) {ts : List Token}
    (h : ∀ s r, ts ≠ .literal s :: r) :
    Token.cons (.text c) (lead text ts) = lead (c :: text) ts := by
  cases text with
  | cons d text => rfl
  | nil =>
    rcases ts with _ | ⟨s | _, r⟩
    · rfl
    · exact absurd rfl (h s r)
    · rfl

/-- From the first letter on the tokens do not start with a literal. -/
theorem tokensOf_afterFront_ne (ps : List Place) :
    ∀ s r, tokensOf (afterFront ps) ≠ .literal s :: r := by
  intro s r hts
  cases hps : afterFront ps with
  | nil =>
    rw [hps] at hts
    cases hts
  | cons p rest =>
    have hp := List.head?_dropWhile_not (fun p : Place => p.letter? = none) ps
    rw [show ps.dropWhile (fun p : Place => p.letter? = none) = p :: rest from hps] at hp
    obtain ⟨l, hl⟩ := Option.ne_none_iff_exists'.1 (by simpa using hp : p.letter? ≠ none)
    obtain ⟨n, ts, hfield⟩ := tokensOf_of_some hl rest
    rw [hps, hfield] at hts
    cases hts

theorem Token.cons_lead (c : Char) (text : List Char) (ps : List Place) :
    Token.cons (.text c) (lead text (tokensOf (afterFront ps)))
      = lead (c :: text) (tokensOf (afterFront ps)) :=
  cons_text_lead c text (tokensOf_afterFront_ne ps)

/-- Text with paired quotes in front of the first letter is the first token, if there is any. -/
theorem tokensOf_eq_lead {ps : List Place} (h : (frontText ps).count '\'' % 2 = 0) :
    tokensOf ps = Token.lead (halveQuotes (frontText ps)) (tokensOf (afterFront ps)) := by
  cases ps with
  | nil => rfl
  | cons p ps =>
    cases hp : p.letter? with
    | none =>
      have htext : frontText (p :: ps) ≠ [] := by
        rw [frontText_of_none hp]
        exact List.cons_ne_nil _ _
      rw [tokensOf_of_none hp, Token.lead, if_neg (halveQuotes_ne_nil h htext)]
    | some l =>
      rw [frontText_of_some hp, afterFront_of_some hp]
      rfl

end CivilTime
