import CivilTime.Pattern.Basic
import CivilTime.Proofs.Outcome
import Mathlib.Data.List.Chain

/-!
# The shape of compiled patterns

The tokens of a pattern are never empty, no literal follows another one, no field follows one of its
letter, and no field is wider than its letter allows. The width is checked where a run of letters
starts, against the text that is still ahead; so the gathering of marks from the right keeps the first
field within the run that the text starts with.

* `Token.Allowed`, `Token.Distinct`, `Token.Apart`: one token, and two in a row.
* `leadingRun`: the width of the field that tokens start with.
* `marks_allowed`, `gather_distinct`: both, along the text and along the marks.
* `Pattern.Shaped`, `Pattern.ofText_shaped`, `Pattern.ofValue_shaped`: the two together, for every
  pattern of a text or value.
-/

namespace CivilTime

/-- Whether a token has a text, and a field no more letters than its run may have. -/
def Token.Allowed : Token → Prop
  | .literal text => text ≠ []
  | .field l n => 1 ≤ n ∧ n ≤ l.maxWidth

instance : (t : Token) → Decidable t.Allowed
  | .literal text => inferInstanceAs (Decidable (text ≠ []))
  | .field l n => inferInstanceAs (Decidable (1 ≤ n ∧ n ≤ l.maxWidth))

/-- The letter of a field; literal text has none. -/
def Token.letter? : Token → Option Letter
  | .literal _ => none
  | .field l _ => some l

/-- Whether two tokens in a row are neither both literal nor fields of one letter. -/
def Token.Distinct (t t' : Token) : Prop := t.letter? ≠ t'.letter?

instance (t t' : Token) : Decidable (t.Distinct t') :=
  inferInstanceAs (Decidable (t.letter? ≠ t'.letter?))

/-- Whether two tokens in a row are not both literal. -/
def Token.Apart : Token → Token → Prop
  | .literal _, .literal _ => False
  | _, _ => True

/-- The width of the field of a letter that a list of tokens starts with. -/
def leadingRun (l : Letter) : List Token → Nat
  | .field k n :: _ => if l = k then n else 0
  | _ => 0

/-! ### One more mark -/

/-- Tokens that are distinct are not both literal. -/
theorem Token.Distinct.apart {t t' : Token} (h : t.Distinct t') : t.Apart t' := by
  cases t with
  | literal s =>
    cases t' with
    | literal s' => exact h rfl
    | field l n => trivial
  | field l n => trivial

/-- A mark in front of distinct tokens joins the first one if that is of its kind. -/
theorem Token.cons_distinct {ts : List Token} (h : ts.IsChain Distinct) (m : Mark) :
    (Token.cons m ts).IsChain Distinct := by
  have hnew : ∀ {t t' : Token} {r : List Token}, t.Distinct t' → (t' :: r).IsChain Distinct →
      (t :: t' :: r).IsChain Distinct := fun ht hr => List.isChain_cons_cons.2 ⟨ht, hr⟩
  cases m with
  | text c =>
    rcases ts with _ | ⟨_ | _, r⟩
    · exact List.isChain_singleton _
    · rw [Token.cons, List.isChain_cons] at *
      exact h
    · exact hnew (Option.some_ne_none _).symm h
  | letter l =>
    rcases ts with _ | ⟨_ | ⟨k, n⟩, r⟩
    · exact List.isChain_singleton _
    · exact hnew (Option.some_ne_none l) h
    · rw [Token.cons]
      split
      · rw [List.isChain_cons] at h ⊢
        exact h
      · next hlk => exact hnew (fun heq => hlk (Option.some.inj heq)) h

theorem gather_distinct (ms : List Mark) : (gather ms).IsChain Token.Distinct := by
  induction ms with
  | nil => exact List.isChain_nil
  | cons m ms ih => exact Token.cons_distinct ih m

theorem gather_apart (ms : List Mark) : (gather ms).IsChain Token.Apart :=
  (gather_distinct ms).imp fun _ _ => Token.Distinct.apart

theorem Token.cons_text_allowed {ts : List Token} (h : ∀ t ∈ ts, t.Allowed) (c : Char) :
    ∀ t ∈ Token.cons (.text c) ts, t.Allowed := by
  have hnew : ∀ s, (Token.literal (c :: s)).Allowed := fun s => List.cons_ne_nil c s
  rcases ts with _ | ⟨_ | _, r⟩
  · exact List.forall_mem_cons.2 ⟨hnew [], h⟩
  · exact List.forall_mem_cons.2 ⟨hnew _, (List.forall_mem_cons.1 h).2⟩
  · exact List.forall_mem_cons.2 ⟨hnew [], h⟩

theorem leadingRun_cons_text (c : Char) (ts : List Token) (l : Letter) :
    leadingRun l (Token.cons (.text c) ts) = 0 := by
  rcases ts with _ | ⟨_ | _, r⟩ <;> rfl

/-- A letter in front makes the leading field of its kind longer, or starts one. -/
theorem Token.cons_letter (l : Letter) (ts : List Token) :
    ∃ r, Token.cons (.letter l) ts = .field l (leadingRun l ts + 1) :: r ∧ ∀ t ∈ r, t ∈ ts := by
  rcases ts with _ | ⟨_ | ⟨k, n⟩, r⟩
  · exact ⟨[], rfl, fun _ h => h⟩
  · exact ⟨_, rfl, fun _ h => h⟩
  · by_cases h : l = k
    · subst h
      refine ⟨r, ?_, fun _ => List.mem_cons_of_mem _⟩
      rw [Token.cons, if_pos rfl, leadingRun, if_pos rfl]
    · refine ⟨_, ?_, fun _ h => h⟩
      rw [Token.cons, if_neg h, leadingRun, if_neg h]

theorem leadingRun_cons_letter (l k : Letter) (ts : List Token) :
    leadingRun k (Token.cons (.letter l) ts) = if k = l then leadingRun l ts + 1 else 0 := by
  obtain ⟨r, hr, -⟩ := Token.cons_letter l ts
  rw [hr, leadingRun]

/-! ### The marks of a text -/

theorem runLength_cons_self (c : Char) (r : List Char) :
    runLength c (c :: r) = runLength c r + 1 := by
  rw [runLength, List.takeWhile_cons_of_pos (by exact decide_eq_true rfl), List.length_cons]
  rfl

theorem markOf_eq_letter {source r : List Char} {c : Char} {l : Letter}
    (h : markOf source c r = .ok (.letter l)) : l.char = c ∧ runLength c r + 1 ≤ l.maxWidth := by
  unfold markOf at h
  split at h
  · cases h
  · split at h
    · split at h
      · cases h
      · rename_i k hk
        split at h
        · cases h
        · obtain rfl : k = l := by simpa using h
          exact ⟨Letter.char_eq_of_ofChar? hk, by omega⟩
    · cases h

/-- Where a quotation has been opened, literal text comes first. -/
theorem leadingRun_of_opened {source s : List Char} {ms : List Mark}
    (h : marks source true s = .ok ms) (hs : ∀ r, s ≠ '\'' :: r) (l : Letter) :
    leadingRun l (gather ms) = 0 := by
  cases s with
  | nil =>
    rw [marks] at h
    cases h
  | cons c r =>
    rw [marks] at h
    · obtain ⟨ms', -, hms⟩ := bind_eq_ok.1 h
      obtain rfl := Except.ok.inj hms
      exact leadingRun_cons_text c _ l
    · exact fun _ hc _ => hs r (by rw [hc])
    · exact fun hc => hs r (by rw [hc])

/-- Along a text: the tokens are allowed, and outside quotations the first field is no longer than
the run of its letter ahead. -/
theorem marks_allowed {source s : List Char} {inQuote : Bool} {ms : List Mark}
    (h : marks source inQuote s = .ok ms) :
    (∀ t ∈ gather ms, t.Allowed) ∧
      (inQuote = false → ∀ l, leadingRun l (gather ms) ≤ runLength l.char s) := by
  fun_induction marks source inQuote s generalizing ms with
  | case1 =>
    obtain rfl := Except.ok.inj h
    exact ⟨fun _ ht => absurd ht List.not_mem_nil, fun _ l => Nat.le_refl 0⟩
  | case2 => cases h
  | case3 inQuote r ih =>
    obtain ⟨ms', hms', hms⟩ := bind_eq_ok.1 h
    obtain rfl := Except.ok.inj hms
    refine ⟨Token.cons_text_allowed (ih hms').1 _, fun _ l => ?_⟩
    rw [show gather (.text '\'' :: ms') = Token.cons (.text '\'') (gather ms') from rfl,
      leadingRun_cons_text]
    exact Nat.zero_le _
  | case4 inQuote r hr ih =>
    refine ⟨(ih h).1, fun hq l => ?_⟩
    subst hq
    rw [leadingRun_of_opened h fun r' hr' => hr r' hr']
    exact Nat.zero_le _
  | case5 c r _ _ ih =>
    obtain ⟨ms', hms', hms⟩ := bind_eq_ok.1 h
    obtain rfl := Except.ok.inj hms
    exact ⟨Token.cons_text_allowed (ih hms').1 c, fun hq => by cases hq⟩
  | case6 c r _ _ ih =>
    obtain ⟨m, hm, hrest⟩ := bind_eq_ok.1 h
    obtain ⟨ms', hms', hms⟩ := bind_eq_ok.1 hrest
    obtain rfl := Except.ok.inj hms
    obtain ⟨hall, hrun⟩ := ih hms'
    show (∀ t ∈ Token.cons m (gather ms'), t.Allowed) ∧
      (false = false → ∀ l, leadingRun l (Token.cons m (gather ms')) ≤ runLength l.char (c :: r))
    cases m with
    | text d =>
      refine ⟨Token.cons_text_allowed hall d, fun _ l => ?_⟩
      rw [leadingRun_cons_text]
      exact Nat.zero_le _
    | letter l =>
      obtain ⟨hchar, hwidth⟩ := markOf_eq_letter hm
      have hahead : leadingRun l (gather ms') ≤ runLength c r := hchar ▸ hrun rfl l
      obtain ⟨ts, hts, hsub⟩ := Token.cons_letter l (gather ms')
      constructor
      · rw [hts]
        exact List.forall_mem_cons.2 ⟨⟨by omega, by omega⟩, fun t ht => hall t (hsub t ht)⟩
      · intro _ k
        rw [leadingRun_cons_letter]
        by_cases hk : k = l
        · subst hk
          rw [if_pos rfl, hchar, runLength_cons_self]
          omega
        · rw [if_neg hk]
          exact Nat.zero_le _

/-- What holds of the tokens of every pattern of a text. -/
structure Pattern.Shaped (p : Pattern) : Prop where
  allowed : ∀ t ∈ p.tokens, t.Allowed
  apart : p.tokens.IsChain Token.Apart

/-- The pattern of a text is shaped. -/
theorem Pattern.ofText_shaped {source : List Char} {p : Pattern} (h : ofText source = .ok p) :
    p.Shaped := by
  obtain ⟨ms, hms, hp⟩ := bind_eq_ok.1 h
  obtain rfl := Except.ok.inj hp
  exact ⟨(marks_allowed hms).1, gather_apart ms⟩

/-- So is the pattern of a value. -/
theorem Pattern.ofValue_shaped {v : Value} {p : Pattern} (h : ofValue v = .ok p) : p.Shaped := by
  cases v with
  | text s =>
    rw [ofValue] at h
    split at h
    · cases h
    · cases hs : ofText s.toList with
      | error e =>
        rw [hs] at h
        cases h
      | ok q =>
        rw [hs] at h
        obtain rfl := Except.ok.inj h
        exact ofText_shaped hs
  | _ => cases h

end CivilTime
