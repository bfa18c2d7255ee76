import CivilTime.Proofs.Pattern.Readable
import CivilTime.Proofs.Pattern.Name

/-!
# Reading what was written

The text of a readable pattern is read back token by token. At each token the first try takes the
token's own text: a literal takes itself, with its blanks as one run, and a field takes its written
value, since what follows stops it. So the reader never has to try another way.

* `reads_renderField`: a written field is read first as it was written.
* `startsVisibly_renderField`: a written field does not start with a blank.
* `readItems_literal`: literal text is passed over.
* `readItems_render`: the captures of a written stamp are the texts of its fields.
-/

namespace CivilTime

open Text Token Directive

variable {s : Stamp} {rest : List Char}

/-! ### Fields -/

theorem Letter.Stops.stopsDigits {l : Letter} (h : l.Stops rest) : StopsDigits rest :=
  fun c hc => (h c hc).1

theorem Letter.Stops.stopsOffset (h : Letter.offset.Stops rest) : StopsOffset rest :=
  fun c hc => ⟨(h c hc).1, (h c hc).2 rfl⟩

/-- A year that has four places anyway is written in four places at any width but two. -/
theorem renderField_year {n : Nat} (hl : Letter.year.Legible n s) (hn : n ≠ 2) :
    renderField .year n s = padded 4 s.wall.fields.year := by
  have h1 : 1 ≤ n := hl.pos
  have h4 : n ≤ 4 := hl.width
  have hwidth : n = 1 ∨ n = 3 ∨ n = 4 := by omega
  rcases hwidth with rfl | rfl | rfl
  · have hlong : 1000 ≤ s.wall.fields.year := hl.year rfl (Or.inl rfl)
    show padded 1 _ = _
    rw [padded_of_long (show 10 ^ 1 ≤ s.wall.fields.year by omega),
      padded_of_long (show 10 ^ 2 ≤ s.wall.fields.year by omega), padded_of_long hlong]
  · exact padded_of_long (hl.year rfl (Or.inr rfl))
  · rfl

/-- A fraction of at most six places is the start of all six. -/
theorem renderField_fraction {n : Nat} (hn : n ≤ 6) :
    renderField .fraction n s = (padded 6 s.wall.fields.micro).take n := by
  have hmicro : s.wall.fields.micro < 1_000_000 := s.wall.fields_valid.2.2.2.2
  show (padded 6 s.wall.fields.micro ++ ['0', '0', '0']).take n = _
  rw [List.take_append_of_le_length (by rw [length_padded_of_lt hmicro]; exact hn)]

theorem hourOfHalf_bounds (hour : Nat) : 1 ≤ hourOfHalf hour ∧ hourOfHalf hour ≤ 12 := by
  rw [hourOfHalf]
  split <;> omega

theorem Letter.Legible.one_or_two {l : Letter} {n : Nat} (hl : l.Legible n s)
    (h : l.maxWidth = 2) : n = 1 ∨ n = 2 := by
  have h1 := hl.pos
  have h2 := hl.width
  omega

/-- A written field is read first as it was written, when what follows stops it. -/
theorem Letter.reads_renderField {l : Letter} {n : Nat} (hl : l.Legible n s)
    (hstop : l.openEnded n = true → l.Stops rest) :
    (l.directive n).Reads (renderField l n s) rest := by
  have hn : 1 ≤ n := hl.pos
  obtain ⟨hdate, hhour, hminute, hsecond, hmicro⟩ := s.wall.fields_valid
  obtain ⟨hyear1, hyear2, hmonth1, hmonth2, hday1, hday2⟩ := id hdate
  have hdigits : l.openEnded n = true → StopsDigits rest := fun h => (hstop h).stopsDigits
  have hopen : n = 1 → decide (n = 1) = true := fun h => decide_eq_true h
  cases l with
  | year =>
    by_cases htwo : n = 2
    · subst htwo
      show shortYear.Reads (padded 2 (s.wall.fields.year % 100)) rest
      rw [padded_two (Nat.mod_lt _ (by decide))]
      exact reads_shortYear (by omega) (Nat.mod_lt _ (by decide))
    · rw [renderField_year hl htwo, Letter.directive, if_neg htwo]
      exact reads_fullYear (by omega)
  | month =>
    by_cases h4 : n = 4
    · subst h4
      exact reads_monthName s.wall
    · by_cases h3 : n = 3
      · subst h3
        exact reads_shortMonthName s.wall
      · have hwidth : n = 1 ∨ n = 2 := by
          have hmax : n ≤ 4 := hl.width
          omega
        rw [Letter.directive, if_neg h4, if_neg h3, renderField, if_neg (by omega)]
        exact reads_padded hwidth (by omega)
          (reads_month_two (Nat.mod_lt _ (by decide)) (by omega) (by omega))
          (fun h => reads_month_one (by omega) h) (fun h => hdigits (hopen h))
  | day =>
    have h31 := monthLength_le s.wall.fields.year s.wall.fields.month
    exact reads_padded (hl.one_or_two rfl) (by omega)
      (reads_day_two (Nat.mod_lt _ (by decide)) (by omega) (by omega))
      (fun h => reads_day_one (by omega) h) (fun h => hdigits (hopen h))
  | yearDay =>
    obtain ⟨h1, h366⟩ := Date.dayOfYear_bounds hdate
    exact reads_yearDay ⟨hn, hl.width⟩ h1 h366 fun h => hdigits (decide_eq_true h)
  | weekday =>
    by_cases h4 : n = 4
    · subst h4
      exact reads_weekdayName s.wall
    · rw [Letter.directive, if_neg h4, renderField, named, if_neg h4]
      exact reads_shortWeekdayName s.wall
  | hour =>
    exact reads_padded (hl.one_or_two rfl) (by omega)
      (reads_hour_two (Nat.mod_lt _ (by decide)) (by omega))
      (fun h => reads_hour_one h) (fun h => hdigits (hopen h))
  | halfHour =>
    obtain ⟨h1, h12⟩ := hourOfHalf_bounds s.wall.fields.hour
    -- the hour of half a day is read like a month
    exact reads_padded (hl.one_or_two rfl) (by omega)
      (reads_month_two (Nat.mod_lt _ (by decide)) (by omega) (by omega))
      (fun h => reads_month_one (by omega) h) (fun h => hdigits (hopen h))
  | half =>
    apply reads_half
    rw [renderField]
    split
    · exact Or.inl rfl
    · exact Or.inr rfl
  | minute =>
    exact reads_padded (hl.one_or_two rfl) (by omega)
      (reads_minute_two (by omega) (Nat.mod_lt _ (by decide)))
      (fun h => reads_minute_one h) (fun h => hdigits (hopen h))
  | second =>
    exact reads_padded (hl.one_or_two rfl) (by omega)
      (reads_second_two (by omega) (Nat.mod_lt _ (by decide)))
      (fun h => reads_second_one h) (fun h => hdigits (hopen h))
  | fraction =>
    rw [renderField_fraction (hl.fraction rfl)]
    exact reads_fraction hn (hl.fraction rfl) hmicro fun h => hdigits (decide_eq_true h)
  | offset => exact reads_offset hl.offset (hstop rfl).stopsOffset

/-! ### Starts of fields -/

/-- A text that starts with something that is no blank. -/
def StartsVisibly (text : List Char) : Prop := ∃ c r, text = c :: r ∧ isBlank c = false

theorem isBlank_digitChar : ∀ d < 10, isBlank (digitChar d) = false := by decide

/-- A text made of digits starts with one. -/
theorem startsVisibly_of_digits {text : List Char} (hne : text ≠ [])
    (h : ∀ c ∈ text, ∃ d < 10, c = digitChar d) : StartsVisibly text := by
  obtain ⟨c, r, rfl⟩ := List.exists_cons_of_ne_nil hne
  obtain ⟨d, hd, rfl⟩ := h c List.mem_cons_self
  exact ⟨_, r, rfl, isBlank_digitChar d hd⟩

theorem startsVisibly_padded (width n : Nat) : StartsVisibly (padded width n) :=
  startsVisibly_of_digits (padded_ne_nil width n) fun _ => exists_digit_of_mem_padded

theorem startsVisibly_named {names : List (List Char)} {name : List Char} {k : Nat}
    (hk : names[k]? = some name) (h : ∀ t ∈ names, (t.head?.map isBlank) = some false) :
    StartsVisibly name := by
  have hname := h name (List.mem_of_getElem? hk)
  cases name with
  | nil => cases hname
  | cons c r => exact ⟨c, r, rfl, Option.some.inj hname⟩

/-- A written field does not start with a blank. -/
theorem startsVisibly_renderField (s : Stamp) {l : Letter} {n : Nat} (hn : 1 ≤ n) :
    StartsVisibly (renderField l n s) := by
  cases l with
  | year =>
    rw [renderField]
    split
    · exact startsVisibly_padded 2 _
    · exact startsVisibly_padded n _
  | month =>
    rw [renderField]
    split
    · rw [named]
      split
      · exact startsVisibly_named s.wall.monthName_place (by decide +kernel)
      · exact startsVisibly_named s.wall.shortMonthName_place (by decide +kernel)
    · exact startsVisibly_padded n _
  | weekday =>
    rw [renderField, named]
    split
    · exact startsVisibly_named s.wall.weekdayName_place (by decide +kernel)
    · exact startsVisibly_named s.wall.shortWeekdayName_place (by decide +kernel)
  | half =>
    rw [renderField]
    split
    · exact ⟨'A', _, rfl, by decide⟩
    · exact ⟨'P', _, rfl, by decide⟩
  | fraction =>
    apply startsVisibly_of_digits
    · rw [renderField, Ne, List.take_eq_nil_iff]
      rintro (h0 | hnil)
      · omega
      · exact padded_ne_nil _ _ (List.append_eq_nil_iff.1 hnil).1
    · intro c hc
      rcases List.mem_append.1 (List.mem_of_mem_take hc) with hc | hc
      · exact exists_digit_of_mem_padded hc
      · exact ⟨0, by decide, List.eq_of_mem_replicate (n := 3) hc⟩
  | offset =>
    rw [renderField, offsetClock_eq]
    split
    · exact ⟨'-', _, rfl, by decide⟩
    · exact ⟨'+', _, rfl, by decide⟩
  | day => exact startsVisibly_padded n _
  | yearDay => exact startsVisibly_padded n _
  | hour => exact startsVisibly_padded n _
  | halfHour => exact startsVisibly_padded n _
  | minute => exact startsVisibly_padded n _
  | second => exact startsVisibly_padded n _

/-! ### Literal text -/

/-- Whether a text does not start with a blank. -/
def StopsBlanks (rest : List Char) : Prop := ∀ c ∈ rest.head?, isBlank c = false

theorem blankSplits_of_stops (h : StopsBlanks rest) : blankSplits rest = [] := by
  cases rest with
  | nil => rfl
  | cons c r =>
    rw [blankSplits, if_neg]
    rw [h c rfl]
    decide

/-- A blank in front of a run of blanks belongs to the run. -/
theorem readItems_blanks_cons {is : List Item} {r : List Char} {c : Char} (hc : isBlank c = true)
    {q : List Capture × List Char} (h : readItems (.blanks :: is) r = some q) :
    readItems (.blanks :: is) (c :: r) = some q := by
  rw [readItems, Item.splits, blankSplits, if_pos hc, List.findSome?_append, List.findSome?_map]
  rw [readItems, Item.splits] at h
  have hsame : ((fun p => (readItems is p.2).map fun q => (Item.blanks.capture p.1 ++ q.1, q.2))
      ∘ fun p : List Char × List Char => (c :: p.1, p.2))
      = fun p => (readItems is p.2).map fun q => (Item.blanks.capture p.1 ++ q.1, q.2) := rfl
  rw [hsame, h, Option.some_or]

/-- Literal text that does not ask for blanks first does not start with one. -/
theorem stopsBlanks_append {text : List Char} (hrest : StopsBlanks rest)
    (h : ∀ is, literalItems text ≠ .blanks :: is) : StopsBlanks (text ++ rest) := by
  cases text with
  | nil => exact hrest
  | cons c r =>
    intro d hd
    obtain rfl := Option.some.inj hd
    by_contra hc
    rw [literalItems, if_pos (Bool.of_not_eq_false hc)] at h
    split at h
    · exact h _ rfl
    · exact h _ rfl

/-- Literal text is passed over. -/
theorem readItems_literal {is : List Item} {q : List Capture × List Char}
    (h : readItems is rest = some q) (hrest : StopsBlanks rest) (text : List Char) :
    readItems (literalItems text ++ is) (text ++ rest) = some q := by
  induction text with
  | nil => exact h
  | cons c r ih =>
    rw [literalItems]
    by_cases hc : isBlank c = true
    · rw [if_pos hc]
      split
      · next is' his =>
        rw [his] at ih
        exact readItems_blanks_cons hc ih
      · next hne =>
        rw [List.cons_append, List.cons_append, readItems, Item.splits, blankSplits, if_pos hc,
          blankSplits_of_stops (stopsBlanks_append hrest hne), List.map_nil, List.nil_append,
          List.findSome?_cons, ih]
        rfl
    · rw [if_neg hc, List.cons_append, List.cons_append, readItems, Item.splits,
        if_pos (sameLetter_refl c), List.findSome?_cons, ih]
      rfl

/-! ### Whole patterns -/

/-- What a field is captured as when it has been written. -/
def Token.capture? (s : Stamp) : Token → Option Capture
  | .literal _ => none
  | .field l n => some ⟨l.directive n, renderField l n s⟩

theorem readItems_field {d : Directive} {text : List Char} {is : List Item}
    {q : List Capture × List Char} (hd : d.Reads text rest) (h : readItems is rest = some q) :
    readItems (.field d :: is) (text ++ rest) = some (⟨d, text⟩ :: q.1, q.2) := by
  have hfirst : (d.forms.filterMap (Form.split? · (text ++ rest))).head? = some (text, rest) := by
    rw [List.head?_filterMap]
    exact hd
  obtain ⟨others, hothers⟩ := List.head?_eq_some_iff.1 hfirst
  rw [readItems, Item.splits, hothers, List.findSome?_cons, h]
  rfl

theorem Letter.EndsBefore.stops {l : Letter} {ts : List Token} (h : l.EndsBefore ts)
    (hts : ∀ t ∈ ts, t.Allowed) : l.Stops (render ts s) := by
  rcases ts with _ | ⟨text | ⟨k, n⟩, r⟩
  · intro c hc
    cases hc
  · obtain ⟨c, t, rfl⟩ := List.exists_cons_of_ne_nil (hts _ List.mem_cons_self)
    exact h
  · exact h.elim

theorem stopsBlanks_render {text : List Char} {ts : List Token}
    (h : (Token.literal text :: ts).IsChain Apart) (hts : ∀ t ∈ ts, t.Allowed) :
    StopsBlanks (render ts s) := by
  rcases ts with _ | ⟨text' | ⟨l, n⟩, r⟩
  · intro c hc
    cases hc
  · rw [List.isChain_cons] at h
    exact (h.1 _ rfl).elim
  · obtain ⟨c, t, hct, hc⟩ := startsVisibly_renderField (l := l) s (hts _ List.mem_cons_self).1
    intro x hx
    rw [render, List.flatMap_cons, Token.render, hct] at hx
    obtain rfl := Option.some.inj hx
    exact hc

/-- The captures of a written stamp are the texts of its fields. -/
theorem readItems_render {ts : List Token} (hallowed : ∀ t ∈ ts, t.Allowed)
    (hapart : ts.IsChain Apart) (hseparated : Separated ts)
    (hlegible : ∀ l n, .field l n ∈ ts → l.Legible n s) :
    readItems (ts.flatMap (·.items)) (render ts s) = some (ts.filterMap (·.capture? s), []) := by
  induction ts with
  | nil => rfl
  | cons t ts ih =>
    have hrest : ∀ t' ∈ ts, t'.Allowed := fun t' ht' => hallowed t' (List.mem_cons_of_mem t ht')
    have hread := fun hsep => ih hrest (List.isChain_cons.1 hapart).2 hsep
      fun l n hn => hlegible l n (List.mem_cons_of_mem t hn)
    rw [List.flatMap_cons, show render (t :: ts) s = t.render s ++ render ts s from
      List.flatMap_cons ..]
    cases t with
    | literal text =>
      exact readItems_literal (hread hseparated) (stopsBlanks_render hapart hrest) text
    | field l n =>
      have hreads : (l.directive n).Reads (renderField l n s) (render ts s) := by
        apply Letter.reads_renderField (hlegible l n List.mem_cons_self)
        intro hopen
        exact (hseparated.1 hopen).stops hrest
      exact readItems_field hreads (hread hseparated.2)

end CivilTime
