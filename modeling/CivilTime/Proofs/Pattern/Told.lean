import CivilTime.Proofs.Outcome
import CivilTime.Proofs.Pattern.Reader

/-!
# What written fields tell

The captures of a written stamp are put together to what the fields of the pattern tell of it, token
by token. A part of the result is settled by the tokens of its letters alone: the others leave it,
and each of its own sets it to what the stamp has.

* `Found.tell`, `Found.told`: what one token and what a pattern tells of a stamp.
* `ofCaptures_render`: the captures of a written stamp tell it.
* `foldl_tell_of_not`, `foldl_tell_of_mem`: a part of the result, without and with tokens of its
  own.
* `told_month`, …, `told_offset`, `hourOfDay_told`: the parts.
-/

namespace CivilTime

open Text Token

namespace Found

/-- What is told by one more field of a written stamp. -/
def tell (s : Stamp) (f : Found) : Token → Found
  | .literal _ => f
  | .field l n =>
    let w := s.wall.fields
    match l with
    | .year => { f with year := some (if n = 2 then centuryYear (w.year % 100) else w.year) }
    | .month => { f with month := some w.month }
    | .day => { f with day := some w.day }
    | .yearDay => { f with yearDay := some w.dayOfYear }
    | .weekday => f
    | .hour => { f with hour := .ofDay w.hour }
    | .halfHour => { f with hour := .ofHalf (hourOfHalf w.hour) }
    | .half => { f with afternoon := decide (12 ≤ w.hour) }
    | .minute => { f with minute := w.minute }
    | .second => { f with second := w.second }
    | .fraction => { f with micro := Pattern.cutMicro n w.micro }
    | .offset => { f with offset := some (s.offset.getD 0) }

/-- What the fields of a pattern tell of a stamp. -/
def told (p : Pattern) (s : Stamp) : Found := p.tokens.foldl (tell s) {}

/-! ### From captures -/

variable {s : Stamp} {f : Found}

/-- The capture of a written field tells what the field does. -/
theorem add_capture {l : Letter} {n : Nat} (hl : l.Legible n s) :
    f.add ⟨l.directive n, renderField l n s⟩ = some (f.tell s (.field l n)) := by
  have hmicro : s.wall.fields.micro < 1_000_000 := s.wall.fields_valid.2.2.2.2
  cases l with
  | year =>
    by_cases htwo : n = 2
    · subst htwo
      show some { f with year := some (centuryYear (numeral (padded 2 (_ % 100)))) } = _
      rw [numeral_padded]
      rfl
    · rw [renderField_year hl htwo, Letter.directive, if_neg htwo, tell, if_neg htwo]
      show some { f with year := some (numeral (padded 4 _)) } = _
      rw [numeral_padded]
  | month =>
    obtain ⟨-, hplace⟩ := s.wall.month_place
    by_cases h4 : n = 4
    · subst h4
      show (nameIndex? fullMonths s.wall.monthName).map _ = _
      rw [nameIndex?_of_clashes s.wall.monthName_place fullMonths_clash, hplace]
      rfl
    · by_cases h3 : n = 3
      · subst h3
        show (nameIndex? shortMonths (shortName s.wall.monthName)).map _ = _
        rw [nameIndex?_of_clashes s.wall.shortMonthName_place shortMonths_clash, hplace]
        rfl
      · have hmax : n ≤ 4 := hl.width
        rw [Letter.directive, if_neg h4, if_neg h3, renderField, if_neg (by omega)]
        show some { f with month := some (numeral (padded n _)) } = _
        rw [numeral_padded]
        rfl
  | weekday =>
    by_cases h4 : n = 4
    · subst h4
      show (nameIndex? fullWeekdays s.wall.weekdayName).map _ = _
      rw [nameIndex?_of_clashes s.wall.weekdayName_place fullWeekdays_clash]
      rfl
    · rw [Letter.directive, if_neg h4, renderField, named, if_neg h4]
      show (nameIndex? shortWeekdays (shortName s.wall.weekdayName)).map _ = _
      rw [nameIndex?_of_clashes s.wall.shortWeekdayName_place shortWeekdays_clash]
      rfl
  | half =>
    have hhalf : small (renderField .half n s) = ['p', 'm'] ↔ 12 ≤ s.wall.fields.hour := by
      rw [renderField]
      by_cases h : s.wall.fields.hour < 12
      · rw [if_pos h]
        exact ⟨fun ham => absurd ham (by decide), fun hle => absurd hle (by omega)⟩
      · rw [if_neg h]
        exact ⟨fun _ => Nat.not_lt.1 h, fun _ => by decide⟩
    show some { f with afternoon := decide (small (renderField .half n s) = ['p', 'm']) } = _
    rw [decide_eq_decide.2 hhalf]
    rfl
  | fraction =>
    rw [renderField_fraction (hl.fraction rfl)]
    show some { f with micro := fractionMicros _ } = _
    rw [fractionMicros_take (hl.fraction rfl) hmicro]
    rfl
  | offset =>
    show (offsetFound? (offsetClock [] _)).map _ = _
    rw [offsetFound?_offsetClock hl.offset]
    rfl
  | day =>
    show some { f with day := some (numeral (padded n _)) } = _
    rw [numeral_padded]
    rfl
  | yearDay =>
    show some { f with yearDay := some (numeral (padded n _)) } = _
    rw [numeral_padded]
    rfl
  | hour =>
    show some { f with hour := .ofDay (numeral (padded n _)) } = _
    rw [numeral_padded]
    rfl
  | halfHour =>
    show some { f with hour := .ofHalf (numeral (padded n _)) } = _
    rw [numeral_padded]
    rfl
  | minute =>
    show some { f with minute := numeral (padded n _) } = _
    rw [numeral_padded]
    rfl
  | second =>
    show some { f with second := numeral (padded n _) } = _
    rw [numeral_padded]
    rfl

/-- The captures of written fields tell what the fields do. -/
theorem foldlM_add_captures {ts : List Token} (h : ∀ l n, .field l n ∈ ts → l.Legible n s) :
    (ts.filterMap (·.capture? s)).foldlM add f = some (ts.foldl (tell s) f) := by
  induction ts generalizing f with
  | nil => rfl
  | cons t ts ih =>
    have hrest : ∀ l n, .field l n ∈ ts → l.Legible n s :=
      fun l n hn => h l n (List.mem_cons_of_mem t hn)
    cases t with
    | literal text =>
      rw [List.filterMap_cons_none rfl]
      exact ih hrest
    | field l n =>
      have hcapture : capture? s (.field l n) = some ⟨l.directive n, renderField l n s⟩ := rfl
      rw [List.filterMap_cons_some hcapture, List.foldlM_cons,
        add_capture (h l n List.mem_cons_self)]
      exact ih hrest

theorem ofCaptures_render {p : Pattern} (h : ∀ l n, .field l n ∈ p.tokens → l.Legible n s) :
    ofCaptures (p.tokens.filterMap (·.capture? s)) = some (told p s) :=
  foldlM_add_captures h

/-! ### Parts of what is told -/

section Parts

variable {α : Type} {part : Found → α} {ts : List Token}

theorem foldl_tell_of_not (h : ∀ f, ∀ t ∈ ts, part (tell s f t) = part f) :
    part (ts.foldl (tell s) f) = part f := by
  induction ts generalizing f with
  | nil => rfl
  | cons t ts ih =>
    rw [List.foldl_cons, ih fun f t' ht' => h f t' (List.mem_cons_of_mem t ht'),
      h f t List.mem_cons_self]

/-- If the tokens of a kind all bring a part to what is good and the others leave it, one token of
the kind is enough. -/
theorem foldl_tell_of_mem (kind : Token → Prop) {good : α → Prop}
    (hkind : ∀ f, ∀ t ∈ ts, kind t → good (part (tell s f t)))
    (hother : ∀ f, ∀ t ∈ ts, ¬ kind t → part (tell s f t) = part f) (hex : ∃ t ∈ ts, kind t) :
    good (part (ts.foldl (tell s) f)) := by
  induction ts generalizing f with
  | nil =>
    obtain ⟨t, ht, -⟩ := hex
    cases ht
  | cons t ts ih =>
    have hkind' := fun f t' ht' => hkind f t' (List.mem_cons_of_mem t ht')
    have hother' := fun f t' ht' => hother f t' (List.mem_cons_of_mem t ht')
    rw [List.foldl_cons]
    by_cases hlater : ∃ t' ∈ ts, kind t'
    · exact ih hkind' hother' hlater
    · -- the first token is the last of its kind
      have hnot : ∀ t' ∈ ts, ¬ kind t' := fun t' ht' hk => hlater ⟨t', ht', hk⟩
      obtain ⟨t', ht', hk⟩ := hex
      obtain rfl : t' = t := by
        rcases List.mem_cons.1 ht' with rfl | hin
        · rfl
        · exact absurd hk (hnot t' hin)
      rw [foldl_tell_of_not fun f t' ht' => hother' f t' ht' (hnot t' ht')]
      exact hkind f t' List.mem_cons_self hk

variable {p : Pattern}

/-- A part that only fields of some letters bear on, when one of them is shown. -/
theorem told_of_shown (part : Found → α) (letters : List Letter) (good : α → Prop)
    (hset : ∀ f, ∀ l ∈ letters, ∀ n, .field l n ∈ p.tokens → good (part (tell s f (.field l n))))
    (hother : ∀ f l n, l ∉ letters → part (tell s f (.field l n)) = part f)
    (hshown : ∃ l ∈ letters, p.Shows l) : good (part (told p s)) := by
  apply foldl_tell_of_mem fun t => ∃ l ∈ letters, ∃ n, t = .field l n
  · rintro f t ht ⟨l, hl, n, rfl⟩
    exact hset f l hl n ht
  · intro f t _ hkind
    cases t with
    | literal text => rfl
    | field l n => exact hother f l n fun hl => hkind ⟨l, hl, n, rfl⟩
  · obtain ⟨l, hl, hshows⟩ := hshown
    obtain ⟨n, hn⟩ := p.shows_iff.1 hshows
    exact ⟨_, hn, l, hl, n, rfl⟩

/-- And when none of them is. -/
theorem told_of_not_shown (part : Found → α) (letters : List Letter)
    (hother : ∀ f l n, l ∉ letters → part (tell s f (.field l n)) = part f)
    (hnot : ∀ l ∈ letters, ¬ p.Shows l) : part (told p s) = part {} := by
  apply foldl_tell_of_not
  intro f t ht
  cases t with
  | literal text => rfl
  | field l n => exact hother f l n fun hl => hnot l hl (p.shows_iff.2 ⟨n, ht⟩)

/-- A part that fields of one letter set to one value. -/
theorem told_eq (part : Found → α) (l : Letter) (v : α)
    (hset : ∀ f n, .field l n ∈ p.tokens → part (tell s f (.field l n)) = v)
    (hother : ∀ f k n, k ≠ l → part (tell s f (.field k n)) = part f) :
    part (told p s) = if p.Shows l then v else part {} := by
  by_cases h : p.Shows l
  · rw [if_pos h]
    apply told_of_shown part [l] (· = v)
    · intro f k hk n hn
      obtain rfl := List.mem_singleton.1 hk
      exact hset f n hn
    · exact fun f k n hk => hother f k n fun heq => hk (List.mem_singleton.2 heq)
    · exact ⟨l, List.mem_singleton_self l, h⟩
  · rw [if_neg h]
    apply told_of_not_shown part [l]
    · exact fun f k n hk => hother f k n fun heq => hk (List.mem_singleton.2 heq)
    · intro k hk
      obtain rfl := List.mem_singleton.1 hk
      exact h

end Parts

variable (p : Pattern) (s : Stamp)

theorem told_month :
    (told p s).month = if p.Shows .month then some s.wall.fields.month else none :=
  told_eq Found.month .month _ (fun _ _ _ => rfl)
    (fun _ k _ hk => by cases k <;> first | rfl | exact absurd rfl hk)

theorem told_day : (told p s).day = if p.Shows .day then some s.wall.fields.day else none :=
  told_eq Found.day .day _ (fun _ _ _ => rfl)
    (fun _ k _ hk => by cases k <;> first | rfl | exact absurd rfl hk)

theorem told_yearDay :
    (told p s).yearDay = if p.Shows .yearDay then some s.wall.fields.dayOfYear else none :=
  told_eq Found.yearDay .yearDay _ (fun _ _ _ => rfl)
    (fun _ k _ hk => by cases k <;> first | rfl | exact absurd rfl hk)

theorem told_afternoon :
    (told p s).afternoon = if p.Shows .half then decide (12 ≤ s.wall.fields.hour) else false :=
  told_eq Found.afternoon .half _ (fun _ _ _ => rfl)
    (fun _ k _ hk => by cases k <;> first | rfl | exact absurd rfl hk)

theorem told_minute :
    (told p s).minute = if p.Shows .minute then s.wall.fields.minute else 0 :=
  told_eq Found.minute .minute _ (fun _ _ _ => rfl)
    (fun _ k _ hk => by cases k <;> first | rfl | exact absurd rfl hk)

theorem told_second :
    (told p s).second = if p.Shows .second then s.wall.fields.second else 0 :=
  told_eq Found.second .second _ (fun _ _ _ => rfl)
    (fun _ k _ hk => by cases k <;> first | rfl | exact absurd rfl hk)

theorem told_offset :
    (told p s).offset = if p.Shows .offset then some (s.offset.getD 0) else none :=
  told_eq Found.offset .offset _ (fun _ _ _ => rfl)
    (fun _ k _ hk => by cases k <;> first | rfl | exact absurd rfl hk)

variable {p s}

/-- The year is told as it is, or as the year of its last two places that is meant first. -/
theorem told_year (h : p.Shows .year) :
    (told p s).year = some s.wall.fields.year ∨
      2 ∈ p.widths .year ∧
        (told p s).year = some (centuryYear (s.wall.fields.year % 100)) := by
  apply told_of_shown Found.year [.year] fun y => y = some s.wall.fields.year ∨
    2 ∈ p.widths .year ∧ y = some (centuryYear (s.wall.fields.year % 100))
  · intro f l hl n hn
    obtain rfl := List.mem_singleton.1 hl
    rw [tell]
    split
    · next htwo =>
      subst htwo
      exact Or.inr ⟨p.mem_widths.2 hn, rfl⟩
    · exact Or.inl rfl
  · intro f k n hk
    cases k <;> first | rfl | exact absurd (List.mem_singleton_self _) hk
  · exact ⟨_, List.mem_singleton_self _, h⟩

/-- An hour of half a day and the half that it is in make the hour. -/
theorem hourOfHalf_add (hour : Nat) (h : hour < 24) :
    hourOfHalf hour % 12 + (if decide (12 ≤ hour) then 12 else 0) = hour := by
  simp only [hourOfHalf, decide_eq_true_eq]
  split <;> split <;> omega

theorem hourOfDay_told (hhalf : p.Shows .halfHour → p.Shows .half) :
    (told p s).hourOfDay
      = if p.Shows .hour ∨ p.Shows .halfHour then s.wall.fields.hour else 0 := by
  have hother : ∀ (f : Found) (l : Letter) n, l ∉ [Letter.hour, .halfHour] →
      (tell s f (.field l n)).hour = f.hour := by
    intro f l n hl
    cases l <;> first | rfl | exact absurd (by decide) hl
  by_cases hshown : p.Shows .hour ∨ p.Shows .halfHour
  · have htold : (told p s).hour = .ofDay s.wall.fields.hour ∨
        p.Shows .halfHour ∧ (told p s).hour = .ofHalf (hourOfHalf s.wall.fields.hour) := by
      apply told_of_shown Found.hour [.hour, .halfHour] fun v =>
        v = .ofDay s.wall.fields.hour ∨
          p.Shows .halfHour ∧ v = .ofHalf (hourOfHalf s.wall.fields.hour)
      · intro f l hl n hn
        rcases List.mem_pair.1 hl with rfl | rfl
        · exact Or.inl rfl
        · exact Or.inr ⟨p.shows_iff.2 ⟨n, hn⟩, rfl⟩
      · exact hother
      · rcases hshown with h | h
        · exact ⟨_, List.mem_cons_self, h⟩
        · exact ⟨_, List.mem_cons_of_mem _ List.mem_cons_self, h⟩
    rw [if_pos hshown, hourOfDay]
    rcases htold with h | ⟨hshows, h⟩
    · rw [h]
    · rw [h, told_afternoon, if_pos (hhalf hshows)]
      exact hourOfHalf_add _ s.wall.fields_valid.2.1
  · have htold : (told p s).hour = .ofDay 0 := by
      apply told_of_not_shown Found.hour [.hour, .halfHour] hother
      intro l hl hshows
      rcases List.mem_pair.1 hl with rfl | rfl
      · exact hshown (Or.inl hshows)
      · exact hshown (Or.inr hshows)
    rw [if_neg hshown, hourOfDay, htold]

theorem told_micro (hp : p.directives.Nodup) :
    (told p s).micro
      = ((p.widths .fraction).head?.map (Pattern.cutMicro · s.wall.fields.micro)).getD 0 := by
  have hother : ∀ (f : Found) (k : Letter) n, k ∉ [Letter.fraction] →
      (tell s f (.field k n)).micro = f.micro := by
    intro f k n hk
    cases k <;> first | rfl | exact absurd (List.mem_singleton_self _) hk
  cases hw : p.widths .fraction with
  | nil =>
    apply told_of_not_shown Found.micro [.fraction] hother
    intro l hl hshows
    obtain rfl := List.mem_singleton.1 hl
    exact hshows hw
  | cons m r =>
    have hm : .field .fraction m ∈ p.tokens := by
      apply p.mem_widths.1
      rw [hw]
      exact List.mem_cons_self
    apply told_of_shown Found.micro [.fraction] (· = Pattern.cutMicro m s.wall.fields.micro)
    · intro f l hl n hn
      obtain rfl := List.mem_singleton.1 hl
      rw [p.width_eq_of_once hp hm hn rfl]
      rfl
    · exact hother
    · exact ⟨_, List.mem_singleton_self _, p.shows_iff.2 ⟨m, hm⟩⟩

end Found

end CivilTime
