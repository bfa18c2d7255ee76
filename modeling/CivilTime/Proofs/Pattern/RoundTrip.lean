import CivilTime.Proofs.Pattern.Denotation
import CivilTime.Proofs.Pattern.Told

/-!
# Written and read back

A stamp that a readable pattern has written is read back with all that the pattern shows. What its
fields tell is put together to a date and a time of day, in the year that is meant first if the year
has two places; that year has the same calendar, so the date can be moved to the right century. The
stamp that comes out is written as the text again.

* `date_told`, `stamp_told`: the date and the stamp that written fields tell.
* `denotation_format`: the stamp that a written text denotes.
* `format_kept`: what is kept of a stamp is written as the stamp itself.
* `read_format`: reading undoes writing, up to what is not shown.
-/

namespace CivilTime

open Text Token Found

/-! ### What is told of a date -/

/-- The year of two places that is meant first has the months of the year that was written. -/
theorem centuryYear_spec {year : Nat} (h : 2000 ≤ year ∧ year ≤ 2099) :
    SameMonths (centuryYear (year % 100)) year ∧ centuryYear (year % 100) % 100 = year % 100 ∧
      1 ≤ centuryYear (year % 100) ∧ centuryYear (year % 100) ≤ 9999 := by
  have hcases := leapDay_cases year
  have hcases' := leapDay_cases (centuryYear (year % 100))
  have hyear : centuryYear (year % 100) = year ∨
      centuryYear (year % 100) = year - 100 ∧ 2069 ≤ year := by
    rw [centuryYear]
    split <;> omega
  rcases hyear with heq | ⟨heq, h69⟩
  · rw [heq]
    exact ⟨rfl, rfl, by omega, by omega⟩
  · rw [heq] at hcases' ⊢
    exact ⟨by rw [SameMonths]; omega, by omega, by omega, by omega⟩

namespace Found

variable {p : Pattern} {s : Stamp} {f : Found}

/-- A date is told by its year with its month and day, or with its place in the year. -/
theorem date_eq {d : Date} (hvalid : d.Valid) (hyear : f.year = some d.year)
    (hday : f.yearDay = none → f.month.getD 1 = d.month ∧ f.day.getD 1 = d.day)
    (hyearDay : ∀ n, f.yearDay = some n → n = d.dayOfYear) : f.date = .ok d := by
  have hleap : f.leapDayOnly = false := by
    rw [leapDayOnly, hyear]
    rfl
  rw [date, hleap, hyear]
  cases hd : f.yearDay with
  | none =>
    obtain ⟨hm, hday'⟩ := hday hd
    rw [hm, hday']
    simp only [Bool.false_eq_true, if_false, Option.getD_some]
    show (if ¬ d.Valid then throw Fault.invalidValue else pure d) = _
    rw [if_neg (not_not_intro hvalid)]
    rfl
  | some n =>
    obtain rfl := hyearDay n hd
    have hspan := Date.dayNumber_lt_span hvalid
    have hnumber : daysBeforeYear d.year + d.dayOfYear - 1 = d.dayNumber := by
      have hpos := hvalid.2.2.2.2.1
      rw [Date.dayOfYear, Date.dayNumber]
      omega
    have hpos := (Date.dayOfYear_bounds hvalid).1
    have hin : ¬ (d.year < 1 ∨ Date.span < daysBeforeYear d.year + d.dayOfYear) := by
      have hfirst := hvalid.1
      omega
    simp only [Bool.false_eq_true, if_false, Option.getD_some, if_neg hin, hnumber,
      Date.ofDayNumber_dayNumber hvalid, pure_bind]
    rw [if_neg (not_not_intro hvalid)]
    rfl

end Found

/-! ### What is told of a stamp -/

section Told

variable {p : Pattern} {s : Stamp} {year : Nat}

/-- What is kept of the fields of a time is a time again, in any year with the same months. -/
theorem kept_valid (p : Pattern) {f : Fields} (hf : f.Valid) (hsame : SameMonths year f.year)
    (h1 : 1 ≤ year) (h2 : year ≤ 9999) : ({ p.kept f with year := year } : Fields).Valid := by
  obtain ⟨⟨-, -, hm1, hm2, hd1, hd2⟩, hhour, hminute, hsecond, hmicro⟩ := hf
  have hjanuary : monthLength year 1 = 31 := rfl
  have hlong := monthLength_le f.year f.month
  have hlength := hsame.monthLength_eq f.month
  have hmicro' : (p.kept f).micro ≤ f.micro := by
    cases hw : (p.widths .fraction).head? with
    | none =>
      rw [Pattern.kept, hw]
      exact Nat.zero_le _
    | some n =>
      rw [Pattern.kept, hw]
      exact Nat.div_mul_le_self _ _
  refine ⟨⟨h1, h2, ?_⟩, ?_, ?_, ?_, Nat.lt_of_le_of_lt hmicro' hmicro⟩
  · simp only [Pattern.kept]
    split
    · split
      · exact ⟨hm1, hm2, hd1, by rw [hlength]; exact hd2⟩
      · exact ⟨hm1, hm2, Nat.le_refl 1, by omega⟩
    · split
      · exact ⟨Nat.le_refl 1, by decide, hd1, by omega⟩
      · exact ⟨Nat.le_refl 1, by decide, Nat.le_refl 1, by omega⟩
  · simp only [Pattern.kept]
    split <;> omega
  · simp only [Pattern.kept]
    split <;> omega
  · simp only [Pattern.kept]
    split <;> omega

theorem Found.date_told (hyear : (told p s).year = some year)
    (hsame : SameMonths year s.wall.fields.year) (h1 : 1 ≤ year) (h2 : year ≤ 9999) :
    (told p s).date = .ok ({ p.kept s.wall.fields with year := year } : Fields).toDate := by
  apply date_eq (kept_valid p s.wall.fields_valid hsame h1 h2).1 hyear
  · intro hnone
    have hnot : ¬ p.Shows .yearDay := by
      intro hshows
      rw [told_yearDay, if_pos hshows] at hnone
      cases hnone
    rw [told_month, told_day]
    simp only [Pattern.kept, hnot, or_false]
    constructor
    · split <;> rfl
    · split <;> rfl
  · intro n hn
    have hshows : p.Shows .yearDay := by
      by_contra hnot
      rw [told_yearDay, if_neg hnot] at hn
      cases hn
    rw [told_yearDay, if_pos hshows] at hn
    obtain rfl := Option.some.inj hn
    simp only [Date.dayOfYear, Pattern.kept, hshows, or_true, if_true, hsame.daysBeforeMonth_eq]

theorem Stamp.ofFields_eq_ok {f : Fields} {offset : Option Int} (hf : f.Valid)
    (hoffset : ∀ o ∈ offset, isOffset o = true) :
    ∃ w : WallTime, Stamp.ofFields f offset = .ok ⟨w, offset⟩ ∧ w.fields = f := by
  obtain ⟨w, hw⟩ : ∃ w, f.toWallTime = .ok w := ⟨_, dif_pos hf⟩
  have hany : ¬ offset.any (fun o => !isOffset o) = true := by
    cases offset with
    | none => decide
    | some o => simp [hoffset o rfl]
  refine ⟨w, ?_, WallTime.fields_toWallTime hf hw⟩
  rw [Stamp.ofFields, if_neg hany]
  exact bind_of_ok hw _

/-- The stamp that written fields tell: what is kept of the written one, in the year that is meant
first. -/
theorem Found.stamp_told (hp : p.Readable) (hs : p.Suits s) (hyear : (told p s).year = some year)
    (hsame : SameMonths year s.wall.fields.year) (h1 : 1 ≤ year) (h2 : year ≤ 9999) :
    ∃ w : WallTime, (told p s).stamp
        = .ok ⟨w, if p.Shows .offset then some (s.offset.getD 0) else none⟩ ∧
      w.fields = { p.kept s.wall.fields with year := year } := by
  have hfields : (⟨({ p.kept s.wall.fields with year := year } : Fields).toDate,
      (told p s).hourOfDay, (told p s).minute, (told p s).second, (told p s).micro⟩ : Fields)
        = { p.kept s.wall.fields with year := year } := by
    rw [hourOfDay_told hp.halfHour, told_minute, told_second, told_micro hp.once]
    rfl
  have hoffset : ∀ o ∈ (if p.Shows .offset then some (s.offset.getD 0) else none),
      isOffset o = true := by
    intro o ho
    split at ho
    · obtain rfl := Option.some.inj ho
      exact hs.isOffset_getD
    · cases ho
  obtain ⟨w, hw, hwf⟩ := Stamp.ofFields_eq_ok (kept_valid p s.wall.fields_valid hsame h1 h2) hoffset
  refine ⟨w, ?_, hwf⟩
  rw [stamp, bind_of_ok (date_told hyear hsame h1 h2), hfields, told_offset]
  exact hw

end Told

/-! ### Texts and what they denote -/

namespace Pattern

variable {p : Pattern} {s : Stamp}

theorem hasShortYear_iff : p.hasShortYear = true ↔ 2 ∈ p.widths .year := by
  rw [hasShortYear, List.any_eq_true, mem_widths]
  constructor
  · rintro ⟨t, ht, heq⟩
    rwa [eq_of_beq heq] at ht
  · intro h
    exact ⟨_, h, beq_self_eq_true _⟩

/-- The stamp that a written text denotes is what is kept of the one that was written. -/
theorem denotation_format (hshaped : p.Shaped) (hp : p.Readable) (hs : p.Suits s) :
    ∃ w : WallTime, p.denotation (p.format s)
        = .ok ⟨w, if p.Shows .offset then some (s.offset.getD 0) else none⟩ ∧
      w.fields = p.kept s.wall.fields := by
  have hlegible : ∀ l n, .field l n ∈ p.tokens → l.Legible n s :=
    fun _ _ hn => hp.legible hshaped hs hn
  have hread : readItems p.items (p.format s) = some (p.tokens.filterMap (·.capture? s), []) :=
    readItems_render hshaped.allowed hshaped.apart hp.separated hlegible
  have hdenotes : ∀ r, (if p.hasShortYear then (told p s).stamp >>= Stamp.inCentury
      else (told p s).stamp) = .ok r → p.denotation (p.format s) = .ok r :=
    fun r hr => denotation_eq_ok.2 ⟨hp.once, _, _, hread, Found.ofCaptures_render hlegible, hr⟩
  have hvalid := s.wall.fields_valid
  have hsame : SameMonths s.wall.fields.year s.wall.fields.year := rfl
  have h1 := hvalid.1.1
  have h2 := hvalid.1.2.1
  by_cases hshort : 2 ∈ p.widths .year
  · have hcentury := hs.century hshort
    obtain ⟨year, hyear, hmonths, hmod, hlo, hhi⟩ : ∃ year, (told p s).year = some year ∧
        SameMonths year s.wall.fields.year ∧ year % 100 = s.wall.fields.year % 100 ∧
        1 ≤ year ∧ year ≤ 9999 := by
      rcases Found.told_year hp.year with hyear | ⟨-, hyear⟩
      · exact ⟨_, hyear, hsame, rfl, h1, h2⟩
      · exact ⟨_, hyear, centuryYear_spec hcentury⟩
    obtain ⟨w, hw, hwf⟩ := Found.stamp_told hp hs hyear hmonths hlo hhi
    have hmoved : ({ w.fields with year := 2000 + w.fields.year % 100 } : Fields)
        = p.kept s.wall.fields := by
      have hback : 2000 + year % 100 = s.wall.fields.year := by omega
      rw [hwf]
      show ({ p.kept s.wall.fields with year := 2000 + year % 100 } : Fields) = _
      rw [hback]
      rfl
    have hkept := kept_valid p hvalid hsame h1 h2
    obtain ⟨v, hv⟩ : ∃ v, (p.kept s.wall.fields).toWallTime = .ok v := ⟨_, dif_pos hkept⟩
    refine ⟨v, hdenotes _ ?_, WallTime.fields_toWallTime hkept hv⟩
    rw [if_pos (hasShortYear_iff.2 hshort), bind_of_ok hw, Stamp.inCentury, hmoved]
    exact bind_of_ok hv _
  · rcases Found.told_year hp.year with hyear | ⟨h, -⟩
    · obtain ⟨w, hw, hwf⟩ := Found.stamp_told hp hs hyear hsame h1 h2
      refine ⟨w, hdenotes _ ?_, hwf⟩
      rw [if_neg fun h => hshort (hasShortYear_iff.1 h)]
      exact hw
    · exact absurd h hshort

/-! ### Written again -/

theorem render_congr {ts : List Token} {r s : Stamp} (h : ∀ t ∈ ts, t.render r = t.render s) :
    render ts r = render ts s := by
  induction ts with
  | nil => rfl
  | cons t ts ih =>
    show t.render r ++ render ts r = t.render s ++ render ts s
    rw [h t List.mem_cons_self, ih fun t' ht' => h t' (List.mem_cons_of_mem t ht')]

/-- Cut microseconds have the same first places. -/
theorem take_padded_cutMicro {n micro : Nat} (hn : n ≤ 6) (hmicro : micro < 1_000_000) :
    (padded 6 (cutMicro n micro)).take n = (padded 6 micro).take n := by
  have hcut : cutMicro n micro < 1_000_000 :=
    Nat.lt_of_le_of_lt (Nat.div_mul_le_self _ _) hmicro
  rw [take_padded hn hcut, take_padded hn hmicro, cutMicro,
    Nat.mul_div_cancel _ (Nat.pow_pos (by decide))]

theorem kept_micro (hp : p.directives.Nodup) {n : Nat} (hn : .field .fraction n ∈ p.tokens)
    (f : Fields) : (p.kept f).micro = cutMicro n f.micro := by
  obtain ⟨m, hm⟩ : ∃ m, (p.widths .fraction).head? = some m :=
    ⟨_, List.head?_eq_some_head (List.ne_nil_of_mem (p.mem_widths.2 hn))⟩
  have hmem : .field .fraction m ∈ p.tokens := p.mem_widths.1 (List.mem_of_head? hm)
  rw [kept, hm, p.width_eq_of_once hp hn hmem rfl]
  rfl

/-- What is kept of a stamp is written as the stamp itself. -/
theorem format_kept (hp : p.Readable) {w : WallTime} {offset : Option Int}
    (hw : w.fields = p.kept s.wall.fields)
    (hoffset : p.Shows .offset → offset.getD 0 = s.offset.getD 0) :
    p.format ⟨w, offset⟩ = p.format s := by
  apply render_congr
  intro t ht
  cases t with
  | literal text => rfl
  | field l n =>
    have hshows : p.Shows l := p.shows_iff.2 ⟨n, ht⟩
    show renderField l n ⟨w, offset⟩ = renderField l n s
    cases l with
    | year => simp only [renderField, hw, kept]
    | month =>
      have hmonth : w.date.month = s.wall.date.month := by
        show w.fields.month = s.wall.fields.month
        rw [hw]
        exact if_pos (Or.inl hshows)
      have hmonth' : w.fields.month = s.wall.fields.month := hmonth
      simp only [renderField, WallTime.monthName, hmonth, hmonth']
    | weekday =>
      have hday : w.dayNumber = s.wall.dayNumber := by
        have hdate : w.fields.toDate = s.wall.fields.toDate := by
          rw [hw]
          rcases hp.weekday hshows with h | ⟨hm, hd⟩
          · simp only [kept, h, or_true, if_true]
          · simp only [kept, hm, hd, true_or, if_true]
        rw [← WallTime.dayNumber_fields, ← WallTime.dayNumber_fields, hdate]
      simp only [renderField, WallTime.weekdayName, hday]
    | day => simp only [renderField, hw, kept, hshows, true_or, if_true]
    | yearDay => simp only [renderField, hw, kept, hshows, or_true, if_true, Date.dayOfYear]
    | hour => simp only [renderField, hw, kept, hshows, true_or, if_true]
    | halfHour => simp only [renderField, hw, kept, hshows, or_true, if_true]
    | half =>
      have hhour := hp.half hshows
      simp only [renderField, hw, kept, hhour, if_true]
    | minute => simp only [renderField, hw, kept, hshows, if_true]
    | second => simp only [renderField, hw, kept, hshows, if_true]
    | fraction =>
      have hn : n ≤ 6 := hp.fraction n (p.mem_widths.2 ht)
      rw [renderField_fraction hn, renderField_fraction hn]
      show (padded 6 w.fields.micro).take n = _
      rw [hw, kept_micro hp.once ht, take_padded_cutMicro hn s.wall.fields_valid.2.2.2.2]
    | offset => simp only [renderField, hoffset hshows]

/-- Reading a written stamp gives what is kept of it, for a shaped pattern. -/
theorem Shaped.read_format (hshaped : p.Shaped) (hp : p.Readable) (hs : p.Suits s) :
    ∃ w : WallTime, p.read (p.format s)
        = .ok ⟨w, if p.Shows .offset then some (s.offset.getD 0) else none⟩ ∧
      w.fields = p.kept s.wall.fields := by
  obtain ⟨w, hw, hwf⟩ := denotation_format hshaped hp hs
  refine ⟨w, ?_, hwf⟩
  have hback : p.format ⟨w, if p.Shows .offset then some (s.offset.getD 0) else none⟩
      = p.format s := by
    apply format_kept hp hwf
    intro hshows
    rw [if_pos hshows]
    rfl
  exact read_eq_ok.2 ⟨hw, hback⟩

/-- Reading undoes writing: the text of a readable pattern is read as the stamp that was written,
with what the pattern does not show at its least. -/
theorem read_format_of_readable {source : List Char} (h : ofText source = .ok p)
    (hp : p.Readable) (hs : p.Suits s) :
    ∃ r : Stamp, p.read (p.format s) = .ok r ∧ r.wall.fields = p.kept s.wall.fields ∧
      r.offset = if p.Shows .offset then some (s.offset.getD 0) else none := by
  obtain ⟨w, hw, hwf⟩ := (ofText_shaped h).read_format hp hs
  exact ⟨_, hw, hwf, rfl⟩

/-- A pattern with the last two places of the year and the hour of half a day. -/
def briefDate : Pattern :=
  ⟨['E', ' ', 'd', ' ', 'M', 'M', 'M', ' ', 'y', 'y', ',', ' ', 'h', 'h', 'a', ' ', 'Z'],
    [.field .weekday 1, .literal [' '], .field .day 1, .literal [' '], .field .month 3,
      .literal [' '], .field .year 2, .literal [',', ' '], .field .halfHour 2, .field .half 1,
      .literal [' '], .field .offset 1]⟩

/-- 29 February 2072, 13:05, half past five ahead of universal time. -/
def leapAfternoon : Stamp :=
  ⟨⟨(⟨⟨2072, 2, 29⟩, 13, 5, 0, 0⟩ : Fields).micros, by decide +kernel⟩, some 19_800_000_000⟩

theorem read_format_leapAfternoon :
    ofText briefDate.source = .ok briefDate ∧ briefDate.Readable ∧
      briefDate.Suits leapAfternoon ∧
      ∃ r : Stamp, briefDate.read (briefDate.format leapAfternoon) = .ok r ∧
        r.wall.fields = briefDate.kept leapAfternoon.wall.fields ∧
        r.offset = if briefDate.Shows .offset then some 19_800_000_000 else none := by
  have hp : ofText briefDate.source = .ok briefDate := by rfl
  have hr : briefDate.Readable := by decide +kernel
  have hs : briefDate.Suits leapAfternoon :=
    ⟨by decide +kernel, by decide +kernel, by decide +kernel⟩
  exact ⟨hp, hr, hs, read_format_of_readable hp hr hs⟩

end Pattern

end CivilTime
