import CivilTime.Proofs.Pattern.Field

/-!
# What an offset is read as

The forms of an offset share their beginnings: a sign, hours and minutes, and then an end with
seconds and a fraction, or with nothing. They are followed down this tree with the text of an
offset, which takes the branch without colons.

* `firstSplit_append`, `firstSplit_prefix`: how the first form of a tree of forms is found.
* `StopsOffset`: a text that no offset can be read on into.
* `reads_offset`: an offset is read in full.
* `offsetFound?_offsetClock`: and it is read as itself.
-/

namespace CivilTime

open Text

/-! ### Trees of forms -/

theorem firstSplit_append (a b : List Form) (s : List Char) :
    firstSplit (a ++ b) s = (firstSplit a s).or (firstSplit b s) :=
  List.findSome?_append

theorem Form.split?_append (f g : Form) (s : List Char) :
    Form.split? (f ++ g) s
      = (Form.split? f s).bind fun p => (Form.split? g p.2).map fun q => (p.1 ++ q.1, q.2) := by
  induction f generalizing s with
  | nil =>
    rw [List.nil_append, Form.split?_nil, Option.bind_some]
    exact Option.map_id'.symm
  | cons x f ih =>
    cases s with
    | nil => rfl
    | cons c r =>
      rw [List.cons_append, Form.split?, Form.split?]
      by_cases hx : x.admits c
      · rw [if_pos hx, if_pos hx, ih, Option.map_bind, Option.bind_map]
        simp only [Function.comp_def, Option.map_map, List.cons_append]
      · rw [if_neg hx, if_neg hx]
        rfl

/-- Forms with one beginning go on after what it takes. -/
theorem firstSplit_prefix {start : Form} {s : List Char} {p : List Char × List Char}
    (h : Form.split? start s = some p) (fs : List Form) :
    firstSplit (fs.map (start ++ ·)) s = (firstSplit fs p.2).map fun q => (p.1 ++ q.1, q.2) := by
  induction fs with
  | nil => rfl
  | cons f fs ih =>
    rw [firstSplit, List.map_cons, List.findSome?_cons, Form.split?_append, h, Option.bind_some,
      firstSplit, List.findSome?_cons]
    cases hf : Form.split? f p.2 with
    | none => exact ih
    | some q => rfl

theorem firstSplit_prefix_none {start : Form} {s : List Char} (h : Form.split? start s = none)
    (fs : List Form) : firstSplit (fs.map (start ++ ·)) s = none := by
  rw [firstSplit, List.findSome?_eq_none_iff]
  intro f hf
  obtain ⟨g, -, rfl⟩ := List.mem_map.1 hf
  rw [Form.split?_append, h, Option.bind_none]

/-! ### The forms of an offset -/

namespace Directive

/-- The sign, the hours and the minutes of an offset. -/
def offsetStart (sign : Char) (colon : Form) : Form :=
  [.exactly sign] ++ [.anyDigit, .anyDigit] ++ colon ++ sixtieth

/-- The fraction of the seconds of an offset, or nothing. -/
def offsetFractions : List Form := (digitRuns .anyDigit 6).map ([.exactly '.'] ++ ·) ++ [[]]

theorem offsetTails_eq :
    offsetTails = offsetFractions.map (([.exactly ':'] ++ sixtieth) ++ ·)
      ++ offsetFractions.map (sixtieth ++ ·) ++ [[]] := rfl

theorem offsetForms_eq :
    offsetForms = offsetTails.map (offsetStart '+' [.exactly ':'] ++ ·)
      ++ offsetTails.map (offsetStart '+' [] ++ ·)
      ++ offsetTails.map (offsetStart '-' [.exactly ':'] ++ ·)
      ++ offsetTails.map (offsetStart '-' [] ++ ·) ++ [[.exactly 'Z']] := rfl

end Directive

/-- Whether an offset cannot be read on into a text. -/
def StopsOffset (rest : List Char) : Prop :=
  ∀ c ∈ rest.head?, digitValue? c = none ∧ c ≠ ':' ∧ c ≠ '.'

theorem StopsOffset.stopsDigits {rest : List Char} (h : StopsOffset rest) : StopsDigits rest :=
  fun c hc => (h c hc).1

variable {rest : List Char}

theorem Form.split?_exactly_self (c : Char) (f : Form) (s : List Char) :
    Form.split? (.exactly c :: f) (c :: s) = (Form.split? f s).map fun p => (c :: p.1, p.2) := by
  rw [Form.split?, Glyph.admits, if_pos (beq_self_eq_true c)]

theorem Form.split?_exactly_ne {c : Char} (h : ∀ x ∈ rest.head?, x ≠ c) (f : Form) :
    Form.split? (.exactly c :: f) rest = none := by
  cases rest with
  | nil => rfl
  | cons x r =>
    rw [Form.split?, Glyph.admits, if_neg]
    rw [beq_iff_eq]
    exact fun heq => h x rfl heq.symm

theorem digitChar_ne {d : Nat} (h : d < 10) : digitChar d ≠ ':' ∧ digitChar d ≠ '.' := by
  have hall : ∀ d < 10, digitChar d ≠ ':' ∧ digitChar d ≠ '.' := by decide
  exact hall d h

theorem Form.split?_sixtieth {n : Nat} (h : n < 60) (s : List Char) :
    Form.split? Directive.sixtieth (padded 2 n ++ s) = some (padded 2 n, s) := by
  rw [padded_two (by omega)]
  simp [Directive.sixtieth, show n / 10 < 10 by omega, show n / 10 ≤ 5 by omega,
    Nat.mod_lt n (show 0 < 10 by decide)]

namespace Directive

theorem split?_offsetStart {n m : Nat} (hn : n < 100) (hm : m < 60) (sign : Char)
    (s : List Char) :
    Form.split? (offsetStart sign []) (sign :: (padded 2 n ++ padded 2 m ++ s))
      = some (sign :: (padded 2 n ++ padded 2 m), s) := by
  have hstart : offsetStart sign [] = .exactly sign :: .anyDigit :: .anyDigit :: sixtieth := rfl
  rw [hstart, Form.split?_exactly_self, padded_two hn]
  simp only [List.cons_append, List.nil_append]
  rw [Form.split?_anyDigit (by omega), Form.split?_anyDigit (Nat.mod_lt n (by decide)),
    Form.split?_sixtieth hm]
  rfl

/-- No colon stands after the hours. -/
theorem split?_offsetStart_colon {n m : Nat} (hn : n < 100) (hm : m < 60) (sign : Char)
    (s : List Char) :
    Form.split? (offsetStart sign [.exactly ':']) (sign :: (padded 2 n ++ padded 2 m ++ s))
      = none := by
  have hstart : offsetStart sign [.exactly ':']
      = .exactly sign :: .anyDigit :: .anyDigit :: .exactly ':' :: sixtieth := rfl
  have hcolon : ∀ x ∈ (padded 2 m ++ s).head?, x ≠ ':' := by
    intro x hx
    rw [padded_two (by omega)] at hx
    obtain rfl := Option.some.inj hx
    exact (digitChar_ne (by omega)).1
  rw [hstart, Form.split?_exactly_self, padded_two hn]
  simp only [List.cons_append, List.nil_append]
  rw [Form.split?_anyDigit (by omega), Form.split?_anyDigit (Nat.mod_lt n (by decide)),
    Form.split?_exactly_ne hcolon]
  rfl

theorem split?_offsetStart_ne {sign other : Char} (h : other ≠ sign) (colon : Form)
    (s : List Char) : Form.split? (offsetStart sign colon) (other :: s) = none := by
  apply Form.split?_exactly_ne
  intro x hx
  obtain rfl := Option.some.inj hx
  exact h

end Directive

/-! ### The end of an offset -/

/-- The seconds and the fraction of an offset of `n` microseconds, where they are written. -/
def offsetEnd (n : Nat) : List Char :=
  (if n / secondMicros % 60 = 0 ∧ n % secondMicros = 0 then []
    else padded 2 (n / secondMicros % 60))
    ++ (if n % secondMicros = 0 then [] else '.' :: padded 6 (n % secondMicros))

theorem offsetClock_eq (o : Int) :
    offsetClock [] o = (if o < 0 then '-' else '+')
      :: (padded 2 (o.natAbs / hourMicros) ++ padded 2 (o.natAbs / minuteMicros % 60)
        ++ offsetEnd o.natAbs) := by
  simp only [offsetClock, offsetEnd, List.append_nil, List.nil_append, List.cons_append,
    List.append_assoc]

/-- Nothing, seconds, or seconds with a fraction. -/
theorem offsetEnd_cases (n : Nat) :
    offsetEnd n = [] ∧ n / secondMicros % 60 = 0 ∧ n % secondMicros = 0 ∨
      offsetEnd n = padded 2 (n / secondMicros % 60) ∧ n % secondMicros = 0 ∨
      offsetEnd n = padded 2 (n / secondMicros % 60) ++ '.' :: padded 6 (n % secondMicros) := by
  rw [offsetEnd]
  by_cases hmicro : n % secondMicros = 0
  · by_cases hsecond : n / secondMicros % 60 = 0
    · rw [if_pos ⟨hsecond, hmicro⟩, if_pos hmicro]
      exact Or.inl ⟨rfl, hsecond, hmicro⟩
    · rw [if_neg fun h => hsecond h.1, if_pos hmicro, List.append_nil]
      exact Or.inr (Or.inl ⟨rfl, hmicro⟩)
  · rw [if_neg fun h => hmicro h.2, if_neg hmicro]
    exact Or.inr (Or.inr rfl)

namespace Directive

theorem firstSplit_offsetFractions_none (h : ∀ x ∈ rest.head?, x ≠ '.') :
    firstSplit offsetFractions rest = some ([], rest) := by
  rw [offsetFractions, firstSplit_append,
    firstSplit_prefix_none (Form.split?_exactly_ne h [])]
  rfl

theorem firstSplit_offsetFractions {micro : Nat} (h : micro < 1_000_000) (rest : List Char) :
    firstSplit offsetFractions ('.' :: padded 6 micro ++ rest)
      = some ('.' :: padded 6 micro, rest) := by
  have hruns : firstSplit (digitRuns .anyDigit 6) (padded 6 micro ++ rest)
      = some (padded 6 micro, rest) := by
    have hdigit : ∀ d < 10, Glyph.anyDigit.admits (digitChar d) = true := by decide
    have hlen : (places (5 + 1) micro).length = 6 := length_places 6 micro
    rw [padded_eq_places h]
    apply firstSplit_digitRuns
    · intro hnil
      rw [hnil] at hlen
      cases hlen
    · omega
    · exact hdigit
    · exact fun d hd => lt_of_mem_places hd
    · exact fun hlt => absurd hlt (by omega)
  rw [offsetFractions, firstSplit_append, List.cons_append,
    firstSplit_prefix (Form.split?_exactly_self '.' [] _), hruns]
  rfl

/-- The end of an offset is read in full. -/
theorem firstSplit_offsetEnd (n : Nat) (hrest : StopsOffset rest) :
    firstSplit offsetTails (offsetEnd n ++ rest) = some (offsetEnd n, rest) := by
  have hmicro : n % secondMicros < 1_000_000 := Nat.mod_lt n (by decide)
  have hsecond : n / secondMicros % 60 < 60 := Nat.mod_lt _ (by decide)
  have hcolon : ∀ {t}, offsetEnd n = padded 2 (n / secondMicros % 60) ++ t →
      ∀ x ∈ (offsetEnd n ++ rest).head?, x ≠ ':' := by
    intro t hend x hx
    rw [hend, padded_two (by omega)] at hx
    obtain rfl := Option.some.inj hx
    exact (digitChar_ne (by omega)).1
  have hplain : (∀ x ∈ (offsetEnd n ++ rest).head?, x ≠ ':') →
      firstSplit offsetTails (offsetEnd n ++ rest)
        = (firstSplit (offsetFractions.map (sixtieth ++ ·)) (offsetEnd n ++ rest)).or
          (some ([], offsetEnd n ++ rest)) := by
    intro h
    rw [offsetTails_eq, firstSplit_append, firstSplit_append,
      firstSplit_prefix_none (by rw [Form.split?_append, Form.split?_exactly_ne h]; rfl)]
    rfl
  rcases offsetEnd_cases n with ⟨hend, -⟩ | ⟨hend, -⟩ | hend
  · have hnone : Form.split? sixtieth rest = none :=
      Form.split?_digit_stop hrest.stopsDigits 0 5 [.anyDigit]
    rw [hplain (by rw [hend]; exact fun x hx => (hrest x hx).2.1), hend, List.nil_append,
      firstSplit_prefix_none hnone]
    rfl
  · rw [hplain (hcolon (hend.trans (List.append_nil _).symm)), hend,
      firstSplit_prefix (Form.split?_sixtieth hsecond rest),
      firstSplit_offsetFractions_none fun x hx => (hrest x hx).2.2]
    simp only [Option.map_some, List.append_nil, Option.some_or]
  · rw [hplain (hcolon hend), hend, List.append_assoc,
      firstSplit_prefix (Form.split?_sixtieth hsecond _), firstSplit_offsetFractions hmicro]
    rfl

/-- An offset is read in full. -/
theorem reads_offset {o : Int} (ho : isOffset o = true) (hrest : StopsOffset rest) :
    offset.Reads (offsetClock [] o) rest := by
  have hn : o.natAbs / hourMicros < 100 := by
    have hday : o.natAbs < dayMicros := of_decide_eq_true ho
    simp only [dayMicros, hourMicros] at *
    omega
  have hm : o.natAbs / minuteMicros % 60 < 60 := Nat.mod_lt _ (by decide)
  have hstart := split?_offsetStart hn hm
  have hcolon := split?_offsetStart_colon hn hm
  have hend := firstSplit_offsetEnd o.natAbs hrest
  show firstSplit offsetForms _ = _
  rw [offsetClock_eq, offsetForms_eq]
  simp only [firstSplit_append, List.cons_append, List.append_assoc] at *
  by_cases hneg : o < 0
  · rw [if_pos hneg, firstSplit_prefix_none (split?_offsetStart_ne (by decide) _ _),
      firstSplit_prefix_none (split?_offsetStart_ne (by decide) _ _),
      firstSplit_prefix_none (hcolon '-' _), firstSplit_prefix (hstart '-' _), hend]
    simp only [Option.none_or, Option.map_some, Option.some_or, List.cons_append,
      List.append_assoc]
  · rw [if_neg hneg, firstSplit_prefix_none (hcolon '+' _), firstSplit_prefix (hstart '+' _),
      hend]
    simp only [Option.none_or, Option.map_some, Option.some_or, List.cons_append,
      List.append_assoc]

end Directive

/-! ### The value of an offset -/

theorem clock_sum (n : Nat) :
    n / hourMicros * hourMicros + n / minuteMicros % 60 * minuteMicros
      + n / secondMicros % 60 * secondMicros + n % secondMicros = n := by
  simp only [hourMicros, minuteMicros, secondMicros]
  omega

theorem fractionMicros_padded {micro : Nat} (h : micro < 1_000_000) :
    fractionMicros (padded 6 micro) = micro := by
  have htake := fractionMicros_take (Nat.le_refl 6) h
  rw [List.take_of_length_le (Nat.le_of_eq (length_padded_of_lt h))] at htake
  rw [htake, Nat.sub_self, Nat.pow_zero, Nat.div_one, Nat.mul_one]

theorem offsetMicros?_offsetEnd (n : Nat) :
    offsetMicros? (n / hourMicros) (n / minuteMicros % 60) false (offsetEnd n) = some n := by
  have hsum := clock_sum n
  have hsecond : n / secondMicros % 60 < 100 := by omega
  have hne : digitChar (n / secondMicros % 60 / 10) ≠ ':' := (digitChar_ne (by omega)).1
  rcases offsetEnd_cases n with ⟨hend, hsec, hmicro⟩ | ⟨hend, hmicro⟩ | hend
  · have hclock : n / hourMicros * hourMicros + n / minuteMicros % 60 * minuteMicros = n := by
      rw [hsec, hmicro] at hsum
      omega
    rw [hend, offsetMicros?, hclock]
  · rw [hend, padded_two hsecond]
    simp only [offsetMicros?, if_neg hne]
    rw [← padded_two hsecond, numeral_padded]
    have hnil : fractionMicros [] = 0 := by decide
    rw [List.drop_nil, hnil]
    rw [hmicro] at hsum
    rw [hsum]
  · rw [hend, padded_two hsecond]
    simp only [List.cons_append, List.nil_append, offsetMicros?, if_neg hne]
    rw [← padded_two hsecond, numeral_padded, List.drop_succ_cons, List.drop_zero,
      fractionMicros_padded (show n % secondMicros < 1_000_000 from Nat.mod_lt n (by decide)), hsum]

theorem offsetFound?_plain {sign g h m n : Char} {r : List Char} (hm : m ≠ ':') :
    offsetFound? (sign :: g :: h :: m :: n :: r)
      = offsetFound?.signed sign (offsetMicros? (numeral [g, h]) (numeral [m, n]) false r) := by
  rw [offsetFound?]
  exact fun _ _ hcolon _ => hm hcolon

/-- An offset is read as itself. -/
theorem offsetFound?_offsetClock {o : Int} (ho : isOffset o = true) :
    offsetFound? (offsetClock [] o) = some o := by
  have hn : o.natAbs / hourMicros < 100 := by
    have hday : o.natAbs < dayMicros := of_decide_eq_true ho
    simp only [dayMicros, hourMicros] at *
    omega
  have hm : o.natAbs / minuteMicros % 60 < 100 := by omega
  rw [offsetClock_eq, padded_two hn, padded_two hm]
  simp only [List.cons_append, List.nil_append]
  rw [offsetFound?_plain (digitChar_ne (by omega)).1, ← padded_two hn, ← padded_two hm,
    numeral_padded, numeral_padded, offsetMicros?_offsetEnd]
  show some (if (if o < 0 then '-' else '+') = '-' then -(o.natAbs : Int) else o.natAbs) = some o
  by_cases hneg : o < 0
  · rw [if_pos hneg, if_pos rfl]
    congr 1
    omega
  · rw [if_neg hneg, if_neg (by decide)]
    congr 1
    omega

end CivilTime
