import CivilTime.Proofs.Instant.CivilText
import CivilTime.Proofs.Zone.Name
import CivilTime.Proofs.Zone.Register

/-!
# Identifiers of offsets

An identifier of an offset is `GMT` or `UTC` in any case, a sign, hours of one or two digits and, after
a colon or directly, minutes of two digits. The register of offsets knows all of these, each with its
offset. What else it knows is such an identifier as soon as digits of other scripts are written in
ASCII and a line feed at the end is left out.

* `HourText`, `MinuteText`, `ClockText`, `SignedClock`, `OffsetId`: the identifiers and the minutes that
  they stand for, without reference to how they are read.
* `offsetMinutes?_of_clockText`, `clockText_of_offsetMinutes?`: reading hours and minutes.
* `plainSpelling`: an identifier with ASCII digits, without a line feed at its end.
* `ofOffsetId?_of_offsetId`, `offsetId_of_ofOffsetId?`: the register of offsets.
* `Zone.resolve_offsetId`: identifiers that no other register knows.
-/

namespace CivilTime

open Text

/-! ### Identifiers and their minutes -/

/-- Hours in one or two digits. -/
def HourText (hour : Nat) (s : List Char) : Prop := IsNumeral 1 hour s ∨ IsNumeral 2 hour s

/-- Minutes after hours: none at all, two digits, or a colon and two digits. -/
inductive MinuteText : Nat → List Char → Prop
  | none : MinuteText 0 []
  | direct {minute : Nat} {s : List Char} (h : IsNumeral 2 minute s) : MinuteText minute s
  | colon {minute : Nat} {s : List Char} (h : IsNumeral 2 minute s) : MinuteText minute (':' :: s)

/-- Whether a text is hours and minutes of a day. -/
structure ClockText (hour minute : Nat) (s : List Char) : Prop where
  hour_le : hour ≤ 23
  minute_le : minute ≤ 59
  spelled : ∃ hours minutes, s = hours ++ minutes ∧ HourText hour hours ∧ MinuteText minute minutes

/-- Whether a text is a sign with hours and minutes of a day, which make so many minutes. -/
def SignedClock (s : List Char) (n : Int) : Prop :=
  ∃ (hour minute : Nat) (clock : List Char), ClockText hour minute clock ∧
    (s = '+' :: clock ∧ n = 60 * hour + minute ∨ s = '-' :: clock ∧ n = -(60 * hour + minute))

/-- Whether an identifier is that of an offset in minutes. -/
def OffsetId (id : List Char) (n : Int) : Prop :=
  ∃ base s, id = base ++ s ∧ base.map Char.toUpper ∈ offsetBases ∧ SignedClock s n

/-! ### Digits -/

/-- A decimal digit of any script as one of ASCII; other characters stay as they are. -/
def plainDigit (c : Char) : Char :=
  match digitValue? c with
  | some d => digitChar d
  | none => c

/-- An identifier with its digits in ASCII and without a line feed at its end. -/
def plainSpelling (id : List Char) : List Char := (withoutLineEnd id).map plainDigit

/-- Whether a character stands in offsets, with digits of any script. -/
def offsetChar (c : Char) : Bool := (digitValue? c).isSome || ['+', '-', ':'].contains c

variable {s : List Char} {c d : Char} {n hour minute : Nat}

theorem plainDigit_of_digit (h : digitValue? c = some n) : plainDigit c = digitChar n := by
  rw [plainDigit, h]

theorem plainDigit_of_not_digit (h : digitValue? c = none) : plainDigit c = c := by
  rw [plainDigit, h]

theorem offsetChar_plainDigit (c : Char) : offsetChar (plainDigit c) = offsetChar c := by
  cases h : digitValue? c with
  | none => rw [plainDigit_of_not_digit h]
  | some d =>
    rw [plainDigit_of_digit h, offsetChar, offsetChar, h, digitValue?_digitChar (digitValue?_lt h)]
    rfl

theorem caseless_of_digit (h : digitValue? c = some n) : Caseless c := by
  have hforeign : ∀ p ∈ foreignCapitals, digitValue? p.1 = none := by decide
  constructor
  · by_cases hc : c.toNat < 128
    · have hall : ∀ c : Char, c.toNat < 128 → (digitValue? c).isSome → c.isAlpha = false :=
        forall_ascii (by decide +kernel)
      exact hall c hc (by rw [h]; rfl)
    · exact isAlpha_of_foreign (Nat.not_lt.1 hc)
  · rw [List.lookup_eq_none_iff]
    intro p hp
    rw [bne_iff_ne]
    rintro rfl
    cases h.symm.trans (hforeign p hp)

theorem caseless_of_offsetChar (h : offsetChar c = true) : Caseless c := by
  rcases Bool.or_eq_true_iff.1 h with h | h
  · obtain ⟨n, hn⟩ := Option.isSome_iff_exists.1 h
    exact caseless_of_digit hn
  · simp only [List.contains_iff_mem, List.mem_cons, List.not_mem_nil, or_false] at h
    rcases h with rfl | rfl | rfl
    · decide
    · decide
    · decide

theorem IsNumeral.chars {places : Nat} (h : IsNumeral places n s) :
    ∀ c ∈ s, offsetChar c = true ∧ plainDigit c = c := by
  obtain ⟨-, ds, hds, -⟩ := h
  obtain ⟨rfl, hlt⟩ := mapM_asciiDigit?_eq_some.1 hds
  rw [List.forall_mem_map]
  intro d hd
  have hdigit := digitValue?_digitChar (hlt d hd)
  refine ⟨?_, plainDigit_of_digit hdigit⟩
  rw [offsetChar, hdigit]
  rfl

theorem isNumeral_digit (h : digitValue? c = some n) : IsNumeral 1 n [plainDigit c] := by
  have hlt := digitValue?_lt h
  rw [plainDigit_of_digit h, isNumeral_iff, padded_eq_places (by omega)]
  refine ⟨by omega, ?_⟩
  show [digitChar n] = [digitChar (n % 10)]
  rw [Nat.mod_eq_of_lt hlt]

theorem isNumeral_pair (h : pairValue? c d = some n) :
    IsNumeral 2 n [plainDigit c, plainDigit d] := by
  obtain ⟨a, ha, h⟩ := Option.bind_eq_some_iff.1 h
  obtain ⟨b, hb, h⟩ := Option.bind_eq_some_iff.1 h
  obtain rfl := Option.some.inj h
  have hlta := digitValue?_lt ha
  have hltb := digitValue?_lt hb
  rw [plainDigit_of_digit ha, plainDigit_of_digit hb, isNumeral_iff, padded_two (by omega),
    show (10 * a + b) / 10 = a by omega, show (10 * a + b) % 10 = b by omega]
  exact ⟨by omega, rfl⟩

/-- A number in one place is a digit. -/
theorem IsNumeral.exists_digit (h : IsNumeral 1 n s) : ∃ c, s = [c] ∧ digitValue? c = some n := by
  obtain ⟨hlt, rfl⟩ := isNumeral_iff.1 h
  have hlt : n < 10 := hlt
  refine ⟨digitChar n, ?_, digitValue?_digitChar hlt⟩
  rw [padded, digits_of_lt hlt]
  rfl

/-- A number in two places is a pair of digits. -/
theorem IsNumeral.exists_pair (h : IsNumeral 2 n s) :
    ∃ c d, s = [c, d] ∧ pairValue? c d = some n ∧ d ≠ ':' := by
  obtain ⟨hlt, rfl⟩ := isNumeral_iff.1 h
  have hlt : n < 100 := hlt
  refine ⟨_, _, padded_two hlt, ?_, (digitChar_ne (Nat.mod_lt n (by decide))).1⟩
  rw [pairValue?, digitValue?_digitChar (by omega), digitValue?_digitChar (by omega)]
  show some (10 * (n / 10) + n % 10) = some n
  rw [Nat.div_add_mod]

/-! ### Hours and minutes -/

theorem clockMinutes?_eq_some {k : Nat} :
    clockMinutes? hour minute = some k ↔ (hour ≤ 23 ∧ minute ≤ 59) ∧ k = 60 * hour + minute := by
  rw [clockMinutes?, Option.ite_none_right_eq_some, Option.some_inj, eq_comm]

theorem ClockText.chars (h : ClockText hour minute s) :
    ∀ c ∈ s, offsetChar c = true ∧ plainDigit c = c := by
  obtain ⟨-, -, hours, minutes, rfl, hhours, hminutes⟩ := h
  refine List.forall_mem_append.2 ⟨?_, ?_⟩
  · rcases hhours with h | h
    · exact h.chars
    · exact h.chars
  · cases hminutes with
    | none => exact fun _ hc => absurd hc List.not_mem_nil
    | direct h => exact h.chars
    | colon h => exact List.forall_mem_cons.2 ⟨by decide, h.chars⟩

/-- Hours and minutes of a day are read as what they say. -/
theorem offsetMinutes?_of_clockText (h : ClockText hour minute s) :
    offsetMinutes? s = some (60 * hour + minute) := by
  obtain ⟨hhour, hminute, hours, minutes, rfl, hhours, hminutes⟩ := h
  have hclock : clockMinutes? hour minute = some (60 * hour + minute) :=
    clockMinutes?_eq_some.2 ⟨⟨hhour, hminute⟩, rfl⟩
  rcases hhours with hhours | hhours
  · obtain ⟨c, rfl, hc⟩ := hhours.exists_digit
    cases hminutes with
    | none =>
      show ((digitValue? c).bind fun h => clockMinutes? h 0) = _
      rw [hc, Option.bind_some, hclock]
    | direct h =>
      obtain ⟨m, k, rfl, hm, -⟩ := h.exists_pair
      show ((digitValue? c).bind fun h => (pairValue? m k).bind fun m => clockMinutes? h m) = _
      rw [hc, hm, Option.bind_some, Option.bind_some, hclock]
    | colon h =>
      obtain ⟨m, k, rfl, hm, -⟩ := h.exists_pair
      show ((digitValue? c).bind fun h => (pairValue? m k).bind fun m => clockMinutes? h m) = _
      rw [hc, hm, Option.bind_some, Option.bind_some, hclock]
  · obtain ⟨c, d, rfl, hcd, hne⟩ := hhours.exists_pair
    cases hminutes with
    | none =>
      show ((pairValue? c d).bind fun h => clockMinutes? h 0) = _
      rw [hcd, Option.bind_some, hclock]
    | direct h =>
      obtain ⟨m, k, rfl, hm, -⟩ := h.exists_pair
      have hread : offsetMinutes? [c, d, m, k]
          = (pairValue? c d).bind fun h => (pairValue? m k).bind fun m => clockMinutes? h m := by
        rw [offsetMinutes?]
        · rfl
        · exact hne
      show offsetMinutes? [c, d, m, k] = _
      rw [hread, hcd, hm, Option.bind_some, Option.bind_some, hclock]
    | colon h =>
      obtain ⟨m, k, rfl, hm, -⟩ := h.exists_pair
      show ((pairValue? c d).bind fun h => (pairValue? m k).bind fun m => clockMinutes? h m) = _
      rw [hcd, hm, Option.bind_some, Option.bind_some, hclock]

/-- What is read as minutes is hours and minutes of a day, with its digits in ASCII. -/
theorem clockText_of_offsetMinutes? (h : offsetMinutes? s = some n) :
    ∃ hour minute, ClockText hour minute (s.map plainDigit) ∧ n = 60 * hour + minute := by
  have hcolon : plainDigit ':' = ':' := by decide
  -- hours with nothing after them, and hours with minutes
  have hours : ∀ {o : Option Nat} {t : List Char}, (∀ a, o = some a → HourText a t) →
      (o.bind fun a => clockMinutes? a 0) = some n →
      ∃ hour minute, ClockText hour minute t ∧ n = 60 * hour + minute := by
    intro o t ht h
    obtain ⟨a, ha, h⟩ := Option.bind_eq_some_iff.1 h
    obtain ⟨⟨hhour, hminute⟩, hn⟩ := clockMinutes?_eq_some.1 h
    exact ⟨a, 0, ⟨hhour, hminute, t, [], (List.append_nil t).symm, ht a ha, .none⟩, hn⟩
  have minutes : ∀ {o p : Option Nat} {t r : List Char}, (∀ a, o = some a → HourText a t) →
      (∀ b, p = some b → MinuteText b r) →
      (o.bind fun a => p.bind fun b => clockMinutes? a b) = some n →
      ∃ hour minute, ClockText hour minute (t ++ r) ∧ n = 60 * hour + minute := by
    intro o p t r ht hr h
    obtain ⟨a, ha, h⟩ := Option.bind_eq_some_iff.1 h
    obtain ⟨b, hb, h⟩ := Option.bind_eq_some_iff.1 h
    obtain ⟨⟨hhour, hminute⟩, hn⟩ := clockMinutes?_eq_some.1 h
    exact ⟨a, b, ⟨hhour, hminute, t, r, rfl, ht a ha, hr b hb⟩, hn⟩
  have hone : ∀ {c a}, digitValue? c = some a → HourText a [plainDigit c] :=
    fun h => .inl (isNumeral_digit h)
  have htwo : ∀ {c d a}, pairValue? c d = some a → HourText a [plainDigit c, plainDigit d] :=
    fun h => .inr (isNumeral_pair h)
  unfold offsetMinutes? at h
  split at h
  · exact hours (fun _ => hone) h
  · exact hours (fun _ => htwo) h
  · exact minutes (fun _ => hone) (fun _ hb => .direct (isNumeral_pair hb)) h
  · rw [List.map_cons, List.map_cons, hcolon]
    exact minutes (fun _ => hone) (fun _ hb => .colon (isNumeral_pair hb)) h
  · exact minutes (fun _ => htwo) (fun _ hb => .direct (isNumeral_pair hb)) h
  · rw [List.map_cons, List.map_cons, List.map_cons, hcolon]
    exact minutes (fun _ => htwo) (fun _ hb => .colon (isNumeral_pair hb)) h
  · cases h

/-! ### Signs -/

variable {k : Int}

theorem SignedClock.chars (h : SignedClock s k) :
    ∀ c ∈ s, offsetChar c = true ∧ plainDigit c = c := by
  obtain ⟨hour, minute, clock, hclock, ⟨rfl, -⟩ | ⟨rfl, -⟩⟩ := h
  · exact List.forall_mem_cons.2 ⟨by decide, hclock.chars⟩
  · exact List.forall_mem_cons.2 ⟨by decide, hclock.chars⟩

theorem SignedClock.ne_nil (h : SignedClock s k) : s ≠ [] := by
  obtain ⟨hour, minute, clock, -, ⟨rfl, -⟩ | ⟨rfl, -⟩⟩ := h
  · exact List.cons_ne_nil '+' clock
  · exact List.cons_ne_nil '-' clock

theorem signedMinutes?_of_signedClock (h : SignedClock s k) : signedMinutes? s = some k := by
  obtain ⟨hour, minute, clock, hclock, hsign⟩ := h
  exact signedMinutes?_eq_some.2 ⟨clock, _, offsetMinutes?_of_clockText hclock, hsign⟩

theorem signedClock_of_signedMinutes? (h : signedMinutes? s = some k) :
    SignedClock (s.map plainDigit) k := by
  obtain ⟨clock, m, hm, hsign⟩ := signedMinutes?_eq_some.1 h
  obtain ⟨hour, minute, hclock, rfl⟩ := clockText_of_offsetMinutes? hm
  refine ⟨hour, minute, clock.map plainDigit, hclock, ?_⟩
  rcases hsign with ⟨rfl, hk⟩ | ⟨rfl, hk⟩
  · exact .inl ⟨rfl, hk⟩
  · exact .inr ⟨rfl, hk⟩

/-! ### The register of offsets -/

theorem withoutLineEnd_of_chars (h : ∀ c ∈ s, offsetChar c = true ∧ plainDigit c = c) :
    withoutLineEnd s = s := by
  rw [withoutLineEnd, if_neg]
  intro hlast
  exact absurd (h '\n' (List.mem_of_getLast? hlast)).1 (by decide)

theorem withoutLineEnd_append {t : List Char} (ht : t ≠ []) :
    withoutLineEnd (s ++ t) = s ++ withoutLineEnd t := by
  rw [withoutLineEnd, withoutLineEnd, List.getLast?_append_of_ne_nil s ht,
    List.dropLast_append_of_ne_nil ht]
  split
  · rfl
  · rfl

theorem mem_withoutLineEnd (hc : c ∈ s) : c ∈ withoutLineEnd s ∨ c = '\n' := by
  rw [withoutLineEnd]
  split
  · next hlast =>
    obtain ⟨t, rfl⟩ := List.getLast?_eq_some_iff.1 hlast
    rw [List.dropLast_concat]
    rcases List.mem_append.1 hc with hc | hc
    · exact .inl hc
    · exact .inr (List.mem_singleton.1 hc)
  · exact .inl hc

theorem letter_of_base {base : List Char} (hbase : base ∈ offsetBases) (hc : c ∈ base) :
    c.isAlpha = true ∧ c ∉ foreignInitials := by
  simp only [offsetBases, List.mem_cons, List.not_mem_nil, or_false] at hbase
  rcases hbase with rfl | rfl
  all_goals
    simp only [List.mem_cons, List.not_mem_nil, or_false] at hc
    rcases hc with rfl | rfl | rfl
    · decide
    · decide
    · decide

/-- No base has a digit. -/
theorem map_plainDigit_of_base {base : List Char} (h : base.map Char.toUpper ∈ offsetBases) :
    base.map plainDigit = base := by
  have hkept : ∀ c ∈ base, plainDigit c = id c := by
    intro c hc
    cases hdigit : digitValue? c with
    | none => exact plainDigit_of_not_digit hdigit
    | some d =>
      have hcase := caseless_of_digit hdigit
      have hletter := (letter_of_base h (List.mem_map_of_mem hc)).1
      rw [hcase.toUpper_eq, hcase.1] at hletter
      cases hletter
  rw [List.map_congr_left hkept, List.map_id]

theorem capitals_of_base {base : List Char} (h : base.map Char.toUpper ∈ offsetBases) :
    capitals base = base.map Char.toUpper := by
  apply capitals_of_isAscii
  rw [isAscii, List.all_eq_true]
  intro c hc
  rw [decide_eq_true_eq]
  refine Nat.lt_of_not_le fun hforeign => ?_
  have hletter := (letter_of_base h (List.mem_map_of_mem hc)).1
  rw [toUpper_of_foreign hforeign, isAlpha_of_foreign hforeign] at hletter
  cases hletter

variable {t : List Char} {z : Zone}

/-- The identifiers of offsets are spelled plainly. -/
theorem OffsetId.plainSpelling_eq (h : OffsetId t k) : plainSpelling t = t := by
  obtain ⟨base, s, rfl, hbase, hs⟩ := h
  have hkept : ∀ c ∈ s, plainDigit c = id c := fun c hc => (hs.chars c hc).2
  rw [plainSpelling, withoutLineEnd_append hs.ne_nil, withoutLineEnd_of_chars hs.chars,
    List.map_append, map_plainDigit_of_base hbase, List.map_congr_left hkept, List.map_id]

/-- The register of offsets knows the identifier of each offset. -/
theorem ofOffsetId?_of_offsetId (h : OffsetId t k) :
    Zone.ofOffsetId? (capitals t) = some (Zone.ofMinutes k) := by
  obtain ⟨base, s, rfl, hbase, hs⟩ := h
  have hcapitals : capitals (base ++ s) = base.map Char.toUpper ++ s := by
    rw [capitals_append, capitals_of_base hbase,
      capitals_of_caseless fun c hc => caseless_of_offsetChar (hs.chars c hc).1]
  have hsigned : signedMinutes? (withoutLineEnd s) = some k := by
    rw [withoutLineEnd_of_chars hs.chars]
    exact signedMinutes?_of_signedClock hs
  exact Zone.ofOffsetId?_eq_some.2 ⟨_, hbase, s, k, hcapitals, hsigned, rfl⟩

/-- What the register of offsets knows is the identifier of an offset, once its digits are in ASCII
and a line feed at its end is left out. -/
theorem offsetId_of_ofOffsetId? (h : Zone.ofOffsetId? (capitals t) = some z) :
    ∃ k, OffsetId (plainSpelling t) k := by
  obtain ⟨first, hfirst, r, k, hcapitals, hk, -⟩ := Zone.ofOffsetId?_eq_some.1 h
  have hsigned := signedClock_of_signedMinutes? hk
  have hlineEnd : Caseless '\n' := by decide
  have hr : ∀ c ∈ r, Caseless c := by
    intro c hc
    rcases mem_withoutLineEnd hc with hc | rfl
    · have hplain := (hsigned.chars _ (List.mem_map_of_mem hc)).1
      rw [offsetChar_plainDigit] at hplain
      exact caseless_of_offsetChar hplain
    · exact hlineEnd
  have hinitials : ∀ c ∈ first ++ r, c ∉ foreignInitials := by
    refine List.forall_mem_append.2 ⟨?_, ?_⟩
    · exact fun c hc => (letter_of_base hfirst hc).2
    · exact fun c hc => (hr c hc).not_mem_foreignInitials
  -- so the identifier differs from its capital form in the case of the base only
  have hupper := map_toUpper_of_capitals hcapitals hinitials
  obtain ⟨base, s, rfl, rfl, hs⟩ := List.map_eq_append_iff.1 hupper
  obtain rfl := eq_of_map_toUpper hs hr
  have hne : s ≠ [] := by
    rintro rfl
    exact hsigned.ne_nil rfl
  refine ⟨k, base, (withoutLineEnd s).map plainDigit, ?_, hfirst, hsigned⟩
  rw [plainSpelling, withoutLineEnd_append hne, List.map_append, map_plainDigit_of_base hfirst]

/-! ### Identifiers that no table lists -/

namespace Zone

theorem offsetAt_ofMinutes (k : Int) (u : WallTime) : (ofMinutes k).offsetAt u = k * minuteMicros := by
  rw [ofMinutes]
  split
  · next hk =>
    rw [hk, Int.zero_mul]
    rfl
  · rfl

theorem ofId?_of_unlisted (h : ∀ r : Register, r ≠ .offset → r.zone? s = none) :
    ofId? s = ofOffsetId? (capitals s) := by
  rw [ofId?_eq_orElse, h _ (by decide), h _ (by decide), h _ (by decide)]
  rfl

variable {id : String}

theorem resolve_of_offsetId (hunlisted : ∀ r : Register, r ≠ .offset → r.zone? id.toList = none)
    (h : OffsetId id.toList k) :
    ∃ z, resolve id = .ok (some z) ∧ ∀ u, z.offsetAt u = k * minuteMicros := by
  have hne : id ≠ "" := by
    rintro rfl
    obtain ⟨base, s, hid, -, hs⟩ := h
    exact hs.ne_nil (List.append_eq_nil_iff.1 hid.symm).2
  have hzone := (ofId?_of_unlisted hunlisted).trans (ofOffsetId?_of_offsetId h)
  exact ⟨ofMinutes k, resolve_of_ofId? hne hzone, offsetAt_ofMinutes k⟩

theorem offsetId_of_resolve (hunlisted : ∀ r : Register, r ≠ .offset → r.zone? id.toList = none)
    (h : resolve id = .ok (some z)) : ∃ k, OffsetId (plainSpelling id.toList) k := by
  have hzone := ofId?_of_resolve h
  rw [ofId?_of_unlisted hunlisted] at hzone
  exact offsetId_of_ofOffsetId? hzone

/-- An identifier that no other register knows is one of an offset, or it is refused by name; the empty
one gives no zone. What is neither, though it is one of an offset once its digits are in ASCII and a
line feed at its end is left out, is left open. -/
theorem resolve_offsetId (id : String)
    (hunlisted : ∀ r : Register, r ≠ .offset → r.zone? id.toList = none) :
    (∀ n, OffsetId id.toList n →
      ∃ z, resolve id = .ok (some z) ∧ ∀ u, z.offsetAt u = n * minuteMicros) ∧
    (plainSpelling id.toList = id.toList →
      ((∃ z, resolve id = .ok (some z)) ↔ ∃ n, OffsetId id.toList n)) ∧
    ((¬ ∃ n, OffsetId (plainSpelling id.toList) n) →
      resolve id = if id = "" then .ok none else .error (.unknownZone id)) ∧
    ∀ e, resolve id = .error e → e = .unknownZone id := by
  refine ⟨fun n hn => resolve_of_offsetId hunlisted hn, ?_, ?_, fun e => eq_unknownZone_of_resolve⟩
  · intro hplain
    constructor
    · rintro ⟨z, hz⟩
      rw [← hplain]
      exact offsetId_of_resolve hunlisted hz
    · rintro ⟨n, hn⟩
      obtain ⟨z, hz, -⟩ := resolve_of_offsetId hunlisted hn
      exact ⟨z, hz⟩
  · intro hnone
    apply resolve_of_not_exists
    rintro ⟨z, hz⟩
    exact hnone (offsetId_of_resolve hunlisted hz)

/-- Half an hour beyond five hours, to the west of universal time, and an hour that no clock shows. -/
theorem resolve_offsetId_halfHour :
    (∀ r : Register, r ≠ .offset → r.zone? "Utc-05:30".toList = none) ∧
    OffsetId "Utc-05:30".toList (-330) ∧
    (∃ z, resolve "Utc-05:30" = .ok (some z) ∧ ∀ u, z.offsetAt u = -330 * minuteMicros) ∧
    (∀ r : Register, r ≠ .offset → r.zone? "UTC+24:00".toList = none) ∧
    (¬ ∃ n, OffsetId (plainSpelling "UTC+24:00".toList) n) ∧
    resolve "UTC+24:00" = .error (.unknownZone "UTC+24:00") := by
  have hwest : ∀ r : Register, r ≠ .offset → r.zone? "Utc-05:30".toList = none :=
    fun r => Register.zone?_of_not_isName (by decide) (by decide)
  have hlate : ∀ r : Register, r ≠ .offset → r.zone? "UTC+24:00".toList = none :=
    fun r => Register.zone?_of_not_isName (by decide) (by decide)
  have hoffset : OffsetId "Utc-05:30".toList (-330) := by
    refine ⟨['U', 't', 'c'], ['-', '0', '5', ':', '3', '0'], by decide, by decide, 5, 30,
      ['0', '5', ':', '3', '0'], ?_, .inr ⟨rfl, rfl⟩⟩
    exact ⟨by decide, by decide, ['0', '5'], [':', '3', '0'], rfl, .inr ⟨rfl, _, rfl, rfl⟩,
      .colon ⟨rfl, _, rfl, rfl⟩⟩
  have hnone : ¬ ∃ n, OffsetId (plainSpelling "UTC+24:00".toList) n := by
    have hunknown : ofOffsetId? (capitals (plainSpelling "UTC+24:00".toList)) = none := by decide
    rintro ⟨n, hn⟩
    cases hunknown.symm.trans (ofOffsetId?_of_offsetId hn)
  exact ⟨hwest, hoffset, (resolve_offsetId _ hwest).1 _ hoffset, hlate, hnone,
    (resolve_offsetId _ hlate).2.2.1 hnone⟩

/-- The empty identifier is not refused. Neither are those of offsets with a line feed after them or
with digits of another script. -/
theorem resolve_other_spellings :
    ((∀ r : Register, r ≠ .offset → r.zone? "".toList = none) ∧
      (¬ ∃ n, OffsetId "".toList n) ∧ resolve "" = .ok none) ∧
    ∀ id ∈ ["GMT+8\n", "GMT+٨"], (∀ r : Register, r ≠ .offset → r.zone? id.toList = none) ∧
      (¬ ∃ n, OffsetId id.toList n) ∧ resolve id = .ok (some (.fixed 480)) := by
  have hspelling : ∀ {s}, plainSpelling s ≠ s → ¬ ∃ n, OffsetId s n :=
    fun hne ⟨_, hn⟩ => hne hn.plainSpelling_eq
  have hread : ∀ id ∈ ["GMT+8\n", "GMT+٨"], id ≠ "" ∧ plainSpelling id.toList ≠ id.toList ∧
      ofOffsetId? (capitals id.toList) = some (.fixed 480) := by decide
  refine ⟨⟨fun r => Register.zone?_of_not_isName (by decide) (by decide), ?_, rfl⟩, ?_⟩
  · rintro ⟨n, hn⟩
    cases (show ofOffsetId? (capitals []) = none by rfl).symm.trans (ofOffsetId?_of_offsetId hn)
  · intro id hid
    have hunlisted : ∀ r : Register, r ≠ .offset → r.zone? id.toList = none := by
      rcases List.mem_cons.1 hid with rfl | hid
      · exact fun r => Register.zone?_of_not_isName (by decide) (by decide)
      · obtain rfl := List.mem_singleton.1 hid
        intro r hr
        cases r with
        | legacyOffset => decide
        | name => exact byName?_of_not_isName (by decide)
        | abbreviation => decide
        | offset => exact absurd rfl hr
    obtain ⟨hempty, hne, hzone⟩ := hread id hid
    refine ⟨hunlisted, hspelling hne, resolve_of_ofId? hempty ?_⟩
    rw [ofId?_of_unlisted hunlisted, hzone]

end Zone

end CivilTime
