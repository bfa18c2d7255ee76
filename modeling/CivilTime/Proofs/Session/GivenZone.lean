import CivilTime.Proofs.Instant.Given
import CivilTime.Proofs.Session.DefaultZone

/-!
# Operations that are given a zone

An operation that takes a zone hands on what it is given, a zone or none, to the functions that it is made
of, and it is only the innermost of them that ask the session for its default zone. That comes to the same
as to choose the zone once: the operation does what is done in the zone that is given, and in the default
one exactly if none is given. So it makes no difference to be given the zone that is the default one, and
an operation that is given its zone does the same whatever the default one is. Both carry over to whole
runs.

* `Operation.TakesZone`, `Operation.givenZone?`, `Operation.withZone`: the operations that take a
  zone, the zone that is given, and the operation that is given another one.
* `Operation.inZone`: what such an operation comes to in one zone.
* `Operation.run_withZone_eq`: it comes to that in the zone in use.
* `run_withZone`: one operation in two sessions.
* `Operation.pin`, `Session.pinAll`, `Session.runAll_pinAll`: a run in which every operation is given its
  zone.
* `Session.Alike`, `Session.runAll_alike`: such a run does the same in sessions with other default zones.
-/

namespace CivilTime

/-! ### Giving a zone -/

namespace Operation

/-- Whether an operation takes a zone, which it need not be given. -/
def TakesZone : Operation → Prop
  | .ofStamp .. | .dateTime .. | .wallClock .. | .localize .. | .writeInstant .. | .writeDate ..
  | .dateText .. | .readInstant .. | .textDate .. | .scheduleDate .. | .currentText ..
  | .currentTimestamp .. | .currentDate .. | .add .. | .addUnits .. | .someDay .. | .boundary ..
  | .hourFrom .. | .hourIndex .. | .transfer .. => True
  | _ => False

/-- The zone that an operation is given. -/
def givenZone? : Operation → Option Zone
  | .ofStamp _ tz | .dateTime _ tz | .wallClock _ tz | .localize _ tz | .writeInstant _ _ tz
  | .writeDate _ _ tz | .dateText _ tz | .readInstant _ _ tz | .textDate _ tz | .scheduleDate _ tz
  | .currentText _ tz | .currentTimestamp tz | .currentDate tz | .add _ _ _ tz | .addUnits _ _ _ tz
  | .someDay _ _ tz | .boundary _ _ tz | .hourFrom _ _ tz | .hourIndex _ tz | .transfer _ _ tz => tz
  | _ => none

/-- An operation that is given a zone, or none; one that takes no zone stays as it is. -/
def withZone (tz : Option Zone) : Operation → Operation
  | .ofStamp t _ => .ofStamp t tz
  | .dateTime i _ => .dateTime i tz
  | .wallClock i _ => .wallClock i tz
  | .localize t _ => .localize t tz
  | .writeInstant v p _ => .writeInstant v p tz
  | .writeDate d p _ => .writeDate d p tz
  | .dateText d _ => .dateText d tz
  | .readInstant text p _ => .readInstant text p tz
  | .textDate text _ => .textDate text tz
  | .scheduleDate schedule _ => .scheduleDate schedule tz
  | .currentText p _ => .currentText p tz
  | .currentTimestamp _ => .currentTimestamp tz
  | .currentDate _ => .currentDate tz
  | .add d u n _ => .add d u n tz
  | .addUnits u d n _ => .addUnits u d n tz
  | .someDay d n _ => .someDay d n tz
  | .boundary d b _ => .boundary d b tz
  | .hourFrom d n _ => .hourFrom d n tz
  | .hourIndex d _ => .hourIndex d tz
  | .transfer d target _ => .transfer d target tz
  | op => op

theorem withZone_givenZone? (op : Operation) : op.withZone op.givenZone? = op := by
  cases op with
  | _ => rfl

theorem withZone_of_not_takesZone {op : Operation} (h : ¬ op.TakesZone) (tz : Option Zone) :
    op.withZone tz = op := by
  cases op with
  | ofStamp | dateTime | wallClock | localize | writeInstant | writeDate | dateText | readInstant
  | textDate | scheduleDate | currentText | currentTimestamp | currentDate | add | addUnits | someDay
  | boundary | hourFrom | hourIndex | transfer =>
    exact absurd trivial h
  | _ => rfl

end Operation

/-! ### What such an operation comes to in one zone -/

/-- A result that leaves no records. -/
def told {α : Type} (toAnswer : α → Answer) (r : Except Fault α) : Except Fault Answer × List Record :=
  (r.map toAnswer, [])

/-- A result with the records that come with it. -/
def toldWith {α : Type} (toAnswer : α → Answer) (r : Except Fault (α × List Record)) :
    Except Fault Answer × List Record :=
  (r.map fun p => toAnswer p.1, leftBy r)

open Answer (ofInstant ofInstant? ofChars)

namespace Operation

/-- What an operation that takes a zone yields, and the records that it leaves, where there is one zone
and no other. -/
def inZone (op : Operation) (now : Instant) (z : Zone) : Except Fault Answer × List Record :=
  match op with
  | .ofStamp t _ => told ofInstant (z.instantOf t)
  | .dateTime i _ => told .time (z.reading i)
  | .wallClock i _ => told .wall (z.wallReading i)
  | .localize t _ => told .time (z.attach t)
  | .writeInstant v p _ => told ofChars (z.written v p)
  | .writeDate d p _ => told ofChars (z.writtenDate d p)
  | .dateText d _ => told ofChars (z.writtenDate d defaultPattern)
  | .readInstant text p _ => toldWith ofInstant? (.ok (z.read text p))
  | .textDate text _ | .scheduleDate text _ =>
    toldWith ofInstant? (.ok (z.read text defaultPattern))
  | .currentText p _ => told ofChars (z.written (.integer now.millis) p)
  | .currentTimestamp _ => told ofChars (z.written (.integer now.millis) timestampPattern)
  | .currentDate _ => toldWith ofInstant? (z.presentRead now)
  | .add d u n _ => told ofInstant (do
      let i ← requireDate d
      z.added i (← CalendarUnit.ofValue u) n)
  | .addUnits u d n _ => told ofInstant (do z.added (← requireDate d) u n)
  | .someDay d n _ => told ofInstant (do z.added (← requireDate d) .day n)
  | .boundary d b _ => told ofInstant (do z.moved (← requireDate d) b.of)
  | .hourFrom d n _ => told ofInstant (do
      z.moved (← requireDate d) fun w => w.startOfHour.shift (n * hourMicros))
  | .hourIndex d _ => told (fun (n : Nat) => .number n) (do
      return (← z.wallReading (← requireDate d)).hour)
  | .transfer d target _ => toldWith ofInstant? (z.transferred d target)
  | _ => (.ok .nothing, [])

end Operation

namespace Session

variable {α : Type} (s : Session)

theorem answer_told {r r' : Except Fault α} (toAnswer : α → Answer) (h : r = r') :
    s.answer toAnswer r = ((told toAnswer r').1, s.emitAll (told toAnswer r').2) := by
  subst h
  rfl

theorem answerWith_toldWith {r r' : Except Fault (α × List Record)} (toAnswer : α → Answer)
    (h : r = r') : s.answerWith toAnswer r
      = ((toldWith toAnswer r').1, s.emitAll (toldWith toAnswer r').2) := by
  subst h
  exact s.answerWith_eq toAnswer r

end Session

/-- An operation that takes a zone comes to what is done in the zone that it is given, and in the default
zone if it is given none. -/
theorem Operation.run_withZone_eq {op : Operation} (h : op.TakesZone) (tz : Option Zone) (s : Session) :
    (op.withZone tz).run s
      = ((op.inZone s.now (s.zoneOr tz)).1, s.emitAll (op.inZone s.now (s.zoneOr tz)).2) := by
  cases op with
  | ofStamp t => exact s.answer_told _ (Instant.ofStamp_inZone _ _ t)
  | dateTime i => exact s.answer_told _ (i.toOffsetTime_inZone _ _)
  | wallClock i => exact s.answer_told _ (i.wallClock_inZone _ _)
  | localize t => exact s.answer_told _ rfl
  | writeInstant v p => exact s.answer_told _ (writeInstant_inZone _ _ v p)
  | writeDate d p => exact s.answer_told _ (writeDate_inZone _ _ d p)
  | dateText d => exact s.answer_told _ (writeDate_inZone _ _ d defaultPattern)
  | readInstant text p =>
    exact s.answerWith_toldWith _ (congrArg Except.ok (readInstant_inZone _ _ p text))
  | textDate text | scheduleDate text =>
    exact s.answerWith_toldWith _ (congrArg Except.ok (readInstant_inZone _ _ defaultPattern text))
  | currentText p => exact s.answer_told _ (writeInstant_inZone _ _ (.integer s.now.millis) p)
  | currentTimestamp =>
    exact s.answer_told _ (writeInstant_inZone _ _ (.integer s.now.millis) timestampPattern)
  | currentDate => exact s.answerWith_toldWith _ (currentDate_inZone _ _ s.now)
  | add d u n => exact s.answer_told _ (addToDate_inZone _ _ d n u)
  | addUnits u d n => exact s.answer_told _ (addUnitsToDate_inZone _ _ d n u)
  | someDay d n => exact s.answer_told _ (someDay_inZone _ _ d n)
  | boundary d b =>
    exact s.answer_told _ (congrArg (requireDate d >>= ·) (funext fun i => i.onWall_inZone _ _ b.of))
  | hourFrom d n =>
    exact s.answer_told _ (congrArg (requireDate d >>= ·) (funext fun i => i.onWall_inZone _ _ _))
  | hourIndex d =>
    exact s.answer_told _ (congrArg (requireDate d >>= ·) (funext fun i => i.hourIndex_inZone _ _))
  | transfer d target => exact s.answerWith_toldWith _ (transferDate_inZone _ _ d target)
  | _ => exact absurd h id

/-! ### One operation in two sessions -/

/-- The default zone is used exactly if no zone is given. What an operation that takes a zone yields
and which records it leaves is fixed by the clock and a zone: it is what is done in that zone, in every
session where that zone is the default one and no zone is given, and in every session at all where that
zone is given. The session is left as it was but for the records. -/
theorem run_withZone (op : Operation) (h : op.TakesZone) (d : Zone) (clock : Int) :
    ∃ r records, op.inZone ⟨clock / 1_000_000⟩ d = (r, records) ∧
      (∀ s : Session, s.clock = clock → s.defaultZone = d →
        (op.withZone none).run s = (r, s.emitAll records)) ∧
      ∀ s : Session, s.clock = clock → (op.withZone (some d)).run s = (r, s.emitAll records) := by
  refine ⟨(op.inZone ⟨clock / 1_000_000⟩ d).1, (op.inZone ⟨clock / 1_000_000⟩ d).2, rfl, ?_, ?_⟩
  · intro s hclock hd
    rw [Operation.run_withZone_eq h, Session.now, hclock, Session.zoneOr, hd, zoneOr_none]
  · intro s hclock
    rw [Operation.run_withZone_eq h, Session.now, hclock, Session.zoneOr, zoneOr_some]

/-- A session with a console that takes all records, at the start of 1970. -/
def Session.opened (d : Zone) : Session :=
  { defaultZone := d, journal := { nextId := 1, sinks := [⟨0, 0, false⟩] } }

/-- Where the default zone is five hours west, 1970 begins at seven in the evening of the day before;
that reading, moved to universal time, is five hours earlier. It is the same, and is told in the same
words, where that zone is given and the default one is universal time. -/
theorem run_withZone_evening :
    ((Operation.transfer (some ⟨0⟩) (some "UTC") none).run (.opened (.ofMinutes (-300)))).1
        = .ok (.number (-18_000_000)) ∧
      ((Operation.transfer (some ⟨0⟩) (some "UTC") (some (.ofMinutes (-300)))).run
        (.opened .universal)).1 = .ok (.number (-18_000_000)) ∧
      ((Operation.transfer (some ⟨0⟩) (some "UTC") none).run (.opened (.ofMinutes (-300)))).2.journal
        = ((Operation.transfer (some ⟨0⟩) (some "UTC") (some (.ofMinutes (-300)))).run
          (.opened .universal)).2.journal := by
  obtain ⟨r, records, -, hdefault, hgiven⟩ :=
    run_withZone (.transfer (some ⟨0⟩) (some "UTC") none) trivial (.ofMinutes (-300)) 0
  have hwest : (Operation.transfer (some ⟨0⟩) (some "UTC") none).run (.opened (.ofMinutes (-300)))
      = (r, Session.emitAll (.opened (.ofMinutes (-300))) records) := hdefault _ rfl rfl
  have huniversal : (Operation.transfer (some ⟨0⟩) (some "UTC") (some (.ofMinutes (-300)))).run
      (.opened .universal) = (r, Session.emitAll (.opened .universal) records) := hgiven _ rfl
  have hr : r = .ok (.number (-18_000_000)) := (congrArg Prod.fst hwest).symm.trans (by rfl)
  refine ⟨?_, ?_, ?_⟩
  · rw [hwest, hr]
  · rw [huniversal, hr]
  · rw [hwest, huniversal]
    rfl

/-! ### Whole runs -/

namespace Operation

/-- Whether an operation does not ask for the default zone: it is given the zone that it takes. -/
def Pinned (op : Operation) : Prop :=
  op ≠ .defaultZone ∧ (op.TakesZone → op.givenZone? ≠ none)

/-- An operation that is given a zone in place of none. -/
def pin (d : Zone) (op : Operation) : Operation := op.withZone (some (op.givenZone?.getD d))

/-- It makes no difference to be given the zone that is the default one. -/
theorem run_pin (op : Operation) (s : Session) : (op.pin s.defaultZone).run s = op.run s := by
  by_cases h : op.TakesZone
  · have hgiven := run_withZone_eq h op.givenZone? s
    rw [op.withZone_givenZone?] at hgiven
    rw [hgiven]
    exact run_withZone_eq h (some (op.givenZone?.getD s.defaultZone)) s
  · rw [pin, withZone_of_not_takesZone h]

theorem pinned_pin {op : Operation} (h : op ≠ .defaultZone) (d : Zone) : (op.pin d).Pinned := by
  cases op with
  | defaultZone => exact absurd rfl h
  | _ => exact ⟨by simp [pin, withZone], by simp [pin, withZone, givenZone?, TakesZone]⟩

end Operation

namespace Session

open Operation

/-- Sessions that differ in the default zone only. -/
def Alike (s t : Session) : Prop := { s with defaultZone := t.defaultZone } = t

variable {s t : Session}

/-- Sessions that are alike are one session with two default zones. -/
theorem Alike.exists_eq (h : Alike s t) :
    ∃ (u : Session) (d d' : Zone), s = { u with defaultZone := d } ∧ t = { u with defaultZone := d' } :=
  ⟨s, s.defaultZone, t.defaultZone, rfl, h.symm⟩

section Alike

variable (u : Session) (d d' : Zone)

theorem setDefaultZone_alike (c : ZoneChoice) :
    (setDefaultZone { u with defaultZone := d } c).1
        = (setDefaultZone { u with defaultZone := d' } c).1 ∧
      Alike (setDefaultZone { u with defaultZone := d } c).2
        (setDefaultZone { u with defaultZone := d' } c).2 := by
  unfold setDefaultZone
  dsimp only
  cases c.resolve u.host with
  | error f => exact ⟨rfl, rfl⟩
  | ok z => exact ⟨rfl, rfl⟩

theorem openJournal_alike (level : Level) (toFile serialize : Bool) (directory : String) :
    (openJournal { u with defaultZone := d } level toFile serialize directory).1
        = (openJournal { u with defaultZone := d' } level toFile serialize directory).1 ∧
      Alike (openJournal { u with defaultZone := d } level toFile serialize directory).2
        (openJournal { u with defaultZone := d' } level toFile serialize directory).2 := by
  unfold openJournal
  dsimp only
  split
  · exact ⟨rfl, rfl⟩
  · exact ⟨rfl, rfl⟩

theorem configure_alike (c : Settings) :
    (configure { u with defaultZone := d } c).1 = (configure { u with defaultZone := d' } c).1 ∧
      Alike (configure { u with defaultZone := d } c).2 (configure { u with defaultZone := d' } c).2 := by
  by_cases h : u.Blocked c
  · have hfailed : ∀ e, configure { u with defaultZone := e } c = _ :=
      fun e => configure_of_blocked { u with defaultZone := e } h
    rw [hfailed, hfailed]
    exact ⟨rfl, rfl⟩
  · have hset : ∀ e, configure { u with defaultZone := e } c = _ :=
      fun e => configure_eq { u with defaultZone := e } h
    rw [hset, hset]
    unfold setDefaultZone
    dsimp only
    cases c.zoneChoice.resolve u.host with
    | error f => exact ⟨rfl, rfl⟩
    | ok z => exact ⟨rfl, rfl⟩

end Alike

/-- Only the question for the default zone tells sessions apart that are alike, among the operations
that take no zone. -/
theorem run_alike_of_not_takesZone {op : Operation} (hop : op ≠ .defaultZone)
    (htakes : ¬ op.TakesZone) (h : Alike s t) :
    (op.run s).1 = (op.run t).1 ∧ Alike (op.run s).2 (op.run t).2 := by
  obtain ⟨u, d, d', rfl, rfl⟩ := h.exists_eq
  cases op with
  | defaultZone => exact absurd rfl hop
  | setDefaultZone c =>
    obtain ⟨hanswer, hset⟩ := setDefaultZone_alike u d d' c
    exact ⟨congrArg (Except.map _) hanswer, hset⟩
  | configure entries =>
    unfold run
    dsimp only
    split
    · exact ⟨rfl, rfl⟩
    · next c _ =>
      obtain ⟨hanswer, hset⟩ := configure_alike u d d' c
      exact ⟨congrArg (Except.map _) hanswer, hset⟩
  | setUpJournal level toFile serialize directory =>
    unfold run setUpJournal
    dsimp only
    split
    · exact ⟨rfl, rfl⟩
    · next l _ =>
      obtain ⟨hanswer, hset⟩ := openJournal_alike u d d' l toFile serialize directory
      exact ⟨congrArg (Except.map _) hanswer, hset⟩
  | record level module message =>
    unfold run
    dsimp only
    split
    · exact ⟨rfl, rfl⟩
    · exact ⟨rfl, rfl⟩
  | ofStamp | dateTime | wallClock | localize | writeInstant | writeDate | dateText | readInstant
  | textDate | scheduleDate | currentText | currentTimestamp | currentDate | add | addUnits | someDay
  | boundary | hourFrom | hourIndex | transfer =>
    exact absurd trivial htakes
  | _ => exact ⟨rfl, rfl⟩

/-- An operation that does not ask for the default zone does the same whatever that zone is. -/
theorem run_alike {op : Operation} (hop : op.Pinned) (h : Alike s t) :
    (op.run s).1 = (op.run t).1 ∧ Alike (op.run s).2 (op.run t).2 := by
  by_cases htakes : op.TakesZone
  · obtain ⟨u, d, d', rfl, rfl⟩ := h.exists_eq
    obtain ⟨z, hz⟩ := Option.ne_none_iff_exists'.1 (hop.2 htakes)
    have hself : op.withZone (some z) = op := by
      rw [← hz]
      exact op.withZone_givenZone?
    have hgiven : ∀ s : Session,
        op.run s = ((op.inZone s.now z).1, s.emitAll (op.inZone s.now z).2) := by
      intro s
      have hrun := run_withZone_eq htakes (some z) s
      rwa [hself] at hrun
    rw [hgiven, hgiven]
    exact ⟨rfl, rfl⟩
  · exact run_alike_of_not_takesZone hop.1 htakes h

/-- So does a run of such operations. -/
theorem runAll_alike {ops : List Operation} (hops : ∀ op ∈ ops, op.Pinned) :
    ∀ {s t : Session}, Alike s t →
      (runAll ops s).1 = (runAll ops t).1 ∧ Alike (runAll ops s).2 (runAll ops t).2 := by
  induction ops with
  | nil =>
    intro s t h
    exact ⟨rfl, h⟩
  | cons op ops ih =>
    intro s t h
    obtain ⟨hanswer, halike⟩ := run_alike (hops op List.mem_cons_self) h
    obtain ⟨hanswers, hrest⟩ := ih (fun o ho => hops o (List.mem_cons_of_mem _ ho)) halike
    rw [runAll_cons, runAll_cons, hanswer, hanswers]
    exact ⟨rfl, hrest⟩

/-- The run from a session in which every operation is given the zone that is the default one at that
point. -/
def pinAll : Session → List Operation → List Operation
  | _, [] => []
  | s, op :: ops => op.pin s.defaultZone :: pinAll (op.run s).2 ops

/-- It makes no difference to a run that every operation is given the default zone. -/
theorem runAll_pinAll (ops : List Operation) :
    ∀ s : Session, runAll (pinAll s ops) s = runAll ops s := by
  induction ops with
  | nil =>
    intro s
    rfl
  | cons op ops ih =>
    intro s
    rw [pinAll, runAll_cons, runAll_cons, op.run_pin, ih]

theorem pinned_of_mem_pinAll {ops : List Operation} (hops : ∀ op ∈ ops, op ≠ .defaultZone) :
    ∀ s, ∀ op ∈ pinAll s ops, op.Pinned := by
  induction ops with
  | nil =>
    intro s op hop
    cases hop
  | cons first ops ih =>
    intro s op hop
    rcases List.mem_cons.1 hop with rfl | hop
    · exact pinned_pin (hops first List.mem_cons_self) s.defaultZone
    · exact ih (fun o ho => hops o (List.mem_cons_of_mem _ ho)) _ op hop

/-- A run that does not tell the default zone yields the same, and leaves the same records, as the
run that is given the default zones of the first session in any session that is alike. -/
theorem runAll_eq_pinAll {ops : List Operation} (hops : ∀ op ∈ ops, op ≠ .defaultZone)
    (h : Alike s t) :
    (runAll ops s).1 = (runAll (pinAll s ops) t).1 ∧
      Alike (runAll ops s).2 (runAll (pinAll s ops) t).2 := by
  rw [← runAll_pinAll ops s]
  exact runAll_alike (pinned_of_mem_pinAll hops s) h

end Session

end CivilTime
