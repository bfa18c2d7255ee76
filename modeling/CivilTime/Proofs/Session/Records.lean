import CivilTime.Proofs.Journal
import CivilTime.Proofs.Session.DefaultZone

/-!
# The records of a run

An operation leaves records, and which ones depends on its arguments, the default zone and the clock,
not on the sinks that take them. So a run that leaves the sinks alone emits one list of records whatever
the sinks are, and two sinks differ only in what they admit of it: the file holds what the console holds
of this library, and with a higher threshold both hold what is left of the same records.

* `Operation.KeepsSinks`: the operations that leave the sinks alone.
* `Operation.records`, `Session.records`: the records of an operation and of a run, by the default zone
  and the clock.
* `Operation.run_of_keepsSinks`: all that such an operation does to a session.
* `Session.journal_runAll`: a whole run, by induction on it.
* `Session.numbered_runAll`: runs of all operations keep the numbers of sinks apart.
* `Session.logged`, `Session.file_own_console`: a console and a file, and the steps after their set-up.
-/

namespace CivilTime

/-! ### One operation -/

namespace Session

variable (s : Session)

theorem numbered_openJournal (h : s.journal.Numbered) (level : Level) (toFile serialize : Bool)
    (directory : String) :
    (s.openJournal level toFile serialize directory).2.journal.Numbered := by
  by_cases hsealed : toFile = true ∧ directory ∈ s.sealed
  · rw [s.openJournal_of_sealed level toFile serialize directory hsealed]
    exact h.setUp level false false
  · rw [s.openJournal_of_not_sealed level toFile serialize directory hsealed]
    exact h.setUp level toFile serialize

theorem numbered_configure (h : s.journal.Numbered) (c : Settings) :
    (s.configure c).2.journal.Numbered := by
  by_cases hblocked : s.Blocked c
  · rw [s.configure_of_blocked hblocked]
    exact h.setUp c.level false false
  · rw [s.configure_eq hblocked]
    have hset := h.setUp c.level c.toFile false
    unfold setDefaultZone
    cases c.zoneChoice.resolve s.host with
    | error f => exact hset
    | ok z => exact (hset.emit _).emit _

end Session

namespace Operation

/-- Whether an operation neither sets up the journal nor closes it. Settings that are refused never come
to set it up. -/
def KeepsSinks : Operation → Prop
  | .configure entries => ∃ refusals, Settings.ofEntries entries = .error refusals
  | .setUpJournal .. | .closeJournal => False
  | _ => True

/-- The time that an operation sets the clock to. -/
def clock? : Operation → Option Int
  | .setClock n => some n
  | _ => none

/-- The directories that an operation says no file can be opened in. -/
def sealed? : Operation → Option (List String)
  | .seal directories => some directories
  | _ => none

/-- The records that an operation leaves where `d` is the default zone: texts that could not be read,
readings that have been moved, a default zone that has been set, and records of other modules. -/
def records (op : Operation) (host : Table) (d : Zone) (clock : Int) : List Record :=
  match op with
  | .readInstant text p tz => (CivilTime.readInstant text p d tz).2
  | .textDate text tz => (CivilTime.textDate text d tz).2
  | .scheduleDate text tz => (CivilTime.scheduleDate text d tz).2
  | .currentDate tz => leftBy (CivilTime.currentDate ⟨clock / 1_000_000⟩ d tz)
  | .transfer date target tz => leftBy (transferDate date target d tz)
  | .setDefaultZone c => ((c.zone? host).map Session.zoneRecord).toList
  | .record level module message =>
    ((Level.ofName? level).map fun l => ⟨l, module, "emit", message, none⟩).toList
  | _ => []

variable {op : Operation}

/-- An operation that leaves the sinks alone sets the default zone, the clock or the directories in which
no file can be opened, or leaves them, and emits its records. -/
theorem run_of_keepsSinks (h : op.KeepsSinks) (s : Session) :
    (op.run s).2 = ⟨s.host, (op.wantedZone? s.host).getD s.defaultZone, op.clock?.getD s.clock,
      op.sealed?.getD s.sealed, s.journal.emitAll (op.records s.host s.defaultZone s.clock)⟩ := by
  cases op with
  | setUpJournal | closeJournal => exact absurd h id
  | configure entries =>
    obtain ⟨refusals, hrefused⟩ := h
    rw [run, wantedZone?, hrefused]
    rfl
  | currentDate tz => exact congrArg Prod.snd (s.answerWith_eq _ _)
  | transfer date target tz => exact congrArg Prod.snd (s.answerWith_eq _ _)
  | setDefaultZone c =>
    show (s.setDefaultZone c).2 = _
    cases hc : c.zone? s.host with
    | some z =>
      rw [s.setDefaultZone_of_zone? hc]
      simp only [wantedZone?, records, hc]
      rfl
    | none =>
      obtain ⟨f, hf⟩ := s.setDefaultZone_of_none hc
      rw [hf]
      simp only [wantedZone?, records, hc]
      rfl
  | record level module message =>
    unfold run
    dsimp only [records]
    cases Level.ofName? level with
    | none => rfl
    | some l => rfl
  | _ => rfl

/-- Whatever an operation does, it keeps the numbers of sinks apart. -/
theorem numbered_run (op : Operation) {s : Session} (h : s.journal.Numbered) :
    (op.run s).2.journal.Numbered := by
  by_cases hkeeps : op.KeepsSinks
  · rw [run_of_keepsSinks hkeeps]
    exact h.emitAll _
  · cases op with
    | closeJournal => exact h.removeAll
    | setUpJournal level toFile serialize directory =>
      show (s.setUpJournal level toFile serialize directory).2.journal.Numbered
      unfold Session.setUpJournal
      split
      · exact h.removeAll
      · exact s.numbered_openJournal h _ toFile serialize directory
    | configure entries =>
      unfold run
      dsimp only
      split
      · exact h
      · next c _ => exact s.numbered_configure h c
    | _ => exact absurd trivial hkeeps

end Operation

/-! ### Whole runs -/

namespace Session

variable {start s : Session} {earlier steps : List Operation}

/-- The records that steps leave one after the other on a host. -/
def records (host : Table) : List Operation → Zone → Int → List Record
  | [], _, _ => []
  | op :: ops, d, clock =>
    op.records host d clock
      ++ records host ops ((op.wantedZone? host).getD d) (op.clock?.getD clock)

/-- A run that leaves the sinks alone emits its records, whatever the sinks are. -/
theorem journal_runAll (hsteps : ∀ op ∈ steps, op.KeepsSinks) (s : Session) :
    (runAll steps s).2.journal = s.journal.emitAll (records s.host steps s.defaultZone s.clock) := by
  induction steps generalizing s with
  | nil => rfl
  | cons op ops ih =>
    obtain ⟨hop, hops⟩ := List.forall_mem_cons.1 hsteps
    rw [runAll_cons, records, Journal.emitAll_append]
    show (runAll ops (op.run s).2).2.journal = _
    rw [ih hops, op.run_of_keepsSinks hop]

theorem numbered_runAll (h : s.journal.Numbered) (ops : List Operation) :
    (runAll ops s).2.journal.Numbered := by
  induction ops generalizing s with
  | nil => exact h
  | cons op ops ih =>
    rw [runAll_cons]
    exact ih (op.numbered_run h)

/-! ### A console and a file -/

/-- The journal after steps that follow its set-up with a console and a file. -/
def logged (s : Session) (level : Level) (serialize : Bool) (directory : String)
    (steps : List Operation) : Journal :=
  (runAll steps ((Operation.setUpJournal level.name true serialize directory).run s).2).2.journal

variable {directory : String}

/-- A level has its own name, so a console and a file are set up. -/
theorem setUpJournal_name (s : Session) (level : Level) (serialize : Bool)
    (hopen : directory ∉ s.sealed) :
    (Operation.setUpJournal level.name true serialize directory).run s
      = (.ok (.sinks [s.journal.nextId, s.journal.nextId + 1]),
        { s with journal := (s.journal.setUp level true serialize).2 }) := by
  have hset : s.setUpJournal level.name true serialize directory
      = (.ok [s.journal.nextId, s.journal.nextId + 1],
        { s with journal := (s.journal.setUp level true serialize).2 }) := by
    rw [setUpJournal, level.ofName?_name]
    exact s.openJournal_of_not_sealed level true serialize directory fun h => hopen h.2
  show ((s.setUpJournal level.name true serialize directory).1.map Answer.sinks,
    (s.setUpJournal level.name true serialize directory).2) = _
  rw [hset]
  rfl

theorem logged_eq (hsteps : ∀ op ∈ steps, op.KeepsSinks) (s : Session) (level : Level)
    (serialize : Bool) (hopen : directory ∉ s.sealed) :
    s.logged level serialize directory steps = (s.journal.setUp level true serialize).2.emitAll
      (records s.host steps s.defaultZone s.clock) := by
  rw [logged, setUpJournal_name s level serialize hopen, journal_runAll hsteps]

/-- After a console and a file have been set up in a session, at whatever level and in whatever directory
that takes a file, and steps have been run that leave the sinks alone, the console holds the records of
the steps from that level on. The file holds those of them whose module has this library as its first
part, and no others, in the form that was asked for. Had the level been higher, both would hold what they
hold now from that level on. -/
theorem file_own_console (hstart : start.journal.Numbered) (hs : (runAll earlier start).2 = s)
    (hsteps : ∀ op ∈ steps, op.KeepsSinks) (hopen : directory ∉ s.sealed) :
    ∃ console file, ∀ (level : Level) (serialize : Bool),
      ((Operation.setUpJournal level.name true serialize directory).run s).1
        = .ok (.sinks [console, file]) ∧
      (s.logged level serialize directory steps).delivered console
        = (records s.host steps s.defaultZone s.clock).filter
          (fun r => level.severity ≤ r.level.severity) ∧
      (s.logged level serialize directory steps).delivered file
        = ((s.logged level serialize directory steps).delivered console).filter
          (fun r => r.package = "schedtime".toList) ∧
      (∀ (wording : Fault → String) (forMachines : Record → String),
        (s.logged level serialize directory steps).lines wording forMachines file
          = ((s.logged level serialize directory steps).delivered file).map
            (if serialize then forMachines else Record.line wording)) ∧
      ∀ (higher : Level) (serialize' : Bool), level.severity ≤ higher.severity →
        (s.logged higher serialize' directory steps).delivered console
          = ((s.logged level serialize directory steps).delivered console).filter
            (fun r => higher.severity ≤ r.level.severity) ∧
        (s.logged higher serialize' directory steps).delivered file
          = ((s.logged level serialize directory steps).delivered file).filter
            (fun r => higher.severity ≤ r.level.severity) := by
  have hnumbered : s.journal.Numbered := by
    rw [← hs]
    exact numbered_runAll hstart earlier
  refine ⟨s.journal.nextId, s.journal.nextId + 1, ?_⟩
  intro level serialize
  simp only [logged_eq hsteps s _ _ hopen, Journal.delivered_console _ _ hnumbered,
    Journal.delivered_file _ _ hnumbered, Journal.lines_file _ _ hnumbered]
  refine ⟨?_, trivial, ?_, fun _ _ => trivial, ?_⟩
  · rw [setUpJournal_name s level serialize hopen]
  · refine List.filter_congr fun r _ => ?_
    rw [Bool.eq_iff_iff, Record.isOwn, beq_iff_eq, decide_eq_true_iff]
  · intro higher serialize' hle
    have hfrom : ∀ rs : List Record, (rs.filter fun r => level.severity ≤ r.level.severity).filter
          (fun r => higher.severity ≤ r.level.severity)
        = rs.filter fun r => higher.severity ≤ r.level.severity := by
      intro rs
      rw [List.filter_filter]
      refine List.filter_congr fun r _ => ?_
      rw [← Bool.decide_and, decide_eq_decide]
      omega
    refine ⟨(hfrom _).symm, ?_⟩
    rw [List.filter_comm _ Record.isOwn, hfrom]

/-- A text that is not written as its reading, records of modules whose names only look like this
library's, one of a module under it, and a default zone that is unknown. -/
def mixedSteps : List Operation :=
  [.readInstant (.text "2020-1-01") (.text "yyyy-MM-dd") none, .record "ERROR" "schedtimex" "lost",
    .record "ERROR" "a.schedtime" "lost", .record "INFO" "schedtime.jobs" "done",
    .setDefaultZone (.identifier "Ñ")]

/-- A session whose journal has been set up before. -/
def reopened : Session := (runAll [.setUpJournal "DEBUG" true] {}).2

/-- Of four records on the console two are in the file, and one of these from errors on. -/
theorem file_own_console_mixedSteps :
    ∃ console file,
      ((Operation.setUpJournal "INFO" true false "logs").run reopened).1
        = .ok (.sinks [console, file]) ∧
      ((reopened.logged .info false "logs" mixedSteps).delivered console).map (·.module)
        = ["schedtime.formatting.formatter", "schedtimex", "a.schedtime", "schedtime.jobs"] ∧
      ((reopened.logged .info false "logs" mixedSteps).delivered file).map (·.module)
        = ["schedtime.formatting.formatter", "schedtime.jobs"] ∧
      (reopened.logged .info false "logs" mixedSteps).lines Fault.kind Record.message file
        = ["ERROR    | schedtime.formatting.formatter:parse - Error while parsing date '2020-1-01' "
            ++ "with pattern 'yyyy-MM-dd': '2020-1-01' does not match pattern 'yyyy-MM-dd'",
          "INFO     | schedtime.jobs:emit - done"] ∧
      ((reopened.logged .error true "logs" mixedSteps).delivered file).map (·.module)
        = ["schedtime.formatting.formatter"] := by
  have hstart : ({} : Session).journal.Numbered := Journal.numbered_empty
  have hs : (runAll [.setUpJournal "DEBUG" true] {}).2 = reopened := rfl
  have hsteps : ∀ op ∈ mixedSteps, op.KeepsSinks := by simp [mixedSteps, Operation.KeepsSinks]
  have hopen : "logs" ∉ reopened.sealed := List.not_mem_nil
  have hrecords : records reopened.host mixedSteps reopened.defaultZone reopened.clock
      = [unreadRecord (.text "2020-1-01") (.text "yyyy-MM-dd")
          (.mismatch "2020-1-01".toList "yyyy-MM-dd".toList),
        ⟨.error, "schedtimex", "emit", "lost", none⟩, ⟨.error, "a.schedtime", "emit", "lost", none⟩,
        ⟨.info, "schedtime.jobs", "emit", "done", none⟩] := by decide +kernel
  obtain ⟨console, file, hboth⟩ := file_own_console hstart hs hsteps hopen
  obtain ⟨hset, hconsole, hfile, hlines, hhigher⟩ := hboth .info false
  obtain ⟨-, hfewer⟩ := hhigher .error true (by decide)
  rw [hrecords] at hconsole
  refine ⟨console, file, hset, ?_, ?_, ?_, ?_⟩
  · rw [hconsole]
    decide +kernel
  · rw [hfile, hconsole]
    decide +kernel
  · rw [hlines, hfile, hconsole]
    decide +kernel
  · rw [hfewer, hfile, hconsole]
    decide +kernel

end Session

end CivilTime
