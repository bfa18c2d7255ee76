import CivilTime.Proofs.Outcome
import CivilTime.Session

/-!
# The default zone of a session

Two operations set the default zone: one that is given a choice, and one that puts settings into
effect. Each of them installs the zone that its arguments name, or fails; whatever fails, and every
other operation, leaves the default zone as it was. So after a run it is the zone that was installed
last. Settings are accepted only if the zone that they name is known, so they can be put into effect
unless the file that they want cannot be opened.

* `ZoneChoice.zone?`, `Operation.wantedZone?`: the zone that a choice and an operation name.
* `Operation.installed?`: the zone that an operation has installed, as far as it succeeded.
* `Session.Blocked`: that settings want a file which cannot be opened.
* `defaultZone_run`: one operation; `defaultZone_runAll`: a whole run, by induction on it.
* `Settings.exists_zone?_of_ofEntries`, `Settings.ofEntries_unknownZone`: settings that are accepted
  name a zone, and settings with an unknown one are refused.
* `Session.defaultZone_over_runs`: all this together.
-/

namespace CivilTime

/-! ### Choices and settings -/

/-- The zone that a choice names on a host. No choice and an empty identifier name that of the host; an
unknown identifier names none. -/
def ZoneChoice.zone? (host : Table) : ZoneChoice → Option Zone
  | .host => some (.hostLocal host)
  | .identifier id =>
    if id = "" then some (.hostLocal host)
    else match Zone.resolve id with
      | .ok found => found
      | .error _ => none
  | .zone z => some z

/-- Only an empty identifier is known without naming a zone. -/
theorem Zone.resolve_ne_none {id : String} (h : id ≠ "") : Zone.resolve id ≠ .ok none := by
  have hempty : ¬ id.isEmpty = true := by simpa using h
  intro hnone
  rw [resolve, if_neg hempty] at hnone
  split at hnone
  · cases hnone
  · cases hnone

/-- A choice is resolved exactly if it names a zone, and as that zone. -/
theorem ZoneChoice.resolve_eq_ok {host : Table} {c : ZoneChoice} {z : Zone} :
    c.resolve host = .ok z ↔ c.zone? host = some z := by
  cases c with
  | host => simp [resolve, zone?]
  | zone y => simp [resolve, zone?]
  | identifier id =>
    by_cases hid : id = ""
    · subst hid
      have hnone : Zone.resolve "" = .ok none := rfl
      rw [zone?, if_pos rfl, resolve, bind_of_ok hnone]
      simp [pure, Except.pure]
    · rw [zone?, if_neg hid, resolve]
      cases h : Zone.resolve id with
      | error f => simp [bind, Except.bind]
      | ok found =>
        cases found with
        | none => exact absurd h (Zone.resolve_ne_none hid)
        | some y => simp [bind, Except.bind, pure, Except.pure]

namespace Settings

/-- The choice of a default zone that settings make. -/
def zoneChoice (c : Settings) : ZoneChoice :=
  match c.zone with
  | some id => .identifier id
  | none => .host

/-- Settings that have been accepted, from named values or from a document. -/
def Accepted (c : Settings) : Prop :=
  (∃ entries, ofEntries entries = .ok c) ∨ ∃ text, ofDocument? text = .ok c

variable {entries : List (String × Value)} {c : Settings}

/-- Settings are accepted if each of them is. -/
theorem ofEntries_eq_ok : ofEntries entries = .ok c ↔
    setting entries "timezone" zoneSetting none = .ok c.zone ∧
      setting entries "log_level" levelSetting .info = .ok c.level ∧
      setting entries "log_to_file" flagSetting false = .ok c.toFile ∧
      setting entries "log_dir" pathSetting "logs" = .ok c.directory := by
  unfold ofEntries
  constructor
  · intro h
    dsimp only at h
    split at h
    · next hzone hlevel hfile hdir =>
      obtain rfl := Except.ok.inj h
      exact ⟨hzone, hlevel, hfile, hdir⟩
    · cases h
  · rintro ⟨hzone, hlevel, hfile, hdir⟩
    rw [hzone, hlevel, hfile, hdir]

/-- The identifier of a known zone is kept, and nothing else is. -/
theorem knownZone_eq_ok {id : String} {kept : Option String} (h : knownZone id = .ok kept) :
    kept = none ∨ kept = some id ∧ ∃ z, Zone.resolve id = .ok (some z) := by
  unfold knownZone at h
  split at h
  · exact .inl (Except.ok.inj h).symm
  · next z hz => exact .inr ⟨(Except.ok.inj h).symm, z, hz⟩
  · cases h

/-- Whatever is accepted as the identifier of a zone is none or that of a known zone. -/
theorem zoneSetting_eq_ok {v : Value} {kept : Option String} (h : zoneSetting v = .ok kept) :
    kept = none ∨ ∃ id z, kept = some id ∧ Zone.resolve id = .ok (some z) := by
  have hknown : ∀ id, knownZone id = .ok kept →
      kept = none ∨ ∃ id z, kept = some id ∧ Zone.resolve id = .ok (some z) := by
    intro id hid
    rcases knownZone_eq_ok hid with hnone | ⟨hsome, z, hz⟩
    · exact .inl hnone
    · exact .inr ⟨id, z, hsome, hz⟩
  unfold zoneSetting at h
  split at h
  · exact .inl (Except.ok.inj h).symm
  · exact hknown _ h
  · split at h
    · exact hknown _ h
    · cases h
  · cases h

/-- Settings of named values that are accepted name a zone. -/
theorem exists_zone?_of_ofEntries (h : ofEntries entries = .ok c) (host : Table) :
    ∃ z, c.zoneChoice.zone? host = some z := by
  obtain ⟨hzone, -⟩ := ofEntries_eq_ok.1 h
  have hkept : c.zone = none ∨ ∃ id z, c.zone = some id ∧ Zone.resolve id = .ok (some z) := by
    unfold setting at hzone
    split at hzone
    · exact zoneSetting_eq_ok hzone
    · exact .inl (Except.ok.inj hzone).symm
  rcases hkept with hnone | ⟨id, z, hsome, hz⟩
  · refine ⟨.hostLocal host, ?_⟩
    rw [zoneChoice, hnone]
    rfl
  · rw [zoneChoice, hsome]
    show ∃ z, (ZoneChoice.identifier id).zone? host = some z
    rw [ZoneChoice.zone?, hz]
    split
    · exact ⟨.hostLocal host, rfl⟩
    · exact ⟨z, rfl⟩

/-- The settings of a document are those of named values. -/
theorem exists_ofEntries_of_ofDocument? {text : Option String} (h : ofDocument? text = .ok c) :
    ∃ entries, ofEntries entries = .ok c := by
  cases text with
  | none => cases h
  | some text =>
    obtain ⟨v, -, h⟩ := bind_eq_ok.1 h
    unfold ofValue at h
    split at h
    · obtain rfl := Except.ok.inj h
      exact ⟨[], rfl⟩
    · split at h
      · split at h
        · next entries _ =>
          refine ⟨entries, ?_⟩
          cases hc : ofEntries entries with
          | error rs =>
            rw [hc] at h
            cases h
          | ok c' =>
            rw [hc] at h
            cases h
            rfl
        · cases h
      · cases h

theorem Accepted.exists_zone? (h : c.Accepted) (host : Table) :
    ∃ z, c.zoneChoice.zone? host = some z := by
  rcases h with ⟨entries, h⟩ | ⟨text, h⟩
  · exact exists_zone?_of_ofEntries h host
  · obtain ⟨entries, h⟩ := exists_ofEntries_of_ofDocument? h
    exact exists_zone?_of_ofEntries h host

/-- Settings whose zone is named by an identifier, as a text or as the bytes of one. -/
def NamesZone (entries : List (String × Value)) (id : String) : Prop :=
  ∃ v, entries.lookup "timezone" = some v ∧
    (v = .text id ∨ ∃ bs, v = .bytes bs ∧ Value.bytesText? bs = some id)

/-- Settings that name an unknown zone are refused, and the refusal says so. -/
theorem ofEntries_unknownZone {id : String} (h : NamesZone entries id) (hne : id ≠ "")
    (hunknown : ∀ z, Zone.resolve id ≠ .ok (some z)) :
    ∃ rs, ofEntries entries = .error rs ∧ ⟨"timezone", .unknownZone id⟩ ∈ rs := by
  obtain ⟨v, hv, hid⟩ := h
  have hknown : knownZone id = .error (.unknownZone id) := by
    unfold knownZone
    split
    · next h => exact absurd h (Zone.resolve_ne_none hne)
    · next z h => exact absurd h (hunknown z)
    · rfl
  have hzone : setting entries "timezone" zoneSetting none = .error (.unknownZone id) := by
    unfold setting
    rw [hv]
    rcases hid with rfl | ⟨bs, rfl, hbs⟩
    · exact hknown
    · dsimp only [zoneSetting]
      rw [hbs]
      exact hknown
  unfold ofEntries
  dsimp only
  rw [hzone]
  refine ⟨_, rfl, ?_⟩
  simp [refusal]

/-- A document whose entries are refused as settings is refused for the same reasons. -/
theorem ofDocument?_eq_error {text : String} {content : List (Value × Value)} {rs : List Refusal}
    (hcontent : Document.contentOf text = .ok (.mapping content))
    (hnames : names? content = some entries) (hrs : ofEntries entries = .error rs) :
    ofDocument? (some text) = .error (.document (some rs)) := by
  have hfull : Value.isEmpty (.mapping content) ≠ true := by
    intro hempty
    obtain rfl : content = [] := List.isEmpty_iff.1 hempty
    obtain rfl : [] = entries := Option.some.inj hnames
    cases hrs
  show (Document.contentOf text >>= ofValue) = _
  rw [bind_of_ok hcontent, ofValue, if_neg hfull]
  simp only [hnames, hrs]
  rfl

end Settings

/-! ### One operation -/

/-- The records that come with a result. -/
def leftBy {α : Type} : Except Fault (α × List Record) → List Record
  | .ok p => p.2
  | .error _ => []

namespace Operation

/-- Whether an operation is one of the two that set the default zone. -/
def SetsZone : Operation → Prop
  | .setDefaultZone _ | .configure _ => True
  | _ => False

/-- The zone that the arguments of an operation name as the default one on a host. -/
def wantedZone? (host : Table) : Operation → Option Zone
  | .setDefaultZone c => c.zone? host
  | .configure entries =>
    match Settings.ofEntries entries with
    | .ok chosen => chosen.zoneChoice.zone? host
    | .error _ => none
  | _ => none

/-- The zone that an operation has installed as the default one: what its arguments name, if it has
succeeded. -/
def installed? (host : Table) (op : Operation) : Except Fault Answer → Option Zone
  | .ok _ => op.wantedZone? host
  | .error _ => none

end Operation

namespace Session

/-- Whether settings want a file in a directory in which none can be opened. -/
def Blocked (s : Session) (c : Settings) : Prop := c.toFile = true ∧ c.directory ∈ s.sealed

instance (s : Session) (c : Settings) : Decidable (s.Blocked c) :=
  inferInstanceAs (Decidable (c.toFile = true ∧ c.directory ∈ s.sealed))

variable {α : Type} (s : Session)

theorem answerWith_eq (toAnswer : α → Answer) (r : Except Fault (α × List Record)) :
    s.answerWith toAnswer r = (r.map fun p => toAnswer p.1, s.emitAll (leftBy r)) := by
  cases r with
  | error f => rfl
  | ok p => rfl

/-- A choice is installed if it names a zone. -/
theorem setDefaultZone_of_zone? {c : ZoneChoice} {z : Zone} (h : c.zone? s.host = some z) :
    s.setDefaultZone c = (.ok z, { s with defaultZone := z }.emit (zoneRecord z)) := by
  rw [setDefaultZone, ZoneChoice.resolve_eq_ok.2 h]

/-- A choice that names no zone fails and changes nothing. -/
theorem setDefaultZone_of_none {c : ZoneChoice} (h : c.zone? s.host = none) :
    ∃ f, s.setDefaultZone c = (.error f, s) := by
  cases hc : c.resolve s.host with
  | error f =>
    refine ⟨f, ?_⟩
    rw [setDefaultZone, hc]
  | ok z =>
    rw [ZoneChoice.resolve_eq_ok.1 hc] at h
    cases h

theorem host_setDefaultZone (c : ZoneChoice) : (s.setDefaultZone c).2.host = s.host := by
  unfold setDefaultZone
  split
  · rfl
  · rfl

section Journal

variable (level : Level) (toFile serialize : Bool) (directory : String)

theorem openJournal_of_sealed (h : toFile = true ∧ directory ∈ s.sealed) :
    s.openJournal level toFile serialize directory = (.error (.noLogFile directory),
      { s with journal := (s.journal.setUp level false).2 }) := if_pos h

theorem openJournal_of_not_sealed (h : ¬ (toFile = true ∧ directory ∈ s.sealed)) :
    s.openJournal level toFile serialize directory = (.ok (s.journal.setUp level toFile serialize).1,
      { s with journal := (s.journal.setUp level toFile serialize).2 }) := if_neg h

/-- Opening the journal changes nothing else. -/
theorem openJournal_snd :
    ∃ journal, (s.openJournal level toFile serialize directory).2 = { s with journal := journal } := by
  by_cases h : toFile = true ∧ directory ∈ s.sealed
  · rw [s.openJournal_of_sealed level toFile serialize directory h]
    exact ⟨_, rfl⟩
  · rw [s.openJournal_of_not_sealed level toFile serialize directory h]
    exact ⟨_, rfl⟩

theorem setUpJournal_snd (name : String) :
    ∃ journal, (s.setUpJournal name toFile serialize directory).2 = { s with journal := journal } := by
  unfold setUpJournal
  split
  · exact ⟨_, rfl⟩
  · exact s.openJournal_snd _ toFile serialize directory

end Journal

/-- Settings whose file cannot be opened fail before their zone is looked at. -/
theorem configure_of_blocked {c : Settings} (h : s.Blocked c) : s.configure c
    = (.error (.noLogFile c.directory), { s with journal := (s.journal.setUp c.level false).2 }) := by
  unfold configure
  rw [s.openJournal_of_sealed _ _ _ _ h]

/-- Other settings are put into effect by setting up the journal and then the zone that they choose. -/
theorem configure_eq {c : Settings} (h : ¬ s.Blocked c) : s.configure c =
    match setDefaultZone { s with journal := (s.journal.setUp c.level c.toFile).2 } c.zoneChoice with
    | (.error f, s) => (.error f, s)
    | (.ok z, s') =>
      (.ok (z, (s.journal.setUp c.level c.toFile).1), s'.emit (configuredRecord z)) := by
  unfold configure
  rw [s.openJournal_of_not_sealed _ _ _ _ h]
  rfl

/-- Settings that name a zone are put into effect, and then that zone is the default one. -/
theorem configure_of_zone? {c : Settings} {z : Zone} (h : ¬ s.Blocked c)
    (hz : c.zoneChoice.zone? s.host = some z) :
    ∃ ids, (s.configure c).1 = .ok (z, ids) ∧ (s.configure c).2.defaultZone = z := by
  have hset := setDefaultZone_of_zone?
    { s with journal := (s.journal.setUp c.level c.toFile).2 } hz
  rw [s.configure_eq h, hset]
  exact ⟨_, rfl, rfl⟩

theorem host_configure (c : Settings) : (s.configure c).2.host = s.host := by
  by_cases h : s.Blocked c
  · rw [s.configure_of_blocked h]
  · have hset := host_setDefaultZone
      { s with journal := (s.journal.setUp c.level c.toFile).2 } c.zoneChoice
    rw [s.configure_eq h]
    split
    · next hrun => rwa [hrun] at hset
    · next hrun => rwa [hrun] at hset

end Session

namespace Operation

/-- Whether an operation puts settings into effect whose file cannot be opened. -/
def IsBlocked (op : Operation) (s : Session) : Prop :=
  ∃ entries c, op = .configure entries ∧ Settings.ofEntries entries = .ok c ∧ s.Blocked c

variable (op : Operation) (s : Session)

/-- An operation that does not set the default zone changes only the journal, the clock and the
directories in which no file can be opened. -/
theorem run_snd_of_not_setsZone (h : ¬ op.SetsZone) :
    ∃ clock sealed journal, (op.run s).2 = { s with clock, sealed, journal } := by
  cases op with
  | setDefaultZone c => exact absurd trivial h
  | configure entries => exact absurd trivial h
  | currentDate tz => exact ⟨_, _, _, congrArg Prod.snd (s.answerWith_eq _ _)⟩
  | transfer d target tz => exact ⟨_, _, _, congrArg Prod.snd (s.answerWith_eq _ _)⟩
  | setUpJournal level toFile serialize directory =>
    obtain ⟨journal, hset⟩ := s.setUpJournal_snd toFile serialize directory level
    exact ⟨_, _, journal, hset⟩
  | record level module message =>
    unfold run
    dsimp only
    split
    · exact ⟨_, _, _, rfl⟩
    · exact ⟨_, _, _, rfl⟩
  | _ => exact ⟨_, _, _, rfl⟩

theorem defaultZone_run_of_not_setsZone (h : ¬ op.SetsZone) :
    (op.run s).2.defaultZone = s.defaultZone := by
  obtain ⟨_, _, _, hset⟩ := op.run_snd_of_not_setsZone s h
  rw [hset]

/-- An operation that sets the default zone installs what its arguments name, or it fails and leaves the
default zone. It fails only if its arguments name no zone or the file that they want cannot be opened. -/
theorem run_of_setsZone (h : op.SetsZone) :
    (∃ z a, op.wantedZone? s.host = some z ∧ (op.run s).1 = .ok a ∧ (op.run s).2.defaultZone = z) ∨
      ∃ f, (op.run s).1 = .error f ∧ (op.run s).2.defaultZone = s.defaultZone ∧
        (op.wantedZone? s.host = none ∨ op.IsBlocked s) := by
  cases op with
  | setDefaultZone c =>
    cases hc : c.zone? s.host with
    | none =>
      right
      obtain ⟨f, hf⟩ := s.setDefaultZone_of_none hc
      refine ⟨f, ?_, ?_, .inl hc⟩
      · show (s.setDefaultZone c).1.map _ = _
        rw [hf]
        rfl
      · show (s.setDefaultZone c).2.defaultZone = _
        rw [hf]
    | some z =>
      left
      have hset := s.setDefaultZone_of_zone? hc
      refine ⟨z, .zone z none, hc, ?_, ?_⟩
      · show (s.setDefaultZone c).1.map _ = _
        rw [hset]
        rfl
      · show (s.setDefaultZone c).2.defaultZone = _
        rw [hset]
        rfl
  | configure entries =>
    cases he : Settings.ofEntries entries with
    | error rs =>
      right
      refine ⟨.settings rs, ?_, ?_, .inl ?_⟩
      · rw [run, he]
      · rw [run, he]
      · rw [wantedZone?, he]
    | ok c =>
      by_cases hblocked : s.Blocked c
      · right
        have hset := s.configure_of_blocked hblocked
        refine ⟨.noLogFile c.directory, ?_, ?_, .inr ⟨entries, c, rfl, he, hblocked⟩⟩
        · rw [run, he]
          show (s.configure c).1.map _ = _
          rw [hset]
          rfl
        · rw [run, he]
          show (s.configure c).2.defaultZone = _
          rw [hset]
      · left
        obtain ⟨z, hz⟩ := Settings.exists_zone?_of_ofEntries he s.host
        obtain ⟨ids, hids, hset⟩ := s.configure_of_zone? hblocked hz
        refine ⟨z, .configured z ids, ?_, ?_, ?_⟩
        · rw [wantedZone?, he]
          exact hz
        · rw [run, he]
          show (s.configure c).1.map _ = _
          rw [hids]
          rfl
        · rw [run, he]
          exact hset
  | _ => exact absurd h id

theorem wantedZone?_of_not_setsZone (h : ¬ op.SetsZone) (host : Table) :
    op.wantedZone? host = none := by
  cases op with
  | setDefaultZone c => exact absurd trivial h
  | configure entries => exact absurd trivial h
  | _ => rfl

/-- After an operation the default zone is the one that it has installed, or the one before it. -/
theorem defaultZone_run :
    (op.run s).2.defaultZone = (op.installed? s.host (op.run s).1).getD s.defaultZone := by
  by_cases h : op.SetsZone
  · rcases op.run_of_setsZone s h with ⟨z, a, hz, ha, hset⟩ | ⟨f, hf, hset, -⟩
    · rw [hset, ha, installed?, hz]
      rfl
    · rw [hset, hf]
      rfl
  · rw [op.defaultZone_run_of_not_setsZone s h]
    cases (op.run s).1 with
    | error f => rfl
    | ok a =>
      rw [installed?, op.wantedZone?_of_not_setsZone h]
      rfl

/-- No operation moves to another host. -/
theorem host_run : (op.run s).2.host = s.host := by
  by_cases h : op.SetsZone
  · cases op with
    | setDefaultZone c => exact s.host_setDefaultZone c
    | configure entries =>
      cases he : Settings.ofEntries entries with
      | error rs => rw [run, he]
      | ok c =>
        rw [run, he]
        exact s.host_configure c
    | _ => exact absurd h id
  · obtain ⟨_, _, _, hset⟩ := op.run_snd_of_not_setsZone s h
    rw [hset]

end Operation

/-! ### Whole runs -/

namespace Session

/-- The zone that the steps of a run have installed last on a host. -/
def lastInstalled? (host : Table) (steps : List (Operation × Except Fault Answer)) : Option Zone :=
  (steps.filterMap fun step => step.1.installed? host step.2).getLast?

theorem runAll_cons (op : Operation) (ops : List Operation) (s : Session) :
    runAll (op :: ops) s
      = ((op.run s).1 :: (runAll ops (op.run s).2).1, (runAll ops (op.run s).2).2) := rfl

theorem lastInstalled?_cons (host : Table) (op : Operation) (r : Except Fault Answer)
    (steps : List (Operation × Except Fault Answer)) (z : Zone) :
    (lastInstalled? host ((op, r) :: steps)).getD z
      = (lastInstalled? host steps).getD ((op.installed? host r).getD z) := by
  unfold lastInstalled?
  cases h : op.installed? host r with
  | none => simp [h]
  | some y =>
    simp only [List.filterMap_cons, h, List.getLast?_cons]
    rfl

/-- After a run the default zone is the one installed last, or the one before the run. -/
theorem defaultZone_runAll (ops : List Operation) :
    ∀ s : Session, (runAll ops s).2.defaultZone
      = (lastInstalled? s.host (ops.zip (runAll ops s).1)).getD s.defaultZone := by
  induction ops with
  | nil =>
    intro s
    rfl
  | cons op ops ih =>
    intro s
    rw [runAll_cons]
    show (runAll ops (op.run s).2).2.defaultZone
      = (lastInstalled? s.host ((op, (op.run s).1) :: ops.zip (runAll ops (op.run s).2).1)).getD _
    rw [ih, lastInstalled?_cons, ← op.defaultZone_run s, op.host_run s]

/-- After every run the default zone is the one that the last successful operation of the two that
set it has installed, or the one before the run, which is at first that of the host, if there was none:
an operation of another kind and one that fails leave it, and one of the two that succeeds installs what
its arguments name. The two fail only if that is no zone or if a file cannot be opened. Settings that
have been accepted are put into effect in every session, unless they want a file that cannot be opened,
and the zone they yield is the one that is told as the default one afterwards; if the file cannot be
opened, that is why they fail, and the default zone stays. Settings with an identifier that is not empty
and names no zone are refused, and so is a document that holds them. -/
theorem defaultZone_over_runs :
    (∀ (ops : List Operation) (s : Session), (runAll ops s).2.defaultZone
      = (lastInstalled? s.host (ops.zip (runAll ops s).1)).getD s.defaultZone) ∧
    (∀ host : Table, ({ host := host } : Session).defaultZone = .hostLocal host) ∧
    (∀ (op : Operation) (s : Session), (¬ op.SetsZone ∨ ∃ f, (op.run s).1 = .error f) →
      (op.run s).2.defaultZone = s.defaultZone) ∧
    (∀ (op : Operation) (s : Session) (a : Answer), op.SetsZone → (op.run s).1 = .ok a →
      op.wantedZone? s.host = some (op.run s).2.defaultZone) ∧
    (∀ (op : Operation) (s : Session) (f : Fault), op.SetsZone → (op.run s).1 = .error f →
      op.wantedZone? s.host = none ∨ op.IsBlocked s) ∧
    (∀ (c : Settings), c.Accepted → ∀ s : Session,
      (¬ s.Blocked c → ∃ z ids, (s.configure c).1 = .ok (z, ids) ∧
        c.zoneChoice.zone? s.host = some z ∧
        (Operation.defaultZone.run (s.configure c).2).1 = .ok (.zone z none)) ∧
      (s.Blocked c → (s.configure c).1 = .error (.noLogFile c.directory) ∧
        (s.configure c).2.defaultZone = s.defaultZone)) ∧
    (∀ (entries : List (String × Value)) (id : String), Settings.NamesZone entries id → id ≠ "" →
      (∀ z, Zone.resolve id ≠ .ok (some z)) →
      ∃ rs, Settings.ofEntries entries = .error rs ∧ ⟨"timezone", .unknownZone id⟩ ∈ rs ∧
        ∀ text content, Document.contentOf text = .ok (.mapping content) →
          Settings.names? content = some entries →
          Settings.ofDocument? (some text) = .error (.document (some rs))) := by
  refine ⟨fun ops s => defaultZone_runAll ops s, fun host => rfl, ?_, ?_, ?_, ?_, ?_⟩
  · rintro op s (hother | ⟨f, hf⟩)
    · exact op.defaultZone_run_of_not_setsZone s hother
    · rw [op.defaultZone_run, hf]
      rfl
  · intro op s a hsets ha
    rcases op.run_of_setsZone s hsets with ⟨z, -, hz, -, hset⟩ | ⟨f, hf, -⟩
    · rw [hz, hset]
    · rw [hf] at ha
      cases ha
  · intro op s f hsets hf
    rcases op.run_of_setsZone s hsets with ⟨z, a, -, ha, -⟩ | ⟨-, -, -, hwhy⟩
    · rw [ha] at hf
      cases hf
    · exact hwhy
  · intro c hc s
    constructor
    · intro hopen
      obtain ⟨z, hz⟩ := hc.exists_zone? s.host
      obtain ⟨ids, hids, hset⟩ := s.configure_of_zone? hopen hz
      refine ⟨z, ids, hids, hz, ?_⟩
      show Except.ok (Answer.zone (s.configure c).2.defaultZone none) = _
      rw [hset]
    · intro hblocked
      rw [s.configure_of_blocked hblocked]
      exact ⟨rfl, rfl⟩
  · intro entries id hnamed hne hunknown
    obtain ⟨rs, hrs, hmem⟩ := Settings.ofEntries_unknownZone hnamed hne hunknown
    refine ⟨rs, hrs, hmem, ?_⟩
    intro text content hcontent hnames
    exact Settings.ofDocument?_eq_error hcontent hnames hrs

/-- A host that keeps the time of Greenwich and has one directory without room. -/
def greenwich : Session where
  host := ⟨⟨0, false⟩, [⟨57_722_400, ⟨3600, false⟩⟩]⟩
  sealed := ["/full"]

/-- Two zones are installed and three operations fail after them, one of them for its directory; the
second of the two zones stays. Settings with the name that failed are refused. -/
theorem defaultZone_over_runs_failures :
    (runAll [.setDefaultZone (.identifier "EST"), .configure [("timezone", .text "UTC")],
      .setDefaultZone (.identifier "Ñ"), .configure [("log_level", .text "LOUD")],
      .configure [("timezone", .text "EST"), ("log_to_file", .flag true),
        ("log_dir", .text "/full")]] greenwich).2.defaultZone = .universal ∧
    (∃ rs, Settings.ofEntries [("timezone", .text "Ñ")] = .error rs ∧
      ⟨"timezone", .unknownZone "Ñ"⟩ ∈ rs) ∧
    (∃ z ids, (greenwich.configure { zone := some "EST" }).1 = .ok (z, ids) ∧
      (Operation.defaultZone.run (greenwich.configure { zone := some "EST" }).2).1
        = .ok (.zone z none)) ∧
    (greenwich.configure { zone := some "EST", toFile := true, directory := "/full" }).2.defaultZone
      = .hostLocal greenwich.host := by
  obtain ⟨hruns, -, -, -, -, haccepted, hrefused⟩ := defaultZone_over_runs
  have hunknown : Zone.resolve "Ñ" = .error (.unknownZone "Ñ") := by rfl
  refine ⟨?_, ?_, ?_, ?_⟩
  · rw [hruns]
    rfl
  · obtain ⟨rs, hrs, hmem, -⟩ := hrefused [("timezone", .text "Ñ")] "Ñ"
      ⟨.text "Ñ", by rfl, .inl rfl⟩ (by decide) (by intro z h; rw [hunknown] at h; cases h)
    exact ⟨rs, hrs, hmem⟩
  · obtain ⟨hopen, -⟩ := haccepted { zone := some "EST" }
      (.inl ⟨[("timezone", .text "EST")], by rfl⟩) greenwich
    obtain ⟨z, ids, hids, -, htold⟩ := hopen (by decide)
    exact ⟨z, ids, hids, htold⟩
  · have hentries : Settings.ofEntries [("timezone", .text "EST"), ("log_to_file", .flag true),
        ("log_dir", .text "/full")]
        = .ok { zone := some "EST", toFile := true, directory := "/full" } := by rfl
    obtain ⟨-, hblocked⟩ := haccepted _ (.inl ⟨_, hentries⟩) greenwich
    exact (hblocked (by decide)).2

end Session

end CivilTime
