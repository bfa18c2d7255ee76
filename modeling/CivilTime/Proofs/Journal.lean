import CivilTime.Journal
import Mathlib.Data.List.Basic

/-!
# What sinks are delivered

A sink is delivered the records that are emitted while it is installed and that it admits, in their
order and each once. Sinks are numbered as they are installed and no number is used twice, so a sink
that has just been installed has been delivered nothing.

* `Journal.Numbered`: a journal all of whose numbers have been given out, which every operation on it
  preserves.
* `Journal.delivered_of_le`: a number that has not been given out yet.
* `Journal.delivered_emitAll`, `Journal.delivered_installed`: what a sink is delivered of records.
* `Journal.delivered_console`, `Journal.delivered_file`, `Journal.lines_file`: a console and a file that
  have been set up.
-/

namespace CivilTime

namespace Journal

variable {j : Journal} {id : Nat} {sink : Sink}

/-! ### Numbers -/

/-- Whether all numbers of sinks in a journal have been given out. -/
structure Numbered (j : Journal) : Prop where
  sinks : ∀ sink ∈ j.sinks, sink.id < j.nextId
  deliveries : ∀ d ∈ j.deliveries, d.1 < j.nextId
  serialized : ∀ id ∈ j.serialized, id < j.nextId

theorem numbered_empty : Numbered {} :=
  ⟨fun _ h => absurd h List.not_mem_nil, fun _ h => absurd h List.not_mem_nil,
    fun _ h => absurd h List.not_mem_nil⟩

theorem Numbered.removeAll (h : j.Numbered) : j.removeAll.Numbered :=
  ⟨fun _ hmem => absurd hmem List.not_mem_nil, h.deliveries, h.serialized⟩

theorem Numbered.install (h : j.Numbered) (threshold : Nat) (ownOnly : Bool) :
    (j.install threshold ownOnly).Numbered := by
  refine ⟨?_, ?_, ?_⟩
  · intro sink hsink
    rcases List.mem_append.1 hsink with hold | hnew
    · exact Nat.lt_succ_of_lt (h.sinks sink hold)
    · rw [List.mem_singleton.1 hnew]
      exact Nat.lt_succ_self j.nextId
  · intro d hd
    exact Nat.lt_succ_of_lt (h.deliveries d hd)
  · intro id hid
    exact Nat.lt_succ_of_lt (h.serialized id hid)

/-- A record is delivered to sinks that are installed. -/
theorem Numbered.emit (h : j.Numbered) (r : Record) : (j.emit r).Numbered := by
  refine ⟨h.sinks, ?_, h.serialized⟩
  intro d hd
  rcases List.mem_append.1 hd with hold | hnew
  · exact h.deliveries d hold
  · obtain ⟨sink, hsink, rfl⟩ := List.mem_map.1 hnew
    exact h.sinks sink (List.mem_filter.1 hsink).1

theorem emitAll_cons (j : Journal) (r : Record) (rs : List Record) :
    j.emitAll (r :: rs) = (j.emit r).emitAll rs := rfl

theorem emitAll_append (j : Journal) (rs ss : List Record) :
    j.emitAll (rs ++ ss) = (j.emitAll rs).emitAll ss := List.foldl_append

theorem Numbered.emitAll (h : j.Numbered) (rs : List Record) : (j.emitAll rs).Numbered := by
  induction rs generalizing j with
  | nil => exact h
  | cons r rs ih =>
    rw [emitAll_cons]
    exact ih (h.emit r)

theorem Numbered.setUp (h : j.Numbered) (level : Level) (toFile serialize : Bool) :
    (j.setUp level toFile serialize).2.Numbered := by
  have hconsole := h.removeAll.install level.severity false
  have hfile := hconsole.install level.severity true
  cases toFile with
  | false => exact hconsole
  | true =>
    cases serialize with
    | false => exact hfile
    | true =>
      refine ⟨hfile.sinks, hfile.deliveries, ?_⟩
      intro id hid
      rcases List.mem_cons.1 hid with rfl | hid
      · exact Nat.lt_succ_self (j.nextId + 1)
      · exact hfile.serialized id hid

/-- Nothing has been delivered under a number that has not been given out. -/
theorem delivered_of_le (h : j.Numbered) (hid : j.nextId ≤ id) : j.delivered id = [] := by
  rw [delivered, List.filterMap_eq_nil_iff]
  intro d hd
  rw [if_neg (Nat.ne_of_lt (Nat.lt_of_lt_of_le (h.deliveries d hd) hid))]

/-! ### Deliveries -/

/-- A sink that alone has its number is delivered the records that it admits. -/
theorem delivered_emitAll (h : j.sinks.filter (·.id = id) = [sink]) (rs : List Record) :
    (j.emitAll rs).delivered id = j.delivered id ++ rs.filter sink.admits := by
  induction rs generalizing j with
  | nil => exact (List.append_nil _).symm
  | cons r rs ih =>
    have hone : (j.emit r).delivered id = j.delivered id ++ [r].filter sink.admits := by
      rw [delivered_emit, List.filter_comm, h]
      by_cases hr : sink.admits r = true
      · simp [hr]
      · simp [hr]
    have hrest := ih (j := j.emit r) h
    rw [emitAll_cons, hrest, hone, List.append_assoc, ← List.filter_append]
    rfl

theorem serialized_emitAll (j : Journal) (rs : List Record) :
    (j.emitAll rs).serialized = j.serialized := by
  induction rs generalizing j with
  | nil => rfl
  | cons r rs ih =>
    rw [emitAll_cons, ih]
    rfl

/-! ### A console and a file -/

section SetUp

variable (level : Level) (serialize : Bool)

theorem sinks_setUp (j : Journal) : (j.setUp level true serialize).2.sinks
    = [⟨j.nextId, level.severity, false⟩, ⟨j.nextId + 1, level.severity, true⟩] := by
  cases serialize with
  | false => rfl
  | true => rfl

theorem delivered_setUp (j : Journal) (id : Nat) :
    (j.setUp level true serialize).2.delivered id = j.delivered id := by
  cases serialize with
  | false => rfl
  | true => rfl

/-- Only the file may be written for machines. -/
theorem file_mem_serialized_setUp (h : j.Numbered) :
    j.nextId + 1 ∈ (j.setUp level true serialize).2.serialized ↔ serialize = true := by
  cases serialize with
  | false =>
    refine ⟨fun hmem => ?_, fun hfalse => nomatch hfalse⟩
    exact absurd (h.serialized (j.nextId + 1) hmem) (by omega)
  | true => exact ⟨fun _ => rfl, fun _ => List.mem_cons_self⟩

/-- A sink that has just been installed is delivered the records that it admits, and nothing before. -/
theorem delivered_installed (h : j.Numbered) (hid : j.nextId ≤ id)
    (hsink : (j.setUp level true serialize).2.sinks.filter (·.id = id) = [sink]) (rs : List Record) :
    ((j.setUp level true serialize).2.emitAll rs).delivered id = rs.filter sink.admits := by
  rw [delivered_emitAll hsink, delivered_setUp, delivered_of_le h hid, List.nil_append]

/-- The console holds the records from its threshold on. -/
theorem delivered_console (h : j.Numbered) (rs : List Record) :
    ((j.setUp level true serialize).2.emitAll rs).delivered j.nextId
      = rs.filter fun r => level.severity ≤ r.level.severity := by
  have hsink : (j.setUp level true serialize).2.sinks.filter (·.id = j.nextId)
      = [⟨j.nextId, level.severity, false⟩] := by
    simp [sinks_setUp]
  rw [delivered_installed level serialize h (Nat.le_refl _) hsink]
  refine List.filter_congr fun r _ => ?_
  simp [Sink.admits]

/-- The file holds those of them that come from this library. -/
theorem delivered_file (h : j.Numbered) (rs : List Record) :
    ((j.setUp level true serialize).2.emitAll rs).delivered (j.nextId + 1)
      = (rs.filter fun r => level.severity ≤ r.level.severity).filter Record.isOwn := by
  have hsink : (j.setUp level true serialize).2.sinks.filter (·.id = j.nextId + 1)
      = [⟨j.nextId + 1, level.severity, true⟩] := by
    simp [sinks_setUp]
  rw [delivered_installed level serialize h (Nat.le_succ _) hsink, List.filter_filter]
  refine List.filter_congr fun r _ => ?_
  simp [Sink.admits, Bool.and_comm]

/-- The file is written in the form that was asked for. -/
theorem lines_file (h : j.Numbered) (rs : List Record) (wording : Fault → String)
    (forMachines : Record → String) :
    ((j.setUp level true serialize).2.emitAll rs).lines wording forMachines (j.nextId + 1)
      = (((j.setUp level true serialize).2.emitAll rs).delivered (j.nextId + 1)).map
        (if serialize then forMachines else Record.line wording) := by
  rw [lines, serialized_emitAll]
  simp only [file_mem_serialized_setUp level serialize h]

end SetUp

end Journal

end CivilTime
