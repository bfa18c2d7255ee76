import CivilTime.Fault

/-!
# The journal

Operations leave records. A record is delivered to every sink that is installed at that time and
admits it, in the order of the records; a sink that is removed keeps what it was delivered.

* `Level`, `Level.severity`: how grave a record is.
* `Record`, `Record.text`, `Record.line`: a record, what it tells and its line.
* `Sink`, `Sink.admits`: a threshold, and whether only records of this library are wanted.
* `Journal`: the sinks and all deliveries; `Journal.install`, `Journal.removeAll`, `Journal.emit`
  and `Journal.delivered` are its operations.
* `Journal.setUp`: a console and, if wanted, a file in place of all sinks.
* `Journal.lines`: the lines that a sink has written, plain or for machines.
-/

namespace CivilTime

/-- How grave a record is. -/
inductive Level
  | trace
  | debug
  | info
  | success
  | warning
  | error
  | critical
  deriving DecidableEq, Repr

namespace Level

/-- The levels from the least grave on. -/
def all : List Level := [.trace, .debug, .info, .success, .warning, .error, .critical]

/-- The name of a level. -/
def name : Level → String
  | .trace => "TRACE"
  | .debug => "DEBUG"
  | .info => "INFO"
  | .success => "SUCCESS"
  | .warning => "WARNING"
  | .error => "ERROR"
  | .critical => "CRITICAL"

/-- The number of a level. -/
def severity : Level → Nat
  | .trace => 5
  | .debug => 10
  | .info => 20
  | .success => 25
  | .warning => 30
  | .error => 40
  | .critical => 50

/-- The level with a name. -/
def ofName? (s : String) : Option Level := all.find? (·.name == s)

theorem ofName?_name (l : Level) : ofName? l.name = some l := by cases l <;> decide

end Level

/-- What an operation tells about itself: the module and the function that speak, a message, and the
fault that the message is about, if there is one. -/
structure Record where
  level : Level
  module : String
  function : String
  message : String
  cause : Option Fault
  deriving DecidableEq, Repr

namespace Record

/-- A text filled up with blanks to a number of places. -/
def column (width : Nat) (s : String) : String :=
  s ++ String.ofList (List.replicate (width - s.length) ' ')

/-- The message of a record, which ends with the text of its cause. -/
def text (wording : Fault → String) (r : Record) : String :=
  r.message ++ (r.cause.map (·.text wording)).getD ""

/-- The line of a record, without the time and the place in the text of the program. -/
def line (wording : Fault → String) (r : Record) : String :=
  column 8 r.level.name ++ " | " ++ r.module ++ ":" ++ r.function ++ " - " ++ r.text wording

/-- The name before the first dot of the module. -/
def package (r : Record) : List Char := r.module.toList.takeWhile (· ≠ '.')

/-- Whether the record comes from this library. -/
def isOwn (r : Record) : Bool := r.package == "schedtime".toList

end Record

/-- A place that records are delivered to. -/
structure Sink where
  id : Nat
  threshold : Nat
  ownOnly : Bool
  deriving DecidableEq, Repr

/-- Whether a sink takes a record. -/
def Sink.admits (s : Sink) (r : Record) : Bool :=
  decide (s.threshold ≤ r.level.severity) && (!s.ownOnly || r.isOwn)

/-- The sinks that are installed, and what has been delivered to which sink. -/
structure Journal where
  nextId : Nat := 0
  sinks : List Sink := []
  deliveries : List (Nat × Record) := []
  /-- The sinks that write records for machines. -/
  serialized : List Nat := []
  deriving DecidableEq, Repr

namespace Journal

/-- Installs a sink. -/
def install (j : Journal) (threshold : Nat) (ownOnly : Bool) : Journal :=
  { j with nextId := j.nextId + 1, sinks := j.sinks ++ [⟨j.nextId, threshold, ownOnly⟩] }

/-- Removes all sinks. -/
def removeAll (j : Journal) : Journal := { j with sinks := [] }

/-- Delivers a record to the sinks that admit it. -/
def emit (j : Journal) (r : Record) : Journal :=
  { j with
    deliveries := j.deliveries ++ (j.sinks.filter (·.admits r)).map fun s => (s.id, r) }

/-- Delivers records in their order. -/
def emitAll (j : Journal) (rs : List Record) : Journal := rs.foldl emit j

/-- What a sink has been delivered. -/
def delivered (j : Journal) (id : Nat) : List Record :=
  j.deliveries.filterMap fun d => if d.1 = id then some d.2 else none

/-- The lines that a sink has written. How a record is written for machines is not this library's
choice. -/
def lines (wording : Fault → String) (forMachines : Record → String) (j : Journal) (id : Nat) :
    List String :=
  (j.delivered id).map (if id ∈ j.serialized then forMachines else Record.line wording)

/-- Installs a console, and a file if wanted, in place of all sinks, and tells their numbers. Only the
file may be written for machines. -/
def setUp (j : Journal) (level : Level) (toFile : Bool) (serialize : Bool := false) :
    List Nat × Journal :=
  let console := j.removeAll.install level.severity false
  if toFile then
    let file := console.install level.severity true
    ([j.nextId, j.nextId + 1],
      if serialize then { file with serialized := (j.nextId + 1) :: file.serialized } else file)
  else ([j.nextId], console)

theorem delivered_emit (j : Journal) (r : Record) (id : Nat) :
    (j.emit r).delivered id
      = j.delivered id ++ ((j.sinks.filter (·.admits r)).filter (·.id = id)).map fun _ => r := by
  simp only [delivered, emit, List.filterMap_append, List.append_cancel_left_eq]
  induction j.sinks.filter (·.admits r) with
  | nil => rfl
  | cons s ss ih => by_cases h : s.id = id <;> simp_all

end Journal

end CivilTime
