import CivilTime.Document.Content
import CivilTime.Settings.Basic

/-!
# Settings from a document

Settings are kept in a document: a mapping of their names. A document without content leaves all
settings as they are by default.

* `Settings.names?`: the entries of a mapping whose keys are texts.
* `Settings.ofValue`, `Settings.ofDocument?`: the settings of a value and of a document.
-/

namespace CivilTime.Settings

/-- The entries of a mapping with their names, if all its keys are texts. -/
def names? (entries : List (Value × Value)) : Option (List (String × Value)) :=
  entries.mapM fun e =>
    match e.1 with
    | .text name => some (name, e.2)
    | _ => none

/-- The settings of a value; one that counts as nothing names no setting. -/
def ofValue (v : Value) : Except Fault Settings :=
  if v.isEmpty then .ok {}
  else match v with
    | .mapping entries =>
      match names? entries with
      | some entries => (ofEntries entries).mapError fun rs => .document (some rs)
      | none => .error (.document none)
    | _ => .error (.document none)

/-- The settings of a document, which may be missing. -/
def ofDocument? : Option String → Except Fault Settings
  | none => .error .fileMissing
  | some text => do ofValue (← Document.contentOf text)

end CivilTime.Settings
