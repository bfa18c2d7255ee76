import CivilTime.Text.Quoted

/-!
# Faults

Why an operation of the calendar fails. A fault is a cause; its kind and its wording are functions
of it. Faults that say all there is to say by their kind have no wording.

* `PatternFault`, `PatternFault.message`: why a pattern is not accepted.
* `Problem`, `Refusal`: why the value of a setting is not accepted.
* `Fault`, `Fault.kind`, `Fault.message`: all faults.
* `Fault.text`: the wording, where others may have to find it.
-/

namespace CivilTime

open Text

/-- Why a pattern is not accepted. -/
inductive PatternFault
  /-- Something else than a text with at least one character; `given` shows it. -/
  | notText (given : List Char)
  /-- A quotation without an end. -/
  | unterminatedQuote (pattern : List Char)
  /-- A character that is kept for later use. -/
  | reserved (c : Char) (pattern : List Char)
  /-- A letter that stands for no field. -/
  | unknownLetter (c : Char) (pattern : List Char)
  /-- A run of a letter that is longer than the letter allows. -/
  | tooManyLetters (c : Char) (count : Nat)
  deriving DecidableEq, Repr

/-- The wording of a pattern fault. -/
def PatternFault.message : PatternFault → String
  | .notText given => "Pattern must be a non-empty string, got " ++ String.ofList given
  | .unterminatedQuote p => "Unterminated quote in pattern " ++ String.ofList (quoted p)
  | .reserved c p => "Reserved character " ++ String.ofList (quoted [c]) ++ " in pattern "
      ++ String.ofList (quoted p)
  | .unknownLetter c p => "Unknown pattern letter " ++ String.ofList (quoted [c]) ++ " in "
      ++ String.ofList (quoted p)
  | .tooManyLetters c n => "Too many pattern letters: " ++ String.ofList (List.replicate n c)

/-- Why the value of a setting is not accepted. -/
inductive Problem
  | notText
  /-- Bytes that hold no text. -/
  | brokenText
  | unknownZone (id : String)
  | notLevel
  | notFlag
  | notFlagWord
  | notPath
  deriving DecidableEq, Repr

/-- The code of a problem. -/
def Problem.code : Problem → String
  | .notText => "string_type"
  | .brokenText => "string_unicode"
  | .unknownZone _ => "value_error"
  | .notLevel => "literal_error"
  | .notFlag => "bool_type"
  | .notFlagWord => "bool_parsing"
  | .notPath => "path_type"

/-- A setting whose value is not accepted. -/
structure Refusal where
  field : String
  problem : Problem
  deriving DecidableEq, Repr

/-- Why an operation fails. -/
inductive Fault
  | pattern (p : PatternFault)
  /-- An instant that is given by something else than an integer. -/
  | notInteger (typeName : String)
  /-- A date to compute with is missing. -/
  | dateRequired
  /-- A date to write is missing. -/
  | writtenDateRequired
  /-- One of two instants to compare is missing. -/
  | bothInstantsRequired
  /-- A calendar unit that is none; `given` shows it. -/
  | unsupportedUnit (given : List Char)
  | unknownZone (id : String)
  /-- A date and time without the offset that places it on the time line. -/
  | offsetRequired
  /-- A text whose reading is not written as that text. -/
  | mismatch (text pattern : List Char)
  /-- A result outside the calendar. -/
  | outOfRange
  /-- A value that is impossible where it stands. -/
  | invalidValue
  /-- A value of another type than the operation takes. -/
  | wrongType
  /-- A pattern that would read one field twice. -/
  | repeatedField
  | fileMissing
  /-- A directory that cannot be made, or in which no file can be opened. -/
  | noLogFile (directory : String)
  /-- A document that does not follow the rules of its notation. -/
  | malformedDocument
  /-- A word in a document that is tagged as a truth value and is none. -/
  | unknownFlagWord
  /-- A number in a document without a character. -/
  | emptyNumber
  /-- A key that an ordered mapping of a document has twice. -/
  | repeatedOrderedKey
  /-- A scalar of a document that stands for itself. -/
  | endlessScalar
  | settings (refusals : List Refusal)
  /-- A document whose content is not accepted: its refusals, or none if it names no settings. -/
  | document (refusals : Option (List Refusal))
  deriving DecidableEq, Repr

namespace Fault

/-- The kind of a fault. -/
def kind : Fault → String
  | .pattern _ => "InvalidPattern"
  | .notInteger _ | .dateRequired | .writtenDateRequired | .bothInstantsRequired
  | .unsupportedUnit _ => "InvalidArgument"
  | .unknownZone _ => "UnknownTimezone"
  | .offsetRequired | .mismatch .. | .invalidValue | .document _ => "ValueError"
  | .outOfRange => "OverflowError"
  | .wrongType => "TypeError"
  | .repeatedField => "re.error"
  | .fileMissing => "FileNotFoundError"
  | .noLogFile _ => "OSError"
  | .malformedDocument => "YAMLError"
  | .unknownFlagWord => "KeyError"
  | .emptyNumber => "IndexError"
  | .repeatedOrderedKey => "AssertionError"
  | .endlessScalar => "RecursionError"
  | .settings _ => "ValidationError"

/-- The wording of an unknown zone. -/
def unknownZoneMessage (id : String) : String := "Unknown timezone: " ++ id

/-- The wording of a fault, if it has one. -/
def message : Fault → Option String
  | .pattern p => some p.message
  | .notInteger typeName => some ("millis must be an int, got " ++ typeName)
  | .dateRequired => some "The date must not be None"
  | .writtenDateRequired => some "date must not be None"
  | .bothInstantsRequired => some "Both instants are required"
  | .unsupportedUnit given => some ("Unsupported calendar field: " ++ String.ofList given)
  | .unknownZone id => some (unknownZoneMessage id)
  | .offsetRequired => some "datetime must be timezone-aware"
  | .mismatch t p => some (String.ofList (quoted t) ++ " does not match pattern "
      ++ String.ofList (quoted p))
  | .document _ => some "Config validation failed"
  | .outOfRange | .invalidValue | .wrongType | .repeatedField | .fileMissing | .noLogFile _
  | .malformedDocument | .unknownFlagWord | .emptyNumber | .repeatedOrderedKey | .endlessScalar
  | .settings _ => none

/-- The text of a fault. How a fault without a wording of its own is told is not this library's
choice. -/
def text (wording : Fault → String) (f : Fault) : String := f.message.getD (wording f)

end Fault

/-- The wording that a problem adds to its code, if it does. -/
def Problem.message : Problem → Option String
  | .unknownZone id => some ("Value error, " ++ Fault.unknownZoneMessage id)
  | _ => none

end CivilTime
