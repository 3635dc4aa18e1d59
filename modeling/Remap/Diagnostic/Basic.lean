/-!
# Diagnostics and records

What an analysis reports: diagnostics about ranges of a document, and, beside a result, the levels
of what was logged on the way to it.
-/

namespace Remap

/-!
## Diagnostics

A diagnostic is a message about a range of a document. Lines and characters count from zero, a
character being a code point, and a range stops before its end. The positions are integers, since
a diagnostic made by hand may point anywhere.
-/

/-- How serious a diagnostic is. -/
inductive Severity where
  | error | warning | information | hint
  deriving DecidableEq, Repr

namespace Severity

/-- The severities, the most serious first. -/
def all : List Severity :=
  [error, warning, information, hint]

/-- The number of a severity, from 1 for an error to 4 for a hint. -/
def level : Severity → Int
  | error => 1
  | warning => 2
  | information => 3
  | hint => 4

/-- The severity with a number. -/
def ofLevel? (level : Int) : Option Severity :=
  all.find? fun severity => severity.level == level

/-- The name of a severity. -/
def label : Severity → String
  | error => "Error"
  | warning => "Warning"
  | information => "Information"
  | hint => "Hint"

/-- The name of a severity inside a sentence. -/
def noun : Severity → String
  | error => "error"
  | warning => "warning"
  | information => "information"
  | hint => "hint"

/-- A severity is read back from its level. -/
theorem ofLevel?_level (severity : Severity) : ofLevel? severity.level = some severity := by
  cases severity <;> rfl

end Severity

/-- A place in a document. -/
structure Position where
  line : Int
  character : Int
  deriving DecidableEq, Repr

/-- The part of a document from `start` up to and without `stop`. -/
structure Range where
  start : Position
  stop : Position
  deriving DecidableEq, Repr

/-- A part of one line. -/
def Range.onLine (line start stop : Int) : Range :=
  ⟨⟨line, start⟩, ⟨line, stop⟩⟩

/-- A further range that a diagnostic points at, with a message of its own. -/
structure Related where
  range : Range
  message : String
  deriving DecidableEq, Repr

/-- A message about a range of a document. -/
structure Diagnostic where
  range : Range
  message : String
  severity : Severity
  code : String
  /-- The name of the tool that found it. -/
  source : String := "vrl"
  related : List Related := []
  suggestions : List String := []
  deriving DecidableEq, Repr

/-- The line on which a diagnostic starts. -/
def Diagnostic.line (d : Diagnostic) : Int :=
  d.range.start.line

/-!
## Log levels

What a run reports beside its result is a list of records, of which only the level is kept.
-/

/-- The level of a log record. -/
inductive LogLevel where
  | info | warning | error
  deriving DecidableEq, Repr

/-- The name of a level. -/
def LogLevel.name : LogLevel → String
  | info => "INFO"
  | warning => "WARNING"
  | error => "ERROR"

/-- The records of a run, the first one first. -/
abbrev Log := List LogLevel

/-- A result with the records of the run that gave it. -/
structure Logged (α : Type) where
  value : α
  log : Log
  deriving DecidableEq, Repr

end Remap
