import Remap.Diagnostic.Basic
import Remap.Number.Text
import Remap.Tally

/-!
# Reports

Diagnostics counted, and as a table.
-/

namespace Remap

/-!
## Summaries

The number of diagnostics of each severity and with each code, in the order in which they first
appear.
-/

/-- How often each severity and each code appears. -/
structure Summary where
  bySeverity : List (Severity × Nat)
  byCode : List (String × Nat)
  deriving DecidableEq, Repr

/-- The summary of a list of diagnostics. -/
def Summary.of (diagnostics : List Diagnostic) : Summary where
  bySeverity := tally (diagnostics.map (·.severity))
  byCode := tally (diagnostics.map (·.code))

/-!
## The report

A list of diagnostics as a table in markdown, under a line that counts them. Positions are shown
counting from one, and the bars of a message are escaped, as a bar ends a cell.
-/

/-- A text with a backslash before each bar. -/
def escapeBars (text : List Char) : List Char :=
  text.flatMap fun c => if c = '|' then ['\\', '|'] else [c]

namespace Diagnostic

/-- The position at which a diagnostic starts, counting from one. -/
def place (d : Diagnostic) : String :=
  toString (d.range.start.line + 1) ++ ":" ++ toString (d.range.start.character + 1)

/-- The numbers of the position are not too long to be written. -/
def hasPlace (d : Diagnostic) : Bool :=
  isWritable (d.range.start.line + 1) && isWritable (d.range.start.character + 1)

/-- The row of a diagnostic. -/
def row (d : Diagnostic) : String :=
  "| " ++ d.place ++ " | " ++ d.severity.label ++ " | `" ++ d.code ++ "` | " ++
    String.ofList (escapeBars d.message.toList) ++ " |"

end Diagnostic

/-- The number of diagnostics of each severity, as in `2 error, 1 hint`. -/
def Summary.severities (summary : Summary) : String :=
  ", ".intercalate (summary.bySeverity.map fun (severity, n) => toString n ++ " " ++ severity.noun)

/-- The two lines above the rows. -/
def tableHead : String :=
  "| Position | Severity | Code | Message |\n" ++
    "|----------|----------|------|---------|\n"

/-- The report on a document, which is called by its title. -/
def report (diagnostics : List Diagnostic) (title : String) : String :=
  if diagnostics.isEmpty then "No problems found in " ++ title ++ "."
  else
    "**" ++ toString diagnostics.length ++ " problem(s) in " ++ title ++ "** (" ++
      (Summary.of diagnostics).severities ++ "):\n\n" ++ tableHead ++
      "\n".intercalate (diagnostics.map (·.row)) ++ "\n"

/-- The report, unless the number of a line or of a character is too long to be written. -/
def writeReport (diagnostics : List Diagnostic) (title : String) : Except String String :=
  if diagnostics.all (·.hasPlace) then .ok (report diagnostics title)
  else .error (tooLongMessage none)

end Remap
