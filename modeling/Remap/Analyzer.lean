import Remap.Check
import Remap.Delimiter.Scan
import Remap.Diagnostic.Basic

/-!
# The analyzer

An analysis of a document lists the diagnostics about its delimiters, then those about the
placement of `else`, then those of the line checks, line by line and on each line check by check.
The line checks skip blank lines and lines that are comments as a whole. A check that fails on a
line contributes nothing there, and a warning is logged; all else goes on as if it had found
nothing. Diagnostics with a code that is switched off are left out at the end.
-/

namespace Remap

open Text

/-- The checks of each line, in order. -/
def LineCheck.standard : List LineCheck :=
  [Check.fallibleCalls, Check.unknownFunctions, Check.deletesRoot, Check.abortsWithoutFallback,
    Check.matchesUnbounded].map SafeCheck.lift

/-- An analyzer: the functions that it knows and the checks that it runs on each line. -/
structure Analyzer where
  registry : Registry
  checks : List LineCheck := LineCheck.standard

namespace Analyzer

/-- The lines of a document as the checks see them. -/
def sourceLines (text : List Char) : List (List Char) :=
  (lines text).map dropReturn

/-- The line is neither blank nor a comment as a whole. -/
def isCode (line : List Char) : Bool :=
  match trim line with
  | [] => false
  | c :: _ => c != '#'

/-- The lines that the line checks look at, with their numbers. -/
def codeLines (text : List Char) : List (List Char × Nat) :=
  (sourceLines text).zipIdx.filter fun (line, _) => isCode line

/-- What the line checks find on one line, with a warning for each check that fails. -/
def checkLine (a : Analyzer) (line : List Char) (number : Nat) : Logged (List Diagnostic) :=
  let results := a.checks.map fun check => check a.registry line number
  { value := results.flatMap fun result => result.toOption.getD []
    log := (results.filter fun result => !result.isOk).map fun _ => .warning }

/-- What the line checks find on each of the lines that they look at. -/
def lineFindings (a : Analyzer) (text : List Char) : List (Logged (List Diagnostic)) :=
  (codeLines text).map fun (line, number) => a.checkLine line number

/-- The diagnostic is not switched off. -/
def isEnabled (disabled : List String) (d : Diagnostic) : Bool :=
  !disabled.contains d.code

/-- The diagnostics about a document, with the records of the checks that failed. -/
def analyze (a : Analyzer) (text : List Char) (disabled : List String) :
    Logged (List Diagnostic) :=
  let found := a.lineFindings text
  let all := Delimiter.check text ++ Check.elsePlacement (sourceLines text) ++
    found.flatMap (·.value)
  { value := all.filter (isEnabled disabled)
    log := found.flatMap (·.log) }

/-- The diagnostics about a document. -/
def diagnostics (a : Analyzer) (text : List Char) (disabled : List String) : List Diagnostic :=
  (a.analyze text disabled).value

end Analyzer

end Remap
