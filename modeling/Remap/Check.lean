import Remap.CallSite
import Remap.Diagnostic.Basic
import Remap.Diagnostic.Code
import Remap.Function.Registry
import Remap.Suggestion
import Remap.Text.Class
import Remap.Text.Line

/-!
# Checks

What is looked for in a document besides its delimiters: on each line calls that are not handled or
not known and what is better done otherwise, and between two lines an `else` that stands on the
wrong one.
-/

namespace Remap

/-!
## Line checks

A line check looks at one line at a time, given with its number, and knows the functions of a
registry. It answers with diagnostics, or it fails.
-/

/-- A check that may fail. -/
abbrev LineCheck :=
  Registry → (line : List Char) → (number : Int) → Except String (List Diagnostic)

/-- A check that never fails. -/
abbrev SafeCheck :=
  Registry → (line : List Char) → (number : Int) → List Diagnostic

/-- A check that never fails, among those that may. -/
def SafeCheck.lift (check : SafeCheck) : LineCheck :=
  fun registry line number => .ok (check registry line number)

/-- A check that always fails. -/
def LineCheck.broken (reason : String) : LineCheck :=
  fun _ _ _ => .error reason

end Remap

namespace Remap.Check

/-!
## Checks of calls

A call of a fallible function has to abort on failure, to have a fallback on its line, or to stand
after a binding of the error. A call of a function that is not in the registry is reported with
the names that are close to it, unless the name is a word of the language.
-/

open Text

/-- The line holds the fallback operator. -/
def hasFallback (line : List Char) : Bool :=
  occurs ['?', '?'] line

/-- The call is of a function that is in the registry and can fail. -/
def isFallible (registry : Registry) (site : CallSite) : Bool :=
  (registry.get? site.name).any (·.fallible)

/-- The diagnostic about a call whose failure is not handled. -/
def unhandled (number : Int) (site : CallSite) : Diagnostic where
  range := .onLine number site.start site.nameStop
  message := "Fallible function '" ++ site.name ++ "' requires error handling: use '" ++
    site.name ++ "!(...)' to abort on error, add a '?? <default>' fallback, " ++
    "or capture the error with 'result, err = " ++ site.name ++ "(...)'"
  severity := .error
  code := Code.missingErrorHandling.id
  related := [⟨.onLine number site.start site.stop,
    "'" ++ site.name ++ "' can fail at runtime and its error is not handled here"⟩]

/-- The failure of the call is handled in none of the three ways. -/
def isUnhandled (fallback : Bool) (bindings : List Nat) (site : CallSite) : Bool :=
  !(site.abort || fallback || bindings.any (· ≤ site.start))

/-- One diagnostic for each fallible call whose failure is not handled. -/
def fallibleCalls : SafeCheck := fun registry line number =>
  let fallback := hasFallback line
  let bindings := Binding.stops line
  let sites := (CallSite.ofLine line).filter fun site =>
    isFallible registry site && isUnhandled fallback bindings site
  sites.map (unhandled number)

/-- The words that may stand before a parenthesis without being called. -/
def keywords : List String :=
  ["if", "else", "and", "or", "not", "true", "false", "null", "abort", "return"]

/-- The diagnostic about a call of a function that nobody knows. -/
def unknown (registry : Registry) (number : Int) (site : CallSite) : Diagnostic :=
  let suggestions := Suggestion.similar site.name registry.names
  let question :=
    if suggestions.isEmpty then "" else ". Did you mean: " ++ ", ".intercalate suggestions ++ "?"
  { range := .onLine number site.start site.nameStop
    message := "Unknown function '" ++ site.name ++ "'" ++ question
    severity := .error
    code := Code.unknownFunction.id
    suggestions := suggestions }

/-- One diagnostic for each call of a function that is not in the registry. -/
def unknownFunctions : SafeCheck := fun registry line number =>
  let sites := (CallSite.ofLine line).filter fun site =>
    !(registry.contains site.name || keywords.contains site.name)
  sites.map (unknown registry number)

/-!
## Advice

Checks that find nothing wrong but something that is better done otherwise: deleting the whole
event, aborting where a fallback would do, and a pattern that can be slow. Each of them reports a
line at most once.
-/

open Text

/-- The deletion of the whole event. -/
def rootDeletion : List Char :=
  "del(.)".toList

/-- The diagnostic about the deletion of the whole event, from a column on. -/
def rootDeleted (number : Int) (column : Nat) : Diagnostic where
  range := .onLine number column (column + rootDeletion.length)
  message := "Deleting the entire event (del(.)) will result in an empty event"
  severity := .warning
  code := Code.delRootEvent.id

/-- Reports the first deletion of the whole event on a line. -/
def deletesRoot : SafeCheck := fun _ line number =>
  match offset? rootDeletion line with
  | none => []
  | some column => [rootDeleted number column]

/-- The diagnostic about a call that aborts where a fallback would do. -/
def aborting (number : Int) (site : CallSite) : Diagnostic where
  range := .onLine number site.start (site.nameStop + 1)
  message := "Consider using null coalescing (??) for more graceful error handling"
  severity := .hint
  code := Code.suggestNullCoalescing.id

/-- Reports the first call of a fallible function that aborts, on a line without a fallback. -/
def abortsWithoutFallback : SafeCheck := fun registry line number =>
  if hasFallback line then []
  else
    match (CallSite.ofLine line).find? fun site => site.abort && isFallible registry site with
    | none => []
    | some site => [aborting number site]

/-- The functions that match a pattern against a text. -/
def patternFunctions : List String :=
  ["parse_regex", "parse_regex_all", "match"]

/-- The diagnostic about a line with a pattern that can be slow. -/
def slowPattern (number : Int) (line : List Char) : Diagnostic where
  range := .onLine number 0 line.length
  message := "Regex patterns with .* can be slow on large inputs"
  severity := .information
  code := Code.regexPerformance.id

/-- Reports a line that holds an unbounded wildcard and calls a function that matches patterns. -/
def matchesUnbounded : SafeCheck := fun _ line number =>
  if occurs ['.', '*'] line &&
      (CallSite.ofLine line).any fun site => patternFunctions.contains site.name then
    [slowPattern number line]
  else []

/-!
## Placement of else

An `else` has to stand on the line of the brace that closes the block before it. A line that
starts with the word, after a line that ends with a closing brace, is reported; blanks around the
two lines do not count.
-/

open Text

/-- The line starts with the word `else`, blanks aside. -/
def startsWithElse (line : List Char) : Bool :=
  match trim line with
  | 'e' :: 'l' :: 's' :: 'e' :: rest => !rest.head?.any isWord
  | _ => false

/-- The line ends with a closing brace, blanks aside. -/
def endsWithBrace (line : List Char) : Bool :=
  (trim line).getLast? == some '\x7d'

/-- The diagnostic about an `else` on a line with the given number. -/
def misplacedElse (number : Nat) (line : List Char) : Diagnostic :=
  let column := leadingBlanks line
  { range := .onLine number column (column + 4)
    message :=
      "'else' or 'else if' must be on the same line as the closing brace; use '\x7d else \x7b'"
    severity := .error
    code := Code.elseSameLine.id }

/-- The diagnostics about each `else` that follows a line ending in a brace. -/
def elsePlacement (lines : List (List Char)) : List Diagnostic :=
  ((lines.zip lines.tail).zipIdx 1).filterMap fun ((previous, line), number) =>
    if startsWithElse line && endsWithBrace previous then some (misplacedElse number line)
    else none

end Remap.Check
