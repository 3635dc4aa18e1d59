import Remap.Diagnostic.Basic
import Remap.CallSite
import Remap.Function.Registry
import Remap.Text.Line

/-!
# Hover

What an editor shows about the token under the cursor. A word is looked up among the functions,
then among the words of the language, and then as a part of a field path; operators are looked up
only where the cursor touches no word. The answer holds for the whole token.
-/

namespace Remap

open Text

/-- What is shown, in markdown, and the range that it is about. -/
structure Hover where
  contents : String
  range : Range
  deriving DecidableEq, Repr

namespace Hover

/-- The explanations of the words of the language. -/
def keywordDocs : List (String × String) :=
  [("if", "Conditional statement for executing code blocks based on conditions."),
    ("else",
      "Alternative branch for if statements. Must follow the closing `\x7d` on the same line."),
    ("and", "Logical AND operator."),
    ("or", "Logical OR operator."),
    ("not", "Logical NOT operator."),
    ("true", "Boolean true literal."),
    ("false", "Boolean false literal."),
    ("null", "Null literal representing absence of value."),
    ("abort", "Aborts processing and drops the event.")]

/-- The explanations of the operators. -/
def operatorDocs : List (String × String) :=
  [("!", "Error propagation operator: aborts on error from a fallible function"),
    ("??", "Null coalescing operator: provides a default value for null or error"),
    ("==", "Equality comparison operator"),
    ("!=", "Inequality comparison operator"),
    ("&&", "Logical AND operator"),
    ("||", "Logical OR operator")]

/-- The explanation of a word or an operator. -/
def doc? (docs : List (String × String)) (name : String) : Option String :=
  (docs.find? fun doc => doc.1 == name).map Prod.snd

/-- A character of an operator. -/
def isOperatorChar (c : Char) : Bool :=
  c == '!' || c == '?' || c == '=' || c == '&' || c == '|'

/-- A part of a line from a start up to and without a stop. -/
structure Span where
  start : Nat
  stop : Nat
  deriving DecidableEq, Repr

namespace Span

/-- The text of a span. -/
def text (span : Span) (line : List Char) : List Char :=
  (line.drop span.start).take (span.stop - span.start)

/-- The longest run of accepted characters that touches a column, if there is one. -/
def touching? (accept : Char → Bool) (line : List Char) (column : Nat) : Option Span :=
  if line.length < column then none
  else
    let before := ((line.take column).reverse.takeWhile accept).length
    let after := ((line.drop column).takeWhile accept).length
    if before + after = 0 then none else some ⟨column - before, column + after⟩

end Span

/-- What is shown about a function. -/
def functionContents (spec : FunctionSpec) : String :=
  let fallible :=
    if spec.fallible then "\n\n*Fallible: requires `!`, `??` or `result, err =` handling.*" else ""
  let sample :=
    match spec.sample with
    | some sample =>
      if sample.isEmpty then "" else "\n\n**Example:**\n```vrl\n" ++ sample ++ "\n```"
    | none => ""
  "```vrl\n" ++ spec.signature ++ "\n```\n" ++ spec.description ++ fallible ++ sample

/-- What is shown about a word of the language. -/
def keywordContents (word doc : String) : String :=
  "**" ++ word ++ "** - " ++ doc

/-- What is shown about a field path. -/
def pathContents (path : List Char) : String :=
  "**Field Path:** `." ++ String.ofList path ++
    "`\n\nAccesses a field in the event data structure."

/-- What is shown about an operator. -/
def operatorContents (operator doc : String) : String :=
  "**Operator:** `" ++ operator ++ "`\n\n" ++ doc

/-- The first field path on a line of which the span is a part. -/
def pathAround? (line : List Char) (span : Span) : Option (List Char) :=
  ((FieldPath.ofLine line).find? fun found =>
    found.start + 1 ≤ span.start && span.stop ≤ found.stop).map (·.value)

/-- What is shown about the word in a span of a line. -/
def wordContents? (registry : Registry) (line : List Char) (span : Span) : Option String :=
  let word := String.ofList (span.text line)
  match registry.get? word with
  | some spec => some (functionContents spec)
  | none =>
    match doc? keywordDocs word with
    | some doc => some (keywordContents word doc)
    | none => (pathAround? line span).map pathContents

/-- What is shown about the operator in a span of a line. -/
def operatorContents? (line : List Char) (span : Span) : Option String :=
  let operator := String.ofList (span.text line)
  (doc? operatorDocs operator).map (operatorContents operator)

/-- What is shown at a column of a line, and the span that it is about. -/
def onLine? (registry : Registry) (line : List Char) (column : Nat) : Option (String × Span) :=
  match Span.touching? isIdentChar line column with
  | some span => (wordContents? registry line span).map fun contents => (contents, span)
  | none =>
    match Span.touching? isOperatorChar line column with
    | some span => (operatorContents? line span).map fun contents => (contents, span)
    | none => none

/-- What is shown at a position of a document. -/
def at? (registry : Registry) (text : List Char) (line character : Int) : Option Hover :=
  match line? text line, character with
  | some content, .ofNat column =>
    (onLine? registry content column).map fun (contents, span) =>
      ⟨contents, .onLine line span.start span.stop⟩
  | _, _ => none

end Hover

end Remap
