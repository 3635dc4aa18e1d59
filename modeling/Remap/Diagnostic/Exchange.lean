import Remap.Diagnostic.Basic
import Remap.Json.Lenient

/-!
# Diagnostics as JSON

The form in which editors take diagnostics. Related ranges and suggestions are left out when there
are none.
-/

namespace Remap

/-- A position as JSON. -/
def Position.toJson (p : Position) : Json :=
  .obj [("line", .int p.line), ("character", .int p.character)]

/-- A range as JSON. -/
def Range.toJson (r : Range) : Json :=
  .obj [("start", r.start.toJson), ("end", r.stop.toJson)]

/-- A related range as JSON. -/
def Related.toJson (r : Related) : Json :=
  .obj [("location", .obj [("range", r.range.toJson)]), ("message", .str r.message)]

namespace Diagnostic

/-- The fields that are always there. -/
def usualFields (d : Diagnostic) : List (Wide × Json) :=
  [("range", d.range.toJson), ("message", .str d.message), ("severity", .int d.severity.level),
    ("code", .str d.code), ("source", .str d.source)]

/-- The field of the related ranges, if there are any. -/
def relatedField (d : Diagnostic) : List (Wide × Json) :=
  if d.related.isEmpty then []
  else [("relatedInformation", .arr (d.related.map Related.toJson))]

/-- The field of the suggestions, if there are any. -/
def suggestionsField (d : Diagnostic) : List (Wide × Json) :=
  if d.suggestions.isEmpty then []
  else [("data", .obj [("suggestions", .arr (d.suggestions.map Json.ofString))])]

/-- A diagnostic as JSON. -/
def toJson (d : Diagnostic) : Json :=
  .obj (d.usualFields ++ d.relatedField ++ d.suggestionsField)

end Diagnostic

/-- A severity given by its number. -/
def Severity.ofJson? (value : Json) : Option Severity :=
  value.asInt?.bind ofLevel?

/-- A range on one line, given as a line, a start and an end. -/
def Range.ofJson? (value : Json) : Option Range := do
  match ← value.asListOf? Json.asInt? with
  | [line, start, stop] => return .onLine line start stop
  | _ => none

/-- A related range with its message. -/
def Related.ofJson? (value : Json) : Option Related := do
  return ⟨← value.required? "range" Range.ofJson?, ← value.required? "message" Json.asString?⟩

/-- A diagnostic with its range given on one line. -/
def Diagnostic.ofJson? (value : Json) : Option Diagnostic := do
  return {
    range := ← value.required? "range" Range.ofJson?
    message := ← value.required? "message" Json.asString?
    severity := ← value.required? "severity" Severity.ofJson?
    code := ← value.required? "code" Json.asString?
    source := ← value.optional? "source" "vrl" Json.asString?
    related := ← value.optional? "related" [] (·.asListOf? Related.ofJson?)
    suggestions := ← value.optional? "suggestions" [] (·.asListOf? Json.asString?) }

end Remap
