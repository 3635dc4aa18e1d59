import Remap.Diagnostic.Basic
import Remap.FileTree
import Remap.Function.Basic
import Remap.Json.Lenient

/-!
# Functions from elsewhere

How descriptions of functions are read from JSON and written to it, and how those in a file are
loaded.
-/

namespace Remap

/-!
## Functions as JSON

Descriptions of functions are read from JSON. Fields that are not known are not looked at; a field
that is missing or cannot be read makes the whole description unreadable.
-/

/-- A category given by its name. -/
def Category.ofJson? (value : Json) : Option Category :=
  value.asString?.bind ofName?

/-- A parameter of a function. -/
def Parameter.ofJson? (value : Json) : Option Parameter := do
  return {
    name := ← value.required? "name" Json.asString?
    type := ← value.required? "type" Json.asString?
    isOptional := ← value.optional? "optional" false Json.asBool? }

/-- A parameter as JSON. -/
def Parameter.toJson (p : Parameter) : Json :=
  .obj [("name", .str p.name), ("type", .str p.type), ("optional", .bool p.isOptional)]

namespace FunctionSpec

/-- A description of a function. -/
def ofJson? (value : Json) : Option FunctionSpec := do
  return {
    name := ← value.required? "name" Json.asString?
    category := ← value.required? "category" Category.ofJson?
    fallible := ← value.required? "fallible" Json.asBool?
    parameters := ← value.optional? "parameters" [] (·.asListOf? Parameter.ofJson?)
    returnType := ← value.required? "return_type" Json.asString?
    description := ← value.required? "description" Json.asString?
    sample := ← value.optional? "example" none (·.asNullable? Json.asString?) }

/-- A description as JSON. -/
def toJson (spec : FunctionSpec) : Json :=
  .obj [("name", .str spec.name), ("category", .str spec.category.name),
    ("fallible", .bool spec.fallible), ("parameters", .arr (spec.parameters.map Parameter.toJson)),
    ("return_type", .str spec.returnType), ("description", .str spec.description),
    ("example", (spec.sample.map Json.ofString).getD .null)]

end FunctionSpec

end Remap

namespace Remap.FunctionSpec

/-!
## Functions from a file

Descriptions of further functions are read from a JSON file that holds a list of them, or an
object with such a list. A description that cannot be read is left out with a warning, and a file
that is missing or cannot be read gives no descriptions.
-/

/-- The list of descriptions in a file. -/
def entries? : Json → Option (List Json)
  | .arr items => some items
  | value => (value.field? "functions").bind Json.asList?

/-- The descriptions that can be read, with a warning for each of the others. -/
def ofEntries (entries : List Json) : Logged (List FunctionSpec) :=
  let read := entries.map ofJson?
  { value := read.filterMap fun spec => spec
    log := List.replicate (read.countP Option.isNone) .warning ++ [.info] }

/-- The descriptions in a file. -/
def load (tree : FileTree) (path : Wide) : Except LoadError (Logged (List FunctionSpec)) :=
  match tree.readJson path with
  | .error error => .error error
  | .ok .missing | .ok .unreadable => .ok ⟨[], [.error]⟩
  | .ok (.json value) =>
    match entries? value with
    | none => .ok ⟨[], [.error]⟩
    | some entries => .ok (ofEntries entries)

end Remap.FunctionSpec
