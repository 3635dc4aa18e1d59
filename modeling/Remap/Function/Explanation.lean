import Remap.Function.Registry
import Remap.Suggestion

/-!
# Explanations of functions

Everything that is known about one function, and the list of all functions by category, in
markdown.
-/

namespace Remap

/-- Everything about a function. -/
def FunctionSpec.explanation (spec : FunctionSpec) : String :=
  let fallible :=
    if spec.fallible then
      "\n\n**Fallible**: handle errors with `" ++ spec.name ++
        "!(...)`, a `?? default` fallback, or `result, err = " ++ spec.name ++ "(...)`."
    else ""
  let sample :=
    match spec.sample with
    | some sample =>
      if sample.isEmpty then "" else "\n\n### Example\n```vrl\n" ++ sample ++ "\n```"
    | none => ""
  "## " ++ spec.name ++ "\n**Category**: " ++ spec.category.name ++ "\n\n```vrl\n" ++
    spec.signature ++ "\n```\n\n" ++ spec.description ++ fallible ++ sample

namespace Registry

/-- The registry, or the standard one in place of an empty one. -/
def orStandard (r : Registry) : Registry :=
  if r.specs.isEmpty then standard else r

/-- The explanation of the function with a name; an empty registry stands for the standard one. -/
def explain (r : Registry) (name : String) : String :=
  match r.orStandard.get? name with
  | some spec => spec.explanation
  | none => "Unknown function: " ++ name

/-- The explanation of a function, or else the names that are close to it. -/
def explainOrSuggest (r : Registry) (name : String) : String :=
  if r.contains name then r.explain name
  else
    let suggestions := Suggestion.similar name r.names
    let question :=
      if suggestions.isEmpty then ""
      else "\nDid you mean: " ++ ", ".intercalate suggestions ++ "?"
    "Unknown function: " ++ name ++ question

/-- The section of a category in the list of functions. -/
def categorySection (r : Registry) (category : Category) : String :=
  let specs := r.byCategory category
  "\n## " ++ category.name ++ " (" ++ toString specs.length ++ ")\n" ++
    String.join (specs.map fun spec => "- `" ++ spec.signature ++ "`: " ++ spec.description ++ "\n")

/-- The list of the functions of some categories, under the number of all functions. -/
def listing (r : Registry) (categories : List Category) : String :=
  "# VRL Functions (" ++ toString r.size ++ " total)\n" ++
    String.join (categories.map r.categorySection)

/-- The list of all functions, or of those of the category with a name unless the name is empty. -/
def list (r : Registry) (category : String) : String :=
  if category.isEmpty then r.listing r.categories
  else
    match r.categories.filter fun c => c.name == category with
    | [] =>
      "Unknown category `" ++ category ++ "`. Available: " ++
        ", ".intercalate (r.categories.map Category.name)
    | found => r.listing found

end Registry

end Remap
