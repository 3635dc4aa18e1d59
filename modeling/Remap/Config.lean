import Remap.FileTree
import Remap.Json.Lenient
import Remap.Diagnostic.Basic
import Remap.Formatter

/-!
# Configuration

A configuration is read from a JSON file as a whole: a field that cannot be read makes the result
the default configuration, as does a file that is missing or holds no JSON. A relative path to
further functions starts at the directory of the file.
-/

namespace Remap

/-- What can be configured. -/
structure Config where
  /-- The codes that are switched off. -/
  disabledCodes : List Wide
  /-- The quiet period before a scheduled validation, in seconds. -/
  debounceSeconds : Binary64
  /-- A file with descriptions of further functions. -/
  extraFunctionsPath : Option Wide
  /-- The address of the playground. -/
  playgroundUrl : Wide
  /-- The number of spaces for each level of indentation. -/
  indentSize : Int
  deriving DecidableEq, Repr

namespace Config

/-- The configuration when nothing is configured. -/
def standard : Config where
  disabledCodes := []
  debounceSeconds := .finite false (Binary64.unit / 2)
  extraFunctionsPath := none
  playgroundUrl := Playground.usualBase
  indentSize := 2

/-- A quiet period: any number that is not below zero. -/
def debounceOfJson? (value : Json) : Option Binary64 :=
  value.asNumber?.filter Binary64.isNonneg

/-- A number of spaces: from 1 to 8. -/
def indentOfJson? (value : Json) : Option Int :=
  value.asInt?.filter fun size => 1 ≤ size && size ≤ 8

/-- A configuration; fields that are absent have their standard values. -/
def ofJson? (value : Json) : Option Config :=
  match value with
  | .obj _ => do
    return {
      disabledCodes :=
        ← value.optional? "disabled_codes" standard.disabledCodes (·.asListOf? Json.asWide?)
      debounceSeconds :=
        ← value.optional? "debounce_seconds" standard.debounceSeconds debounceOfJson?
      extraFunctionsPath :=
        ← value.optional? "extra_functions_path" standard.extraFunctionsPath
          (·.asNullable? Json.asWide?)
      playgroundUrl := ← value.optional? "playground_url" standard.playgroundUrl Json.asWide?
      indentSize := ← value.optional? "indent_size" standard.indentSize indentOfJson? }
  | _ => none

/-- The codes that are switched off, as far as they are texts; no other is a code. -/
def disabled (config : Config) : List String :=
  config.disabledCodes.filterMap Wide.text?

/-- The path to further functions as it is meant in a configuration file at `path`. -/
def resolvePath (tree : FileTree) (path extra : Wide) : Wide :=
  if extra.isEmpty then extra
  else Path.join (Path.parent (Path.absolute tree.currentPath path)) extra

/-- The configuration as it is meant in a file at `path`. -/
def relativeTo (config : Config) (tree : FileTree) (path : Wide) : Config :=
  { config with extraFunctionsPath := config.extraFunctionsPath.map (resolvePath tree path) }

/-- The configuration in a file; the standard one if there is no path. -/
def load (tree : FileTree) (path : Option Wide) : Except LoadError (Logged Config) :=
  match path with
  | none | some [] => .ok ⟨standard, []⟩
  | some path =>
    match tree.readJson path with
    | .error error => .error error
    | .ok .missing => .ok ⟨standard, [.info]⟩
    | .ok .unreadable => .ok ⟨standard, [.error]⟩
    | .ok (.json value) =>
      match ofJson? value with
      | none => .ok ⟨standard, [.error]⟩
      | some config => .ok ⟨config.relativeTo tree path, [.info]⟩

end Config

end Remap
