import Remap.CallSite
import Remap.Function.Registry
import Remap.Json.Reader
import Remap.Tally
import Remap.Text.Line

/-!
# Completion

What an editor offers at a position: after a point the fields of the event, the common ones first
and then those that the document refers to; anywhere else the functions of the registry, the words
of the language and the names of its types.
-/

namespace Remap

open Text

/-- What kind of thing an item completes to. -/
inductive CompletionKind where
  | function | keyword | type | field
  deriving DecidableEq, Repr

/-- The name of a kind. -/
def CompletionKind.name : CompletionKind → String
  | function => "function"
  | keyword => "keyword"
  | type => "type"
  | field => "field"

/-- An item that an editor offers. -/
structure CompletionItem where
  label : String
  kind : CompletionKind
  detail : String := ""
  documentation : String := ""
  /-- The text to insert if it is not the label. -/
  insertion : String := ""
  /-- The text to insert has tab stops. -/
  isSnippet : Bool := false
  deriving DecidableEq, Repr

namespace CompletionItem

/-- The text to insert. -/
def insertText (item : CompletionItem) : String :=
  if item.insertion.isEmpty then item.label else item.insertion

/-- An item as JSON. -/
def toJson (item : CompletionItem) : Json :=
  .obj [("label", .str item.label), ("kind", .str item.kind.name), ("detail", .str item.detail),
    ("documentation", .str item.documentation), ("insertText", .str item.insertText),
    ("isSnippet", .bool item.isSnippet)]

/-- The item for a function. -/
def ofFunction (spec : FunctionSpec) : CompletionItem where
  label := spec.name
  kind := .function
  detail := spec.signature
  documentation := spec.description
  insertion := spec.snippet
  isSnippet := true

/-- The item for a field that events usually have. -/
def ofCommonField (name : String) : CompletionItem where
  label := name
  kind := .field
  detail := "Event field: " ++ name

/-- The item for a field that the document refers to. -/
def ofReferencedField (name : String) : CompletionItem where
  label := name
  kind := .field
  detail := "Referenced field: " ++ name

end CompletionItem

namespace Completion

/-- The words of the language that are offered. -/
def keywords : List String :=
  ["if", "else", "and", "or", "not", "true", "false", "null", "abort"]

/-- The names of types that are offered. -/
def types : List String :=
  ["string", "int", "float", "bool", "array", "object", "timestamp", "null", "regex"]

/-- The fields that events usually have. -/
def commonFields : List String :=
  ["message", "timestamp", "level", "host", "source", "service", "kubernetes", "docker",
    "metadata", "labels", "tags", "user", "method", "path", "status", "duration", "error",
    "pod_name", "namespace", "container_name", "node_name"]

/-- The fields that a document refers to, the common ones aside, each once. -/
def referencedFields (text : List Char) : List String :=
  firstSeen ((FieldPath.names text).filter fun name => !commonFields.contains name)

/-- The items after a point. -/
def fields (text : List Char) : List CompletionItem :=
  commonFields.map .ofCommonField ++ (referencedFields text).map .ofReferencedField

/-- The items anywhere else. -/
def words (registry : Registry) : List CompletionItem :=
  registry.specs.map .ofFunction ++
    keywords.map (fun word => { label := word, kind := .keyword }) ++
    types.map (fun type => { label := type, kind := .type })

/-- The part of a line before a position; nothing if there is no such line. -/
def lineBefore (text : List Char) (line character : Int) : List Char :=
  ((line? text line).getD []).take character.toNat

/-- The items to offer at a position. -/
def items (registry : Registry) (text : List Char) (line character : Int) :
    List CompletionItem :=
  if (lineBefore text line character).getLast? = some '.' then fields text else words registry

end Completion

end Remap
