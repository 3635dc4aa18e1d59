import Remap.Function.Basic

/-!
# Functions about types

The functions that turn a value into one of another type and those that ask for its type.
-/

namespace Remap.Catalog

/-!
## Coercing and converting functions

The functions that turn a value into one of another type, and those that convert between the
names and the numbers of units and syslog levels.
-/

/-- Functions that coerce a value to a type. -/
def coercion : List FunctionSpec := [
  { name := "to_int", category := .coerce, fallible := true
    parameters := [.required "value" "any"]
    returnType := "int"
    description := "Coerces a value into an integer."
    sample := some ".status = to_int!(.status)" },
  { name := "to_float", category := .coerce, fallible := true
    parameters := [.required "value" "any"]
    returnType := "float"
    description := "Coerces a value into a float."
    sample := some ".duration = to_float!(.duration)" },
  { name := "to_bool", category := .coerce, fallible := true
    parameters := [.required "value" "any"]
    returnType := "bool"
    description := "Coerces a value into a boolean." },
  { name := "to_string", category := .coerce, fallible := false
    parameters := [.required "value" "any"]
    returnType := "string"
    description := "Converts any value to its string representation."
    sample := some ".string_value = to_string(.numeric_field)" },
  { name := "to_regex", category := .coerce, fallible := true
    parameters := [.required "value" "string"]
    returnType := "regex"
    description := "Coerces a string into a regular expression." },
  { name := "to_timestamp", category := .coerce, fallible := true
    parameters := [.required "value" "any", .optional "unit" "string"]
    returnType := "timestamp"
    description := "Coerces a value into a timestamp." }]

/-- Functions that convert between representations. -/
def conversion : List FunctionSpec := [
  { name := "to_unix_timestamp", category := .convert, fallible := false
    parameters := [.required "value" "timestamp", .optional "unit" "string"]
    returnType := "int"
    description := "Converts a timestamp into a Unix timestamp in the given unit."
    sample := some ".epoch = to_unix_timestamp(now())" },
  { name := "to_syslog_level", category := .convert, fallible := true
    parameters := [.required "value" "int"]
    returnType := "string"
    description := "Converts a syslog severity number into a level name." },
  { name := "to_syslog_severity", category := .convert, fallible := true
    parameters := [.required "value" "string"]
    returnType := "int"
    description := "Converts a syslog level name into a severity number." },
  { name := "to_syslog_facility", category := .convert, fallible := true
    parameters := [.required "value" "int"]
    returnType := "string"
    description := "Converts a syslog facility code into its name." }]

/-!
## Type checks and assertions

For each type there is a check that answers true or false, and for most of them an assertion that
gives the value back or fails. Two of the checks have a short name as well.
-/

/-- The check that a value is of type `kind`. -/
def typeCheck (name kind note : String) : FunctionSpec where
  name := "is_" ++ name
  category := .type
  fallible := false
  parameters := [.required "value" "any"]
  returnType := "bool"
  description := "Checks whether a value is of type " ++ kind ++ note ++ "."
  sample := some ("if is_" ++ name ++ "(.field) \x7b .kind = \"" ++ kind ++ "\" \x7d")

/-- The check under a short name. -/
def shortTypeCheck (name kind : String) : FunctionSpec :=
  typeCheck name kind (" (same as is_" ++ kind ++ ")")

/-- The assertion that a value is of type `kind`. -/
def typeAssertion (kind : String) : FunctionSpec where
  name := kind
  category := .type
  fallible := true
  parameters := [.required "value" "any"]
  returnType := kind
  description := "Returns the value if it is a " ++ kind ++ ", otherwise raises an error."
  sample := some (".field = " ++ kind ++ "!(.field)")

/-- The check that a value is empty in one of several ways. -/
def nullishCheck : FunctionSpec where
  name := "is_nullish"
  category := .type
  fallible := false
  parameters := [.required "value" "any"]
  returnType := "bool"
  description := "Checks whether a value is null, an empty string or whitespace only."

/-- The check that a value has no members. -/
def emptyCheck : FunctionSpec where
  name := "is_empty"
  category := .type
  fallible := false
  parameters := [.required "value" "string|array|object"]
  returnType := "bool"
  description := "Checks whether a string, array or object is empty."

/-- The function that names the type of a value. -/
def typeName : FunctionSpec where
  name := "type"
  category := .type
  fallible := false
  parameters := [.required "value" "any"]
  returnType := "string"
  description := "Returns the name of the value's type."
  sample := some ".kind = type(.field)"

/-- Functions that check or assert the type of a value. -/
def typeChecks : List FunctionSpec :=
  (["string", "integer", "float", "boolean", "array", "object", "timestamp", "null",
      "regex"].map fun kind => typeCheck kind kind "") ++
    [nullishCheck, emptyCheck, shortTypeCheck "int" "integer",
      shortTypeCheck "bool" "boolean", typeName] ++
    ["string", "int", "float", "bool", "array", "object", "timestamp"].map typeAssertion

end Remap.Catalog
