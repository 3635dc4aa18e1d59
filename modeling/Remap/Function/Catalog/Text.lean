import Remap.Function.Basic

/-!
# Text functions

The functions on texts.
-/

namespace Remap.Catalog

/-- Functions on texts. -/
def text : List FunctionSpec := [
  { name := "contains", category := .string, fallible := false
    parameters :=
      [.required "value" "string", .required "substring" "string",
        .optional "case_sensitive" "bool"]
    returnType := "bool"
    description := "Checks if a string contains the given substring."
    sample := some "if contains(.message, \"error\") \x7b .level = \"error\" \x7d" },
  { name := "starts_with", category := .string, fallible := false
    parameters :=
      [.required "value" "string", .required "substring" "string",
        .optional "case_sensitive" "bool"]
    returnType := "bool"
    description := "Checks if a string starts with the given prefix."
    sample := some "if starts_with(.message, \"ERROR\") \x7b .level = \"error\" \x7d" },
  { name := "ends_with", category := .string, fallible := false
    parameters :=
      [.required "value" "string", .required "substring" "string",
        .optional "case_sensitive" "bool"]
    returnType := "bool"
    description := "Checks if a string ends with the given suffix." },
  { name := "upcase", category := .string, fallible := false
    parameters := [.required "text" "string"]
    returnType := "string"
    description := "Converts a string to uppercase."
    sample := some ".upper_message = upcase(.message)" },
  { name := "downcase", category := .string, fallible := false
    parameters := [.required "text" "string"]
    returnType := "string"
    description := "Converts a string to lowercase."
    sample := some ".lower_message = downcase(.message)" },
  { name := "strip_whitespace", category := .string, fallible := false
    parameters := [.required "value" "string"]
    returnType := "string"
    description := "Removes leading and trailing whitespace from a string."
    sample := some ".trimmed = strip_whitespace(.message)" },
  { name := "strip_ansi_escape_codes", category := .string, fallible := false
    parameters := [.required "value" "string"]
    returnType := "string"
    description := "Removes ANSI escape sequences from a string." },
  { name := "replace", category := .string, fallible := false
    parameters :=
      [.required "value" "string", .required "pattern" "string|regex", .required "with" "string",
        .optional "count" "int"]
    returnType := "string"
    description := "Replaces occurrences of a pattern in a string."
    sample := some ".message = replace(.message, \"password\", \"****\")" },
  { name := "split", category := .string, fallible := false
    parameters :=
      [.required "value" "string", .required "pattern" "string|regex", .optional "limit" "int"]
    returnType := "array"
    description := "Splits a string on a pattern."
    sample := some ".parts = split(.path, \"/\")" },
  { name := "join", category := .string, fallible := true
    parameters := [.required "value" "array", .optional "separator" "string"]
    returnType := "string"
    description := "Joins an array of strings into a single string."
    sample := some ".path = join!(.parts, \"/\")" },
  { name := "slice", category := .string, fallible := true
    parameters :=
      [.required "value" "string|array", .required "start" "int", .optional "end" "int"]
    returnType := "string|array"
    description := "Returns a slice of a string or array." },
  { name := "truncate", category := .string, fallible := false
    parameters :=
      [.required "value" "string", .required "limit" "int", .optional "suffix" "string"]
    returnType := "string"
    description := "Truncates a string to the given number of characters." },
  { name := "strlen", category := .string, fallible := false
    parameters := [.required "value" "string"]
    returnType := "int"
    description := "Returns the number of UTF-8 characters in a string." },
  { name := "match", category := .string, fallible := false
    parameters := [.required "value" "string", .required "pattern" "regex"]
    returnType := "bool"
    description := "Checks whether a string matches a regular expression."
    sample := some "if match(.message, r'^ERROR') \x7b .level = \"error\" \x7d" },
  { name := "match_any", category := .string, fallible := false
    parameters := [.required "value" "string", .required "patterns" "array"]
    returnType := "bool"
    description := "Checks whether a string matches any of the given regular expressions." },
  { name := "format_int", category := .string, fallible := true
    parameters := [.required "value" "int", .optional "base" "int"]
    returnType := "string"
    description := "Formats an integer as a string in the given base." },
  { name := "format_number", category := .string, fallible := false
    parameters :=
      [.required "value" "int|float", .optional "scale" "int",
        .optional "decimal_separator" "string", .optional "grouping_separator" "string"]
    returnType := "string"
    description := "Formats a number with the given precision and separators." },
  { name := "redact", category := .string, fallible := false
    parameters := [.required "value" "string|object|array", .required "filters" "array"]
    returnType := "string|object|array"
    description := "Redacts sensitive data matching the given filters."
    sample := some ".message = redact(.message, filters: [\"us_social_security_number\"])" }]

end Remap.Catalog
