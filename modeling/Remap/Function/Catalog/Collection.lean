import Remap.Function.Basic

/-!
# Objects, arrays and enumeration

The functions on objects and arrays, and those that run a closure over their members.
-/

namespace Remap.Catalog

/-- Functions on objects and arrays. -/
def collection : List FunctionSpec := [
  { name := "del", category := .object, fallible := false
    parameters := [.required "path" "path", .optional "compact" "bool"]
    returnType := "any"
    description := "Deletes a field from the event and returns its value."
    sample := some "del(.sensitive_field)" },
  { name := "exists", category := .object, fallible := false
    parameters := [.required "path" "path"]
    returnType := "bool"
    description := "Checks whether a path exists in the event."
    sample := some "if exists(.user) \x7b .has_user = true \x7d" },
  { name := "get", category := .object, fallible := true
    parameters := [.required "value" "object|array", .required "path" "array"]
    returnType := "any"
    description := "Dynamically reads a value from an object or array by path segments." },
  { name := "set", category := .object, fallible := true
    parameters :=
      [.required "value" "object|array", .required "path" "array", .required "data" "any"]
    returnType := "object|array"
    description := "Dynamically writes a value into an object or array by path segments." },
  { name := "remove", category := .object, fallible := true
    parameters :=
      [.required "value" "object|array", .required "path" "array", .optional "compact" "bool"]
    returnType := "object|array"
    description := "Dynamically removes a value from an object or array by path segments." },
  { name := "merge", category := .object, fallible := false
    parameters := [.required "to" "object", .required "from" "object", .optional "deep" "bool"]
    returnType := "object"
    description := "Merges two objects."
    sample := some ". = merge(., .nested)" },
  { name := "keys", category := .object, fallible := false
    parameters := [.required "value" "object"]
    returnType := "array"
    description := "Returns the keys of an object." },
  { name := "values", category := .object, fallible := false
    parameters := [.required "value" "object"]
    returnType := "array"
    description := "Returns the values of an object." },
  { name := "flatten", category := .object, fallible := false
    parameters := [.required "value" "object|array", .optional "separator" "string"]
    returnType := "object|array"
    description := "Flattens nested objects or arrays." },
  { name := "unflatten", category := .object, fallible := false
    parameters := [.required "value" "object", .optional "separator" "string"]
    returnType := "object"
    description := "Unflattens an object with separated keys into nested objects." },
  { name := "compact", category := .object, fallible := false
    parameters := [.required "value" "object|array", .optional "recursive" "bool"]
    returnType := "object|array"
    description := "Removes empty values from an object or array." },
  { name := "map_keys", category := .object, fallible := false
    parameters := [.required "value" "object", .optional "recursive" "bool"]
    returnType := "object"
    description := "Maps the keys of an object with a closure." },
  { name := "map_values", category := .object, fallible := false
    parameters := [.required "value" "object|array", .optional "recursive" "bool"]
    returnType := "object|array"
    description := "Maps the values of an object or array with a closure." },
  { name := "filter", category := .enumerate, fallible := false
    parameters := [.required "value" "object|array"]
    returnType := "object|array"
    description := "Filters elements of an object or array with a closure." },
  { name := "for_each", category := .enumerate, fallible := false
    parameters := [.required "value" "object|array"]
    returnType := "null"
    description := "Iterates over an object or array with a closure." },
  { name := "unnest", category := .object, fallible := true
    parameters := [.required "path" "path"]
    returnType := "array"
    description := "Unnests an array field into one event per element." },
  { name := "append", category := .array, fallible := false
    parameters := [.required "value" "array", .required "items" "array"]
    returnType := "array"
    description := "Appends the items to the end of an array." },
  { name := "push", category := .array, fallible := false
    parameters := [.required "value" "array", .required "item" "any"]
    returnType := "array"
    description := "Adds an item to the end of an array." },
  { name := "chunks", category := .array, fallible := true
    parameters := [.required "value" "array|string", .required "chunk_size" "int"]
    returnType := "array"
    description := "Splits an array or string into chunks of the given size." },
  { name := "includes", category := .array, fallible := false
    parameters := [.required "value" "array", .required "item" "any"]
    returnType := "bool"
    description := "Checks whether an array includes the given item." },
  { name := "length", category := .array, fallible := false
    parameters := [.required "value" "string|array|object"]
    returnType := "int"
    description := "Returns the length of a string, array or object."
    sample := some ".message_length = length(.message)" },
  { name := "unique", category := .array, fallible := false
    parameters := [.required "value" "array"]
    returnType := "array"
    description := "Returns the unique elements of an array." },
  { name := "find", category := .string, fallible := false
    parameters :=
      [.required "value" "string", .required "pattern" "string|regex", .optional "from" "int"]
    returnType := "int"
    description := "Returns the start index of the first match of a pattern, or -1 if not found."
    sample := some ".pos = find(.message, \"error\")" },
  { name := "pop", category := .array, fallible := false
    parameters := [.required "value" "array"]
    returnType := "array"
    description := "Removes the last item from an array."
    sample := some ".items = pop(.items)" },
  { name := "sort", category := .array, fallible := false
    parameters := [.required "value" "array"]
    returnType := "array"
    description := "Sorts the elements of an array." },
  { name := "reverse", category := .array, fallible := false
    parameters := [.required "value" "array|string"]
    returnType := "array|string"
    description := "Reverses the order of an array or string." },
  { name := "group_by", category := .enumerate, fallible := false
    parameters := [.required "value" "array"]
    returnType := "object"
    description := "Groups the elements of an array with a closure." },
  { name := "reduce", category := .enumerate, fallible := false
    parameters := [.required "value" "array", .required "initial" "any"]
    returnType := "any"
    description := "Folds the elements of an array into one value with a closure." },
  { name := "has", category := .object, fallible := false
    parameters := [.required "value" "object", .required "key" "string"]
    returnType := "bool"
    description := "Checks whether an object has the given key." },
  { name := "only_fields", category := .object, fallible := false
    parameters := [.required "paths" "array"]
    returnType := "null"
    description := "Keeps only the given fields in the event, removing all others." },
  { name := "match_array", category := .enumerate, fallible := false
    parameters := [.required "value" "array", .required "pattern" "regex", .optional "all" "bool"]
    returnType := "bool"
    description := "Checks whether elements of an array match a regular expression." },
  { name := "tally", category := .enumerate, fallible := false
    parameters := [.required "value" "array"]
    returnType := "object"
    description := "Counts the occurrences of each string in an array." },
  { name := "tally_value", category := .enumerate, fallible := false
    parameters := [.required "array" "array", .required "value" "any"]
    returnType := "int"
    description := "Counts the occurrences of a value in an array." }]

end Remap.Catalog
