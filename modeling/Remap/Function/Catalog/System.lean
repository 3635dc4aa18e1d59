import Remap.Function.Basic

/-!
# The outside world

The functions on time, addresses and chance, and those that see the event as a whole, the host
or the log.
-/

namespace Remap.Catalog

/-- Functions on timestamps. -/
def timestamp : List FunctionSpec := [
  { name := "now", category := .timestamp, fallible := false
    parameters := []
    returnType := "timestamp"
    description := "Returns the current timestamp in UTC."
    sample := some ".processed_at = now()" },
  { name := "format_timestamp", category := .timestamp, fallible := true
    parameters :=
      [.required "value" "timestamp", .required "format" "string", .optional "timezone" "string"]
    returnType := "string"
    description := "Formats a timestamp with the given strftime format."
    sample := some ".date = format_timestamp!(.timestamp, \"%Y-%m-%d\")" }]

/-- Functions on IP addresses. -/
def address : List FunctionSpec := [
  { name := "ip_cidr_contains", category := .ip, fallible := true
    parameters := [.required "cidr" "string|array", .required "value" "string"]
    returnType := "bool"
    description := "Checks whether an IP address is contained in a CIDR block." },
  { name := "ip_subnet", category := .ip, fallible := true
    parameters := [.required "value" "string", .required "subnet" "string"]
    returnType := "string"
    description := "Extracts the subnet of an IP address." },
  { name := "ip_to_ipv6", category := .ip, fallible := true
    parameters := [.required "value" "string"]
    returnType := "string"
    description := "Converts an IPv4 address to an IPv4-mapped IPv6 address." },
  { name := "ipv6_to_ipv4", category := .ip, fallible := true
    parameters := [.required "value" "string"]
    returnType := "string"
    description := "Converts an IPv4-mapped IPv6 address to IPv4." },
  { name := "ip_aton", category := .ip, fallible := true
    parameters := [.required "value" "string"]
    returnType := "int"
    description := "Converts an IPv4 address in dotted notation to an integer." },
  { name := "ip_ntoa", category := .ip, fallible := true
    parameters := [.required "value" "int"]
    returnType := "string"
    description := "Converts an integer to an IPv4 address in dotted notation." },
  { name := "is_ipv4", category := .ip, fallible := false
    parameters := [.required "value" "string"]
    returnType := "bool"
    description := "Checks whether a string is a valid IPv4 address." }]

/-- Functions that draw at random. -/
def randomness : List FunctionSpec := [
  { name := "uuid_v4", category := .random, fallible := false
    parameters := []
    returnType := "string"
    description := "Generates a random UUID version 4."
    sample := some ".id = uuid_v4()" },
  { name := "uuid_v7", category := .random, fallible := false
    parameters := [.optional "timestamp" "timestamp"]
    returnType := "string"
    description := "Generates a time-ordered UUID version 7." },
  { name := "random_int", category := .random, fallible := true
    parameters := [.required "min" "int", .required "max" "int"]
    returnType := "int"
    description := "Returns a random integer in the range [min, max)." },
  { name := "random_float", category := .random, fallible := true
    parameters := [.required "min" "float", .required "max" "float"]
    returnType := "float"
    description := "Returns a random float in the range [min, max)." },
  { name := "random_bool", category := .random, fallible := false
    parameters := []
    returnType := "bool"
    description := "Returns a random boolean." },
  { name := "random_bytes", category := .random, fallible := true
    parameters := [.required "length" "int"]
    returnType := "string"
    description := "Returns a string of random bytes." }]

/-- Functions that look at the host. -/
def environment : List FunctionSpec := [
  { name := "get_env_var", category := .event, fallible := true
    parameters := [.required "name" "string"]
    returnType := "string"
    description := "Returns the value of an environment variable."
    sample := some ".env = get_env_var!(\"ENVIRONMENT\")" },
  { name := "get_hostname", category := .event, fallible := true
    parameters := []
    returnType := "string"
    description := "Returns the local system hostname."
    sample := some ".host = get_hostname!()" }]

/-- Functions that log or assert. -/
def debugging : List FunctionSpec := [
  { name := "log", category := .debug, fallible := false
    parameters :=
      [.required "value" "any", .optional "level" "string", .optional "rate_limit_secs" "int"]
    returnType := "null"
    description := "Logs a value at the given level (default: \"info\")."
    sample := some "log(\"Processing event\", level: \"debug\")" },
  { name := "assert", category := .debug, fallible := true
    parameters := [.required "condition" "bool", .optional "message" "string"]
    returnType := "null"
    description := "Aborts the program with an error if the condition is false."
    sample := some "assert!(exists(.id), message: \"missing id\")" },
  { name := "assert_eq", category := .debug, fallible := true
    parameters := [.required "left" "any", .required "right" "any", .optional "message" "string"]
    returnType := "null"
    description := "Aborts the program with an error if the two values differ." }]

end Remap.Catalog
