import Remap.Function.Basic

/-!
# Parsing functions

The functions that read a value out of a text in some format. Every one of them can fail.
-/

namespace Remap.Catalog

/-- Functions that parse a text. -/
def parsing : List FunctionSpec := [
  { name := "parse_json", category := .parse, fallible := true
    parameters := [.required "value" "string", .optional "max_depth" "int"]
    returnType := "any"
    description := "Parses a JSON string into a VRL value."
    sample := some ". = parse_json!(.message)" },
  { name := "parse_syslog", category := .parse, fallible := true
    parameters := [.required "value" "string"]
    returnType := "object"
    description := "Parses a syslog message according to RFC 3164 and RFC 5424."
    sample := some ". = parse_syslog!(.message)" },
  { name := "parse_regex", category := .parse, fallible := true
    parameters :=
      [.required "value" "string", .required "pattern" "regex", .optional "numeric_groups" "bool"]
    returnType := "object"
    description :=
      "Parses a string with a regular expression and returns the named capture groups."
    sample := some ". = parse_regex!(.message, r'^(?P<ip>\\d+\\.\\d+\\.\\d+\\.\\d+)')" },
  { name := "parse_regex_all", category := .parse, fallible := true
    parameters :=
      [.required "value" "string", .required "pattern" "regex", .optional "numeric_groups" "bool"]
    returnType := "array"
    description := "Parses a string with a regular expression and returns every match."
    sample := some ".matches = parse_regex_all!(.message, r'(?P<num>\\d+)')" },
  { name := "parse_key_value", category := .parse, fallible := true
    parameters :=
      [.required "value" "string", .optional "key_value_delimiter" "string",
        .optional "field_delimiter" "string"]
    returnType := "object"
    description := "Parses key-value pairs from a string."
    sample := some ". = parse_key_value!(.message)" },
  { name := "parse_csv", category := .parse, fallible := true
    parameters := [.required "value" "string", .optional "delimiter" "string"]
    returnType := "array"
    description := "Parses a single CSV formatted row."
    sample := some ".fields = parse_csv!(.message)" },
  { name := "parse_timestamp", category := .parse, fallible := true
    parameters := [.required "value" "string", .required "format" "string"]
    returnType := "timestamp"
    description := "Parses a timestamp string using the given strptime format."
    sample := some ".timestamp = parse_timestamp!(.time, \"%Y-%m-%d %H:%M:%S\")" },
  { name := "parse_cef", category := .parse, fallible := true
    parameters := [.required "message" "string", .optional "transform_fields" "bool"]
    returnType := "object"
    description := "Parses a Common Event Format (CEF) message."
    sample := some ". = parse_cef!(.message)" },
  { name := "parse_apache_log", category := .parse, fallible := true
    parameters :=
      [.required "value" "string", .required "format" "string",
        .optional "timestamp_format" "string"]
    returnType := "object"
    description := "Parses an Apache access or error log line."
    sample := some ". = parse_apache_log!(.message, format: \"common\")" },
  { name := "parse_nginx_log", category := .parse, fallible := true
    parameters :=
      [.required "value" "string", .required "format" "string",
        .optional "timestamp_format" "string"]
    returnType := "object"
    description := "Parses an Nginx access or error log line."
    sample := some ". = parse_nginx_log!(.message, \"combined\")" },
  { name := "parse_common_log", category := .parse, fallible := true
    parameters := [.required "value" "string", .optional "timestamp_format" "string"]
    returnType := "object"
    description := "Parses a line in the Common Log Format." },
  { name := "parse_aws_alb_log", category := .parse, fallible := true
    parameters := [.required "value" "string"]
    returnType := "object"
    description := "Parses an AWS Application Load Balancer access log line." },
  { name := "parse_aws_vpc_flow_log", category := .parse, fallible := true
    parameters := [.required "value" "string", .optional "format" "string"]
    returnType := "object"
    description := "Parses an AWS VPC flow log record." },
  { name := "parse_aws_cloudwatch_log_subscription_message", category := .parse, fallible := true
    parameters := [.required "value" "string"]
    returnType := "object"
    description := "Parses an AWS CloudWatch Logs subscription message." },
  { name := "parse_duration", category := .parse, fallible := true
    parameters := [.required "value" "string", .required "unit" "string"]
    returnType := "float"
    description := "Parses a duration string such as '1.5s' into the given unit."
    sample := some ".seconds = parse_duration!(.took, \"s\")" },
  { name := "parse_glog", category := .parse, fallible := true
    parameters := [.required "value" "string"]
    returnType := "object"
    description := "Parses a glog (Google logging library) line." },
  { name := "parse_grok", category := .parse, fallible := true
    parameters := [.required "value" "string", .required "pattern" "string"]
    returnType := "object"
    description := "Parses a string with a grok pattern."
    sample :=
      some (". = parse_grok!(.message, \"%\x7bTIMESTAMP_ISO8601:timestamp\x7d " ++
        "%\x7bGREEDYDATA:message\x7d\")") },
  { name := "parse_int", category := .parse, fallible := true
    parameters := [.required "value" "string", .optional "base" "int"]
    returnType := "int"
    description := "Parses a string as an integer in the given base."
    sample := some ".code = parse_int!(.hex, 16)" },
  { name := "parse_klog", category := .parse, fallible := true
    parameters := [.required "value" "string"]
    returnType := "object"
    description := "Parses a Kubernetes klog line." },
  { name := "parse_linux_authorization", category := .parse, fallible := true
    parameters := [.required "value" "string"]
    returnType := "object"
    description := "Parses a Linux authorization (auth.log) line." },
  { name := "parse_logfmt", category := .parse, fallible := true
    parameters := [.required "value" "string"]
    returnType := "object"
    description := "Parses a logfmt formatted string."
    sample := some ". = parse_logfmt!(.message)" },
  { name := "parse_query_string", category := .parse, fallible := true
    parameters := [.required "value" "string"]
    returnType := "object"
    description := "Parses a URL query string into an object." },
  { name := "parse_ruby_hash", category := .parse, fallible := true
    parameters := [.required "value" "string"]
    returnType := "object"
    description := "Parses a Ruby hash literal." },
  { name := "parse_tokens", category := .parse, fallible := true
    parameters := [.required "value" "string"]
    returnType := "array"
    description :=
      "Splits a string into whitespace-separated tokens, honouring quotes and brackets." },
  { name := "parse_url", category := .parse, fallible := true
    parameters := [.required "value" "string", .optional "default_known_ports" "bool"]
    returnType := "object"
    description := "Parses a URL into its components."
    sample := some ".url = parse_url!(.request_url)" },
  { name := "parse_user_agent", category := .parse, fallible := true
    parameters := [.required "value" "string", .optional "mode" "string"]
    returnType := "object"
    description := "Parses a user agent string into browser, OS and device fields." },
  { name := "parse_xml", category := .parse, fallible := true
    parameters := [.required "value" "string"]
    returnType := "object"
    description := "Parses an XML document into an object." }]

end Remap.Catalog
