import Remap.Delimiter.Basic
import Remap.Diagnostic.Basic

/-!
# Diagnostic codes

The codes that diagnostics are given, and a catalog of them. The catalog says of each code how
serious it is, gives it a title and the reason why it is reported, and shows code that is reported
beside code that is not. The checks do not look into it. Each writes the severity of its diagnostics
itself, and names its code by the constant; the codes about delimiters are put together from the
kind, in the checks and again in the catalog.
-/

namespace Remap

/-- What a diagnostic is about. -/
inductive Code where
  | unmatchedClosing (delimiter : Delimiter)
  | missingClosing (delimiter : Delimiter)
  | missingErrorHandling
  | unknownFunction
  | elseSameLine
  | delRootEvent
  | suggestNullCoalescing
  | regexPerformance
  deriving DecidableEq, Repr

namespace Code

/-- The identifier of a code. -/
def id : Code → String
  | unmatchedClosing d => "unmatched-closing-" ++ d.name
  | missingClosing d => "missing-closing-" ++ d.name
  | missingErrorHandling => "missing-error-handling"
  | unknownFunction => "unknown-function"
  | elseSameLine => "vrl-else-same-line"
  | delRootEvent => "del-root-event"
  | suggestNullCoalescing => "suggest-null-coalescing"
  | regexPerformance => "regex-performance"

/-- Codes with the same identifier are the same. -/
theorem id_injective {a b : Code} (h : a.id = b.id) : a = b := by
  revert h
  rcases a with ⟨⟨⟩⟩ | ⟨⟨⟩⟩ | _ | _ | _ | _ | _ | _ <;>
    rcases b with ⟨⟨⟩⟩ | ⟨⟨⟩⟩ | _ | _ | _ | _ | _ | _ <;> decide

end Code

/-! The catalog. -/

/-- What the catalog says about a code. -/
structure CodeInfo where
  code : String
  severity : Severity
  title : String
  rationale : String
  nonCompliant : String
  compliant : String
  deriving DecidableEq, Repr

/-- A kind of delimiters as the catalog shows it: with balanced code, and the same code unclosed. -/
structure DelimiterExample where
  kind : String
  opener : String
  closer : String
  balanced : String
  unclosed : String

namespace DelimiterExample

/-- The kinds in the order of the catalog. -/
def all : List DelimiterExample :=
  [⟨"paren", "(", ")", ".x = upcase(.y)", ".x = upcase(.y"⟩,
    ⟨"brace", "\x7b", "\x7d", "if .a == 1 \x7b\n  .b = 2\n\x7d", "if .a == 1 \x7b\n  .b = 2"⟩,
    ⟨"bracket", "[", "]", ".x = [1, 2]", ".x = [1, 2"⟩]

/-- The entry about a closer of the kind that closes nothing. -/
def unmatched (shown : DelimiterExample) : CodeInfo where
  code := "unmatched-closing-" ++ shown.kind
  severity := .error
  title := "Unexpected closing '" ++ shown.closer ++ "'"
  rationale :=
    "A '" ++ shown.closer ++ "' appears before any matching '" ++ shown.opener ++
      "' in the document.  The whole document is scanned, so constructs spanning several lines " ++
      "are balanced correctly."
  nonCompliant := shown.balanced ++ shown.closer
  compliant := shown.balanced

/-- The entry about openers of the kind that are not closed. -/
def missing (shown : DelimiterExample) : CodeInfo where
  code := "missing-closing-" ++ shown.kind
  severity := .error
  title := "Missing closing '" ++ shown.closer ++ "'"
  rationale :=
    "At least one '" ++ shown.opener ++ "' is never closed before the end of the document.  " ++
      "The diagnostic is reported on the last line with the number of missing closers."
  nonCompliant := shown.unclosed
  compliant := shown.balanced

end DelimiterExample

namespace CodeInfo

/-- The entries about what the line checks and the check of `else` report. -/
def ofChecks : List CodeInfo :=
  [{  code := Code.missingErrorHandling.id
      severity := .error
      title := "Fallible function called without error handling"
      rationale :=
        "Fallible functions (parsers, coercions, decoders) can fail at runtime.  " ++
          "VRL refuses to compile a program that ignores such an error, so the call " ++
          "must abort on failure, supply a fallback, or capture the error explicitly."
      nonCompliant := ".result = parse_json(.message)"
      compliant :=
        ".result = parse_json!(.message)\n" ++
          ".result = parse_json(.message) ?? \x7b\x7d\n" ++
          "result, err = parse_json(.message)" },
    { code := Code.unknownFunction.id
      severity := .error
      title := "Unknown function"
      rationale :=
        "The called name is not part of the VRL standard library.  Close matches " ++
          "from the function registry are offered as suggestions."
      nonCompliant := ".data = pars_json!(.message)"
      compliant := ".data = parse_json!(.message)" },
    { code := Code.elseSameLine.id
      severity := .error
      title := "else must follow the closing brace on the same line"
      rationale :=
        "VRL's grammar requires `else` and `else if` to appear on the same line " ++
          "as the `\x7d` that closes the preceding block."
      nonCompliant := "if .a == 1 \x7b\n  .b = 2\n\x7d\nelse \x7b\n  .b = 3\n\x7d"
      compliant := "if .a == 1 \x7b\n  .b = 2\n\x7d else \x7b\n  .b = 3\n\x7d" },
    { code := Code.delRootEvent.id
      severity := .warning
      title := "Deleting the entire event"
      rationale := "`del(.)` removes every field and leaves an empty event."
      nonCompliant := "del(.)"
      compliant := "del(.password)" },
    { code := Code.suggestNullCoalescing.id
      severity := .hint
      title := "Consider a fallback instead of aborting"
      rationale :=
        "The abort form drops the event on failure.  A `??` fallback keeps the " ++
          "event flowing with a default value."
      nonCompliant := ".n = to_int!(.count)"
      compliant := ".n = to_int(.count) ?? 0" },
    { code := Code.regexPerformance.id
      severity := .information
      title := "Unbounded wildcard in regex"
      rationale := "Patterns containing `.*` can backtrack heavily on large inputs."
      nonCompliant := ". = parse_regex!(.message, r'^(?P<head>.*) end')"
      compliant := ". = parse_regex!(.message, r'^(?P<head>[^ ]+) end')" }]

/-- All entries, in the order in which they are listed. -/
def catalog : List CodeInfo :=
  DelimiterExample.all.flatMap (fun shown => [shown.unmatched, shown.missing]) ++ ofChecks

/-- The entry of a code. -/
def find? (code : String) : Option CodeInfo :=
  catalog.find? fun info => info.code == code

/-- No code has two entries. -/
theorem nodup_catalog : (catalog.map code).Nodup := by
  decide

/-- The whole entry, in markdown. -/
def explanation (info : CodeInfo) : String :=
  "## " ++ info.code ++ " — " ++ info.title ++ "\n**Severity**: " ++ info.severity.label ++
    "\n\n### Rationale\n" ++ info.rationale ++
    "\n\n### Non-Compliant Example\n```vrl\n" ++ info.nonCompliant ++
    "\n```\n\n### Compliant Example\n```vrl\n" ++ info.compliant ++ "\n```"

end CodeInfo

/-- The explanation of a code. -/
def Code.explain (code : String) : String :=
  match CodeInfo.find? code with
  | some info => info.explanation
  | none => "Unknown diagnostic code: " ++ code

end Remap
