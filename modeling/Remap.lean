import Remap.Debouncer.Machine
import Remap.Proofs.Check.Overlay
import Remap.Proofs.Check.Remedy
import Remap.Proofs.Concatenation
import Remap.Proofs.Debouncer.Atomic
import Remap.Proofs.Indentation
import Remap.Proofs.LineEnding
import Remap.Proofs.Loading
import Remap.Proofs.Order
import Remap.Proofs.Server.Configuration
import Remap.Proofs.Server.Isolation
import Remap.Proofs.Server.Stored
import Remap.Proofs.Snippet
import Remap.Proofs.Json.Reader
import Remap.Proofs.Suggestion
import Remap.Proofs.Delimiter.Append
import Remap.Proofs.Delimiter.Repair
import Remap.Proofs.Indentation.Normal
import Remap.Proofs.Indentation.Level
import Remap.Proofs.Indentation.Kept
import Remap.Proofs.FieldPath
import Remap.Proofs.Completion
import Remap.Proofs.Hover
import Remap.Proofs.Hover.Path
import Remap.Proofs.Registry.Definition
import Remap.Proofs.Registry.Overlay
import Remap.Proofs.Registry.Category
import Remap.Proofs.Text.Utf8
import Remap.Proofs.Server.File
import Remap.Proofs.Playground
import Remap.Proofs.Analyzer.Failure
import Remap.Proofs.Diagnostic.Table
import Remap.Proofs.Tally
import Remap.Proofs.Diagnostic.Report
import Remap.Proofs.Json.Lenient
import Remap.Proofs.Config.Size
import Remap.Proofs.Json.Field
import Remap.Proofs.Json.Grammar
import Remap.Proofs.Json.Written
import Remap.Proofs.Path
import Remap.Proofs.Config.Load
