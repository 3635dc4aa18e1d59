import Remap.Completion
import Remap.Diagnostic.Exchange
import Remap.Diagnostic.Table
import Remap.Function.Explanation
import Remap.Hover
import Remap.Formatter
import Remap.Json.Writer
import Remap.Server.Basic

/-!
# Commands

What the server can be told to do, and what it answers. Loading a configuration either installs it
as a whole or leaves the server as it is. Commands that only look something up change nothing.
-/

namespace Remap

/-- What the server can be told to do. -/
inductive Command where
  | loadConfig (path : String)
  | validateDocument (content : Content) (uri : String)
  | validateFile (path : String)
  | getDiagnostics (uri : String)
  | scheduleValidation (content : Content) (uri : String)
  | explainDiagnostic (code : String)
  | listFunctions (category : String)
  | explainFunction (name : String)
  | complete (text : List Char) (line character : Int)
  | hover (text : List Char) (line character : Int)
  | formatDocument (text : List Char)
  | playgroundLink (text : List Char)
  /-- Time passes. -/
  | advance (seconds : Binary64)
  /-- A timer runs now, whether or not it is due or cancelled. -/
  | lateFire (timer : Nat)
  deriving DecidableEq, Repr

/-- What the server answers. -/
inductive Reply where
  | text (message : String)
  | flag (value : Bool)
  | silence
  deriving DecidableEq, Repr

/-- The server after a command, with its answer and the records of the run. -/
structure Response where
  server : Server
  reply : Reply
  log : Log

namespace Server

/-- An answer that leaves the server as it is. -/
def say (s : Server) (message : String) : Response :=
  ⟨s, .text message, []⟩

/-- The message about a path that is no file or directory. -/
def missingConfig (path : String) : String :=
  "Error: Config file not found at " ++ path

/-- Loads a configuration and installs it. -/
def loadConfig (tree : FileTree) (s : Server) (path : String) : Response :=
  if tree.holds path then
    match Config.load tree (some (path : Wide)) with
    | .error error => s.say ("Error loading config: " ++ error.message)
    | .ok config =>
      match extraFunctions tree config.value with
      | .error error =>
        ⟨s, .text ("Error loading config: " ++ error.message), config.log⟩
      | .ok extra =>
        let installed := s.install config.value extra.value
        ⟨installed,
          .text ("Configuration loaded from " ++ path ++ ".\n" ++
            installed.summary extra.value.length),
          config.log ++ extra.log ++ s.debouncer.pending.map fun _ => .info⟩
  else s.say (missingConfig path)

/-- Validates a text at once and reports on it. -/
def validateText (s : Server) (text : List Char) (uri : String) : Response :=
  let found := s.analyze text
  ⟨s.record uri found.value, .text (report found.value ("`" ++ uri ++ "`")),
    found.log ++ [.info]⟩

/-- Validates a document at once and reports on it. -/
def validateDocument (s : Server) (content : Content) (uri : String) : Response :=
  match content with
  | .text text => s.validateText text uri
  | .malformed kind =>
    s.say ("Error validating document: '" ++ kind ++ "' object has no attribute 'split'")

/-- The largest file that is validated, in bytes. -/
def maxFileBytes : Nat := 5000000

/-- The number of bytes at the start of a file in which a null byte shows that it is no text. -/
def binaryProbe : Nat := 8192

/--
Validates a file, unless it cannot be read, is no text or is too large. Of a file that is too large
only so much is read as shows that it is.
-/
def validateFile (tree : FileTree) (s : Server) (path : String) : Response :=
  if tree.isFile path then
    match tree.readStart path (maxFileBytes + 1) with
    | .error error =>
      ⟨s, .text ("Error: Cannot read " ++ path ++ ": " ++ error.message path), [.error]⟩
    | .ok bytes =>
      if (bytes.take binaryProbe).contains 0 then
        ⟨s, .text ("Error: " ++ path ++ " looks like a binary file"), [.warning]⟩
      else if maxFileBytes < bytes.length then
        s.say ("Error: " ++ path ++ " exceeds " ++ toString maxFileBytes ++ " bytes")
      else s.validateText (Text.Utf8.decodeLossy bytes) path
  else s.say ("Error: File not found at " ++ path)

/-- Schedules a validation after the quiet period. -/
def scheduleValidation (s : Server) (content : Content) (uri : String) : Response :=
  ⟨{ s with debouncer := s.debouncer.schedule uri ⟨uri, content⟩ },
    .text ("Validation of `" ++ uri ++ "` scheduled in " ++ s.debouncer.delay.text ++ "s."), []⟩

/-- Lets time pass and runs the validations that become due. -/
def advance (s : Server) (seconds : Binary64) : Response :=
  let (debouncer, ran) := s.debouncer.advance behaviour seconds
  let after := { s with debouncer := debouncer }.validateAll ran
  ⟨after.value, .silence, after.log⟩

/-- Runs a timer; the answer says whether it could still run. -/
def lateFire (s : Server) (timer : Nat) : Response :=
  let (debouncer, ran) := s.debouncer.fire behaviour timer
  let after := { s with debouncer := debouncer }.validateAll ran.toList
  ⟨after.value, .flag (s.debouncer.canRun timer), after.log⟩

/-- The diagnostics that are stored for a document, as JSON. -/
def storedJson (s : Server) (uri : String) : String :=
  (Json.arr ((s.store.get uri).map Diagnostic.toJson)).pretty

/-- The items to offer at a position, as JSON. -/
def completionJson (s : Server) (text : List Char) (line character : Int) : String :=
  (Json.arr ((Completion.items s.registry text line character).map CompletionItem.toJson)).pretty

/-- What is shown at a position. -/
def hoverText (s : Server) (text : List Char) (line character : Int) : String :=
  match Hover.at? s.registry text line character with
  | some hover => hover.contents
  | none => "No documentation at this position."

/--
The indented text, or a remark if it is indented already. With the sizes that can be configured no
line of a document that fits in memory becomes too wide.
-/
def formatText (s : Server) (text : List Char) : String :=
  let indented := Indentation.indented s.config.indentSize text
  if indented = text then "Document is already formatted." else String.ofList indented

/-- Carries out a command. -/
def run (tree : FileTree) (s : Server) : Command → Response
  | .loadConfig path => s.loadConfig tree path
  | .validateDocument content uri => s.validateDocument content uri
  | .validateFile path => s.validateFile tree path
  | .getDiagnostics uri => s.say (s.storedJson uri)
  | .scheduleValidation content uri => s.scheduleValidation content uri
  | .explainDiagnostic code => s.say (Code.explain code)
  | .listFunctions category => s.say (s.registry.list category)
  | .explainFunction name => s.say (s.registry.explainOrSuggest name)
  | .complete text line character => s.say (s.completionJson text line character)
  | .hover text line character => s.say (s.hoverText text line character)
  | .formatDocument text => s.say (s.formatText text)
  | .playgroundLink text => s.say (Playground.link s.config.playgroundUrl.shown text)
  | .advance seconds => s.advance seconds
  | .lateFire timer => s.lateFire timer

end Server

end Remap
