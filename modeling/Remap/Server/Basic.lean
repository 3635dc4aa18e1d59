import Remap.Analyzer
import Remap.Config
import Remap.Debouncer.Basic
import Remap.Diagnostic.Basic
import Remap.Function.Exchange
import Remap.Function.Registry
import Remap.Number.Text

/-!
# The server

The server holds the configuration, the functions that it knows, the diagnostics of each document
and the validations that wait. A new configuration is installed as a whole: the functions are the
standard ones with those of the configured file laid over them, and the validations that wait are
scheduled again. A validation uses what is configured at the moment at which it runs.
-/

namespace Remap

/-!
## The store of diagnostics

The latest diagnostics of each document. What is stored for a document is replaced as a whole.
-/

/-- The diagnostics of each document that has been validated. -/
structure Store where
  entries : List (String × List Diagnostic)

namespace Store

/-- Nothing is stored. -/
def empty : Store :=
  ⟨[]⟩

/-- Forgets a document. -/
def clear (store : Store) (uri : String) : Store :=
  ⟨store.entries.filter fun entry => entry.1 != uri⟩

/-- Stores the diagnostics of a document in place of those stored before. -/
def set (store : Store) (uri : String) (diagnostics : List Diagnostic) : Store :=
  ⟨(uri, diagnostics) :: (store.clear uri).entries⟩

/-- The diagnostics of a document; none if it is not stored. -/
def get (store : Store) (uri : String) : List Diagnostic :=
  ((store.entries.find? fun entry => entry.1 == uri).map Prod.snd).getD []

/-- The documents that are stored, in the order of their names. -/
def uris (store : Store) : List String :=
  (store.entries.map Prod.fst).mergeSort fun a b => !decide (b < a)

/-- What is stored for a document is read back. -/
@[simp] theorem get_set_self (store : Store) (uri : String) (diagnostics : List Diagnostic) :
    (store.set uri diagnostics).get uri = diagnostics := by
  simp [get, set]

/-- Forgetting a document leaves the entries of the others. -/
theorem find?_clear_of_ne (entries : List (String × List Diagnostic)) {uri other : String}
    (h : other ≠ uri) :
    (entries.filter fun entry => entry.1 != uri).find? (fun entry => entry.1 == other) =
      entries.find? fun entry => entry.1 == other := by
  induction entries with
  | nil => rfl
  | cons entry rest ih =>
    by_cases he : entry.1 = uri
    · simp [he, ih, h.symm]
    · simp only [List.filter_cons, bne_iff_ne, ne_eq, he, not_false_eq_true, if_true,
        List.find?_cons, ih]

/-- What is stored for a document does nothing to the others. -/
theorem get_set_of_ne (store : Store) {uri other : String} (h : other ≠ uri)
    (diagnostics : List Diagnostic) : (store.set uri diagnostics).get other = store.get other := by
  have hne : (uri == other) = false := beq_eq_false_iff_ne.2 h.symm
  simp only [get, set, clear, List.find?_cons, hne, find?_clear_of_ne store.entries h]

end Store

/-! ## The state of the server -/

/-- What is given as the text of a document; `malformed` names the kind of what is not a text. -/
inductive Content where
  | text (chars : List Char)
  | malformed (kind : String)
  deriving DecidableEq, Repr

/-- A document to validate. -/
structure Document where
  uri : String
  content : Content
  deriving DecidableEq, Repr

/-- The state of the server. -/
structure Server where
  config : Config
  registry : Registry
  store : Store
  debouncer : Debouncer Document

namespace Server

/-- A validation asks nothing of the debouncer; it fails for what is not a text. -/
def behaviour : Behaviour Document where
  actions p :=
    match p.call.content with
    | .text _ => []
    | .malformed _ => [.fail]
  weight _ := 1

/-- The analyzer of the functions that the server knows. -/
def analyzer (s : Server) : Analyzer :=
  { registry := s.registry }

/-- The server as it starts, with the standard configuration. -/
def start : Server where
  config := .standard
  registry := .standard
  store := .empty
  debouncer := .start Config.standard.debounceSeconds

/-- The further functions that a configuration names. -/
def extraFunctions (tree : FileTree) (config : Config) :
    Except LoadError (Logged (List FunctionSpec)) :=
  match config.extraFunctionsPath with
  | none | some [] => .ok ⟨[], []⟩
  | some path => FunctionSpec.load tree path

/-- The server with a configuration and the functions that go with it. -/
def install (s : Server) (config : Config) (extra : List FunctionSpec) : Server :=
  { s with
    config := config
    registry := Registry.standard.merge extra
    debouncer := s.debouncer.restart config.debounceSeconds }

/-- What is said about a configuration that has just been installed. -/
def summary (s : Server) (extraCount : Nat) : String :=
  let disabled := ", ".intercalate (s.config.disabledCodes.map Wide.shown)
  "Registry: " ++ toString s.registry.size ++ " functions (" ++
    toString s.registry.fallibleNames.length ++ " fallible, " ++ toString extraCount ++
    " extra).\nDisabled codes: " ++ (if disabled.isEmpty then "none" else disabled) ++
    ".\nDebounce: " ++ s.config.debounceSeconds.text ++ "s."

/-- The diagnostics of a text under the present configuration. -/
def analyze (s : Server) (text : List Char) : Logged (List Diagnostic) :=
  s.analyzer.analyze text s.config.disabled

/-- The server with the diagnostics found in a document. -/
def record (s : Server) (uri : String) (found : List Diagnostic) : Server :=
  { s with store := s.store.set uri found }

/-- Stores the diagnostics of a text under the name of its document. -/
def validate (s : Server) (uri : String) (text : List Char) : Logged Server :=
  let found := s.analyze text
  ⟨s.record uri found.value, found.log ++ [.info]⟩

/-- A validation that was scheduled; one that fails is logged and changes nothing. -/
def validateScheduled (s : Server) (document : Document) : Logged Server :=
  match document.content with
  | .text text => s.validate document.uri text
  | .malformed _ => ⟨s, [.error]⟩

/-- The validations that ran, one after another. -/
def validateAll (s : Server) (ran : List (Pending Document)) : Logged Server :=
  ran.foldl
    (fun state p =>
      let next := state.value.validateScheduled p.call
      ⟨next.value, state.log ++ next.log⟩)
    ⟨s, []⟩

end Server

end Remap
