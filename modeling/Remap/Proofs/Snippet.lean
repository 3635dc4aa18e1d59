import Remap.Proofs.Check.Place
import Remap.Proofs.Delimiter.Report
import Remap.Proofs.Lookup

/-!
# Snippets

The text that completion inserts for a function is a call with one tab stop for each parameter that
must be given. Where the function and these parameters have identifiers for names, the analyzer
finds the call and nothing else in the text. The call aborts if the function can fail, the registry
has the function, and what is open is closed on the same line; so no error is reported.
-/

namespace Remap

open Text

/-- The function and the parameters that must be given have identifiers for names. -/
def FunctionSpec.NamedByIdentifiers (spec : FunctionSpec) : Prop :=
  IsIdentifier spec.name.toList ∧ ∀ p ∈ spec.requiredParameters, IsIdentifier p.name.toList

instance (spec : FunctionSpec) : Decidable spec.NamedByIdentifiers :=
  inferInstanceAs (Decidable (_ ∧ _))

/-- All standard functions have such names. -/
lemma Registry.namedByIdentifiers_standard {spec : FunctionSpec} (h : spec ∈ standard.specs) :
    spec.NamedByIdentifiers := by
  have hall : ∀ spec ∈ Catalog.standard, spec.NamedByIdentifiers := by decide +kernel
  exact hall spec (mem_of_mem_ofList h)

/-! Texts inside a line. -/

/-- The delimiters are balanced, and the text neither opens a parenthesis nor ends the line. -/
structure Inline (text : List Char) : Prop where
  balanced : Delimiter.Balanced text
  noParen : '(' ∉ text
  noFeed : '\n' ∉ text

namespace Inline

variable {a b text sep : List Char}

/-- The characters that matter for the delimiters or for the lines. -/
def marks : List Char :=
  ['\n', '(', ')', '[', ']', '\x7b', '\x7d']

/-- The character matters for neither. -/
def isPlain (c : Char) : Bool :=
  !marks.contains c

/-- The empty text is inline. -/
lemma nil : Inline [] :=
  ⟨Delimiter.balanced_nil, List.not_mem_nil, List.not_mem_nil⟩

/-- Inline texts put together are inline. -/
lemma append (ha : Inline a) (hb : Inline b) : Inline (a ++ b) where
  balanced := ha.balanced.append hb.balanced
  noParen h := (List.mem_append.1 h).elim ha.noParen hb.noParen
  noFeed h := (List.mem_append.1 h).elim ha.noFeed hb.noFeed

/-- A plain character neither opens nor closes. -/
lemma delimits_nothing_of_isPlain {c : Char} (h : isPlain c = true) :
    Delimiter.ofOpener? c = none ∧ Delimiter.ofCloser? c = none := by
  obtain ⟨d, rfl⟩ | ⟨d, rfl⟩ | hnone := Delimiter.opens_or_closes c
  · cases d <;> exact absurd h (by decide)
  · cases d <;> exact absurd h (by decide)
  · exact hnone

/-- The characters of identifiers are plain. -/
lemma isPlain_of_isIdentChar {c : Char} (h : isIdentChar c = true) : isPlain c = true := by
  have hmarks : marks.all (fun m => !isIdentChar m) = true := by decide
  rw [isPlain, Bool.not_eq_true', List.contains_eq_mem, decide_eq_false_iff_not]
  intro hmark
  have hchar := List.all_eq_true.1 hmarks c hmark
  rw [h] at hchar
  cases hchar

/-- A text of plain characters is inline. -/
lemma of_plain (h : text.all isPlain = true) : Inline text := by
  rw [List.all_eq_true] at h
  refine ⟨?_, ?_, ?_⟩
  · apply Delimiter.balanced_of_plain
    intro c hc
    exact delimits_nothing_of_isPlain (h c hc)
  · intro hc
    exact absurd (h '(' hc) (by decide)
  · intro hc
    exact absurd (h '\n' hc) (by decide)

/-- A text of characters of identifiers is inline. -/
lemma of_identChars (h : ∀ c ∈ text, isIdentChar c = true) : Inline text := by
  apply of_plain
  rw [List.all_eq_true]
  intro c hc
  exact isPlain_of_isIdentChar (h c hc)

/-- Braces and brackets may be put around the text. -/
lemma enclose (h : Inline text) {d : Delimiter} (hd : d ≠ .paren) :
    Inline (d.opener :: (text ++ [d.closer])) where
  balanced := h.balanced.enclose d
  noParen hc := by
    simp only [List.mem_cons, List.mem_append, List.not_mem_nil, or_false] at hc
    obtain hopener | htext | hcloser := hc
    · exact hd (Delimiter.opener_injective (d := .paren) hopener).symm
    · exact h.noParen htext
    · exact Delimiter.opener_ne_closer .paren d hcloser
  noFeed hc := by
    simp only [List.mem_cons, List.mem_append, List.not_mem_nil, or_false] at hc
    obtain hopener | htext | hcloser := hc
    · cases d <;> exact absurd hopener (by decide)
    · exact h.noFeed htext
    · exact Delimiter.closer_ne_feed d hcloser.symm

/-- Inline texts with an inline separator between them are inline. -/
lemma intercalate (hsep : Inline sep) {pieces : List (List Char)}
    (h : ∀ piece ∈ pieces, Inline piece) : Inline (sep.intercalate pieces) := by
  induction pieces with
  | nil => exact nil
  | cons piece rest ih =>
    obtain ⟨hpiece, hrest⟩ := List.forall_mem_cons.1 h
    cases rest with
    | nil =>
      rw [List.intercalate_singleton]
      exact hpiece
    | cons next rest =>
      rw [List.intercalate_cons_cons]
      exact (hpiece.append hsep).append (ih hrest)

end Inline

/-! The snippet as it is written. -/

namespace FunctionSpec

variable {spec : FunctionSpec}

/-- What a snippet has between the parentheses. -/
def arguments (spec : FunctionSpec) : List Char :=
  ", ".toList.intercalate
    (spec.requiredParameters.zipIdx.map fun stop => (tabStop (stop.2 + 1) stop.1).toList)

/-- A snippet is a name, perhaps a bang, and arguments between parentheses. -/
lemma toList_snippet (spec : FunctionSpec) :
    spec.snippet.toList =
      spec.name.toList ++ CallSite.bang spec.fallible ++ '(' :: (spec.arguments ++ [')']) := by
  have hbang : (if spec.fallible then "!" else "").toList = CallSite.bang spec.fallible := by
    cases spec.fallible <;> rfl
  simp only [snippet, callName, arguments, String.toList_append, String.toList_intercalate,
    List.map_map, hbang, List.append_assoc]
  rfl

/-- A tab stop is inline if its parameter is an identifier. -/
lemma inline_tabStop (number : Nat) {p : Parameter} (h : IsIdentifier p.name.toList) :
    Inline (tabStop number p).toList := by
  have hdigits : Inline (toString number).toList := by
    rw [Nat.toString_eq_ofList_toDigits, String.toList_ofList]
    apply Inline.of_identChars
    intro c hc
    have hdigit := Nat.isDigit_of_mem_toDigits (by decide) (by decide) hc
    rw [isIdentChar, Char.isAlphanum, hdigit, Bool.or_true, Bool.true_or]
  have hname : Inline p.name.toList := .of_identChars h.2
  have hcolon : Inline [':'] := .of_plain (by decide)
  have hdollar : Inline ['$'] := .of_plain (by decide)
  have hstop : (tabStop number p).toList = ['$'] ++ Delimiter.brace.opener ::
      ((toString number).toList ++ [':'] ++ p.name.toList ++ [Delimiter.brace.closer]) := by
    simp only [tabStop, String.toList_append, List.append_assoc]
    rfl
  rw [hstop]
  exact hdollar.append (((hdigits.append hcolon).append hname).enclose (by decide))

/-- The arguments of a snippet are inline if the parameters are identifiers. -/
lemma inline_arguments (h : spec.NamedByIdentifiers) : Inline spec.arguments := by
  apply Inline.intercalate (.of_plain (by decide))
  intro piece hpiece
  obtain ⟨⟨p, i⟩, hp, rfl⟩ := List.mem_map.1 hpiece
  exact inline_tabStop (i + 1) (h.2 p (List.fst_mem_of_mem_zipIdx hp))

/-- The name in a snippet with its bang is inline. -/
lemma inline_name (h : spec.NamedByIdentifiers) :
    Inline (spec.name.toList ++ CallSite.bang spec.fallible) := by
  refine (Inline.of_identChars h.1.2).append (.of_plain ?_)
  cases spec.fallible <;> decide

/-- The call is the only call site of the snippet. -/
lemma ofLine_snippet (h : spec.NamedByIdentifiers) :
    CallSite.ofLine spec.snippet.toList =
      [⟨spec.name, spec.fallible, 0,
        (spec.name.toList ++ CallSite.bang spec.fallible).length + 1⟩] := by
  have hafter : '(' ∉ spec.arguments ++ [')'] := by
    rw [List.mem_append, not_or]
    exact ⟨(inline_arguments h).noParen, by decide⟩
  rw [toList_snippet, CallSite.ofLine_call spec.fallible h.1 hafter, String.ofList_toList]

/-- The delimiters of a snippet are balanced. -/
lemma balanced_snippet (h : spec.NamedByIdentifiers) :
    Delimiter.Balanced spec.snippet.toList := by
  rw [toList_snippet]
  exact (inline_name h).balanced.append ((inline_arguments h).balanced.enclose .paren)

/-- The snippet is one line, as the checks see it, too. -/
lemma sourceLines_snippet (h : spec.NamedByIdentifiers) :
    Analyzer.sourceLines spec.snippet.toList = [spec.snippet.toList] := by
  have hfeed : '\n' ∉ spec.snippet.toList := by
    rw [toList_snippet, List.mem_append, List.mem_cons, List.mem_append (t := [')'])]
    intro hmem
    obtain hname | hparen | harguments | hparen := hmem
    · exact (inline_name h).noFeed hname
    · cases hparen
    · exact (inline_arguments h).noFeed harguments
    · exact absurd hparen (by decide)
  have hlast : spec.snippet.toList.getLast? = some ')' := by
    rw [toList_snippet, ← List.cons_append, ← List.append_assoc, List.getLast?_concat]
  rw [Analyzer.sourceLines, lines_of_notMem hfeed, List.map_singleton, dropReturn, hlast]
  rfl

end FunctionSpec

/-! The report on a snippet. -/

namespace Check

open Analyzer

variable {registry : Registry} {line : List Char} {number : Nat} {d : Diagnostic}
  {spec : FunctionSpec}

/-- On a line with all calls known and handled no error is found. -/
lemma severity_ne_error_of_mem_findings
    (hfallible : fallibleCalls registry line number = [])
    (hunknown : unknownFunctions registry line number = [])
    (h : d ∈ findings registry line number) : d.severity ≠ .error := by
  rw [findings, hfallible, hunknown, List.append_nil, List.nil_append] at h
  simp only [List.mem_append] at h
  obtain (h | h) | h := h
  · obtain ⟨column, -, rfl⟩ := mem_deletesRoot.1 h
    exact Severity.noConfusion
  · obtain ⟨-, site, -, rfl⟩ := mem_abortsWithoutFallback.1 h
    exact Severity.noConfusion
  · obtain ⟨-, rfl⟩ := mem_matchesUnbounded.1 h
    exact Severity.noConfusion

/-- The call in a snippet is not reported as unhandled. -/
lemma fallibleCalls_snippet (hspec : registry.get? spec.name = some spec)
    (hnamed : spec.NamedByIdentifiers) (number : Int) :
    fallibleCalls registry spec.snippet.toList number = [] := by
  rw [fallibleCalls, FunctionSpec.ofLine_snippet hnamed, List.map_eq_nil_iff,
    List.filter_eq_nil_iff, List.forall_mem_singleton]
  -- a fallible function is one that the snippet calls with a bang
  rw [isFallible, hspec, isUnhandled, Option.any_some]
  cases spec.fallible <;> simp

/-- The call in a snippet is not reported as unknown. -/
lemma unknownFunctions_snippet (hspec : registry.get? spec.name = some spec)
    (hnamed : spec.NamedByIdentifiers) (number : Int) :
    unknownFunctions registry spec.snippet.toList number = [] := by
  rw [unknownFunctions, FunctionSpec.ofLine_snippet hnamed, List.map_eq_nil_iff,
    List.filter_eq_nil_iff, List.forall_mem_singleton, Registry.contains, hspec]
  exact Bool.false_ne_true

/-- No error is reported about a snippet. -/
lemma severity_ne_error_of_snippet (hspec : registry.get? spec.name = some spec)
    (hnamed : spec.NamedByIdentifiers) {disabled : List String}
    (h : d ∈ ({ registry := registry } : Analyzer).diagnostics spec.snippet.toList disabled) :
    d.severity ≠ .error := by
  have helse : elsePlacement [spec.snippet.toList] = [] := rfl
  rw [diagnostics_standard, (FunctionSpec.balanced_snippet hnamed).check_eq_nil,
    FunctionSpec.sourceLines_snippet hnamed, helse] at h
  obtain ⟨⟨line, number⟩, hline, hfound⟩ := List.mem_flatMap.1 (List.mem_filter.1 h).1
  have hsource := List.fst_mem_of_mem_zipIdx (List.mem_filter.1 hline).1
  rw [FunctionSpec.sourceLines_snippet hnamed, List.mem_singleton] at hsource
  subst hsource
  exact severity_ne_error_of_mem_findings (fallibleCalls_snippet hspec hnamed number)
    (unknownFunctions_snippet hspec hnamed number) hfound

end Check

namespace CompletionItem

/-- The item of a function puts in its snippet. -/
lemma insertText_ofFunction (spec : FunctionSpec) :
    (ofFunction spec).insertText = spec.snippet := by
  have hne : spec.snippet.isEmpty = false := by
    rw [← Bool.not_eq_true, String.isEmpty_iff]
    intro hempty
    have hnil := spec.toList_snippet
    rw [hempty] at hnil
    exact absurd hnil.symm (by simp)
  rw [insertText, ofFunction, hne]
  rfl

/--
Every function that completion offers is one of the registry, and where it and the parameters that
must be given have identifiers for names, the text that is inserted has one call site, that of the
function with a bang if it can fail, and no error is reported of the text.
-/
theorem analyze_insertText (registry : Registry) (text : List Char) (line character : Int)
    (item : CompletionItem) (hitem : item ∈ Completion.items registry text line character)
    (hkind : item.kind = .function)
    (hnamed : ∀ spec, registry.get? item.label = some spec → spec.NamedByIdentifiers) :
    ∃ spec, registry.get? item.label = some spec ∧ item = .ofFunction spec ∧
      (∃ stop, CallSite.ofLine item.insertText.toList = [⟨spec.name, spec.fallible, 0, stop⟩]) ∧
      ∀ disabled, ∀ d ∈ ({ registry := registry } : Analyzer).diagnostics
        item.insertText.toList disabled, d.severity ≠ .error := by
  obtain ⟨spec, hmem, rfl⟩ := Completion.exists_spec_of_mem_items hitem hkind
  have hspec : registry.get? spec.name = some spec := Registry.get?_of_mem hmem
  have hidentifiers := hnamed spec hspec
  refine ⟨spec, hspec, rfl, ?_, ?_⟩
  · rw [insertText_ofFunction]
    exact ⟨_, FunctionSpec.ofLine_snippet hidentifiers⟩
  · intro disabled d hd
    rw [insertText_ofFunction] at hd
    exact Check.severity_ne_error_of_snippet hspec hidentifiers hd

/-- A standard function that can fail, with two parameters that must be given. -/
theorem analyze_insertText_remove :
    let remove : FunctionSpec :=
      ⟨"remove", .object, true, [.required "value" "object|array", .required "path" "array",
        .optional "compact" "bool"], "object|array",
        "Dynamically removes a value from an object or array by path segments.", none⟩
    let item := ofFunction remove
    item ∈ Completion.items .standard ".a = ".toList 0 5 ∧ item.kind = .function ∧
      item.insertText = "remove!($\x7b1:value\x7d, $\x7b2:path\x7d)" ∧
      (∃ stop, CallSite.ofLine item.insertText.toList = [⟨"remove", true, 0, stop⟩]) ∧
      ∀ disabled, ∀ d ∈ ({ registry := .standard } : Analyzer).diagnostics
        item.insertText.toList disabled, d.severity ≠ .error := by
  intro remove item
  have hget : Registry.standard.get? "remove" = some remove := by
    rw [Registry.standard, Registry.get?_ofList]
    decide +kernel
  have hitem : item ∈ Completion.items .standard ".a = ".toList 0 5 :=
    Completion.ofFunction_mem_items (Registry.mem_of_get? hget) (by decide)
  have hnamed : ∀ spec, Registry.standard.get? item.label = some spec →
      spec.NamedByIdentifiers := by
    intro spec hspec
    exact Registry.namedByIdentifiers_standard (Registry.mem_of_get? hspec)
  obtain ⟨spec, hspec, -, hsite, herror⟩ :=
    analyze_insertText .standard ".a = ".toList 0 5 item hitem rfl hnamed
  cases hget.symm.trans hspec
  exact ⟨hitem, rfl, by decide, hsite, herror⟩

end CompletionItem

end Remap
