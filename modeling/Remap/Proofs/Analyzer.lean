import Remap.Analyzer
import Remap.Proofs.Pairwise

/-!
# The parts of an analysis

An analysis with the standard checks is the report about delimiters, the report about `else`, and
what the checks find on each line that holds code. `diagnostics_standard` says so; the code of a
diagnostic tells which part it comes from, so that the diagnostics with one code are those of one
part.
-/

namespace Remap

/-- One place of a document comes before another one. -/
def Position.Before (a b : Position) : Prop :=
  a.line < b.line ∨ a.line = b.line ∧ a.character < b.character

namespace Analyzer

open Text

/--
The line with a number, as the line checks see it: without one carriage return at its end, neither
blank nor a comment as a whole.
-/
def CodeLine (text : List Char) (number : Nat) (line : List Char) : Prop :=
  ∃ raw, (lines text)[number]? = some raw ∧ line = dropReturn raw ∧ trim line ≠ [] ∧
    (trim line).head? ≠ some '#'

/-- A line holds code unless it is blank or a comment. -/
lemma isCode_iff (line : List Char) :
    isCode line = true ↔ trim line ≠ [] ∧ (trim line).head? ≠ some '#' := by
  rw [isCode]
  cases trim line <;> simp

/-- The lines that are checked are those that hold code, with their numbers. -/
lemma mem_codeLines {text line : List Char} {number : Nat} :
    (line, number) ∈ codeLines text ↔ CodeLine text number line := by
  rw [codeLines, List.mem_filter, List.mk_mem_zipIdx_iff_getElem?, isCode_iff, sourceLines,
    List.getElem?_map, Option.map_eq_some_iff]
  refine ⟨?_, ?_⟩
  · intro h
    obtain ⟨⟨raw, hraw, rfl⟩, hcode⟩ := h
    exact ⟨raw, hraw, rfl, hcode⟩
  · intro h
    obtain ⟨raw, hraw, rfl, hcode⟩ := h
    exact ⟨⟨raw, hraw, rfl⟩, hcode⟩

/-- The lines that hold code come in order. -/
lemma pairwise_codeLines (text : List Char) :
    (codeLines text).Pairwise fun a b => a.2 < b.2 :=
  (pairwise_zipIdx _ 0).filter _

/-- What the standard checks find on a line. -/
def findings (registry : Registry) (line : List Char) (number : Nat) : List Diagnostic :=
  Check.fallibleCalls registry line number ++ Check.unknownFunctions registry line number ++
    Check.deletesRoot registry line number ++ Check.abortsWithoutFallback registry line number ++
    Check.matchesUnbounded registry line number

/-- The standard checks find on a line what is found one after the other. -/
lemma value_checkLine (registry : Registry) (line : List Char) (number : Nat) :
    (({ registry := registry } : Analyzer).checkLine line number).value =
      findings registry line number := by
  simp [checkLine, findings, LineCheck.standard, SafeCheck.lift, Except.toOption]

/-- An analysis with the standard checks, part by part. -/
lemma diagnostics_standard (registry : Registry) (text : List Char) (disabled : List String) :
    ({ registry := registry } : Analyzer).diagnostics text disabled =
      (Delimiter.check text ++ Check.elsePlacement (sourceLines text) ++
        (codeLines text).flatMap fun place => findings registry place.1 place.2).filter
          (isEnabled disabled) := by
  rw [diagnostics, analyze, lineFindings, List.flatMap_map]
  simp only [value_checkLine]

/-- Nothing is left out if no code is switched off. -/
lemma filter_isEnabled_nil (found : List Diagnostic) : found.filter (isEnabled []) = found := by
  rw [List.filter_eq_self]
  intro d _
  rfl

end Analyzer

namespace Check

/-! The codes of the diagnostics of each check. -/

/-- The scan of delimiters reports with two codes for each kind. -/
lemma code_of_mem_delimiters {text : List Char} {d : Diagnostic}
    (h : d ∈ Delimiter.check text) :
    ∃ kind, d.code = (Code.unmatchedClosing kind).id ∨ d.code = (Code.missingClosing kind).id := by
  obtain h | h := List.mem_append.1 h
  · obtain ⟨stray, -, rfl⟩ := List.mem_map.1 h
    exact ⟨stray.kind, .inl rfl⟩
  · obtain ⟨kind, -, hkind⟩ := List.mem_filterMap.1 h
    simp only [Delimiter.Scan.missing?, Option.ite_none_left_eq_some] at hkind
    obtain ⟨-, heq⟩ := hkind
    cases heq
    exact ⟨kind, .inr rfl⟩

/-- The line that follows another one, with its number. -/
lemma getElem?_of_mem_zip_tail {lines : List (List Char)} {previous line : List Char} {number : Nat}
    (h : ((previous, line), number) ∈ (lines.zip lines.tail).zipIdx 1) :
    lines[number]? = some line := by
  obtain ⟨hle, hget⟩ := List.mk_mem_zipIdx_iff_le_and_getElem?_sub.1 h
  obtain ⟨-, htail⟩ := List.getElem?_zip_eq_some.1 hget
  rwa [List.getElem?_tail, Nat.sub_add_cancel hle] at htail

/-- A misplaced `else` starts a line that has the number given. -/
lemma exists_of_mem_elsePlacement {lines : List (List Char)} {d : Diagnostic}
    (h : d ∈ elsePlacement lines) :
    ∃ (number : Nat) (line : List Char), lines[number]? = some line ∧
      startsWithElse line = true ∧ d = misplacedElse number line := by
  obtain ⟨⟨⟨previous, line⟩, number⟩, hmem, heq⟩ := List.mem_filterMap.1 h
  rw [Option.ite_none_right_eq_some, Bool.and_eq_true] at heq
  obtain ⟨⟨helse, -⟩, heq⟩ := heq
  cases heq
  exact ⟨number, line, getElem?_of_mem_zip_tail hmem, helse, rfl⟩

/-- The check of `else` reports with its own code. -/
lemma code_of_mem_elsePlacement {lines : List (List Char)} {d : Diagnostic}
    (h : d ∈ elsePlacement lines) : d.code = Code.elseSameLine.id := by
  obtain ⟨number, line, -, -, rfl⟩ := exists_of_mem_elsePlacement h
  rfl

variable {registry : Registry} {line : List Char} {number : Int} {d : Diagnostic}

/-- The check of fallible calls reports with its own code. -/
lemma code_of_mem_fallibleCalls (h : d ∈ fallibleCalls registry line number) :
    d.code = Code.missingErrorHandling.id := by
  obtain ⟨site, -, rfl⟩ := List.mem_map.1 h
  rfl

/-- The check of unknown functions reports with its own code. -/
lemma code_of_mem_unknownFunctions (h : d ∈ unknownFunctions registry line number) :
    d.code = Code.unknownFunction.id := by
  obtain ⟨site, -, rfl⟩ := List.mem_map.1 h
  rfl

/-- Reported is the first deletion of the whole event on the line. -/
lemma mem_deletesRoot : d ∈ deletesRoot registry line number ↔
    ∃ column, Text.offset? rootDeletion line = some column ∧ d = rootDeleted number column := by
  rw [deletesRoot]
  cases Text.offset? rootDeletion line <;> simp

/-- The check for deletions of the event reports with its own code. -/
lemma code_of_mem_deletesRoot (h : d ∈ deletesRoot registry line number) :
    d.code = Code.delRootEvent.id := by
  obtain ⟨column, -, rfl⟩ := mem_deletesRoot.1 h
  rfl

/-- Reported is the first fallible call that aborts, on a line without a fallback. -/
lemma mem_abortsWithoutFallback : d ∈ abortsWithoutFallback registry line number ↔
    hasFallback line = false ∧ ∃ site,
      ((CallSite.ofLine line).find? fun site => site.abort && isFallible registry site) =
        some site ∧ d = aborting number site := by
  rw [abortsWithoutFallback]
  cases hasFallback line with
  | true => simp
  | false =>
    cases (CallSite.ofLine line).find? fun site => site.abort && isFallible registry site <;> simp

/-- The check for calls that abort reports with its own code. -/
lemma code_of_mem_abortsWithoutFallback (h : d ∈ abortsWithoutFallback registry line number) :
    d.code = Code.suggestNullCoalescing.id := by
  obtain ⟨-, site, -, rfl⟩ := mem_abortsWithoutFallback.1 h
  rfl

/-- Reported is the line itself, if it has an unbounded wildcard and matches a pattern. -/
lemma mem_matchesUnbounded : d ∈ matchesUnbounded registry line number ↔
    (Text.occurs ['.', '*'] line &&
      (CallSite.ofLine line).any fun site => patternFunctions.contains site.name) = true ∧
      d = slowPattern number line := by
  rw [matchesUnbounded]
  split
  case isTrue h => rw [List.mem_singleton, and_iff_right h]
  case isFalse h => exact iff_of_false List.not_mem_nil fun hd => h hd.1

/-- The check for slow patterns reports with its own code. -/
lemma code_of_mem_matchesUnbounded (h : d ∈ matchesUnbounded registry line number) :
    d.code = Code.regexPerformance.id := by
  obtain ⟨-, rfl⟩ := mem_matchesUnbounded.1 h
  rfl

end Check

/-! The diagnostics with one code. -/

/-- Diagnostics that share their code are all kept or all left out. -/
lemma filter_code {found : List Diagnostic} {a : Code} (h : ∀ d ∈ found, d.code = a.id)
    (c : Code) : found.filter (·.code == c.id) = if a = c then found else [] := by
  split
  case isTrue hac =>
    rw [List.filter_eq_self]
    intro d hd
    rw [beq_iff_eq, h d hd, hac]
  case isFalse hac =>
    rw [List.filter_eq_nil_iff]
    intro d hd heq
    rw [beq_iff_eq, h d hd] at heq
    exact hac (Code.id_injective heq)

/-- The scan of delimiters reports nothing with the code of another check. -/
lemma filter_code_delimiters (text : List Char) {c : Code}
    (hu : ∀ kind, Code.unmatchedClosing kind ≠ c) (hm : ∀ kind, Code.missingClosing kind ≠ c) :
    (Delimiter.check text).filter (·.code == c.id) = [] := by
  rw [List.filter_eq_nil_iff]
  intro d hd heq
  rw [beq_iff_eq] at heq
  obtain ⟨kind, hcode | hcode⟩ := Check.code_of_mem_delimiters hd
  · exact hu kind (Code.id_injective (hcode.symm.trans heq))
  · exact hm kind (Code.id_injective (hcode.symm.trans heq))

namespace Analyzer

variable (registry : Registry) (text : List Char)

/-- What the line checks find with one code is what one of them finds. -/
lemma filter_code_findings (c : Code) (line : List Char) (number : Nat) :
    (findings registry line number).filter (·.code == c.id) =
      (if .missingErrorHandling = c then Check.fallibleCalls registry line number else []) ++
        (if .unknownFunction = c then Check.unknownFunctions registry line number else []) ++
        (if .delRootEvent = c then Check.deletesRoot registry line number else []) ++
        (if .suggestNullCoalescing = c then Check.abortsWithoutFallback registry line number
          else []) ++
        (if .regexPerformance = c then Check.matchesUnbounded registry line number else []) := by
  simp only [findings, List.filter_append]
  rw [filter_code fun _ => Check.code_of_mem_fallibleCalls,
    filter_code fun _ => Check.code_of_mem_unknownFunctions,
    filter_code fun _ => Check.code_of_mem_deletesRoot,
    filter_code fun _ => Check.code_of_mem_abortsWithoutFallback,
    filter_code fun _ => Check.code_of_mem_matchesUnbounded]

/-- The diagnostics with one code, when none is switched off. -/
def flagged (code : String) : List Diagnostic :=
  (({ registry := registry } : Analyzer).diagnostics text []).filter (·.code == code)

/-- The diagnostics with a code of the line checks come from the lines that hold code. -/
lemma filter_code_diagnostics (c : Code) (hu : ∀ kind, Code.unmatchedClosing kind ≠ c)
    (hm : ∀ kind, Code.missingClosing kind ≠ c) (he : Code.elseSameLine ≠ c) :
    flagged registry text c.id =
      (codeLines text).flatMap fun place =>
        (findings registry place.1 place.2).filter (·.code == c.id) := by
  rw [flagged, diagnostics_standard, filter_isEnabled_nil, List.filter_append, List.filter_append,
    filter_code_delimiters text hu hm, filter_code (fun _ => Check.code_of_mem_elsePlacement),
    if_neg he, List.filter_flatMap]
  rfl

/-- The calls reported as unhandled are those that the check finds, line by line. -/
lemma flagged_missingErrorHandling :
    flagged registry text Code.missingErrorHandling.id =
      (codeLines text).flatMap fun place => Check.fallibleCalls registry place.1 place.2 := by
  rw [filter_code_diagnostics registry text .missingErrorHandling nofun nofun nofun]
  simp only [filter_code_findings, reduceCtorEq, if_true, if_false, List.append_nil]

/-- The calls reported as unknown are those that the check finds, line by line. -/
lemma flagged_unknownFunction :
    flagged registry text Code.unknownFunction.id =
      (codeLines text).flatMap fun place => Check.unknownFunctions registry place.1 place.2 := by
  rw [filter_code_diagnostics registry text .unknownFunction nofun nofun nofun]
  simp only [filter_code_findings, reduceCtorEq, if_true, if_false, List.append_nil,
    List.nil_append]

end Analyzer

end Remap
