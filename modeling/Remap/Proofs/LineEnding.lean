import Remap.Proofs.Concatenation

/-!
# Line endings

A document may end its lines with a carriage return before each line feed. The line checks drop the
carriage return, and the scan of the delimiters passes over it to the line feed, which starts a new
column count anyway; so the analysis is the same as with line feeds alone, whatever checks it runs.
-/

namespace Remap

open Text

/-- The text with a carriage return before each line feed. -/
def Text.withReturns (text : List Char) : List Char :=
  text.flatMap fun c => if c = '\n' then ['\r', '\n'] else [c]

namespace Text

/-- A line feed gets a carriage return before it. -/
lemma withReturns_cons_feed (text : List Char) :
    withReturns ('\n' :: text) = '\r' :: '\n' :: withReturns text := rfl

/-- Another character stays as it is. -/
lemma withReturns_cons_of_ne {c : Char} (hc : c ≠ '\n') (text : List Char) :
    withReturns (c :: text) = c :: withReturns text := by
  rw [withReturns, List.flatMap_cons, if_neg hc]
  rfl

/-- Any other character in front of a line stays when the carriage return goes. -/
lemma dropReturn_cons {c : Char} (hc : c ≠ '\r') (line : List Char) :
    dropReturn (c :: line) = c :: dropReturn line := by
  cases line with
  | nil => exact if_neg fun h => hc (Option.some.inj h)
  | cons d rest =>
    rw [dropReturn, dropReturn, List.getLast?_cons_cons, List.dropLast_cons_cons]
    split
    · rfl
    · rfl

end Text

/-! The scan of the delimiters. -/

namespace Delimiter

/-- Before a line feed a carriage return makes no difference. -/
lemma Scan.step_return_feed (s : Scan) : (s.step '\r').step '\n' = s.step '\n' := by
  have hreturn : s.step '\r' = { s with cursor := s.cursor.next '\r' } := step_other rfl rfl
  rw [step_feed, step_feed, hreturn]
  rfl

/-- The added carriage returns do nothing to the scan. -/
lemma Scan.foldl_withReturns (text : List Char) (s : Scan) :
    (withReturns text).foldl step s = text.foldl step s := by
  induction text generalizing s with
  | nil => rfl
  | cons c rest ih =>
    by_cases hc : c = '\n'
    · subst hc
      rw [withReturns_cons_feed, List.foldl_cons, List.foldl_cons, step_return_feed]
      exact ih _
    · rw [withReturns_cons_of_ne hc]
      exact ih _

/-- The added carriage returns do nothing to the report about delimiters. -/
lemma check_withReturns (text : List Char) : check (withReturns text) = check text := by
  rw [check, Scan.ofText, Scan.foldl_withReturns]
  rfl

end Delimiter

/-! The lines as the checks see them. -/

namespace Analyzer

/-- A line feed at the start is an empty line. -/
lemma sourceLines_cons_feed (text : List Char) :
    sourceLines ('\n' :: text) = [] :: sourceLines text := by
  rw [sourceLines, lines_cons_feed]
  rfl

/-- A carriage return and a line feed at the start are an empty line. -/
lemma sourceLines_cons_return (text : List Char) :
    sourceLines ('\r' :: '\n' :: text) = [] :: sourceLines text := by
  rw [sourceLines, lines_cons_of_ne (by decide), firstLine, lines_cons_feed]
  rfl

/-- Another character starts the first line. -/
lemma sourceLines_cons_of_ne {c : Char} (hfeed : c ≠ '\n') (hreturn : c ≠ '\r')
    (text : List Char) :
    sourceLines (c :: text) = (c :: dropReturn (firstLine text)) :: (sourceLines text).tail := by
  rw [sourceLines, lines_cons_of_ne hfeed, List.map_cons, dropReturn_cons hreturn, sourceLines,
    List.map_tail]

/-- The first line comes without its carriage return. -/
lemma head_sourceLines (text : List Char) :
    (sourceLines text).head? = some (dropReturn (firstLine text)) := by
  rw [sourceLines, lines_eq_cons, List.map_cons, List.head?_cons]

/-- The checks see the same lines with and without the added carriage returns. -/
lemma sourceLines_withReturns {text : List Char} (h : '\r' ∉ text) :
    sourceLines (withReturns text) = sourceLines text := by
  induction text with
  | nil => rfl
  | cons c rest ih =>
    rw [List.mem_cons, not_or] at h
    have hrest := ih h.2
    by_cases hc : c = '\n'
    · subst hc
      rw [withReturns_cons_feed, sourceLines_cons_return, sourceLines_cons_feed, hrest]
    · have hfirst : dropReturn (firstLine (withReturns rest)) = dropReturn (firstLine rest) := by
        apply Option.some.inj
        rw [← head_sourceLines, ← head_sourceLines, hrest]
      rw [withReturns_cons_of_ne hc, sourceLines_cons_of_ne hc (Ne.symm h.1),
        sourceLines_cons_of_ne hc (Ne.symm h.1), hrest, hfirst]

/--
A document without carriage returns is analyzed with the same result if one is put before each of
its line feeds: the same diagnostics with the same ranges in the same order, and the same records.
-/
theorem analyze_withReturns (a : Analyzer) (text : List Char) (disabled : List String)
    (h : '\r' ∉ text) : a.analyze (withReturns text) disabled = a.analyze text disabled := by
  have hlines := sourceLines_withReturns h
  have hcode : codeLines (withReturns text) = codeLines text := by
    rw [codeLines, codeLines, hlines]
  rw [analyze, analyze, lineFindings, lineFindings, Delimiter.check_withReturns, hlines, hcode]

/-- A call that is not closed, a stray closer after a blank line, and an `else` after a brace. -/
theorem analyze_withReturns_unclosed :
    '\r' ∉ "f(\n\n]\x7d\nelse".toList ∧
      ({ registry := .empty } : Analyzer).analyze "f(\r\n\r\n]\x7d\r\nelse".toList [] =
        ({ registry := .empty } : Analyzer).analyze "f(\n\n]\x7d\nelse".toList [] :=
  ⟨by decide, analyze_withReturns { registry := .empty } "f(\n\n]\x7d\nelse".toList [] (by decide)⟩

end Analyzer

end Remap
