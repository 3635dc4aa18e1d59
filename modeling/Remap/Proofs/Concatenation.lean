import Remap.Proofs.Check.Regular
import Remap.Proofs.Content

/-!
# Documents put together

A document that is made of two, with a line feed between them, has the lines of the first and then
those of the second. The line checks say of it what they say of the two, the second one moved down
by the lines of the first: no line has a say in what is found on another one. About `else` a single
line before is known, so that what is said of the whole has one diagnostic more at most, on the
first line of the second document.
-/

namespace Remap

open Text

/-! Lines. -/

namespace Text

/-- The last line stands behind all others. -/
lemma lines_eq_concat (text : List Char) :
    lines text = (lines text).dropLast ++ [lastLine text] := by
  have hne := lines_ne_nil text
  rw [lastLine, List.getLastD_eq_getLast?, List.getLast?_eq_some_getLast hne, Option.getD_some,
    List.dropLast_append_getLast]

/-- The first line stands before all others. -/
lemma lines_eq_cons (text : List Char) : lines text = firstLine text :: (lines text).tail := by
  have hne := lines_ne_nil text
  rw [firstLine, List.headD_eq_head?_getD, List.head?_eq_some_head hne, Option.getD_some,
    List.cons_head_tail]

/-- A line feed keeps the lines before it and those after it apart. -/
lemma lines_append_feed (a b : List Char) : lines (a ++ '\n' :: b) = lines a ++ lines b := by
  calc lines (a ++ '\n' :: b)
    _ = (lines a).dropLast ++ lastLine a :: lines b := by
        rw [lines_append, firstLine, lines_cons_feed, List.headD_cons, List.append_nil,
          List.tail_cons]
    _ = ((lines a).dropLast ++ [lastLine a]) ++ lines b := by
        rw [List.append_assoc, List.singleton_append]
    _ = lines a ++ lines b := by rw [← lines_eq_concat]

end Text

/-! The placement of `else`. -/

namespace Check

/-- The line starts with the word `else`, as it is written. -/
def OpensWithElse (line : List Char) : Prop :=
  ∃ rest, trim line = "else".toList ++ rest ∧ ∀ c, rest.head? = some c → isWord c = false

/-- The line ends with a closing brace, as it is written. -/
def ClosesWithBrace (line : List Char) : Prop :=
  ∃ body, trim line = body ++ ['\x7d']

/-- The test for a line that starts with `else` says whether it does. -/
lemma startsWithElse_iff (line : List Char) :
    startsWithElse line = true ↔ OpensWithElse line := by
  refine ⟨?_, ?_⟩
  · intro h
    rw [startsWithElse] at h
    split at h
    case h_1 rest hrest =>
      refine ⟨rest, hrest, ?_⟩
      intro c hc
      rw [hc, Option.any_some, Bool.not_eq_true'] at h
      exact h
    case h_2 => cases h
  · intro h
    obtain ⟨rest, hrest, hword⟩ := h
    rw [startsWithElse, hrest]
    show (!rest.head?.any isWord) = true
    cases hhead : rest.head? with
    | none => rfl
    | some c => rw [Option.any_some, hword c hhead, Bool.not_false]

/-- The test for a line that ends with a brace says whether it does. -/
lemma endsWithBrace_iff (line : List Char) :
    endsWithBrace line = true ↔ ClosesWithBrace line := by
  rw [endsWithBrace, beq_iff_eq, List.getLast?_eq_some_iff, ClosesWithBrace]

/-- The test for two lines says whether an `else` on the second follows a brace on the first. -/
lemma isMisplaced_iff (previous line : List Char) :
    (startsWithElse line && endsWithBrace previous) = true ↔
      OpensWithElse line ∧ ClosesWithBrace previous := by
  rw [Bool.and_eq_true, startsWithElse_iff, endsWithBrace_iff]

/-- What is reported about a line with the line before it and its number. -/
def misplaced? (place : (List Char × List Char) × Nat) : Option Diagnostic :=
  if startsWithElse place.1.2 && endsWithBrace place.1.1 then
    some (misplacedElse place.2 place.1.2)
  else none

/-- The check of `else` looks at each pair of neighbours on its own. -/
lemma elsePlacement_eq_filterMap (lines : List (List Char)) :
    elsePlacement lines = ((lines.zip lines.tail).zipIdx 1).filterMap misplaced? := rfl

/-- The report about two lines moves down with them. -/
lemma misplaced?_down (pair : List Char × List Char) (count number : Nat) :
    misplaced? (pair, number + count) =
      (misplaced? (pair, number)).map (Diagnostic.down count) := by
  rw [misplaced?, misplaced?]
  split <;> rfl

/-- The carriage returns at the ends of the lines do not matter. -/
lemma misplaced?_dropReturn (previous line : List Char) (number : Nat) :
    misplaced? ((dropReturn previous, dropReturn line), number) =
      misplaced? ((previous, line), number) := by
  rw [misplaced?, misplaced?, Analyzer.startsWithElse_congr (trim_dropReturn line),
    Analyzer.endsWithBrace_congr (trim_dropReturn previous)]
  split
  case isTrue h =>
    have hline := Analyzer.trim_ne_nil_of_startsWithElse (Bool.and_eq_true_iff.1 h).1
    rw [misplacedElse, leadingBlanks_dropReturn hline]
    rfl
  case isFalse => rfl

/-- With numbers further on, the same is reported further down. -/
lemma filterMap_misplaced?_down (pairs : List (List Char × List Char)) (count start : Nat) :
    (pairs.zipIdx (count + start)).filterMap misplaced? =
      ((pairs.zipIdx start).filterMap misplaced?).map (Diagnostic.down count) := by
  rw [← List.map_snd_add_zipIdx_eq_zipIdx, List.filterMap_map, List.map_filterMap]
  apply List.filterMap_congr
  intro place _
  exact misplaced?_down place.1 count place.2

/-- The pairs of neighbours in two lists, and the pair in which they meet. -/
lemma zip_tail_append {α : Type} (xs ys : List α) (x y : α) :
    ((xs ++ [x]) ++ y :: ys).zip ((xs ++ [x]) ++ y :: ys).tail =
      (xs ++ [x]).zip (xs ++ [x]).tail ++ (x, y) :: (y :: ys).zip ys := by
  induction xs with
  | nil => rfl
  | cons first rest ih =>
    cases rest with
    | nil => rfl
    | cons next rest => exact congrArg ((first, next) :: ·) ih

/-- The report about `else` for lines put together, with what is reported where they meet. -/
lemma elsePlacement_append (xs ys : List (List Char)) (x y : List Char) :
    elsePlacement ((xs ++ [x]) ++ y :: ys) =
      elsePlacement (xs ++ [x]) ++ (misplaced? ((x, y), (xs ++ [x]).length)).toList ++
        (elsePlacement (y :: ys)).map (Diagnostic.down (xs ++ [x]).length) := by
  have hlength : 1 + ((xs ++ [x]).zip (xs ++ [x]).tail).length = (xs ++ [x]).length := by
    rw [List.length_zip, List.length_tail, List.length_append, List.length_singleton]
    omega
  simp only [elsePlacement_eq_filterMap]
  rw [zip_tail_append, List.zipIdx_append, hlength, List.zipIdx_cons, List.filterMap_append,
    List.append_assoc, List.tail_cons, ← filterMap_misplaced?_down]
  congr 1
  cases hseam : misplaced? ((x, y), (xs ++ [x]).length) with
  | none => rw [List.filterMap_cons_none hseam, Option.toList_none, List.nil_append]
  | some d => rw [List.filterMap_cons_some hseam, Option.toList_some, List.singleton_append]

end Check

namespace Analyzer

section Reports

variable (registry : Registry) (a b text : List Char)

/-- The lines of a document that goes on in a new line. -/
lemma sourceLines_append_feed :
    sourceLines (a ++ '\n' :: b) = sourceLines a ++ sourceLines b := by
  rw [sourceLines, lines_append_feed, List.map_append]
  rfl

/-! The reports. -/

/-- What is reported about `else`. -/
def elseReports : List Diagnostic :=
  flagged registry text Code.elseSameLine.id

/-- What the line checks report. -/
def lineReports : List Diagnostic :=
  (({ registry := registry } : Analyzer).diagnostics text []).filter
    fun d => d.code ∈ lineCodes.map Code.id

/-- The reports about `else` are what the check finds. -/
lemma elseReports_eq : elseReports registry text = Check.elsePlacement (sourceLines text) := by
  have hdelimiters : (Delimiter.check text).filter (·.code == Code.elseSameLine.id) = [] :=
    filter_code_delimiters text nofun nofun
  have hfindings : ((codeLines text).flatMap fun place => findings registry place.1 place.2).filter
      (·.code == Code.elseSameLine.id) = [] := by
    rw [List.filter_eq_nil_iff]
    intro d hd heq
    obtain ⟨place, -, hfound⟩ := List.mem_flatMap.1 hd
    obtain ⟨code, hcode, hid⟩ := code_of_mem_findings hfound
    rw [beq_iff_eq, hid] at heq
    rw [Code.id_injective heq] at hcode
    exact absurd hcode (by decide)
  rw [elseReports, flagged, diagnostics_standard, filter_isEnabled_nil, List.filter_append,
    List.filter_append, hdelimiters, hfindings,
    filter_code (fun _ => Check.code_of_mem_elsePlacement), if_pos rfl, List.nil_append,
    List.append_nil]

/-- The reports about lines are what is found on the lines that hold code. -/
lemma lineReports_eq :
    lineReports registry text =
      (codeLines text).flatMap fun place => findings registry place.1 place.2 := by
  have hdelimiters : (Delimiter.check text).filter
      (fun d => d.code ∈ lineCodes.map Code.id) = [] := by
    rw [List.filter_eq_nil_iff]
    intro d hd
    obtain ⟨kind, hcode | hcode⟩ := Check.code_of_mem_delimiters hd
    · rw [hcode]
      cases kind <;> decide
    · rw [hcode]
      cases kind <;> decide
  have helse : (Check.elsePlacement (sourceLines text)).filter
      (fun d => d.code ∈ lineCodes.map Code.id) = [] := by
    rw [List.filter_eq_nil_iff]
    intro d hd
    rw [Check.code_of_mem_elsePlacement hd]
    decide
  rw [lineReports, diagnostics_standard, filter_isEnabled_nil, List.filter_append,
    List.filter_append, hdelimiters, helse, List.nil_append, List.nil_append, List.filter_eq_self]
  intro d hd
  obtain ⟨place, -, hfound⟩ := List.mem_flatMap.1 hd
  obtain ⟨code, hcode, hid⟩ := code_of_mem_findings hfound
  rw [decide_eq_true_iff, hid]
  exact List.mem_map_of_mem hcode

/-! Two documents. -/

/-- The lines of the second part that hold code come with their numbers in the whole. -/
lemma codeLines_append_feed :
    codeLines (a ++ '\n' :: b) =
      codeLines a ++ (codeLines b).map fun place => (place.1, place.2 + (lines a).length) := by
  have hlength : (sourceLines a).length = (lines a).length := List.length_map _
  rw [codeLines, sourceLines_append_feed, List.zipIdx_append, List.filter_append, Nat.zero_add,
    hlength, ← Nat.add_zero (lines a).length, ← List.map_snd_add_zipIdx_eq_zipIdx, List.filter_map]
  rfl

/-- The reports about lines of the second part move down behind the first. -/
lemma lineReports_append_feed :
    lineReports registry (a ++ '\n' :: b) =
      lineReports registry a ++
        (lineReports registry b).map (Diagnostic.down (lines a).length) := by
  rw [lineReports_eq, lineReports_eq, lineReports_eq, codeLines_append_feed, List.flatMap_append,
    List.flatMap_map, List.map_flatMap]
  simp only [findings_down]

/-- The reports about `else` in the two parts, and the one at the seam between them. -/
lemma elseReports_append_feed :
    elseReports registry (a ++ '\n' :: b) =
      elseReports registry a ++
        (Check.misplaced? ((dropReturn (lastLine a), dropReturn (firstLine b)),
          (lines a).length)).toList ++
        (elseReports registry b).map (Diagnostic.down (lines a).length) := by
  have ha : sourceLines a =
      (lines a).dropLast.map dropReturn ++ [dropReturn (lastLine a)] := by
    rw [sourceLines, lines_eq_concat, List.map_append, List.map_singleton, ← lines_eq_concat]
  have hb : sourceLines b = dropReturn (firstLine b) :: (lines b).tail.map dropReturn := by
    rw [sourceLines, lines_eq_cons, List.map_cons, List.tail_cons]
  have hlength : (lines a).length = (sourceLines a).length := (List.length_map _).symm
  rw [elseReports_eq, elseReports_eq, elseReports_eq, sourceLines_append_feed, hlength, ha, hb]
  exact Check.elsePlacement_append _ _ _ _

end Reports

/--
The line checks say of two documents, put together with a line feed, what they say of the first and
then what they say of the second, moved down by the lines of the first. So it is with the reports
about `else`, but for one more on the first line of the second document, which is made exactly if
that line starts with the word `else` and the last line of the first document ends with a brace.
-/
theorem diagnostics_concatenation (registry : Registry) (a b : List Char) :
    lineReports registry (a ++ '\n' :: b) =
      lineReports registry a ++ (lineReports registry b).map (Diagnostic.down (lines a).length) ∧
    ∃ seam : List Diagnostic,
      elseReports registry (a ++ '\n' :: b) =
        elseReports registry a ++ seam ++
          (elseReports registry b).map (Diagnostic.down (lines a).length) ∧
      (Check.OpensWithElse (firstLine b) ∧ Check.ClosesWithBrace (lastLine a) →
        seam = [Check.misplacedElse (lines a).length (firstLine b)]) ∧
      (¬ (Check.OpensWithElse (firstLine b) ∧ Check.ClosesWithBrace (lastLine a)) →
        seam = []) := by
  have hboth := Check.isMisplaced_iff (lastLine a) (firstLine b)
  refine ⟨lineReports_append_feed registry a b, _, elseReports_append_feed registry a b, ?_, ?_⟩
  · intro h
    rw [Check.misplaced?_dropReturn, Check.misplaced?, if_pos (hboth.2 h)]
    rfl
  · intro h
    rw [Check.misplaced?_dropReturn, Check.misplaced?, if_neg (mt hboth.1 h)]
    rfl

/-- A carriage return at the seam and blanks around the words hide nothing. -/
theorem diagnostics_concatenation_seam :
    let a := "if .x \x7b\n\x7d \r".toList
    let b := " else \x7b\n\x7d\nelse".toList
    elseReports .empty (a ++ '\n' :: b) =
      elseReports .empty a ++ [Check.misplacedElse 2 " else \x7b".toList] ++
        (elseReports .empty b).map (Diagnostic.down 2) := by
  intro a b
  have hopens : Check.OpensWithElse (firstLine b) :=
    (Check.startsWithElse_iff (firstLine b)).1 (by decide +kernel)
  have hcloses : Check.ClosesWithBrace (lastLine a) :=
    (Check.endsWithBrace_iff (lastLine a)).1 (by decide +kernel)
  obtain ⟨-, seam, hreports, hseam, -⟩ := diagnostics_concatenation .empty a b
  rw [hseam ⟨hopens, hcloses⟩] at hreports
  exact hreports

end Analyzer

end Remap
