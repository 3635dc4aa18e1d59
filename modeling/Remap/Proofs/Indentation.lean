import Remap.Formatter
import Remap.Proofs.Content

/-!
# Indentation and diagnostics

Indenting a document changes the blanks at the ends of its lines and nothing else, so the analyzer
says the same of the indented document. `diagnostics_indented` says so for every number of spaces,
and when there is an indented document at all.
-/

namespace Remap.Indentation

open Text

/-! What is placed. -/

/-- The contents of lines that are placed one after the other. -/
lemma contents_foldl (ls : List (List Char)) (state : State) :
    (ls.foldl State.place state).placed.reverse.map Placed.content =
      state.placed.reverse.map Placed.content ++ ls.map trim := by
  induction ls generalizing state with
  | nil => rw [List.map_nil, List.append_nil, List.foldl_nil]
  | cons line rest ih =>
    have hplace : (state.place line).placed.reverse.map Placed.content =
        state.placed.reverse.map Placed.content ++ [trim line] := by
      rw [State.place]
      split
      case isTrue h =>
        rw [List.isEmpty_iff] at h
        rw [h, List.reverse_cons, List.map_append]
        rfl
      case isFalse =>
        rw [List.reverse_cons, List.map_append]
        rfl
    rw [List.foldl_cons, ih, hplace, List.append_assoc]
    rfl

/-- The contents of the lines are kept. -/
lemma map_content_place (ls : List (List Char)) :
    (place ls).map Placed.content = ls.map trim := by
  rw [place, contents_foldl]
  rfl

/-- A placed line has the content of a line of the document. -/
lemma exists_of_mem_place {ls : List (List Char)} {line : Placed} (h : line ∈ place ls) :
    ∃ raw ∈ ls, line.content = trim raw := by
  have hmem := List.mem_map_of_mem (f := Placed.content) h
  rw [map_content_place] at hmem
  obtain ⟨raw, hraw, heq⟩ := List.mem_map.1 hmem
  exact ⟨raw, hraw, heq.symm⟩

/-- Lines that are placed are still there. -/
lemma place_ne_nil {ls : List (List Char)} (h : ls ≠ []) : place ls ≠ [] := by
  intro hnil
  have hmap := map_content_place ls
  rw [hnil, List.map_nil, eq_comm, List.map_eq_nil_iff] at hmap
  exact h hmap

/-! What is written. -/

/-- The spaces before a line are none of its content. -/
lemma trim_text (size : Int) {ls : List (List Char)} {line : Placed} (h : line ∈ place ls) :
    trim (line.text size) = line.content := by
  have hspaces : AllBlank (List.replicate (line.width size).toNat ' ') := by
    intro c hc
    rw [List.eq_of_mem_replicate hc]
    decide
  obtain ⟨raw, -, hcontent⟩ := exists_of_mem_place h
  rw [Placed.text, trim_blanks_append hspaces, hcontent, trim_trim]

/-- A placed line has no line feed. -/
lemma feed_notMem_text (size : Int) {text : List Char} {line : Placed}
    (h : line ∈ place (lines text)) : '\n' ∉ line.text size := by
  obtain ⟨raw, hraw, hcontent⟩ := exists_of_mem_place h
  obtain ⟨tail, -, heq⟩ := exists_margin raw
  have hfeed := feed_notMem_of_mem_lines hraw
  rw [heq, List.mem_append, List.mem_append, not_or, not_or] at hfeed
  rw [Placed.text, List.mem_append, not_or, hcontent]
  refine ⟨?_, hfeed.2.1⟩
  intro hmem
  exact absurd (List.eq_of_mem_replicate hmem) (by decide)

/-- The lines of the indented document are those that are placed. -/
lemma lines_indented (size : Int) (text : List Char) :
    lines (indented size text) = (place (lines text)).map (Placed.text size) := by
  apply lines_unlines
  · intro hnil
    exact place_ne_nil (lines_ne_nil text) (List.map_eq_nil_iff.1 hnil)
  · intro line hline
    obtain ⟨placed, hplaced, rfl⟩ := List.mem_map.1 hline
    exact feed_notMem_text size hplaced

/-- The lines of the indented document have the contents that they had. -/
lemma map_trim_lines_indented (size : Int) (text : List Char) :
    (lines text).map trim = (lines (indented size text)).map trim := by
  rw [lines_indented, List.map_map, ← map_content_place]
  exact List.map_congr_left fun line hline => (trim_text size hline).symm

/-! When there is a result. -/

/-- A width does no harm if it fits into an index and the memory. -/
lemma ofWidth?_eq_none_iff (width : Int) :
    Fault.ofWidth? width = none ↔ -0x8000000000000000 ≤ width ∧ width < 0x800000000000 := by
  rw [Fault.ofWidth?]
  split
  · refine iff_of_false (Option.some_ne_none _) ?_
    omega
  · split
    · refine iff_of_false (Option.some_ne_none _) ?_
      omega
    · refine iff_of_true rfl ?_
      omega

/-- No line becomes wider than a text can be. -/
def Fits (size : Int) (text : List Char) : Prop :=
  ∀ line ∈ place (lines text),
    -0x8000000000000000 ≤ line.width size ∧ line.width size < 0x800000000000

/-- A document is indented without a fault if all its widths fit. -/
lemma fault?_eq_none_iff (size : Int) (text : List Char) :
    fault? size text = none ↔ Fits size text := by
  rw [fault?, List.findSome?_eq_none_iff]
  simp only [ofWidth?_eq_none_iff, Fits]

/-- A document is indented if it fits, and then as stated. -/
lemma indent_eq_ok_iff (size : Int) (text formatted : List Char) :
    indent size text = .ok formatted ↔ formatted = indented size text ∧ Fits size text := by
  rw [indent, ← fault?_eq_none_iff]
  cases fault? size text with
  | none => simp [eq_comm]
  | some fault => simp

/--
Indentation does not change what the analyzer says, whatever the number of spaces for a level, the
functions that are known and the codes that are switched off. The diagnostics of the indented
document are those of the document, one by one: they have the same code, severity, message and
suggestions, they are about the same line, and they start as far from each other as the contents of
the line do, or both at the start of the line if they are about all of it. There is an indented
document, and it is this one, exactly if the spaces before its lines fit in a text.
-/
theorem diagnostics_indented (registry : Registry) (text : List Char) (disabled : List String)
    (size : Int) :
    List.Forall₂ (Diagnostic.Agrees text (indented size text))
        (({ registry := registry } : Analyzer).diagnostics text disabled)
        (({ registry := registry } : Analyzer).diagnostics (indented size text) disabled) ∧
      ∀ formatted, indent size text = .ok formatted ↔
        formatted = indented size text ∧ Fits size text :=
  ⟨Analyzer.forall₂_diagnostics registry disabled (map_trim_lines_indented size text),
    indent_eq_ok_iff size text⟩

end Remap.Indentation
