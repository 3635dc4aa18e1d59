import Remap.Proofs.Indentation.Level

/-!
# What indentation keeps of a line

Indentation is about the blanks in front of a line, but it cuts off those at its end, too. So a line
is kept from its first character that is not blank to its last one, and to its end exactly if it
does not end with a blank. A carriage return is a blank: of a document whose lines end with one,
indentation keeps none of them.
-/

namespace Remap

open Text

namespace Text

variable {line : List Char}

/-- The last character of a text is blank. -/
def EndsBlank (text : List Char) : Prop :=
  ∃ c, text.getLast? = some c ∧ isBlank c = true

instance (text : List Char) : Decidable (EndsBlank text) :=
  decidable_of_iff (text.getLast?.any isBlank = true) (Option.any_eq_true _ _)

/-- A text keeps its end exactly if it does not end with a blank. -/
lemma trimEnd_eq_self_iff (text : List Char) : trimEnd text = text ↔ ¬ EndsBlank text := by
  rw [trimEnd, List.reverse_eq_iff, EndsBlank, List.getLast?_eq_head?_reverse]
  cases text.reverse with
  | nil => simp
  | cons c rest =>
    rw [List.dropWhile_eq_self_iff]
    simp

/-- What is left of a text without its leading blanks starts with no blank. -/
lemma trimStart_trimStart_append {rest tail : List Char}
    (h : trimStart line = rest ++ tail) : trimStart rest = rest := by
  cases rest with
  | nil => rfl
  | cons c rest =>
    have hhead := List.head?_dropWhile_not isBlank line
    rw [← trimStart, h] at hhead
    rw [trimStart, List.dropWhile_cons_of_neg]
    simpa using hhead

/-- The content of a line has no leading blanks. -/
lemma trimStart_trim (line : List Char) : trimStart (trim line) = trim line := by
  obtain ⟨tail, -, heq⟩ := exists_tail (trimStart line)
  exact trimStart_trimStart_append heq

/-- A line with content ends as the line without its leading blanks does. -/
lemma endsBlank_trimStart (h : trim line ≠ []) : EndsBlank (trimStart line) ↔ EndsBlank line := by
  have hne : trimStart line ≠ [] := by
    intro hnil
    rw [trim, hnil] at h
    exact h rfl
  have hlast : line.getLast? = (trimStart line).getLast? := by
    rw [← List.getLast?_append_of_ne_nil (line.takeWhile isBlank) hne, takeWhile_append_trimStart]
  rw [EndsBlank, EndsBlank, hlast]

/-- The content of a line goes to its end exactly if the line does not end with a blank. -/
lemma trim_eq_trimStart_iff (h : trim line ≠ []) :
    trim line = trimStart line ↔ ¬ EndsBlank line := by
  rw [← endsBlank_trimStart h, ← trimEnd_eq_self_iff, trim]

end Text

namespace Indentation

variable {text line : List Char} {i : Nat}

/-- Every line that is not blank is the same in the other document but for its leading blanks. -/
def KeepsLines (text other : List Char) : Prop :=
  ∀ (i : Nat) (line : List Char), (lines text)[i]? = some line → trim line ≠ [] →
    ∃ written, (lines other)[i]? = some written ∧ trimStart written = trimStart line

/-- An indented document has as many lines. -/
lemma length_lines_indented (size : Int) (text : List Char) :
    (lines (indented size text)).length = (lines text).length := by
  rw [lines_indented, List.length_map, length_place]

/-- A line is written as blanks and its content. -/
lemma exists_written (size : Int) (h : (lines text)[i]? = some line) :
    ∃ written, (lines (indented size text))[i]? = some written ∧
      trimStart written = trim line := by
  have hplaced := getElem?_place h
  refine ⟨(placedAfter ((lines text).take i) line).text size, ?_, ?_⟩
  · rw [lines_indented, List.getElem?_map, hplaced, Option.map_some]
  · rw [Placed.text, trimStart, List.dropWhile_append_of_pos, ← trimStart]
    · exact trimStart_trim line
    · intro c hc
      rw [List.eq_of_mem_replicate hc]
      decide

/-- All lines are kept exactly if none that is not blank ends with a blank. -/
lemma keepsLines_indented_iff (size : Int) (text : List Char) :
    KeepsLines text (indented size text) ↔
      ∀ line ∈ lines text, trim line ≠ [] → ¬ EndsBlank line := by
  refine ⟨?_, ?_⟩
  · intro hkeeps line hline hcontent
    obtain ⟨i, hi⟩ := List.mem_iff_getElem?.1 hline
    obtain ⟨written, hwritten, hkept⟩ := hkeeps i line hi hcontent
    obtain ⟨written', hwritten', htrim⟩ := exists_written size hi
    rw [hwritten] at hwritten'
    cases hwritten'
    rw [← trim_eq_trimStart_iff hcontent, ← htrim, hkept]
  · intro hends i line hi hcontent
    obtain ⟨written, hwritten, htrim⟩ := exists_written size hi
    have hline := hends line (List.mem_of_getElem? hi) hcontent
    exact ⟨written, hwritten, htrim.trans ((trim_eq_trimStart_iff hcontent).2 hline)⟩

/--
What the indented document keeps, for every number of spaces for a level. It has as many lines as
the document. Each line is, without its leading blanks, the content of the line that it was, so that
all of them are kept behind their leading blanks exactly if no line with content ends with a blank.
There is an indented document, and it is this one, exactly if the spaces before its lines fit in a
text.
-/
theorem indented_keeps (size : Int) (text : List Char) :
    (lines (indented size text)).length = (lines text).length ∧
      (∀ (i : Nat) (line : List Char), (lines text)[i]? = some line →
        ∃ written, (lines (indented size text))[i]? = some written ∧
          trimStart written = trim line) ∧
      (KeepsLines text (indented size text) ↔
        ∀ line ∈ lines text, trim line ≠ [] → ¬ EndsBlank line) ∧
      ∀ formatted, indent size text = .ok formatted ↔
        formatted = indented size text ∧ Fits size text :=
  ⟨length_lines_indented size text, fun _ _ h => exists_written size h,
    keepsLines_indented_iff size text, indent_eq_ok_iff size text⟩

/-- A tab is changed to spaces and a blank line emptied, and no line loses its end. -/
theorem indented_keeps_block :
    let text := "if .a \x7b\n\t.b # c\n  \n\x7d".toList
    let formatted := "if .a \x7b\n   .b # c\n\n\x7d".toList
    indent 3 text = .ok formatted ∧ KeepsLines text formatted ∧
      (∀ line ∈ lines text, trim line ≠ [] → ¬ EndsBlank line) ∧
      (lines text)[1]? = some "\t.b # c".toList ∧
      ∃ written, (lines formatted)[1]? = some written ∧ trimStart written = ".b # c".toList := by
  intro text formatted
  obtain ⟨-, hlines, hkeeps, hformatted⟩ := indented_keeps 3 text
  have hindent : indent 3 text = .ok formatted := by decide +kernel
  have hends : ∀ line ∈ lines text, trim line ≠ [] → ¬ EndsBlank line := by decide +kernel
  have hline : (lines text)[1]? = some "\t.b # c".toList := by decide
  rw [← ((hformatted formatted).1 hindent).1] at hlines hkeeps
  exact ⟨hindent, hkeeps.2 hends, hends, hline, hlines 1 _ hline⟩

/-- Lines that end with a carriage return and a line feed are written without the former. -/
theorem indented_drops_returns :
    let text := ".a = 1\r\n.b = 2\r\n".toList
    let formatted := ".a = 1\n.b = 2\n".toList
    indent 2 text = .ok formatted ∧ ¬ KeepsLines text formatted := by
  intro text formatted
  have hindent : indent 2 text = .ok formatted := by decide +kernel
  refine ⟨hindent, ?_⟩
  rw [((indent_eq_ok_iff 2 text formatted).1 hindent).1, keepsLines_indented_iff]
  decide +kernel

end Indentation

end Remap
