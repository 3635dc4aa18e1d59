import Mathlib.Data.List.Basic
import Remap.Proofs.Text.Parts
import Remap.Proofs.Text.Word
import Remap.Text.Line

/-!
# The margins of a line

A line is blanks, its content, and blanks again; the content starts and ends with other characters,
unless it is empty. Blanks put around a text do not change its content. A carriage return at the
end of a line is such a blank.
-/

namespace Remap.Text

variable {text tail pad : List Char}

/-- Blanks after blanks are all blanks. -/
lemma AllBlank.append (hpad : AllBlank pad) (htail : AllBlank tail) : AllBlank (pad ++ tail) :=
  List.forall_mem_append.2 ⟨hpad, htail⟩

/-- A character that is not blank does not stand among blanks. -/
lemma AllBlank.notMem {c : Char} (htail : AllBlank tail) (hc : isBlank c = false) : c ∉ tail := by
  intro hmem
  rw [htail c hmem] at hc
  cases hc

/-- A character that is not blank stands before the blanks at the end of a text. -/
lemma split_append_blanks {front back : List Char} {c : Char} (hc : isBlank c = false)
    (htail : AllBlank tail) (h : text ++ tail = front ++ c :: back) :
    ∃ more, text = front ++ c :: more ∧ back = more ++ tail :=
  split_of_notMem_tail (htail.notMem hc) h

/-! The end of a text. -/

/-- What is cut off at the end of a text is blank. -/
lemma exists_tail (text : List Char) : ∃ tail, AllBlank tail ∧ text = trimEnd text ++ tail := by
  refine ⟨(text.reverse.takeWhile isBlank).reverse, ?_, ?_⟩
  · intro c hc
    exact allBlank_takeWhile _ c (List.mem_reverse.1 hc)
  · rw [trimEnd, ← List.reverse_append, List.takeWhile_append_dropWhile, List.reverse_reverse]

/-- Blanks at the end of a text do nothing to it without them. -/
lemma trimEnd_append (text : List Char) (h : AllBlank tail) :
    trimEnd (text ++ tail) = trimEnd text := by
  rw [trimEnd, List.reverse_append, List.dropWhile_append_of_pos, trimEnd]
  intro c hc
  exact h c (List.mem_reverse.1 hc)

/-! Both ends. -/

/-- A line is its leading blanks, its content, and blanks. -/
lemma exists_margin (line : List Char) :
    ∃ tail, AllBlank tail ∧ line = line.takeWhile isBlank ++ (trim line ++ tail) := by
  obtain ⟨tail, htail, heq⟩ := exists_tail (trimStart line)
  refine ⟨tail, htail, ?_⟩
  rw [trim, ← heq, takeWhile_append_trimStart]

/-- Nothing is left of a line if all of it is blank. -/
lemma trim_eq_nil_iff {line : List Char} : trim line = [] ↔ AllBlank line := by
  refine ⟨?_, ?_⟩
  · intro h
    obtain ⟨tail, htail, heq⟩ := exists_margin line
    rw [h, List.nil_append] at heq
    rw [heq]
    exact (allBlank_takeWhile line).append htail
  · intro h
    rw [trim, trimStart, List.dropWhile_eq_nil_iff.2 h]
    rfl

/-- Blanks before a text do nothing to its content. -/
lemma trim_blanks_append (h : AllBlank pad) (text : List Char) :
    trim (pad ++ text) = trim text := by
  rw [trim, trimStart, List.dropWhile_append_of_pos h, trim, trimStart]

/-- Blanks behind a text do nothing to its content. -/
lemma trim_append_blanks (text : List Char) (h : AllBlank tail) :
    trim (text ++ tail) = trim text := by
  by_cases hblank : AllBlank text
  · rw [trim_eq_nil_iff.2 (hblank.append h), trim_eq_nil_iff.2 hblank]
  -- a text with content keeps it, whatever follows
  · have hstart : trimStart (text ++ tail) = trimStart text ++ tail := by
      rw [trimStart, List.dropWhile_append, trimStart, if_neg]
      rw [List.isEmpty_iff, List.dropWhile_eq_nil_iff]
      exact hblank
    rw [trim, hstart, trimEnd_append _ h, trim]

/-- The content of a line is its own content. -/
lemma trim_trim (line : List Char) : trim (trim line) = trim line := by
  obtain ⟨tail, htail, heq⟩ := exists_margin line
  calc trim (trim line)
    _ = trim (trim line ++ tail) := (trim_append_blanks _ htail).symm
    _ = trim (line.takeWhile isBlank ++ (trim line ++ tail)) :=
        (trim_blanks_append (allBlank_takeWhile line) _).symm
    _ = trim line := by rw [← heq]

/-- What follows a text with content does not count as its leading blanks. -/
lemma leadingBlanks_append (h : trim text ≠ []) (tail : List Char) :
    leadingBlanks (text ++ tail) = leadingBlanks text := by
  have hblank : ¬ ∀ c ∈ text, isBlank c = true := fun hall => h (trim_eq_nil_iff.2 hall)
  rw [leadingBlanks, List.takeWhile_append, if_neg, leadingBlanks]
  intro hlength
  apply hblank
  rw [← (List.takeWhile_prefix isBlank).eq_of_length hlength]
  exact allBlank_takeWhile text

/-! Lines without their carriage return. -/

/-- What is dropped at the end of a line is blank. -/
lemma exists_return (line : List Char) :
    ∃ tail, AllBlank tail ∧ line = dropReturn line ++ tail := by
  rw [dropReturn]
  split
  case isTrue h =>
    refine ⟨['\r'], ?_, (List.dropLast_append_getLast? _ h).symm⟩
    intro c hc
    rw [List.mem_singleton.1 hc]
    decide
  case isFalse => exact ⟨[], nofun, (List.append_nil line).symm⟩

/-- A line has the same content without its carriage return. -/
lemma trim_dropReturn (line : List Char) : trim (dropReturn line) = trim line := by
  obtain ⟨tail, htail, heq⟩ := exists_return line
  rw [← trim_append_blanks (dropReturn line) htail, ← heq]

/-- A line that is not blank has the same leading blanks without its carriage return. -/
lemma leadingBlanks_dropReturn {line : List Char} (h : trim line ≠ []) :
    leadingBlanks (dropReturn line) = leadingBlanks line := by
  obtain ⟨tail, -, heq⟩ := exists_return line
  rw [← trim_dropReturn] at h
  rw [← leadingBlanks_append h tail, ← heq]

/-! The margin in a document. -/

/-- The number of blanks at the start of the line with a number. -/
def margin (text : List Char) (number : Int) : Nat :=
  ((line? text number).map leadingBlanks).getD 0

/-- The margin of a line counts its leading blanks. -/
lemma margin_eq {text line : List Char} {number : Nat}
    (h : (lines text)[number]? = some line) : margin text number = leadingBlanks line := by
  have hline : line? text number = some line := h
  rw [margin, hline]
  rfl

end Remap.Text
