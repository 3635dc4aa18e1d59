import Mathlib.Data.List.Basic
import Mathlib.Data.List.TakeWhile
import Remap.Text.Class

/-!
# Parts of a text

Texts put together from parts: a run of characters of a class with what follows it, and one text
put together in two ways.
-/

namespace Remap.Text

/-!
## Runs of characters

A run of characters of a class, followed by one that is not of the class, is what is taken from
the start of a text; the blanks at the start of a text are such a run.
-/

variable {α : Type} {p : α → Bool} {run rest : List α}

/-- A run of characters is taken up to what follows it. -/
lemma takeWhile_run (hrun : ∀ c ∈ run, p c = true)
    (hrest : ∀ c, rest.head? = some c → p c = false) : (run ++ rest).takeWhile p = run := by
  rw [List.takeWhile_append_of_pos hrun]
  cases rest with
  | nil => simp
  | cons c rest => simp [hrest c rfl]

/-- A run of characters is dropped up to what follows it. -/
lemma dropWhile_run (hrun : ∀ c ∈ run, p c = true)
    (hrest : ∀ c, rest.head? = some c → p c = false) : (run ++ rest).dropWhile p = rest := by
  rw [List.dropWhile_append_of_pos hrun]
  cases rest with
  | nil => rfl
  | cons c rest => simp [hrest c rfl]

/-- Blanks at the start of a text are trimmed up to what follows them. -/
lemma trimStart_run {run rest : List Char} (hrun : ∀ c ∈ run, isBlank c = true)
    (hrest : ∀ c, rest.head? = some c → isBlank c = false) : trimStart (run ++ rest) = rest :=
  dropWhile_run hrun hrest

/-- The blanks at the start of a text are counted up to what follows them. -/
lemma leadingBlanks_run {run rest : List Char} (hrun : ∀ c ∈ run, isBlank c = true)
    (hrest : ∀ c, rest.head? = some c → isBlank c = false) :
    leadingBlanks (run ++ rest) = run.length := by
  rw [leadingBlanks, takeWhile_run hrun hrest]

/-- A text is its leading blanks and what is left without them. -/
lemma takeWhile_append_trimStart (text : List Char) :
    text.takeWhile isBlank ++ trimStart text = text :=
  List.takeWhile_append_dropWhile

/-!
## Texts put together in two ways

A text that is put together from parts in two ways: a character that one part does not hold stands
before this part or after it.
-/

variable {front back mid text tail : List α} {c : α}

/-- A character that the start of a text does not hold stands after it. -/
lemma split_of_notMem_head (hc : c ∉ mid) (h : mid ++ rest = front ++ c :: back) :
    ∃ more, front = mid ++ more ∧ rest = more ++ c :: back := by
  obtain ⟨more, rfl, hrest⟩ | ⟨more, rfl, hback⟩ := List.append_eq_append_iff.1 h
  · exact ⟨more, rfl, hrest⟩
  · cases more with
    | nil => exact ⟨[], by rw [List.append_nil, List.append_nil], hback.symm⟩
    | cons d more =>
      rw [List.cons_append, List.cons_eq_cons] at hback
      exact absurd (List.mem_append_right front (hback.1 ▸ List.mem_cons_self)) hc

/-- A character that a part of a text does not hold stands before or after it. -/
lemma split_of_notMem (hc : c ∉ mid) (h : text ++ (mid ++ rest) = front ++ c :: back) :
    (∃ more, front = text ++ (mid ++ more) ∧ rest = more ++ c :: back) ∨
      ∃ more, text = front ++ c :: more ∧ back = more ++ (mid ++ rest) := by
  obtain ⟨more, rfl, hmore⟩ | ⟨more, rfl, hmore⟩ := List.append_eq_append_iff.1 h
  · obtain ⟨after, rfl, hrest⟩ := split_of_notMem_head hc hmore
    exact .inl ⟨after, rfl, hrest⟩
  · cases more with
    | nil =>
      have hstart : mid ++ rest = [] ++ c :: back := hmore.symm
      obtain ⟨after, hafter, hrest⟩ := split_of_notMem_head hc hstart
      exact .inl ⟨after, by rw [← hafter, List.append_nil, List.append_nil], hrest⟩
    | cons d more =>
      rw [List.cons_append, List.cons_eq_cons] at hmore
      obtain ⟨rfl, hback⟩ := hmore
      exact .inr ⟨more, rfl, hback⟩

/-- A character that the end of a text does not hold stands before it. -/
lemma split_of_notMem_tail (hc : c ∉ tail) (h : text ++ tail = front ++ c :: back) :
    ∃ more, text = front ++ c :: more ∧ back = more ++ tail := by
  rw [← List.append_nil tail] at h
  obtain ⟨more, -, hmore⟩ | ⟨more, htext, hback⟩ := split_of_notMem hc h
  · simp at hmore
  · exact ⟨more, htext, by rw [hback, List.append_nil]⟩

end Remap.Text
