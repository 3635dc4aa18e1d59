/-!
# Lines

A text is cut into pieces at each separator and at nothing else, so it has one piece more than it
has separators, and joining the pieces gives the text back. The lines of a text are its pieces
between line feeds.
-/

namespace Remap.Text

section

variable {α : Type} [DecidableEq α]

/-- Puts one character in front of a text that is already cut into pieces. -/
def consPiece (sep c : α) : List (List α) → List (List α)
  | [] => if c = sep then [[], []] else [[c]]
  | piece :: rest => if c = sep then [] :: piece :: rest else (c :: piece) :: rest

/-- The pieces of a text between the separators. -/
def cut (sep : α) (text : List α) : List (List α) :=
  text.foldr (consPiece sep) [[]]

/-- The empty text is one piece. -/
@[simp] theorem cut_nil (sep : α) : cut sep [] = [[]] := rfl

/-- The first character goes before the first piece, or starts a new one. -/
@[simp] theorem cut_cons (sep c : α) (text : List α) :
    cut sep (c :: text) = consPiece sep c (cut sep text) := rfl

/-- There is always a piece. -/
theorem cut_ne_nil (sep : α) (text : List α) : cut sep text ≠ [] := by
  cases text with
  | nil => simp
  | cons c rest =>
    rw [cut_cons]
    cases cut sep rest <;> simp only [consPiece] <;> split <;> simp

/-- A text has one piece more than it has separators. -/
theorem length_cut (sep : α) (text : List α) :
    (cut sep text).length = text.count sep + 1 := by
  induction text with
  | nil => rfl
  | cons c rest ih =>
    rw [cut_cons]
    cases h : cut sep rest with
    | nil => exact absurd h (cut_ne_nil sep rest)
    | cons piece more =>
      rw [h] at ih
      by_cases hc : c = sep
      · simp [consPiece, hc] at ih ⊢
        omega
      · simp [consPiece, hc] at ih ⊢
        omega

/-- Joining the pieces gives the text back. -/
theorem intercalate_cut (sep : α) (text : List α) :
    [sep].intercalate (cut sep text) = text := by
  induction text with
  | nil => rfl
  | cons c rest ih =>
    rw [cut_cons]
    cases h : cut sep rest with
    | nil => exact absurd h (cut_ne_nil sep rest)
    | cons piece more =>
      rw [h] at ih
      subst ih
      by_cases hc : c = sep
      · simp [consPiece, hc, List.intercalate]
      · cases more <;> simp [consPiece, hc, List.intercalate]

end

/-- The lines of a text, without their line feeds. -/
def lines (text : List Char) : List (List Char) :=
  cut '\n' text

/-- The line with a number, counting from zero, if the text has it. -/
def line? (text : List Char) (number : Int) : Option (List Char) :=
  match number with
  | .ofNat n => (lines text)[n]?
  | .negSucc _ => none

/-- The text with these lines, joined by line feeds. -/
def unlines (ls : List (List Char)) : List Char :=
  ['\n'].intercalate ls

/-- The line without one carriage return at its end. -/
def dropReturn (line : List Char) : List Char :=
  if line.getLast? = some '\r' then line.dropLast else line

/-- There is always a line. -/
theorem lines_ne_nil (text : List Char) : lines text ≠ [] :=
  cut_ne_nil '\n' text

/-- There is one line more than line feeds. -/
theorem length_lines (text : List Char) : (lines text).length = text.count '\n' + 1 :=
  length_cut '\n' text

/-- The lines put together are the text. -/
theorem unlines_lines (text : List Char) : unlines (lines text) = text :=
  intercalate_cut '\n' text

end Remap.Text
