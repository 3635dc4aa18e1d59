import Mathlib.Algebra.BigOperators.Group.List.Lemmas
import Remap.Diagnostic.Table
import Remap.Proofs.Pairwise
import Remap.Proofs.Text.Position

/-!
# Reading the report

What can be read from the table of a report. A row is cut at the bars before which no backslash
stands: these are the bars of the table, as the bars of a message have backslashes before them and
a space stands before those of the table. So a row has four cells, from which the diagnostic is
read back (`read?_row`).
-/

namespace Remap

open Text

/-! Bars. -/

/--
The pieces of a text between the bars before which no backslash stands; `escaped` says that one
stands before the text.
-/
def cutBars (escaped : Bool) : List Char → List (List Char)
  | [] => [[]]
  | c :: rest =>
    if c = '|' ∧ escaped = false then [] :: cutBars false rest
    else (cutBars (c == '\\') rest).modifyHead (c :: ·)

/-- The text with a bar for each backslash that stands before a bar, and this bar. -/
def unescapeBars : List Char → List Char
  | '\\' :: '|' :: rest => '|' :: unescapeBars rest
  | c :: rest => c :: unescapeBars rest
  | [] => []

/-- A bar becomes a backslash and a bar, another character stays. -/
lemma escapeBars_cons (c : Char) (text : List Char) :
    escapeBars (c :: text) = (if c = '|' then ['\\', '|'] else [c]) ++ escapeBars text := rfl

/-- An escaped text does not start with a bar. -/
lemma head?_escapeBars (text : List Char) : (escapeBars text).head? ≠ some '|' := by
  cases text with
  | nil => nofun
  | cons c text =>
    rw [escapeBars_cons]
    split
    case isTrue => simp
    case isFalse hc => simpa using hc

/-- Before a text that does not start with a bar a character stays as it is. -/
lemma unescapeBars_cons {text : List Char} (h : text.head? ≠ some '|') (c : Char) :
    unescapeBars (c :: text) = c :: unescapeBars text := by
  rw [unescapeBars]
  rintro rest - rfl
  exact h rfl

/-- A message is read back from its escaped form. -/
lemma unescapeBars_escapeBars (text : List Char) : unescapeBars (escapeBars text) = text := by
  induction text with
  | nil => rfl
  | cons c text ih =>
    rw [escapeBars_cons]
    split
    case isTrue hc =>
      rw [hc]
      exact congrArg (List.cons '|') ih
    case isFalse =>
      rw [List.singleton_append, unescapeBars_cons (head?_escapeBars text), ih]

/-- Before a space and a bar, the text is one piece with the space. -/
def Guarded (text : List Char) : Prop :=
  ∀ (escaped : Bool) (rest : List Char),
    cutBars escaped (text ++ ' ' :: '|' :: rest) = (text ++ [' ']) :: cutBars false rest

/-- The empty text is one piece before a space and a bar. -/
lemma guarded_nil : Guarded [] := by
  intro escaped rest
  rfl

/-- A character that is no bar stays in the piece. -/
lemma Guarded.cons {c : Char} {text : List Char} (hc : c ≠ '|') (h : Guarded text) :
    Guarded (c :: text) := by
  intro escaped rest
  rw [List.cons_append, cutBars, if_neg fun hbar => hc hbar.1, h]
  rfl

/-- A bar behind a backslash stays in the piece. -/
lemma Guarded.bar {text : List Char} (h : Guarded text) : Guarded ('\\' :: '|' :: text) := by
  intro escaped rest
  have hstep : cutBars escaped (('\\' :: '|' :: text) ++ ' ' :: '|' :: rest) =
      ((cutBars false (text ++ ' ' :: '|' :: rest)).modifyHead ('|' :: ·)).modifyHead
        ('\\' :: ·) := rfl
  rw [hstep, h]
  rfl

/-- A text without bars is one piece. -/
lemma guarded_of_notMem {text : List Char} (h : '|' ∉ text) : Guarded text := by
  induction text with
  | nil => exact guarded_nil
  | cons c text ih =>
    rw [List.mem_cons, not_or] at h
    exact (ih h.2).cons (Ne.symm h.1)

/-- An escaped text is one piece. -/
lemma guarded_escapeBars (text : List Char) : Guarded (escapeBars text) := by
  induction text with
  | nil => exact guarded_nil
  | cons c text ih =>
    rw [escapeBars_cons]
    split
    case isTrue => exact ih.bar
    case isFalse hc => exact ih.cons hc

/-! Numbers. -/

/-- The number that is written with a minus and digits. -/
def numberOf : List Char → Int
  | '-' :: digits => -(Nat.ofDigitChars 10 digits 0 : Int)
  | digits => Nat.ofDigitChars 10 digits 0

/-- A number is written with digits, behind a minus if it is negative. -/
lemma toList_toString (n : Int) :
    (toString n).toList = (if 0 ≤ n then [] else ['-']) ++ Nat.toDigits 10 n.natAbs := by
  rw [Int.toString_eq_repr, Int.repr_eq_if]
  split
  case isTrue hle =>
    have habs : n.toNat = n.natAbs := by omega
    rw [Nat.toList_repr, List.nil_append, habs]
  case isFalse hlt =>
    have habs : (-n).toNat = n.natAbs := by omega
    rw [String.toList_append, Nat.toList_repr, habs]
    rfl

/-- A number is written with digits. -/
lemma isDigit_of_mem_toDigits {n : Nat} {c : Char} (h : c ∈ Nat.toDigits 10 n) :
    c.isDigit = true :=
  Nat.isDigit_of_mem_toDigits (by decide) (by decide) h

/-- A number is read back from its digits. -/
lemma numberOf_toString (n : Int) : numberOf (toString n).toList = n := by
  rw [toList_toString]
  split
  case isTrue hle =>
    have hdigits : numberOf (Nat.toDigits 10 n.natAbs) =
        Nat.ofDigitChars 10 (Nat.toDigits 10 n.natAbs) 0 := by
      rw [numberOf]
      intro digits heq
      have hminus := isDigit_of_mem_toDigits (heq ▸ List.mem_cons_self)
      exact absurd hminus (by decide)
    rw [List.nil_append, hdigits, Nat.ofDigitChars_ten_toDigits]
    omega
  case isFalse hlt =>
    show -(Nat.ofDigitChars 10 (Nat.toDigits 10 n.natAbs) 0 : Int) = n
    rw [Nat.ofDigitChars_ten_toDigits]
    omega

/-- Nothing but digits and a minus stands in a number. -/
lemma notMem_toString {c : Char} (hdigit : c.isDigit = false) (hminus : c ≠ '-') (n : Int) :
    c ∉ (toString n).toList := by
  rw [toList_toString, List.mem_append, not_or]
  refine ⟨?_, ?_⟩
  · split
    case isTrue => exact List.not_mem_nil
    case isFalse => rwa [List.mem_singleton]
  · intro hmem
    rw [isDigit_of_mem_toDigits hmem] at hdigit
    cases hdigit

/-! Rows. -/

/-- What a row shows of a diagnostic. -/
structure Shown where
  line : Int
  character : Int
  severity : String
  code : String
  message : String
  deriving DecidableEq

/-- What the row of a diagnostic has to show: its start counting from one, and its texts. -/
def Diagnostic.shown (d : Diagnostic) : Shown where
  line := d.range.start.line + 1
  character := d.range.start.character + 1
  severity := d.severity.label
  code := d.code
  message := d.message

/-- The cells of a row, with what stands before its first bar and behind its last one. -/
def cells (row : List Char) : List (List Char) :=
  cutBars false row

/-- A text without its first and its last character. -/
def inside (text : List Char) : List Char :=
  text.tail.dropLast

/-- Reads a row with four cells between two bars. -/
def Shown.read? (row : List Char) : Option Shown :=
  match cells row with
  | [[], place, severity, code, message, []] =>
    match cut ':' (inside place) with
    | [line, character] =>
      some {
        line := numberOf line
        character := numberOf character
        severity := String.ofList (inside severity)
        code := String.ofList (inside (inside code))
        message := String.ofList (unescapeBars (inside message)) }
    | _ => none
  | _ => none

/-- The code of a diagnostic and its message can stand in a table. -/
structure Diagnostic.Fits (d : Diagnostic) : Prop where
  code : ∀ c ∈ d.code.toList, c ≠ '|' ∧ c ≠ '`' ∧ c ≠ '\n'
  message : '\n' ∉ d.message.toList

/-- Whether a diagnostic fits can be decided. -/
lemma Diagnostic.fits_iff (d : Diagnostic) :
    d.Fits ↔ (d.code.toList.all fun c => c != '|' && c != '`' && c != '\n') = true ∧
      '\n' ∉ d.message.toList := by
  simp only [List.all_eq_true, Bool.and_eq_true, bne_iff_ne, and_assoc]
  exact ⟨fun h => ⟨h.code, h.message⟩, fun h => ⟨h.1, h.2⟩⟩

instance (d : Diagnostic) : Decidable d.Fits :=
  decidable_of_iff _ d.fits_iff.symm

/-- A space is before and behind what stands in a cell. -/
def spaced (text : List Char) : List Char :=
  ' ' :: (text ++ [' '])

/-- What stands between the two spaces is read back. -/
lemma inside_spaced (text : List Char) : inside (spaced text) = text :=
  List.dropLast_concat

/-- A text that is one piece is the first cell before a bar. -/
lemma Guarded.cutBars_spaced {text : List Char} (h : Guarded text) (rest : List Char) :
    cutBars false (spaced text ++ '|' :: rest) = spaced text :: cutBars false rest := by
  have hspaced : spaced text ++ '|' :: rest = (' ' :: text) ++ ' ' :: '|' :: rest := by
    simp [spaced]
  rw [hspaced, h.cons (by decide)]
  rfl

/-- A row is four cells with spaces, between bars. -/
lemma toList_row (d : Diagnostic) :
    d.row.toList = '|' :: (spaced d.place.toList ++ '|' :: (spaced d.severity.label.toList ++
      '|' :: (spaced ('`' :: (d.code.toList ++ ['`'])) ++
        '|' :: (spaced (escapeBars d.message.toList) ++ '|' :: [])))) := by
  simp [Diagnostic.row, spaced]

/-- No bar stands in a place. -/
lemma bar_notMem_place (d : Diagnostic) : '|' ∉ d.place.toList := by
  have hnumber : ∀ n : Int, '|' ∉ (toString n).toList := notMem_toString rfl (by decide)
  have hcolon : '|' ∉ ":".toList := by decide
  simp only [Diagnostic.place, String.toList_append, List.mem_append, not_or]
  exact ⟨⟨hnumber _, hcolon⟩, hnumber _⟩

/-- No bar stands in the label of a severity. -/
lemma bar_notMem_label (severity : Severity) : '|' ∉ severity.label.toList := by
  cases severity <;> decide

/-- A row has four cells between its outer bars. -/
lemma cells_row {d : Diagnostic} (h : d.Fits) :
    cells d.row.toList = [[], spaced d.place.toList, spaced d.severity.label.toList,
      spaced ('`' :: (d.code.toList ++ ['`'])), spaced (escapeBars d.message.toList), []] := by
  have hplace : Guarded d.place.toList := guarded_of_notMem (bar_notMem_place d)
  have hlabel : Guarded d.severity.label.toList := guarded_of_notMem (bar_notMem_label d.severity)
  have hcode : Guarded ('`' :: (d.code.toList ++ ['`'])) := by
    apply guarded_of_notMem
    simpa using fun hmem => (h.code '|' hmem).1 rfl
  have hfirst : ∀ rest, cutBars false ('|' :: rest) = [] :: cutBars false rest := fun _ => rfl
  rw [cells, toList_row, hfirst, hplace.cutBars_spaced, hlabel.cutBars_spaced,
    hcode.cutBars_spaced, (guarded_escapeBars _).cutBars_spaced]
  rfl

/-- A place is cut at its colon into the two numbers. -/
lemma cut_place (d : Diagnostic) :
    cut ':' d.place.toList = [(toString (d.range.start.line + 1)).toList,
      (toString (d.range.start.character + 1)).toList] := by
  have hnumber : ∀ n : Int, ':' ∉ (toString n).toList := notMem_toString rfl (by decide)
  have hplace : d.place.toList = (toString (d.range.start.line + 1)).toList ++
      ':' :: (toString (d.range.start.character + 1)).toList := by
    simp [Diagnostic.place]
  rw [hplace, cut_append_cons (hnumber _), cut_of_notMem (hnumber _)]

/-- What a row shows is read back from it. -/
lemma read?_row {d : Diagnostic} (h : d.Fits) : Shown.read? d.row.toList = some d.shown := by
  have hcode : inside ('`' :: (d.code.toList ++ ['`'])) = d.code.toList := List.dropLast_concat
  rw [Shown.read?, cells_row h]
  dsimp only
  rw [inside_spaced, cut_place]
  simp only [inside_spaced, hcode, numberOf_toString, unescapeBars_escapeBars, String.ofList_toList]
  rfl

end Remap
