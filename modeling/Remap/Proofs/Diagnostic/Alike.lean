import Mathlib.Data.List.Forall2
import Remap.Proofs.Analyzer
import Remap.Proofs.Text.Margin

/-!
# Diagnostics that say the same

Two documents with the same contents on their lines have the same diagnostics but for the columns,
which differ as the leading blanks do. The relation between two such diagnostics is defined for one
line and a number of columns first, then for two documents.
-/

namespace Remap

open Text

/-- A diagnostic with the code covers a whole line, blanks included. -/
def Code.SpansLine : Code → Prop
  | .missingClosing _ | .regexPerformance => True
  | _ => False

/-- The diagnostic covers a whole line, blanks included. -/
def Diagnostic.SpansLine (d : Diagnostic) : Prop :=
  ∃ code : Code, d.code = code.id ∧ code.SpansLine

/-- The code of a diagnostic tells whether it covers its line. -/
lemma Diagnostic.spansLine_iff {d : Diagnostic} (code : Code) (h : d.code = code.id) :
    d.SpansLine ↔ code.SpansLine := by
  refine ⟨?_, fun hspans => ⟨code, h, hspans⟩⟩
  intro hspans
  obtain ⟨other, hother, hspans⟩ := hspans
  rwa [Code.id_injective (h.symm.trans hother)]

/--
Two diagnostics about the line with a number say the same. The second one starts some columns after
the first one, unless both cover the line.
-/
structure Diagnostic.Alike (number shift : Int) (d e : Diagnostic) : Prop where
  code : e.code = d.code
  severity : e.severity = d.severity
  message : e.message = d.message
  suggestions : e.suggestions = d.suggestions
  line : d.range.start.line = number ∧ e.range.start.line = number
  whole : d.SpansLine → d.range.start.character = 0 ∧ e.range.start.character = 0
  column : ¬ d.SpansLine → e.range.start.character = d.range.start.character + shift

/-- If two diagnostics are like a third one, they are like each other. -/
lemma Diagnostic.Alike.between {number j k : Int} {c d e : Diagnostic} (hd : c.Alike number j d)
    (he : c.Alike number k e) : d.Alike number (k - j) e where
  code := he.code.trans hd.code.symm
  severity := he.severity.trans hd.severity.symm
  message := he.message.trans hd.message.symm
  suggestions := he.suggestions.trans hd.suggestions.symm
  line := ⟨hd.line.2, he.line.2⟩
  whole := by
    intro hspans
    rw [SpansLine, hd.code] at hspans
    exact ⟨(hd.whole hspans).2, (he.whole hspans).2⟩
  column := by
    intro hspans
    rw [SpansLine, hd.code] at hspans
    rw [hd.column hspans, he.column hspans]
    omega

/-- A diagnostic with a code that does not span the line, and the same one some columns on. -/
lemma Code.alike_moved (code : Code) (h : ¬ code.SpansLine) {d : Diagnostic}
    (hcode : d.code = code.id) {number start start' shift stop : Int}
    (hrange : d.range = .onLine number start stop) (hstart : start' = start + shift) (stop' : Int)
    (related : List Related) :
    d.Alike number shift { d with range := .onLine number start' stop', related := related } where
  code := rfl
  severity := rfl
  message := rfl
  suggestions := rfl
  line := ⟨congrArg (·.start.line) hrange, rfl⟩
  whole hspans := absurd ((Diagnostic.spansLine_iff code hcode).1 hspans) h
  column _ := by
    rw [hrange]
    exact hstart

/-- A diagnostic with a code that spans the line, and the same one for a line of another length. -/
lemma Code.alike_whole (code : Code) (h : code.SpansLine) {d : Diagnostic}
    (hcode : d.code = code.id) {number stop : Int} (hrange : d.range = .onLine number 0 stop)
    (shift stop' : Int) : d.Alike number shift { d with range := .onLine number 0 stop' } where
  code := rfl
  severity := rfl
  message := rfl
  suggestions := rfl
  line := ⟨congrArg (·.start.line) hrange, rfl⟩
  whole _ := ⟨congrArg (·.start.character) hrange, rfl⟩
  column hspans := absurd ((Diagnostic.spansLine_iff code hcode).2 h) hspans

/-- Two lists that are related to a third one are related to each other. -/
lemma forall₂_between {α β γ : Type} {R : α → β → Prop} {S : α → γ → Prop} {T : β → γ → Prop}
    {xs : List α} {ys : List β} {zs : List γ} (hy : List.Forall₂ R xs ys)
    (hz : List.Forall₂ S xs zs) (h : ∀ x y z, R x y → S x z → T y z) : List.Forall₂ T ys zs := by
  induction hy generalizing zs with
  | nil =>
    cases hz
    exact .nil
  | cons hxy _ ih =>
    cases hz with
    | cons hxz hrest => exact .cons (h _ _ _ hxy hxz) (ih hrest)

/--
Two diagnostics, one about each of two documents, say the same of the same line, and start as far
apart as the contents of the line do in the documents.
-/
def Diagnostic.Agrees (text text' : List Char) (d e : Diagnostic) : Prop :=
  d.Alike d.line (margin text' d.line - margin text d.line) e

/-- Diagnostics as far apart as the margins of their lines agree. -/
lemma Diagnostic.Alike.agrees {text text' : List Char} {number : Int} {d e : Diagnostic}
    (h : d.Alike number (margin text' number - margin text number) e) :
    d.Agrees text text' e := by
  rw [Agrees, Diagnostic.line, h.line.1]
  exact h

end Remap
