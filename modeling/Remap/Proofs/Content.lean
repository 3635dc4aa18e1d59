import Remap.Proofs.Check.Margin
import Remap.Proofs.Delimiter.Margin

/-!
# Documents with the same contents

If the lines of two documents have the same contents, the analyzer says the same of both: as many
diagnostics, in the same order, which differ in their columns only, and there as the leading blanks
of the lines do. Each part of the analysis is shown to be so.
-/

namespace Remap

open Text

variable {a b : List Char}

/-! Lists of lines. -/

/-- Members that correspond still do with their numbers. -/
lemma forall₂_zipIdx {α β : Type} {R : α → β → Prop} {xs : List α} {ys : List β}
    (h : List.Forall₂ R xs ys) (n : Nat) :
    List.Forall₂ (fun p q => R p.1 q.1 ∧ p.2 = q.2) (xs.zipIdx n) (ys.zipIdx n) := by
  induction h generalizing n with
  | nil => exact .nil
  | cons hxy _ ih => exact .cons ⟨hxy, rfl⟩ (ih (n + 1))

/-- Pairs of members that correspond correspond. -/
lemma forall₂_zip {α β : Type} {R : α → β → Prop} {xs us : List α} {ys vs : List β}
    (h : List.Forall₂ R xs ys) (h' : List.Forall₂ R us vs) :
    List.Forall₂ (fun p q => R p.1 q.1 ∧ R p.2 q.2) (xs.zip us) (ys.zip vs) := by
  induction h generalizing us vs with
  | nil => exact .nil
  | cons hxy _ ih =>
    cases h' with
    | nil => exact .nil
    | cons huv hrest => exact .cons ⟨hxy, huv⟩ (ih hrest)

/-- Members that correspond still do without the first ones. -/
lemma forall₂_tail {α β : Type} {R : α → β → Prop} {xs : List α} {ys : List β}
    (h : List.Forall₂ R xs ys) : List.Forall₂ R xs.tail ys.tail := by
  cases h with
  | nil => exact .nil
  | cons _ hrest => exact hrest

/-- Members that correspond are members of the two lists. -/
lemma forall₂_mem {α β : Type} {R : α → β → Prop} {xs : List α} {ys : List β}
    (h : List.Forall₂ R xs ys) :
    List.Forall₂ (fun x y => (x ∈ xs ∧ y ∈ ys) ∧ R x y) xs ys := by
  rw [List.forall₂_iff_zip] at h ⊢
  exact ⟨h.1, fun hzip => ⟨List.of_mem_zip hzip, h.2 hzip⟩⟩

namespace Analyzer

/-- A line as the checks see it has the leading blanks that it has in the document. -/
lemma margin_sourceLines {text line : List Char} {number : Nat}
    (h : (sourceLines text)[number]? = some line) (hline : trim line ≠ []) :
    margin text number = leadingBlanks line := by
  rw [sourceLines, List.getElem?_map, Option.map_eq_some_iff] at h
  obtain ⟨raw, hraw, rfl⟩ := h
  rw [trim_dropReturn] at hline
  rw [margin_eq hraw, leadingBlanks_dropReturn hline]

/-- The margin of a line that holds code is the number of its leading blanks. -/
lemma margin_codeLines {text line : List Char} {number : Nat}
    (h : (line, number) ∈ codeLines text) : margin text number = leadingBlanks line := by
  obtain ⟨hmem, hcode⟩ := List.mem_filter.1 h
  exact margin_sourceLines (List.mk_mem_zipIdx_iff_getElem?.1 hmem) ((isCode_iff line).1 hcode).1

/-- The same contents are those of the lines as the checks see them. -/
lemma forall₂_sourceLines (h : (lines a).map trim = (lines b).map trim) :
    List.Forall₂ (fun line line' => trim line = trim line') (sourceLines a) (sourceLines b) := by
  have hlines : ∀ text, (sourceLines text).map trim = (lines text).map trim := by
    intro text
    rw [sourceLines, List.map_map]
    exact List.map_congr_left fun line _ => trim_dropReturn line
  have hmap : List.Forall₂ (· = ·) ((sourceLines a).map trim) ((sourceLines b).map trim) := by
    rw [List.forall₂_eq_eq_eq, hlines, hlines]
    exact h
  rwa [List.forall₂_map_left_iff, List.forall₂_map_right_iff] at hmap

/-! The placement of `else`. -/

/-- Whether a line starts with `else` depends on its content alone. -/
lemma startsWithElse_congr {line line' : List Char} (h : trim line = trim line') :
    Check.startsWithElse line = Check.startsWithElse line' := by
  rw [Check.startsWithElse, Check.startsWithElse, h]

/-- Whether a line ends with a brace depends on its content alone. -/
lemma endsWithBrace_congr {line line' : List Char} (h : trim line = trim line') :
    Check.endsWithBrace line = Check.endsWithBrace line' := by
  rw [Check.endsWithBrace, Check.endsWithBrace, h]

/-- A line that starts with `else` is not blank. -/
lemma trim_ne_nil_of_startsWithElse {line : List Char} (h : Check.startsWithElse line = true) :
    trim line ≠ [] := by
  intro hnil
  rw [Check.startsWithElse, hnil] at h
  cases h

/-- The same contents give the same reports about `else`. -/
lemma forall₂_elsePlacement (h : (lines a).map trim = (lines b).map trim) :
    List.Forall₂ (Diagnostic.Agrees a b) (Check.elsePlacement (sourceLines a))
      (Check.elsePlacement (sourceLines b)) := by
  have hlines := forall₂_sourceLines h
  have hpairs := forall₂_mem (forall₂_zipIdx (forall₂_zip hlines (forall₂_tail hlines)) 1)
  refine List.rel_filterMap ?_ hpairs
  intro p q hpq
  obtain ⟨⟨previous, line⟩, number⟩ := p
  obtain ⟨⟨previous', line'⟩, number'⟩ := q
  obtain ⟨⟨hmem, hmem'⟩, ⟨hprevious, hcontent⟩, hnumber⟩ := hpq
  dsimp only at hprevious hcontent hnumber ⊢
  subst hnumber
  rw [startsWithElse_congr hcontent, endsWithBrace_congr hprevious]
  split
  case isFalse => exact .none
  case isTrue helse =>
    rw [Bool.and_eq_true] at helse
    have hne := trim_ne_nil_of_startsWithElse helse.1
    have hmargin' := margin_sourceLines (Check.getElem?_of_mem_zip_tail hmem') hne
    rw [← hcontent] at hne
    have hmargin := margin_sourceLines (Check.getElem?_of_mem_zip_tail hmem) hne
    have hstart : (leadingBlanks line' : Int) =
        leadingBlanks line + (margin b number - margin a number) := by
      rw [hmargin, hmargin']
      omega
    exact .some (Code.elseSameLine.alike_moved (fun h => h) rfl rfl hstart _ _).agrees

/-! The lines that hold code. -/

/-- Documents with the same contents hold code on the same lines. -/
lemma forall₂_codeLines (h : (lines a).map trim = (lines b).map trim) :
    List.Forall₂ (fun p q => trim p.1 = trim q.1 ∧ p.2 = q.2) (codeLines a) (codeLines b) := by
  refine List.rel_filter ?_ (forall₂_zipIdx (forall₂_sourceLines h) 0)
  intro p q hpq
  show isCode p.1 = true ↔ isCode q.1 = true
  rw [isCode_iff, isCode_iff, hpq.1]

/-- The same contents give the same findings on the lines. -/
lemma forall₂_lineFindings (registry : Registry) (h : (lines a).map trim = (lines b).map trim) :
    List.Forall₂ (Diagnostic.Agrees a b)
      ((codeLines a).flatMap fun place => findings registry place.1 place.2)
      ((codeLines b).flatMap fun place => findings registry place.1 place.2) := by
  refine List.rel_flatMap (forall₂_mem (forall₂_codeLines h)) ?_
  intro p q hpq
  obtain ⟨line, number⟩ := p
  obtain ⟨line', number'⟩ := q
  obtain ⟨⟨hmem, hmem'⟩, hcontent, hnumber⟩ := hpq
  dsimp only at hcontent hnumber ⊢
  subst hnumber
  apply (forall₂_findings registry hcontent number).imp
  intro d e hde
  rw [← margin_codeLines hmem, ← margin_codeLines hmem'] at hde
  exact hde.agrees

/-! The analysis as a whole. -/

/-- Of documents with the same contents the analyzer says the same. -/
lemma forall₂_diagnostics (registry : Registry) (disabled : List String)
    (h : (lines a).map trim = (lines b).map trim) :
    List.Forall₂ (Diagnostic.Agrees a b)
      (({ registry := registry } : Analyzer).diagnostics a disabled)
      (({ registry := registry } : Analyzer).diagnostics b disabled) := by
  rw [diagnostics_standard, diagnostics_standard]
  refine List.rel_filter ?_ (List.rel_append (List.rel_append (Delimiter.forall₂_check h)
    (forall₂_elsePlacement h)) (forall₂_lineFindings registry h))
  intro d e hde
  show isEnabled disabled d = true ↔ isEnabled disabled e = true
  rw [isEnabled, isEnabled, hde.code]

end Analyzer

end Remap
