import Remap.Proofs.Check.Regular
import Remap.Proofs.Delimiter.Report

/-!
# The order of a report

A report lists the closers that close nothing from the start of the document to its end, then the
kinds of delimiters that wait for closers, then each misplaced `else` line by line, then what the
line checks find, by line, on a line by check, and for a check from left to right. `InOrder` says
so; that no diagnostic is reported twice follows from it. With codes switched off a report is still
in order, since it is what is left of the whole one.
-/

namespace Remap

open Text

/-- A diagnostic of a line check, with the number of its line and the place of the check. -/
structure Finding where
  line : Nat
  check : Nat
  diagnostic : Diagnostic

namespace Finding

/-- By line, on a line by check, and for a check from left to right. -/
def Before (a b : Finding) : Prop :=
  a.line < b.line ∨ a.line = b.line ∧ (a.check < b.check ∨ a.check = b.check ∧
    a.diagnostic.range.start.character < b.diagnostic.range.start.character)

/-- The finding is one of the check in its place, on a line of the document that holds code. -/
structure Made (registry : Registry) (text : List Char) (f : Finding) : Prop where
  source : ∃ line check, Analyzer.CodeLine text f.line line ∧
    LineCheck.standard[f.check]? = some check ∧ f.diagnostic ∈ check.found registry line f.line
  line : f.diagnostic.line = f.line
  code : ∃ code, lineCodes[f.check]? = some code ∧ f.diagnostic.code = code.id

end Finding

/-- The parts of a report, each in its order. -/
structure InOrder (registry : Registry) (text : List Char) (strays missing elses : List Diagnostic)
    (found : List Finding) : Prop where
  strays_code : ∀ d ∈ strays, ∃ kind, d.code = (Code.unmatchedClosing kind).id
  strays_order : strays.Pairwise fun a b => a.range.start.Before b.range.start
  missing_order : (missing.map (·.code)).Sublist
    ["missing-closing-paren", "missing-closing-brace", "missing-closing-bracket"]
  elses_code : ∀ d ∈ elses, d.code = Code.elseSameLine.id
  elses_order : elses.Pairwise fun a b => a.line < b.line
  found_made : ∀ f ∈ found, f.Made registry text
  found_order : found.Pairwise Finding.Before

/-! The parts of an analysis are in order. -/

namespace Delimiter

/-- The diagnostics about closers that close nothing. -/
def strayReports (text : List Char) : List Diagnostic :=
  (strayClosers text).map fun s => strayReport text s.1 s.2

/-- The diagnostics about the kinds of which openers wait at the end. -/
def missingReports (text : List Char) : List Diagnostic :=
  (all.filter fun d => waiting d text ≠ []).map (missingReport text)

/-- The reports about stray closers are in the order of the text. -/
lemma pairwise_strayReports (text : List Char) :
    (strayReports text).Pairwise fun a b => a.range.start.Before b.range.start := by
  rw [strayReports, List.pairwise_map]
  refine (pairwise_strayClosers text).imp_of_mem ?_
  intro s t _ ht hlt
  obtain ⟨hget, -⟩ := mem_strayClosers.1 ht
  obtain ⟨hi, -⟩ := List.getElem?_eq_some_iff.1 hget
  obtain hline | ⟨hline, hcolumn⟩ := place_lt hlt (Nat.le_of_lt hi)
  · exact .inl (Int.ofNat_lt.2 hline)
  · exact .inr ⟨congrArg Int.ofNat hline, Int.ofNat_lt.2 hcolumn⟩

/-- The reports about missing closers are in the order of the kinds, each at most once. -/
lemma sublist_missingReports (text : List Char) :
    ((missingReports text).map (·.code)).Sublist
      ["missing-closing-paren", "missing-closing-brace", "missing-closing-bracket"] := by
  have hall : (all.filter fun d => waiting d text ≠ []).Sublist all := List.filter_sublist
  rw [missingReports, List.map_map]
  exact hall.map _

end Delimiter

/-- Misplaced `else` words are reported line by line. -/
lemma Check.pairwise_elsePlacement (lines : List (List Char)) :
    (elsePlacement lines).Pairwise fun a b => a.line < b.line := by
  rw [elsePlacement, List.pairwise_filterMap]
  apply (pairwise_zipIdx _ 1).imp
  intro p q hlt d hd e he
  rw [Option.ite_none_right_eq_some] at hd he
  obtain ⟨-, hd⟩ := hd
  obtain ⟨-, he⟩ := he
  cases hd
  cases he
  exact Int.ofNat_lt.2 hlt

namespace Analyzer

/-- What one check finds on a line. -/
def findingsBy (registry : Registry) (line : List Char) (number : Nat) (check : LineCheck)
    (place : Nat) : List Finding :=
  (check.found registry line number).map (Finding.mk number place)

/-- What the standard checks find on a line. -/
def findingsOn (registry : Registry) (line : List Char) (number : Nat) : List Finding :=
  LineCheck.standard.zipIdx.flatMap fun p => findingsBy registry line number p.1 p.2

/-- What the standard checks find in a document. -/
def findingsIn (registry : Registry) (text : List Char) : List Finding :=
  (codeLines text).flatMap fun p => findingsOn registry p.1 p.2

variable {registry : Registry} {text line : List Char} {number : Nat} {f : Finding}

/-- A finding on a line is made by the check at its place in the list. -/
lemma mem_findingsOn (h : f ∈ findingsOn registry line number) :
    ∃ check, LineCheck.standard[f.check]? = some check ∧ f.line = number ∧
      f.diagnostic ∈ check.found registry line number := by
  obtain ⟨⟨check, place⟩, hcheck, hf⟩ := List.mem_flatMap.1 h
  obtain ⟨d, hd, rfl⟩ := List.mem_map.1 hf
  exact ⟨check, List.mk_mem_zipIdx_iff_getElem?.1 hcheck, rfl, hd⟩

/-- A finding in a document is made on its line by its check. -/
lemma made_of_mem_findingsIn (h : f ∈ findingsIn registry text) : f.Made registry text := by
  obtain ⟨⟨line, number⟩, hline, hf⟩ := List.mem_flatMap.1 h
  obtain ⟨check, hcheck, rfl, hd⟩ := mem_findingsOn hf
  obtain ⟨code, hcode, hregular⟩ := LineCheck.exists_code hcheck
  exact ⟨⟨line, check, mem_codeLines.1 hline, hcheck, hd⟩, hregular.line _ _ _ _ hd,
    code, hcode, hregular.code _ _ _ _ hd⟩

/-- On a line the findings come check by check, and for a check from left to right. -/
lemma pairwise_findingsOn (registry : Registry) (line : List Char) (number : Nat) :
    (findingsOn registry line number).Pairwise Finding.Before := by
  rw [findingsOn, List.pairwise_flatMap]
  refine ⟨?_, ?_⟩
  · intro p hp
    obtain ⟨check, place⟩ := p
    obtain ⟨code, -, hregular⟩ := LineCheck.exists_code (List.mk_mem_zipIdx_iff_getElem?.1 hp)
    rw [findingsBy, List.pairwise_map]
    exact (hregular.order registry line number).imp fun hlt => .inr ⟨rfl, .inr ⟨rfl, hlt⟩⟩
  · apply (pairwise_zipIdx LineCheck.standard 0).imp
    intro p q hlt f hf g hg
    obtain ⟨d, -, rfl⟩ := List.mem_map.1 hf
    obtain ⟨e, -, rfl⟩ := List.mem_map.1 hg
    exact .inr ⟨rfl, .inl hlt⟩

/-- The findings in a document are in order. -/
lemma pairwise_findingsIn (registry : Registry) (text : List Char) :
    (findingsIn registry text).Pairwise Finding.Before := by
  rw [findingsIn, List.pairwise_flatMap]
  refine ⟨fun p _ => pairwise_findingsOn registry p.1 p.2, ?_⟩
  apply (pairwise_codeLines text).imp
  intro p q hlt f hf g hg
  obtain ⟨-, -, hline, -⟩ := mem_findingsOn hf
  obtain ⟨-, -, hline', -⟩ := mem_findingsOn hg
  rw [Finding.Before, hline, hline']
  exact .inl hlt

/-- The findings of a check are what it finds. -/
lemma map_diagnostic_findingsBy (registry : Registry) (line : List Char) (number : Nat)
    (check : LineCheck) (place : Nat) :
    (findingsBy registry line number check place).map Finding.diagnostic =
      check.found registry line number := by
  rw [findingsBy, List.map_map]
  exact List.map_id _

/-- The findings on a line are what is found there. -/
lemma map_diagnostic_findingsOn (registry : Registry) (line : List Char) (number : Nat) :
    (findingsOn registry line number).map Finding.diagnostic =
      findings registry line number := by
  calc (findingsOn registry line number).map Finding.diagnostic
    _ = LineCheck.standard.zipIdx.flatMap fun p => p.1.found registry line number := by
        rw [findingsOn, List.map_flatMap]
        simp only [map_diagnostic_findingsBy]
    _ = (LineCheck.standard.zipIdx.map Prod.fst).flatMap
          fun check => check.found registry line number := by rw [List.flatMap_map]
    _ = findings registry line number := by rw [List.zipIdx_map_fst, findings_eq_flatMap]

/-- The findings in a document are what is found on its lines. -/
lemma map_diagnostic_findingsIn (registry : Registry) (text : List Char) :
    (findingsIn registry text).map Finding.diagnostic =
      (codeLines text).flatMap fun p => findings registry p.1 p.2 := by
  rw [findingsIn, List.map_flatMap]
  simp only [map_diagnostic_findingsOn]

/-- The parts of a whole report are in order. -/
lemma inOrder_parts (registry : Registry) (text : List Char) :
    InOrder registry text (Delimiter.strayReports text) (Delimiter.missingReports text)
      (Check.elsePlacement (sourceLines text)) (findingsIn registry text) where
  strays_code d hd := by
    obtain ⟨s, -, rfl⟩ := List.mem_map.1 hd
    exact ⟨s.1, rfl⟩
  strays_order := Delimiter.pairwise_strayReports text
  missing_order := Delimiter.sublist_missingReports text
  elses_code _ hd := Check.code_of_mem_elsePlacement hd
  elses_order := Check.pairwise_elsePlacement _
  found_made _ hf := made_of_mem_findingsIn hf
  found_order := pairwise_findingsIn registry text

/-- The whole report, when no code is switched off. -/
lemma diagnostics_eq_parts (registry : Registry) (text : List Char) :
    ({ registry := registry } : Analyzer).diagnostics text [] =
      Delimiter.strayReports text ++ Delimiter.missingReports text ++
        Check.elsePlacement (sourceLines text) ++
        (findingsIn registry text).map Finding.diagnostic := by
  rw [diagnostics_standard, filter_isEnabled_nil, Delimiter.check_eq_reports,
    map_diagnostic_findingsIn]
  rfl

/-- With codes switched off the report is what is left of the whole one. -/
lemma diagnostics_eq_filter (registry : Registry) (text : List Char) (disabled : List String) :
    ({ registry := registry } : Analyzer).diagnostics text disabled =
      (({ registry := registry } : Analyzer).diagnostics text []).filter
        (isEnabled disabled) := by
  rw [diagnostics_standard, diagnostics_standard, filter_isEnabled_nil]

end Analyzer

/-! A part of a report in order. -/

section InOrder

variable {registry : Registry} {text : List Char} {strays missing elses : List Diagnostic}
  {found : List Finding}

/-- What is left of a report in order is in order. -/
lemma InOrder.filter (h : InOrder registry text strays missing elses found)
    (p : Diagnostic → Bool) :
    InOrder registry text (strays.filter p) (missing.filter p) (elses.filter p)
      (found.filter fun f => p f.diagnostic) where
  strays_code d hd := h.strays_code d (List.mem_of_mem_filter hd)
  strays_order := h.strays_order.filter p
  missing_order := (List.filter_sublist.map _).trans h.missing_order
  elses_code d hd := h.elses_code d (List.mem_of_mem_filter hd)
  elses_order := h.elses_order.filter p
  found_made f hf := h.found_made f (List.mem_of_mem_filter hf)
  found_order := h.found_order.filter _

/-! Nothing is reported twice. -/

/-- The diagnostics have different codes or different ranges. -/
def Distinct (a b : Diagnostic) : Prop :=
  (a.code, a.range) ≠ (b.code, b.range)

/-- Diagnostics with different codes are distinct. -/
lemma distinct_of_code {a b : Diagnostic} (h : a.code ≠ b.code) : Distinct a b :=
  fun heq => h (congrArg Prod.fst heq)

/-- Diagnostics with different ranges are distinct. -/
lemma distinct_of_range {a b : Diagnostic} (h : a.range ≠ b.range) : Distinct a b :=
  fun heq => h (congrArg Prod.snd heq)

/-- The part of a report to which a code belongs. -/
def Code.part : Code → Nat
  | unmatchedClosing _ => 0
  | missingClosing _ => 1
  | elseSameLine => 2
  | _ => 3

/-- The codes of the line checks belong to the last part. -/
lemma part_of_mem_lineCodes : ∀ code ∈ lineCodes, code.part = 3 := by
  decide

/-- The diagnostics belong to a part of a report. -/
def AllOfPart (part : Nat) (ds : List Diagnostic) : Prop :=
  ∀ d ∈ ds, ∃ code : Code, d.code = code.id ∧ code.part = part

/-- Diagnostics of different parts are distinct. -/
lemma AllOfPart.distinct {part part' : Nat} {ds es : List Diagnostic} (hds : AllOfPart part ds)
    (hes : AllOfPart part' es) (hne : part ≠ part') : ∀ d ∈ ds, ∀ e ∈ es, Distinct d e := by
  intro d hd e he
  obtain ⟨code, hcode, hpart⟩ := hds d hd
  obtain ⟨code', hcode', hpart'⟩ := hes e he
  apply distinct_of_code
  intro heq
  rw [hcode, hcode'] at heq
  rw [← hpart, ← hpart', Code.id_injective heq] at hne
  exact hne rfl

/-- Findings in order are distinct. -/
lemma Finding.Before.distinct {a b : Finding} (h : a.Before b) (ha : a.Made registry text)
    (hb : b.Made registry text) : Distinct a.diagnostic b.diagnostic := by
  obtain hline | ⟨-, hcheck | ⟨-, hcolumn⟩⟩ := h
  · apply distinct_of_range
    intro heq
    have hsame : a.diagnostic.line = b.diagnostic.line := by rw [Diagnostic.line, heq]; rfl
    rw [ha.line, hb.line] at hsame
    omega
  · obtain ⟨code, hget, hcode⟩ := ha.code
    obtain ⟨code', hget', hcode'⟩ := hb.code
    apply distinct_of_code
    intro heq
    rw [hcode, hcode'] at heq
    rw [← Code.id_injective heq, ← hget] at hget'
    have hlt := (List.getElem?_eq_some_iff.1 hget).1
    have hsame := (List.getElem?_inj hlt (by decide)).1 hget'.symm
    omega
  · apply distinct_of_range
    intro heq
    rw [heq] at hcolumn
    omega

/-- The strays are of the first part. -/
lemma InOrder.strays_part (h : InOrder registry text strays missing elses found) :
    AllOfPart 0 strays := by
  intro d hd
  obtain ⟨kind, hcode⟩ := h.strays_code d hd
  exact ⟨.unmatchedClosing kind, hcode, rfl⟩

/-- The missing closers are of the second part. -/
lemma InOrder.missing_part (h : InOrder registry text strays missing elses found) :
    AllOfPart 1 missing := by
  intro d hd
  have hmem := h.missing_order.subset (List.mem_map_of_mem hd)
  simp only [List.mem_cons, List.not_mem_nil, or_false] at hmem
  obtain hcode | hcode | hcode := hmem
  · exact ⟨.missingClosing .paren, hcode, rfl⟩
  · exact ⟨.missingClosing .brace, hcode, rfl⟩
  · exact ⟨.missingClosing .bracket, hcode, rfl⟩

/-- The misplaced `else` are of the third part. -/
lemma InOrder.elses_part (h : InOrder registry text strays missing elses found) :
    AllOfPart 2 elses :=
  fun d hd => ⟨.elseSameLine, h.elses_code d hd, rfl⟩

/-- The findings on lines are of the last part. -/
lemma InOrder.found_part (h : InOrder registry text strays missing elses found) :
    AllOfPart 3 (found.map Finding.diagnostic) := by
  intro d hd
  obtain ⟨f, hf, rfl⟩ := List.mem_map.1 hd
  obtain ⟨code, hget, hcode⟩ := (h.found_made f hf).code
  exact ⟨code, hcode, part_of_mem_lineCodes code (List.mem_of_getElem? hget)⟩

/-- The strays are distinct. -/
lemma InOrder.strays_distinct (h : InOrder registry text strays missing elses found) :
    strays.Pairwise Distinct := by
  apply h.strays_order.imp
  intro a b hbefore
  apply distinct_of_range
  intro heq
  rw [heq] at hbefore
  obtain hline | ⟨-, hcolumn⟩ := hbefore <;> omega

/-- The missing closers are distinct. -/
lemma InOrder.missing_distinct (h : InOrder registry text strays missing elses found) :
    missing.Pairwise Distinct := by
  have hcodes : (missing.map (·.code)).Nodup := h.missing_order.nodup (by decide)
  exact (List.pairwise_map.1 hcodes).imp distinct_of_code

/-- The misplaced `else` are distinct. -/
lemma InOrder.elses_distinct (h : InOrder registry text strays missing elses found) :
    elses.Pairwise Distinct := by
  apply h.elses_order.imp
  intro a b hline
  apply distinct_of_range
  intro heq
  rw [Diagnostic.line, heq] at hline
  exact absurd hline (Int.lt_irrefl _)

/-- The findings on lines are distinct. -/
lemma InOrder.found_distinct (h : InOrder registry text strays missing elses found) :
    (found.map Finding.diagnostic).Pairwise Distinct := by
  rw [List.pairwise_map]
  apply h.found_order.imp_of_mem
  intro a b ha hb hbefore
  exact hbefore.distinct (h.found_made a ha) (h.found_made b hb)

/-- A report in order repeats nothing. -/
lemma InOrder.nodup (h : InOrder registry text strays missing elses found) :
    ((strays ++ missing ++ elses ++ found.map Finding.diagnostic).map
      fun d => (d.code, d.range)).Nodup := by
  rw [List.Nodup, List.pairwise_map]
  simp only [List.pairwise_append, List.forall_mem_append]
  refine ⟨⟨⟨h.strays_distinct, h.missing_distinct, ?_⟩, h.elses_distinct, ?_, ?_⟩,
    h.found_distinct, ⟨?_, ?_⟩, ?_⟩
  · exact h.strays_part.distinct h.missing_part (by decide)
  · exact h.strays_part.distinct h.elses_part (by decide)
  · exact h.missing_part.distinct h.elses_part (by decide)
  · exact h.strays_part.distinct h.found_part (by decide)
  · exact h.missing_part.distinct h.found_part (by decide)
  · exact h.elses_part.distinct h.found_part (by decide)

end InOrder

namespace Analyzer

/-! Codes that are reported at most once on a line. -/

/-- A line is reported at most once with each code of the advice. -/
lemma length_filter_findings_le (registry : Registry) (line : List Char) (number : Nat)
    {code : Code} (h : code ∈ [Code.delRootEvent, .suggestNullCoalescing, .regexPerformance]) :
    ((findings registry line number).filter (·.code == code.id)).length ≤ 1 := by
  rw [filter_code_findings]
  simp only [List.mem_cons, List.not_mem_nil, or_false] at h
  obtain rfl | rfl | rfl := h
  · simpa using Check.length_deletesRoot_le registry line number
  · simpa using Check.length_abortsWithoutFallback_le registry line number
  · simpa using Check.length_matchesUnbounded_le registry line number

/-- Diagnostics with such a code come line by line. -/
lemma pairwise_flagged_once (registry : Registry) (text : List Char) {code : Code}
    (h : code ∈ [Code.delRootEvent, .suggestNullCoalescing, .regexPerformance]) :
    (flagged registry text code.id).Pairwise fun a b => a.line < b.line := by
  have hparts : flagged registry text code.id = (codeLines text).flatMap fun place =>
      (findings registry place.1 place.2).filter (·.code == code.id) := by
    apply filter_code_diagnostics
    · rintro kind rfl
      simp at h
    · rintro kind rfl
      simp at h
    · rintro rfl
      simp at h
  rw [hparts, List.pairwise_flatMap]
  refine ⟨?_, ?_⟩
  · intro place _
    have hone := length_filter_findings_le registry place.1 place.2 h
    cases hfound : (findings registry place.1 place.2).filter (·.code == code.id) with
    | nil => exact List.Pairwise.nil
    | cons d rest =>
      rw [hfound] at hone
      rw [List.length_eq_zero_iff.1 (Nat.le_zero.1 (Nat.le_of_succ_le_succ hone))]
      exact List.pairwise_singleton _ _
  · apply (pairwise_codeLines text).imp
    intro p q hlt d hd e he
    rw [line_of_mem_findings (List.mem_of_mem_filter hd),
      line_of_mem_findings (List.mem_of_mem_filter he)]
    exact Int.ofNat_lt.2 hlt

/-- A report has at most one diagnostic with such a code on a line. -/
lemma length_filter_once_le (registry : Registry) (text : List Char) (disabled : List String)
    {code : Code} (h : code ∈ [Code.delRootEvent, .suggestNullCoalescing, .regexPerformance])
    (number : Int) :
    ((({ registry := registry } : Analyzer).diagnostics text disabled).filter
      fun d => d.code == code.id && d.line == number).length ≤ 1 := by
  have hone : ((flagged registry text code.id).filter (·.line == number)).length ≤ 1 := by
    apply length_filter_le_one (pairwise_flagged_once registry text h)
    intro a b ha hb
    rw [beq_iff_eq.1 ha, beq_iff_eq.1 hb]
    exact Int.lt_irrefl number
  rw [flagged, List.filter_filter] at hone
  simp only [Bool.and_comm] at hone ⊢
  rw [diagnostics_eq_filter]
  exact Nat.le_trans (List.filter_sublist.filter _).length_le hone

/-- A report has its parts in order. -/
lemma exists_parts (registry : Registry) (text : List Char) (disabled : List String) :
    ∃ strays missing elses found, InOrder registry text strays missing elses found ∧
      ({ registry := registry } : Analyzer).diagnostics text disabled =
        strays ++ missing ++ elses ++ found.map Finding.diagnostic := by
  refine ⟨_, _, _, _, (inOrder_parts registry text).filter (isEnabled disabled), ?_⟩
  rw [diagnostics_eq_filter, diagnostics_eq_parts, List.filter_append, List.filter_append,
    List.filter_append, List.filter_map]
  rfl

/--
A report is in order, part by part: the closers that close nothing by line and column, at most one
diagnostic for each kind of delimiter that waits for closers, the misplaced `else` words by line,
and what the line checks find by line, check and column. A line is reported at most once for a
deletion of the event, for an abort that could be a fallback, and for a slow pattern. No two
diagnostics have the same code and range. With codes switched off, exactly the diagnostics with
these codes are left out.
-/
theorem diagnostics_in_order (registry : Registry) (text : List Char) (disabled : List String) :
    let whole := ({ registry := registry } : Analyzer).diagnostics text []
    let report := ({ registry := registry } : Analyzer).diagnostics text disabled
    (∃ strays missing elses found, InOrder registry text strays missing elses found ∧
      report = strays ++ missing ++ elses ++ found.map Finding.diagnostic) ∧
    (∀ code ∈ [Code.delRootEvent, .suggestNullCoalescing, .regexPerformance], ∀ number : Int,
      (report.filter fun d => d.code == code.id && d.line == number).length ≤ 1) ∧
    (report.map fun d => (d.code, d.range)).Nodup ∧
    report = whole.filter fun d => d.code ∉ disabled := by
  intro whole report
  have hparts := exists_parts registry text disabled
  refine ⟨hparts, ?_, ?_, ?_⟩
  · intro code hcode number
    exact length_filter_once_le registry text disabled hcode number
  · obtain ⟨strays, missing, elses, found, horder, heq⟩ := hparts
    rw [show report = _ from heq]
    exact horder.nodup
  · rw [show report = _ from diagnostics_eq_filter registry text disabled]
    apply List.filter_congr
    intro d _
    simp [isEnabled]

end Analyzer

end Remap
