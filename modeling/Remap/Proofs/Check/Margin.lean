import Remap.Proofs.Analyzer
import Remap.Proofs.Binding
import Remap.Proofs.CallSite
import Remap.Proofs.Diagnostic.Alike
import Remap.Proofs.Text.Margin
import Remap.Proofs.Text.Shift

/-!
# Line checks and margins

What a check finds on a line is what it finds on the content of the line, with the columns moved by
the leading blanks. Each check is shown to be so; hence the findings on two lines with the same
content differ in nothing but the columns.
-/

namespace Remap

open Text

variable {pad core tail : List Char}

/-! Readers. -/

namespace CallSite

/-- Blanks at the end of a line do nothing to the call site at its start. -/
lemma spelled_tail_iff {text : List Char} {size : Nat} {value : String × Bool}
    (htail : AllBlank tail) : Spelled (text ++ tail) size value ↔ Spelled text size value := by
  refine ⟨?_, ?_⟩
  · intro h
    obtain ⟨name, blanks, after, heq, hname, hblanks, hvalue, hsize⟩ := h
    obtain ⟨more, htext, -⟩ := split_append_blanks isBlank_paren htail heq
    exact ⟨name, blanks, more, htext, hname, hblanks, hvalue, hsize⟩
  · intro h
    obtain ⟨name, blanks, after, rfl, hname, hblanks, hvalue, hsize⟩ := h
    refine ⟨name, blanks, after ++ tail, ?_, hname, hblanks, hvalue, hsize⟩
    rw [List.append_assoc, List.cons_append]

/-- The reader of call sites ignores the blanks around a line. -/
lemma ignoresMargin_read : IgnoresMargin read where
  blank before rest c hc := by
    rw [read, isIdentStart_eq_false_of_isBlank hc, Bool.false_and, if_neg Bool.false_ne_true]
  boundary text c hc := by
    cases text with
    | nil => rfl
    | cons d rest =>
      rw [read, read, Option.any_some, isWord_eq_false_of_isBlank hc, Option.any_none]
  tail before text tail htail := by
    apply Option.ext
    intro found
    obtain ⟨size, value⟩ := found
    rw [read_eq_some_iff, read_eq_some_iff, spelled_tail_iff htail]

/-- The call site, some characters further on. -/
def shift (k : Nat) (site : CallSite) : CallSite :=
  { site with start := site.start + k, stop := site.stop + k }

/-- Blanks around a line move its call sites and do nothing else. -/
lemma ofLine_margin (hpad : AllBlank pad) (htail : AllBlank tail) (core : List Char) :
    ofLine (pad ++ (core ++ tail)) = (ofLine core).map (shift pad.length) := by
  rw [ofLine, ignoresMargin_read.findAll_margin hpad htail, List.map_map, ofLine, List.map_map]
  rfl

end CallSite

namespace Binding

/-- What follows a binding does not start with an equals sign, with more text behind it or not. -/
lemma head?_append_of_notMem {text : List Char} (h : '=' ∉ tail) :
    (text ++ tail).head? ≠ some '=' ↔ text.head? ≠ some '=' := by
  cases text with
  | cons c rest => rfl
  | nil => exact iff_of_true (fun hhead => h (List.mem_of_mem_head? hhead)) (by decide)

/-- Blanks at the end of a line do nothing to the binding at its start. -/
lemma spelled_tail_iff {text rest : List Char} (htail : AllBlank tail) :
    Spelled (text ++ tail) rest ↔ ∃ more, rest = more ++ tail ∧ Spelled text more := by
  have hequals : '=' ∉ tail := htail.notMem isBlank_equals
  refine ⟨?_, ?_⟩
  · intro h
    obtain ⟨first, gap, gap', second, gap'', heq, hname, hgap, hgap', hname', hgap'', hne⟩ := h
    have hsplit : text ++ tail =
        (first ++ (gap ++ ',' :: (gap' ++ (second ++ gap'')))) ++ '=' :: rest := by
      rw [heq]
      simp only [List.append_assoc, List.cons_append]
    obtain ⟨more, rfl, rfl⟩ := split_of_notMem_tail hequals hsplit
    refine ⟨more, rfl, first, gap, gap', second, gap'', ?_, hname, hgap, hgap', hname', hgap'',
      (head?_append_of_notMem hequals).1 hne⟩
    simp only [List.append_assoc, List.cons_append]
  · intro h
    obtain ⟨more, rfl, first, gap, gap', second, gap'', rfl, hname, hgap, hgap', hname', hgap'',
      hne⟩ := h
    refine ⟨first, gap, gap', second, gap'', ?_, hname, hgap, hgap', hname', hgap'',
      (head?_append_of_notMem hequals).2 hne⟩
    simp only [List.append_assoc, List.cons_append]

/-- The reader of bindings ignores the blanks around a line. -/
lemma ignoresMargin_read : IgnoresMargin read where
  blank before rest c hc := by
    rw [read, List.head?_cons, Option.any_some, isIdentStart_eq_false_of_isBlank hc,
      Bool.false_and, if_neg Bool.false_ne_true]
  boundary text c hc := by
    rw [read, read, Option.any_some, isWord_eq_false_of_isBlank hc, Option.any_none]
  tail before text tail htail := by
    apply Option.ext
    intro found
    obtain ⟨size, value⟩ := found
    simp only [read_eq_some_iff, spelled_tail_iff htail]
    refine and_congr_right fun _ => ⟨?_, ?_⟩
    · intro h
      obtain ⟨rest, ⟨more, rfl, hspelled⟩, rfl⟩ := h
      refine ⟨more, hspelled, ?_⟩
      rw [List.length_append, List.length_append, Nat.add_sub_add_right]
    · intro h
      obtain ⟨more, hspelled, rfl⟩ := h
      refine ⟨more ++ tail, ⟨more, rfl, hspelled⟩, ?_⟩
      rw [List.length_append, List.length_append, Nat.add_sub_add_right]

/-- Blanks around a line move the ends of its bindings and do nothing else. -/
lemma stops_margin (hpad : AllBlank pad) (htail : AllBlank tail) (core : List Char) :
    stops (pad ++ (core ++ tail)) = (stops core).map (· + pad.length) := by
  rw [stops, ignoresMargin_read.findAll_margin hpad htail, List.map_map, stops, List.map_map]
  rfl

end Binding

/-! Checks. -/

namespace SafeCheck

/-- Blanks around a line do nothing to the findings on it but move their columns. -/
def IgnoresMargin (check : SafeCheck) : Prop :=
  ∀ (registry : Registry) (number : Int) {pad tail : List Char} (core : List Char),
    AllBlank pad → AllBlank tail →
      List.Forall₂ (Diagnostic.Alike number pad.length) (check registry core number)
        (check registry (pad ++ (core ++ tail)) number)

end SafeCheck

namespace Check

variable {registry : Registry} {number : Int}

/-- The fallback operator has no blanks. -/
lemma solid_fallback : Solid ['?', '?'] :=
  solid_of_all (by decide) (by decide)

/-- Blanks around a line add no fallback and take none away. -/
lemma hasFallback_margin (hpad : AllBlank pad) (htail : AllBlank tail) (core : List Char) :
    hasFallback (pad ++ (core ++ tail)) = hasFallback core :=
  solid_fallback.occurs_margin hpad htail core

/-- Calls and bindings that move together stay in their order. -/
lemma isUnhandled_shift (fallback : Bool) (bindings : List Nat) (k : Nat) (site : CallSite) :
    isUnhandled fallback (bindings.map (· + k)) (site.shift k) =
      isUnhandled fallback bindings site := by
  rw [isUnhandled, isUnhandled, List.any_map]
  congr 3
  funext stop
  exact decide_eq_decide.2 Nat.add_le_add_iff_right

/-- Reports about call sites that move are alike if the report about each one is. -/
lemma forall₂_sites {report : CallSite → Diagnostic} {k : Nat} (sites : List CallSite)
    (h : ∀ site, (report site).Alike number k (report (site.shift k))) :
    List.Forall₂ (Diagnostic.Alike number k) (sites.map report)
      ((sites.map (CallSite.shift k)).map report) := by
  rw [List.map_map, List.forall₂_map_left_iff, List.forall₂_map_right_iff, List.forall₂_same]
  exact fun site _ => h site

/-- The report about an unhandled call, some columns further on. -/
lemma alike_unhandled (k : Nat) (site : CallSite) :
    (unhandled number site).Alike number k (unhandled number (site.shift k)) :=
  Code.missingErrorHandling.alike_moved (fun h => h) rfl rfl (Int.natCast_add _ _) _ _

/-- The report about an unknown call, some columns further on. -/
lemma alike_unknown (k : Nat) (site : CallSite) :
    (unknown registry number site).Alike number k (unknown registry number (site.shift k)) :=
  Code.unknownFunction.alike_moved (fun h => h) rfl rfl (Int.natCast_add _ _) _ _

/-- The report about a deletion some columns further on. -/
lemma alike_rootDeleted (k column : Nat) :
    (rootDeleted number column).Alike number k (rootDeleted number (column + k)) :=
  Code.delRootEvent.alike_moved (fun h => h) rfl rfl (Int.natCast_add _ _) _ _

/-- The report about a call that aborts, some columns further on. -/
lemma alike_aborting (k : Nat) (site : CallSite) :
    (aborting number site).Alike number k (aborting number (site.shift k)) :=
  Code.suggestNullCoalescing.alike_moved (fun h => h) rfl rfl (Int.natCast_add _ _) _ _

/-- The check of fallible calls ignores the blanks around a line. -/
lemma ignoresMargin_fallibleCalls : SafeCheck.IgnoresMargin fallibleCalls := by
  intro registry number pad tail core hpad htail
  have hsites : (fun site => isFallible registry site &&
      isUnhandled (hasFallback core) ((Binding.stops core).map (· + pad.length)) site) ∘
        CallSite.shift pad.length =
      fun site => isFallible registry site &&
        isUnhandled (hasFallback core) (Binding.stops core) site := by
    funext site
    rw [Function.comp_apply, isUnhandled_shift]
    rfl
  rw [fallibleCalls, fallibleCalls, CallSite.ofLine_margin hpad htail,
    hasFallback_margin hpad htail, Binding.stops_margin hpad htail, List.filter_map, hsites]
  exact forall₂_sites _ (alike_unhandled pad.length)

/-- The check of unknown functions ignores the blanks around a line. -/
lemma ignoresMargin_unknownFunctions : SafeCheck.IgnoresMargin unknownFunctions := by
  intro registry number pad tail core hpad htail
  rw [unknownFunctions, unknownFunctions, CallSite.ofLine_margin hpad htail, List.filter_map]
  exact forall₂_sites _ (alike_unknown pad.length)

/-- The deletion of the event has no blanks. -/
lemma solid_rootDeletion : Solid rootDeletion :=
  solid_of_all (by decide) (by decide)

/-- The check for deletions of the event ignores the blanks around a line. -/
lemma ignoresMargin_deletesRoot : SafeCheck.IgnoresMargin deletesRoot := by
  intro registry number pad tail core hpad htail
  rw [deletesRoot, deletesRoot, solid_rootDeletion.offset?_margin hpad htail]
  cases offset? rootDeletion core with
  | none => exact .nil
  | some column =>
    exact .cons (alike_rootDeleted pad.length column) .nil

/-- The check for calls that abort ignores the blanks around a line. -/
lemma ignoresMargin_abortsWithoutFallback : SafeCheck.IgnoresMargin abortsWithoutFallback := by
  intro registry number pad tail core hpad htail
  have hsites : (fun site : CallSite => site.abort && isFallible registry site) ∘
      CallSite.shift pad.length = fun site => site.abort && isFallible registry site := rfl
  rw [abortsWithoutFallback, abortsWithoutFallback, hasFallback_margin hpad htail,
    CallSite.ofLine_margin hpad htail, List.find?_map, hsites]
  split
  case isTrue => exact .nil
  case isFalse =>
    cases (CallSite.ofLine core).find? fun site => site.abort && isFallible registry site with
    | none => exact .nil
    | some site =>
      exact .cons (alike_aborting pad.length site) .nil

/-- The unbounded wildcard has no blanks. -/
lemma solid_wildcard : Solid ['.', '*'] :=
  solid_of_all (by decide) (by decide)

/-- The check for slow patterns ignores the blanks around a line. -/
lemma ignoresMargin_matchesUnbounded : SafeCheck.IgnoresMargin matchesUnbounded := by
  intro registry number pad tail core hpad htail
  have hsites : (fun site : CallSite => patternFunctions.contains site.name) ∘
      CallSite.shift pad.length = fun site => patternFunctions.contains site.name := rfl
  rw [matchesUnbounded, matchesUnbounded, solid_wildcard.occurs_margin hpad htail,
    CallSite.ofLine_margin hpad htail, List.any_map, hsites]
  split
  case isTrue =>
    exact .cons (Code.regexPerformance.alike_whole trivial rfl rfl _ _) .nil
  case isFalse => exact .nil

end Check

namespace Analyzer

/-- What the checks find on a line is like what they find on its content. -/
lemma forall₂_findings_trim (registry : Registry) (line : List Char) (number : Nat) :
    List.Forall₂ (Diagnostic.Alike number (leadingBlanks line))
      (findings registry (trim line) number) (findings registry line number) := by
  obtain ⟨tail, htail, heq⟩ := exists_margin line
  have hcheck : ∀ check : SafeCheck, check.IgnoresMargin →
      List.Forall₂ (Diagnostic.Alike number (leadingBlanks line))
        (check registry (trim line) number) (check registry line number) := by
    intro check h
    have hfound := h registry number (trim line) (allBlank_takeWhile line) htail
    rwa [← heq] at hfound
  refine List.rel_append (List.rel_append (List.rel_append (List.rel_append ?_ ?_) ?_) ?_) ?_
  · exact hcheck _ Check.ignoresMargin_fallibleCalls
  · exact hcheck _ Check.ignoresMargin_unknownFunctions
  · exact hcheck _ Check.ignoresMargin_deletesRoot
  · exact hcheck _ Check.ignoresMargin_abortsWithoutFallback
  · exact hcheck _ Check.ignoresMargin_matchesUnbounded

/-- On two lines with the same content the checks find the same, as far apart as the contents. -/
lemma forall₂_findings (registry : Registry) {line line' : List Char} (h : trim line = trim line')
    (number : Nat) :
    List.Forall₂ (Diagnostic.Alike number (leadingBlanks line' - leadingBlanks line))
      (findings registry line number) (findings registry line' number) := by
  have hline := forall₂_findings_trim registry line number
  rw [h] at hline
  exact forall₂_between hline (forall₂_findings_trim registry line' number)
    fun _ _ _ hd he => hd.between he

end Analyzer

end Remap
