import Remap.Proofs.Analyzer
import Remap.Proofs.Binding
import Remap.Proofs.CallSite

/-!
# Unhandled calls

The diagnostics about calls whose failure is not handled, against a rule on positions: a call of a
fallible function is reported exactly if it does not abort, its line holds no fallback, and no
binding is written on the line up to its name. `missingErrorHandling_exact` says so for every
document, together with the order of the diagnostics and the ranges in them.
-/

namespace Remap

open Text

/-- The call site is of a fallible function, and its failure is handled in none of the ways. -/
structure CallSite.Unhandled (site : CallSite) (registry : Registry) (line : List Char) : Prop where
  written : site.WrittenOn line
  fallible : ∃ spec, registry.get? site.name = some spec ∧ spec.fallible = true
  plain : site.abort = false
  noFallback : ¬ "??".toList <:+: line
  unbound : ∀ stop, Binding.EndsAt line stop → ¬ stop ≤ site.start

namespace Check

variable {registry : Registry} {line text : List Char}

/-- A call is fallible if the registry has a fallible function of its name. -/
lemma isFallible_iff {site : CallSite} :
    isFallible registry site = true ↔
      ∃ spec, registry.get? site.name = some spec ∧ spec.fallible = true := by
  rw [isFallible]
  cases registry.get? site.name <;> simp

/-- Whether a binding handles a call is whether one ends before its name. -/
lemma isUnhandled_eq {fallback : Bool} {site : CallSite} :
    isUnhandled fallback (Binding.stops line) site =
      !(site.abort || fallback || Binding.endsBefore line site.start) := by
  simp only [isUnhandled, Binding.endsBefore, Int.ofNat_le]

/-- A failure is unhandled without a bang, a fallback, and a binding before the call. -/
lemma isUnhandled_iff {site : CallSite} :
    isUnhandled (hasFallback line) (Binding.stops line) site = true ↔
      site.abort = false ∧ ¬ "??".toList <:+: line ∧
        ∀ stop, Binding.EndsAt line stop → ¬ stop ≤ site.start := by
  have hfallback : hasFallback line = false ↔ ¬ "??".toList <:+: line := by
    rw [← Bool.not_eq_true, hasFallback, occurs_iff]
    rfl
  have hbound : Binding.endsBefore line site.start = false ↔
      ∀ stop, Binding.EndsAt line stop → ¬ stop ≤ site.start := by
    rw [← Bool.not_eq_true, Binding.endsBefore_iff, not_exists]
    simp only [not_and, Int.ofNat_le]
  rw [isUnhandled_eq, Bool.not_eq_true', Bool.or_eq_false_iff, Bool.or_eq_false_iff, hfallback,
    hbound, and_assoc]

/-- The call sites that the check keeps are the unhandled ones. -/
lemma unhandled_iff {site : CallSite} :
    site ∈ (CallSite.ofLine line).filter (fun site =>
      isFallible registry site && isUnhandled (hasFallback line) (Binding.stops line) site) ↔
        site.Unhandled registry line := by
  rw [List.mem_filter, Bool.and_eq_true, CallSite.mem_ofLine, isFallible_iff, isUnhandled_iff]
  refine ⟨?_, ?_⟩
  · intro h
    obtain ⟨hwritten, hfallible, hplain, hfallback, hbound⟩ := h
    exact ⟨hwritten, hfallible, hplain, hfallback, hbound⟩
  · intro h
    exact ⟨h.written, h.fallible, h.plain, h.noFallback, h.unbound⟩

/-- Reported are the unhandled calls of the line. -/
lemma mem_fallibleCalls {number : Int} {d : Diagnostic} :
    d ∈ fallibleCalls registry line number ↔
      ∃ site : CallSite, site.Unhandled registry line ∧ d = unhandled number site := by
  rw [fallibleCalls, List.mem_map]
  simp only [unhandled_iff, eq_comm]

/-- On one line the diagnostics come from left to right. -/
lemma pairwise_fallibleCalls (number : Int) :
    (fallibleCalls registry line number).Pairwise
      fun a b => a.range.start.Before b.range.start := by
  rw [fallibleCalls, List.pairwise_map]
  apply List.Pairwise.filter
  apply (CallSite.pairwise_ofLine line).imp
  intro a b h
  exact .inr ⟨rfl, Int.ofNat_lt.2 h.1⟩

/-- Reported are the calls of the line that are not known and not words of the language. -/
lemma mem_unknownFunctions {number : Int} {d : Diagnostic} :
    d ∈ unknownFunctions registry line number ↔
      ∃ site : CallSite, site.WrittenOn line ∧ registry.get? site.name = none ∧
        site.name ∉ keywords ∧ d = unknown registry number site := by
  simp only [unknownFunctions, List.mem_map, List.mem_filter, CallSite.mem_ofLine,
    Bool.not_eq_true', Bool.or_eq_false_iff, Registry.contains, List.contains_eq_mem,
    decide_eq_false_iff_not, Option.isSome_eq_false_iff, Option.isNone_iff_eq_none, and_assoc]
  simp only [@eq_comm _ _ d]

end Check

/-- One line has one number. -/
lemma Analyzer.CodeLine.unique {text line line' : List Char} {number : Nat}
    (h : CodeLine text number line) (h' : CodeLine text number line') : line = line' := by
  obtain ⟨raw, hraw, rfl, -⟩ := h
  obtain ⟨raw', hraw', rfl, -⟩ := h'
  rw [hraw] at hraw'
  cases hraw'
  rfl

/-- Two call sites of a line that start at one column are the same. -/
lemma CallSite.WrittenOn.unique {line : List Char} {a b : CallSite} (ha : a.WrittenOn line)
    (hb : b.WrittenOn line) (h : a.start = b.start) : a = b := by
  rw [← mem_ofLine] at ha hb
  have hpair : (ofLine line).Pairwise fun a b => a.start = b.start → a = b := by
    apply (pairwise_ofLine line).imp
    intro a b hlt heq
    exact absurd heq (Nat.ne_of_lt hlt.1)
  exact hpair.forall_of_forall_of_flip (fun _ _ _ => rfl)
    (hpair.imp fun hab heq => (hab heq.symm).symm) ha hb h

namespace Check

open Analyzer

variable {registry : Registry} {text : List Char}

/-- The calls reported as unhandled, over all lines of a document. -/
lemma mem_flagged_missing {d : Diagnostic} :
    d ∈ flagged registry text "missing-error-handling" ↔
      ∃ (number : Nat) (line : List Char) (site : CallSite),
        CodeLine text number line ∧ site.Unhandled registry line ∧ d = unhandled number site := by
  rw [show "missing-error-handling" = Code.missingErrorHandling.id from rfl,
    flagged_missingErrorHandling]
  simp only [List.mem_flatMap, Prod.exists, mem_codeLines, mem_fallibleCalls]
  refine ⟨?_, ?_⟩
  · intro h
    obtain ⟨line, number, hline, site, hsite, rfl⟩ := h
    exact ⟨number, line, site, hline, hsite, rfl⟩
  · intro h
    obtain ⟨number, line, site, hline, hsite, rfl⟩ := h
    exact ⟨line, number, hline, site, hsite, rfl⟩

/-- The calls reported as unknown, over all lines of a document. -/
lemma mem_flagged_unknown {d : Diagnostic} :
    d ∈ flagged registry text "unknown-function" ↔
      ∃ (number : Nat) (line : List Char) (site : CallSite),
        CodeLine text number line ∧ site.WrittenOn line ∧ registry.get? site.name = none ∧
          site.name ∉ keywords ∧ d = unknown registry number site := by
  rw [show "unknown-function" = Code.unknownFunction.id from rfl, flagged_unknownFunction]
  simp only [List.mem_flatMap, Prod.exists, mem_codeLines, mem_unknownFunctions]
  refine ⟨?_, ?_⟩
  · intro h
    obtain ⟨line, number, hline, site, hsite⟩ := h
    exact ⟨number, line, site, hline, hsite⟩
  · intro h
    obtain ⟨number, line, site, hline, hsite⟩ := h
    exact ⟨line, number, hline, site, hsite⟩

/-- The diagnostics about unhandled calls come in the order of the document. -/
lemma pairwise_flagged_missing :
    (flagged registry text "missing-error-handling").Pairwise
      fun a b => a.range.start.Before b.range.start := by
  rw [show "missing-error-handling" = Code.missingErrorHandling.id from rfl,
    flagged_missingErrorHandling, List.pairwise_flatMap]
  refine ⟨fun place _ => pairwise_fallibleCalls _, ?_⟩
  apply (pairwise_codeLines text).imp
  intro a b hlt x hx y hy
  obtain ⟨site, -, rfl⟩ := mem_fallibleCalls.1 hx
  obtain ⟨site', -, rfl⟩ := mem_fallibleCalls.1 hy
  exact .inl (Int.ofNat_lt.2 hlt)

/-- A call at one place of a document is not both unhandled and of an unknown function. -/
lemma unhandled_start_ne_unknown {d e : Diagnostic}
    (hd : d ∈ flagged registry text "missing-error-handling")
    (he : e ∈ flagged registry text "unknown-function") : d.range.start ≠ e.range.start := by
  obtain ⟨number, line, site, hline, hsite, rfl⟩ := mem_flagged_missing.1 hd
  obtain ⟨number', line', site', hline', hwritten, hnone, -, rfl⟩ := mem_flagged_unknown.1 he
  intro h
  -- one place has one line and one call site, which is either known or not
  obtain ⟨hnumber, hstart⟩ := Position.mk.inj h
  rw [← Int.ofNat_inj.1 hnumber] at hline'
  rw [← hline.unique hline'] at hwritten
  have hsame := hsite.written.unique hwritten (Int.ofNat_inj.1 hstart)
  obtain ⟨spec, hspec, -⟩ := hsite.fallible
  rw [hsame, hnone] at hspec
  cases hspec

/-- A diagnostic that starts where another one does comes neither before nor after it. -/
lemma not_before_of_range {a b : Diagnostic} {r : Range} (ha : a.range = r) (hb : b.range = r) :
    ¬ a.range.start.Before b.range.start := by
  rw [ha, hb]
  intro h
  obtain h | ⟨-, h⟩ := h <;> exact Int.lt_irrefl _ h

/--
The report about unhandled calls is exact. A range is reported if and only if it is the name of an
unhandled call on a line that holds code; every such call is reported once, with one related range
up to its parenthesis; the reports come in the order of the document; and no call is reported as
one of an unknown function, too.
-/
theorem missingErrorHandling_exact (registry : Registry) (text : List Char) :
    (∀ number start stop : Nat,
      (∃ d ∈ flagged registry text "missing-error-handling",
        d.range = .onLine number start stop) ↔
        ∃ line site, CodeLine text number line ∧ CallSite.Unhandled site registry line ∧
          site.start = start ∧ site.nameStop = stop) ∧
      (∀ (number : Nat) (line : List Char) (site : CallSite),
        CodeLine text number line → site.Unhandled registry line →
          ∃ d, (flagged registry text "missing-error-handling").filter
              (·.range = .onLine number site.start site.nameStop) = [d] ∧
            d.related.map (·.range) = [.onLine number site.start site.stop]) ∧
      (∀ d ∈ flagged registry text "missing-error-handling",
        ∃ number start stop : Nat, d.range = .onLine number start stop) ∧
      (flagged registry text "missing-error-handling").Pairwise
        (fun a b => a.range.start.Before b.range.start) ∧
      (∀ d ∈ flagged registry text "missing-error-handling",
        ∀ e ∈ flagged registry text "unknown-function", d.range.start ≠ e.range.start) := by
  refine ⟨?_, ?_, ?_, pairwise_flagged_missing, fun d hd e he => unhandled_start_ne_unknown hd he⟩
  · intro number start stop
    refine ⟨?_, ?_⟩
    · intro h
      obtain ⟨d, hd, hrange⟩ := h
      obtain ⟨number', line, site, hline, hsite, rfl⟩ := mem_flagged_missing.1 hd
      simp only [unhandled, Range.onLine, Range.mk.injEq, Position.mk.injEq,
        Int.ofNat_inj] at hrange
      obtain ⟨⟨rfl, rfl⟩, -, rfl⟩ := hrange
      exact ⟨line, site, hline, hsite, rfl, rfl⟩
    · intro h
      obtain ⟨line, site, hline, hsite, rfl, rfl⟩ := h
      exact ⟨_, mem_flagged_missing.2 ⟨number, line, site, hline, hsite, rfl⟩, rfl⟩
  · intro number line site hline hsite
    refine ⟨unhandled number site, ?_, rfl⟩
    apply filter_eq_singleton pairwise_flagged_missing
    -- two reports with one range would stand before one another
    · intro x y hx hy
      exact not_before_of_range (of_decide_eq_true hx) (of_decide_eq_true hy)
    · exact mem_flagged_missing.2 ⟨number, line, site, hline, hsite, rfl⟩
    · exact decide_eq_true rfl
  · intro d hd
    obtain ⟨number, line, site, -, -, rfl⟩ := mem_flagged_missing.1 hd
    exact ⟨number, site.start, site.nameStop, rfl⟩

/-- A binding after the call does not handle it, and a call in a comment is not there at all. -/
theorem missingErrorHandling_exact_late_binding :
    let fetch : FunctionSpec :=
      ⟨"fetch", .event, true, [.required "url" "string"], "any", "Fetches a page.", none⟩
    let registry := Registry.empty.insert fetch
    let text := "# fetch(.a)\n.b = fetch (.c); d, e = 1\r".toList
    (∃ d, (flagged registry text "missing-error-handling").filter
        (·.range = .onLine 1 5 10) = [d] ∧ d.related.map (·.range) = [.onLine 1 5 12]) ∧
      ¬ ∃ d ∈ flagged registry text "missing-error-handling", d.range = .onLine 0 2 7 := by
  intro fetch registry text
  have hline : CodeLine text 1 ".b = fetch (.c); d, e = 1".toList :=
    mem_codeLines.1 (by decide +kernel)
  have hsite : CallSite.Unhandled ⟨"fetch", false, 5, 12⟩ registry
      ".b = fetch (.c); d, e = 1".toList :=
    unhandled_iff.1 (by decide +kernel)
  have hcode : ∀ place ∈ codeLines text, place.2 ≠ 0 := by decide +kernel
  obtain ⟨hreported, honce, -⟩ := missingErrorHandling_exact registry text
  refine ⟨honce 1 _ _ hline hsite, ?_⟩
  intro h
  obtain ⟨line, -, hcomment, -⟩ := (hreported 0 2 7).1 h
  exact hcode _ (mem_codeLines.2 hcomment) rfl

end Check

end Remap
