import Remap.Proofs.Check.Place
import Remap.Proofs.Registry

/-!
# Analysis with more functions

What is said of a document when descriptions of functions are laid over a registry. Nothing changes
but what is said of calls of the functions described: these are no longer unknown, and whether their
failure has to be handled is for the last description to say. `diagnostics_merge` puts this together
for the diagnostics of a whole document, told apart by the names that they point at.
-/

namespace Remap

open Text

/-- The text in a range, on the line on which the range starts. -/
def Range.textIn (r : Range) (text : List Char) : List Char :=
  (((line? text r.start.line).getD []).take r.stop.character.toNat).drop r.start.character.toNat

/-- What a diagnostic about a document points at. -/
def Diagnostic.subject (d : Diagnostic) (text : List Char) : String :=
  String.ofList (d.range.textIn text)

/-- The failure of the call is handled in one of the three ways. -/
def CallSite.Handled (site : CallSite) (line : List Char) : Prop :=
  site.abort = true ∨ "??".toList <:+: line ∨
    ∃ stop, Binding.EndsAt line stop ∧ stop ≤ site.start

/-- The codes of what is read off a document whatever functions are known. -/
def Code.ofText : List Code :=
  Delimiter.all.flatMap (fun d => [unmatchedClosing d, missingClosing d]) ++
    [elseSameLine, delRootEvent, regexPerformance]

/-- What is reported of a document whatever functions are known. -/
def Analyzer.textReports (registry : Registry) (text : List Char) : List Diagnostic :=
  (({ registry := registry } : Analyzer).diagnostics text []).filter
    fun d => d.code ∈ Code.ofText.map Code.id

/-- Diagnostics with another code are left out. -/
lemma filter_codes_eq_nil {found : List Diagnostic} {a : Code} {codes : List Code}
    (h : ∀ d ∈ found, d.code = a.id) (ha : a ∉ codes) :
    found.filter (fun d => d.code ∈ codes.map Code.id) = [] := by
  rw [List.filter_eq_nil_iff]
  intro d hd hcode
  rw [decide_eq_true_iff, h d hd, List.mem_map] at hcode
  obtain ⟨code, hmem, hid⟩ := hcode
  rw [Code.id_injective hid] at hmem
  exact ha hmem

namespace Check

open Analyzer

variable {registry : Registry} {extra : List FunctionSpec} {text line : List Char} {number : Nat}
  {site : CallSite}

/-! Calls. -/

/-- A written call is unhandled if its function can fail and it is not handled. -/
lemma unhandled_iff_not_handled (h : site.WrittenOn line) :
    site.Unhandled registry line ↔
      (∃ spec, registry.get? site.name = some spec ∧ spec.fallible = true) ∧
        ¬ site.Handled line := by
  refine ⟨?_, ?_⟩
  · intro hsite
    refine ⟨hsite.fallible, ?_⟩
    intro hhandled
    obtain habort | hfallback | ⟨stop, hends, hle⟩ := hhandled
    · rw [hsite.plain] at habort
      cases habort
    · exact hsite.noFallback hfallback
    · exact hsite.unbound stop hends hle
  · intro hsite
    obtain ⟨hfallible, hhandled⟩ := hsite
    simp only [CallSite.Handled, not_or, not_exists, not_and, Bool.not_eq_true] at hhandled
    exact ⟨h, hfallible, hhandled.1, hhandled.2.1, hhandled.2.2⟩

/-- A diagnostic about the name of a call points at the name. -/
lemma subject_eq_name {d : Diagnostic} (hline : CodeLine text number line)
    (hsite : site.WrittenOn line) (h : d.range = .onLine number site.start site.nameStop) :
    d.subject text = site.name := by
  obtain ⟨raw, hraw, rfl, -⟩ := hline
  have hget : line? text number = some raw := hraw
  have hslice := hsite.standsAt_name.of_dropReturn.slice
  simp only [Diagnostic.subject, h, Range.textIn, Range.onLine, hget, Option.getD_some,
    Int.toNat_natCast, hslice, String.ofList_toList]

/-- The name of a call is reported as unhandled exactly if the call is. -/
lemma exists_flagged_iff (hline : CodeLine text number line) (hsite : site.WrittenOn line) :
    (∃ d ∈ flagged registry text Code.missingErrorHandling.id,
      d.range = .onLine number site.start site.nameStop) ↔ site.Unhandled registry line := by
  refine ⟨?_, ?_⟩
  · intro h
    obtain ⟨d, hd, hrange⟩ := h
    obtain ⟨number', line', site', hline', hsite', rfl⟩ := mem_flagged_missing.1 hd
    simp only [unhandled, Range.onLine, Range.mk.injEq, Position.mk.injEq,
      Int.ofNat_inj] at hrange
    obtain ⟨⟨rfl, hstart⟩, -⟩ := hrange
    rw [hline'.unique hline] at hsite'
    rwa [hsite'.written.unique hsite hstart] at hsite'
  · intro h
    exact ⟨unhandled number site, mem_flagged_missing.2 ⟨number, line, site, hline, h, rfl⟩, rfl⟩

/-! One line under two registries. -/

/-- A call of none of the extra functions is as fallible as before. -/
lemma isFallible_merge (h : site.name ∉ extra.map (·.name)) :
    isFallible (registry.merge extra) site = isFallible registry site := by
  rw [isFallible, Registry.get?_merge_of_notMem h, isFallible]

/-- On a line the extra functions change reports about calls of themselves alone. -/
lemma filter_fallibleCalls_merge (hline : CodeLine text number line) :
    (fallibleCalls (registry.merge extra) line number).filter
        (fun d => d.subject text ∉ extra.map (·.name)) =
      (fallibleCalls registry line number).filter
        (fun d => d.subject text ∉ extra.map (·.name)) := by
  rw [fallibleCalls, fallibleCalls, List.filter_map, List.filter_map, List.filter_filter,
    List.filter_filter]
  congr 1
  apply List.filter_congr
  intro site hsite
  have hname : (unhandled number site).subject text = site.name :=
    subject_eq_name hline (CallSite.mem_ofLine.1 hsite) rfl
  rw [Function.comp_apply, hname]
  by_cases h : site.name ∈ extra.map (·.name)
  · rw [decide_eq_false (not_not_intro h), Bool.false_and, Bool.false_and]
  · rw [isFallible_merge h]

/-- On a line the extra functions are unknown no longer, and other unknown calls still are. -/
lemma ranges_unknownFunctions_merge (hline : CodeLine text number line) :
    (unknownFunctions (registry.merge extra) line number).map (·.range) =
      ((unknownFunctions registry line number).filter
        (fun d => d.subject text ∉ extra.map (·.name))).map (·.range) := by
  rw [unknownFunctions, unknownFunctions, List.filter_map, List.filter_filter, List.map_map,
    List.map_map]
  apply congrArg (List.map _)
  apply List.filter_congr
  intro site hsite
  have hname : (unknown registry number site).subject text = site.name :=
    subject_eq_name hline (CallSite.mem_ofLine.1 hsite) rfl
  rw [Function.comp_apply, hname]
  by_cases h : site.name ∈ extra.map (·.name)
  · rw [Registry.contains_merge_of_mem h, Bool.true_or, decide_eq_false (not_not_intro h),
      Bool.false_and, Bool.not_true]
  · rw [Registry.contains_merge_of_notMem h, decide_eq_true h, Bool.true_and]

/-- What is read off a line alone does not depend on the functions that are known. -/
lemma filter_ofText_findings (registry registry' : Registry) (line : List Char) (number : Nat) :
    (findings registry line number).filter (fun d => d.code ∈ Code.ofText.map Code.id) =
      (findings registry' line number).filter (fun d => d.code ∈ Code.ofText.map Code.id) := by
  simp only [findings, List.filter_append]
  rw [filter_codes_eq_nil (fun _ => code_of_mem_fallibleCalls) (by decide),
    filter_codes_eq_nil (fun _ => code_of_mem_unknownFunctions) (by decide),
    filter_codes_eq_nil (fun _ => code_of_mem_abortsWithoutFallback) (by decide),
    filter_codes_eq_nil (fun _ => code_of_mem_fallibleCalls) (by decide),
    filter_codes_eq_nil (fun _ => code_of_mem_unknownFunctions) (by decide),
    filter_codes_eq_nil (fun _ => code_of_mem_abortsWithoutFallback) (by decide)]
  rfl

/-! A document under two registries. -/

/-- The reports about the text as a whole do not depend on the registry. -/
lemma textReports_eq (registry registry' : Registry) (text : List Char) :
    textReports registry text = textReports registry' text := by
  simp only [textReports, diagnostics_standard, filter_isEnabled_nil, List.filter_append,
    List.filter_flatMap]
  congr 1
  apply List.flatMap_congr
  intro place _
  exact filter_ofText_findings registry registry' place.1 place.2

/-- In a document the extra functions are unknown no longer, and other unknown calls still are. -/
lemma ranges_flagged_unknown (registry : Registry) (extra : List FunctionSpec)
    (text : List Char) :
    (flagged (registry.merge extra) text Code.unknownFunction.id).map (·.range) =
      ((flagged registry text Code.unknownFunction.id).filter
        (fun d => d.subject text ∉ extra.map (·.name))).map (·.range) := by
  rw [flagged_unknownFunction, flagged_unknownFunction, List.filter_flatMap, List.map_flatMap,
    List.map_flatMap]
  apply List.flatMap_congr
  intro place hplace
  exact ranges_unknownFunctions_merge (mem_codeLines.1 hplace)

/-- In a document the extra functions change reports about calls of themselves alone. -/
lemma filter_flagged_missing (registry : Registry) (extra : List FunctionSpec)
    (text : List Char) :
    (flagged (registry.merge extra) text Code.missingErrorHandling.id).filter
        (fun d => d.subject text ∉ extra.map (·.name)) =
      (flagged registry text Code.missingErrorHandling.id).filter
        (fun d => d.subject text ∉ extra.map (·.name)) := by
  rw [flagged_missingErrorHandling, flagged_missingErrorHandling, List.filter_flatMap,
    List.filter_flatMap]
  apply List.flatMap_congr
  intro place hplace
  exact filter_fallibleCalls_merge (mem_codeLines.1 hplace)

/-- A call of a function that is described is unhandled if its last description is fallible. -/
lemma unhandled_merge_iff (hsite : site.WrittenOn line) (h : site.name ∈ extra.map (·.name)) :
    site.Unhandled (registry.merge extra) line ↔
      (∃ spec : FunctionSpec, spec.IsLastIn extra ∧ spec.name = site.name ∧
        spec.fallible = true) ∧ ¬ site.Handled line := by
  rw [unhandled_iff_not_handled hsite]
  simp only [Registry.get?_merge_eq_some_iff h, and_assoc]

/--
When descriptions of functions are laid over a registry, what is read off the document alone stays.
The ranges of the calls of unknown functions are those from before whose name is not described. The
reports of unhandled calls of other functions stay, and a call of a function that is described is
reported exactly if the last of its descriptions makes it fallible and its failure is not handled.
-/
theorem diagnostics_merge (registry : Registry) (extra : List FunctionSpec) (text : List Char) :
    textReports (registry.merge extra) text = textReports registry text ∧
    (flagged (registry.merge extra) text Code.unknownFunction.id).map (·.range) =
      ((flagged registry text Code.unknownFunction.id).filter
        (fun d => d.subject text ∉ extra.map (·.name))).map (·.range) ∧
    (flagged (registry.merge extra) text Code.missingErrorHandling.id).filter
        (fun d => d.subject text ∉ extra.map (·.name)) =
      (flagged registry text Code.missingErrorHandling.id).filter
        (fun d => d.subject text ∉ extra.map (·.name)) ∧
    ∀ (number : Nat) (line : List Char) (site : CallSite), CodeLine text number line →
      site.WrittenOn line → site.name ∈ extra.map (·.name) →
        ((∃ d ∈ flagged (registry.merge extra) text Code.missingErrorHandling.id,
          d.range = .onLine number site.start site.nameStop) ↔
          (∃ spec : FunctionSpec, spec.IsLastIn extra ∧ spec.name = site.name ∧
            spec.fallible = true) ∧ ¬ site.Handled line) := by
  refine ⟨textReports_eq _ _ text, ranges_flagged_unknown registry extra text,
    filter_flagged_missing registry extra text, ?_⟩
  intro number line site hline hsite hname
  rw [exists_flagged_iff hline hsite]
  exact unhandled_merge_iff hsite hname

/-- Of two descriptions of one function the last one says whether a call can fail. -/
theorem diagnostics_merge_twice :
    let calm : FunctionSpec :=
      ⟨"fetch", .event, false, [.required "url" "string"], "any", "Fetches a page.", none⟩
    let harsh : FunctionSpec := { calm with fallible := true }
    let text := ".a = 1\n.b = fetch(.c)".toList
    (∃ d ∈ flagged (Registry.empty.merge [calm, harsh]) text Code.missingErrorHandling.id,
        d.range = .onLine 1 5 10) ∧
      ¬ ∃ d ∈ flagged (Registry.empty.merge [harsh, calm]) text Code.missingErrorHandling.id,
        d.range = .onLine 1 5 10 := by
  intro calm harsh text
  have hline : CodeLine text 1 ".b = fetch(.c)".toList := mem_codeLines.1 (by decide +kernel)
  have hsite : CallSite.WrittenOn ⟨"fetch", false, 5, 11⟩ ".b = fetch(.c)".toList :=
    CallSite.mem_ofLine.1 (by decide +kernel)
  have hunhandled : CallSite.Unhandled ⟨"fetch", false, 5, 11⟩ (.ofList [harsh])
      ".b = fetch(.c)".toList :=
    unhandled_iff.1 (by decide +kernel)
  have hhandled := ((unhandled_iff_not_handled hsite).1 hunhandled).2
  obtain ⟨-, -, -, hharsh⟩ := diagnostics_merge .empty [calm, harsh] text
  obtain ⟨-, -, -, hcalm⟩ := diagnostics_merge .empty [harsh, calm] text
  have hlast : FunctionSpec.IsLastIn harsh [calm, harsh] := ⟨[calm], [], rfl, nofun⟩
  refine ⟨(hharsh 1 _ _ hline hsite (by decide)).2 ⟨⟨harsh, hlast, rfl, rfl⟩, hhandled⟩, ?_⟩
  intro h
  obtain ⟨⟨spec, hspec, hname, hfallible⟩, -⟩ := (hcalm 1 _ _ hline hsite (by decide)).1 h
  have hget := Registry.get?_merge_of_isLastIn hspec .empty
  have hfound : (Registry.empty.merge [harsh, calm]).get? "fetch" = some calm := by decide +kernel
  rw [hname, hfound] at hget
  cases hget
  cases hfallible

end Check

end Remap
